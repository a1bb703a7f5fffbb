import ClientGen.Proofs.Disk.Deepening

/-!
Writing a file. A file that is written in either way ends up at its place with its content, and
nothing else changes. Where that fails, there may be a beginning of the file: at its place if it is
written there, and otherwise beside it, but only if it could not be taken away again.
-/

namespace ClientGen

namespace Disk

variable {d d' d'' : Disk} {path name : String} {cs : List String} {q : Place}
  {content old : ByteArray}

/-- The second disk is the first one with a file put at a place. -/
structure Puts (d d' : Disk) (place : Place) (content : ByteArray) : Prop where
  current : d'.current = d.current
  get? : ∀ p, d'.get? p = if p = place then some (.file content) else d.get? p

lemma puts_insert (d : Disk) (name : String) (q : Place) (content : ByteArray) :
    d.Puts (d.insert (name :: q) (.file content)) (name :: q) content :=
  ⟨rfl, fun p => get?_insert d name q p _⟩

section Puts

variable {place : Place}

lemma Puts.file (h : d.Puts d' place content) : d'.get? place = some (.file content) := by
  rw [h.get?, if_pos rfl]

lemma Puts.other (h : d.Puts d' place content) {p : Place} (hp : p ≠ place) :
    d'.get? p = d.get? p := by
  rw [h.get?, if_neg hp]

lemma Puts.again (h : d.Puts d' place old) (h' : d'.Puts d'' place content) :
    d.Puts d'' place content := by
  refine ⟨h'.current.trans h.current, fun p => ?_⟩
  rw [h'.get?, h.get?]
  split <;> rfl

lemma Puts.within (h : d.Puts d' place content) (hp : d.get? place = none) : d.IsWithin d' := by
  refine ⟨h.current, fun {p node} hn => ?_⟩
  rw [h.other, hn]
  rintro rfl
  rw [hp] at hn
  cases hn

lemma Puts.sound (h : d.Puts d' (name :: q) content) (hd : d.IsSound)
    (hq : d.get? q = some .directory) (hp : d.get? (name :: q) ≠ some .directory) :
    d'.IsSound := by
  have hsame : (d.insert (name :: q) (.file content)).IsSame d' :=
    ⟨h.current, fun p => by rw [h.get?, get?_insert]⟩
  exact hsame.sound (hd.insert hq (Or.inl hp))

lemma Puts.same (h : d.Puts d' place content) (hp : d.get? place = some (.file content)) :
    d.IsSame d' := by
  refine ⟨h.current, fun p => ?_⟩
  rw [h.get?]
  split
  · next he => rw [he, hp]
  · rfl

lemma Puts.taken (h : d.Puts d' (name :: q) content) (hp : d.get? (name :: q) = none) :
    d.IsSame (d'.erase (name :: q)) := by
  refine ⟨h.current, fun p => ?_⟩
  rw [get?_erase]
  split
  · next he => rw [he, hp]
  · next hne => rw [h.other hne]

lemma Puts.moved {other : String} (h : d.Puts d' (name :: q) content)
    (hp : d.get? (name :: q) = none) : d.Puts
      ((d'.erase (name :: q)).insert (other :: q) (.file content)) (other :: q) content := by
  refine ⟨h.current, fun p => ?_⟩
  rw [get?_insert, (h.taken hp).get?]

end Puts

lemma KeepsWays.erase (hp : d.get? (name :: q) = none ∨
    ∃ content, d.get? (name :: q) = some (.file content)) :
    d.KeepsWays (d.erase (name :: q)) := by
  have hkeep : ∀ {p node}, (∀ content, node ≠ .file content) → d.get? p = some node →
      (d.erase (name :: q)).get? p = some node := by
    intro p node hfile hn
    rw [get?_erase, if_neg, hn]
    rintro rfl
    rcases hp with hp | ⟨content, hp⟩
    · rw [hp] at hn
      cases hn
    · exact hfile content (Option.some.inj (hn.symm.trans hp))
  exact ⟨rfl, hkeep (by simp), hkeep (by simp)⟩

lemma Reaches.of_leads {p : Place} (h : d'.Reaches path cs name p) (hl : d.Leads cs q) :
    d.Reaches path cs name q :=
  { h with leads := hl }

end Disk

namespace Faults

open Disk

variable {faults : Faults} {d d' d₁ : Disk} {path name : String} {cs : List String} {q : Place}
  {content : ByteArray} {e : DiskError} {f : Failure}

lemma perform_error_of_ne {op : Operation} (hop : ∀ path content, op ≠ .write path content)
    (h : faults.perform op d = .error e d') : d' = d := by
  rcases perform_error h with h | ⟨path, content, h, -⟩
  · exact h
  · exact absurd h (hop path content)

/-! ### A new file -/

section New

variable (he : Path.EndsIn path name) (hc : Path.components path = cs ++ [name])
  (hl : d.Leads cs q) (hp : d.get? (name :: q) = none)

include he hc hl hp

lemma perform_create_ok (h : faults.perform (.create path) d = .ok () d') :
    d.Reaches path cs name q ∧ d' = d.insert (name :: q) (.file .empty) := by
  have hcreate : d.create path = .ok d' := (perform_eq_ok_iff.mp h).2
  obtain ⟨r, hr⟩ := reaches_of_create he hc hcreate
  obtain rfl := hr.leads.unique hl
  rw [hr.create (Or.inl hp)] at hcreate
  exact ⟨hr, (Except.ok.inj hcreate).symm⟩

lemma writeNew_ok (h : faults.writeNew path content d = .ok () d') :
    d.Reaches path cs name q ∧ d.Puts d' (name :: q) content := by
  obtain ⟨⟨⟩, d₁, hcreate, hwrite⟩ := bind_eq_ok_iff.mp h
  obtain ⟨hr, rfl⟩ := perform_create_ok he hc hl hp hcreate
  have hempty := puts_insert d name q .empty
  have hfull : (d.insert (name :: q) (.file .empty)).write path content = .ok d' :=
    (perform_eq_ok_iff.mp hwrite).2
  rw [(hr.kept (hempty.within hp).keepsWays).write hempty.file] at hfull
  cases hfull
  exact ⟨hr, hempty.again (puts_insert _ _ _ _)⟩

lemma writeNew_error (h : faults.writeNew path content d = .error e d') :
    d' = d ∨ d.Reaches path cs name q ∧ ∃ bytes, d.Puts d' (name :: q) bytes := by
  rcases bind_eq_error_iff.mp h with hcreate | ⟨⟨⟩, d₁, hcreate, hwrite⟩
  · exact Or.inl (perform_error_of_ne (by simp) hcreate)
  obtain ⟨hr, rfl⟩ := perform_create_ok he hc hl hp hcreate
  have hempty := puts_insert d name q .empty
  refine Or.inr ⟨hr, ?_⟩
  rcases perform_error hwrite with rfl | ⟨_, part, hop, hpart⟩
  · exact ⟨_, hempty⟩
  · cases hop
    rw [(hr.kept (hempty.within hp).keepsWays).write hempty.file] at hpart
    cases hpart
    exact ⟨_, hempty.again (puts_insert _ _ _ _)⟩

end New

lemma perform_never {op : Operation} (h : d.apply op = .ok d') :
    Faults.never.perform op d = .ok () d' :=
  perform_eq_ok_iff.mpr ⟨rfl, h⟩

lemma writeNew_never (h : d.Reaches path cs name q) (hp : d.get? (name :: q) = none)
    (content : ByteArray) : ∃ d', Faults.never.writeNew path content d = .ok () d' ∧
      d.Puts d' (name :: q) content := by
  have hempty := puts_insert d name q .empty
  refine ⟨_, bind_eq_ok_iff.mpr ⟨(), _, perform_never (h.create (Or.inl hp)), perform_never
    ((h.kept (hempty.within hp).keepsWays).write hempty.file content)⟩, ?_⟩
  exact hempty.again (puts_insert _ _ _ _)

/-! ### In place -/

lemma replaceFile_of_contains (h : d.contains path = true) :
    faults.replaceFile path content d =
      (failingAt path (faults.perform (.remove path)) >>= fun _ =>
        failingAt path (faults.writeNew path content)) d := by
  rw [replaceFile]
  change (if d.contains path = true then _ else _ : EStateM Failure Disk Unit) d = _
  rw [if_pos h]

lemma replaceFile_of_not_contains (h : d.contains path = false) :
    faults.replaceFile path content d = failingAt path (faults.writeNew path content) d := by
  rw [replaceFile]
  change (if d.contains path = true then _ else _ : EStateM Failure Disk Unit) d = _
  rw [if_neg (by simp [h])]

section Replace

variable (hd : d.IsSound) (he : Path.EndsIn path name)
  (hc : Path.components path = cs ++ [name]) (hl : d.Leads cs q) (hp : d.get? (name :: q) = none)

include hd he hc hl hp

lemma not_contains : d.contains path = false := by
  by_contra hcontains
  obtain ⟨r, hr, hsome⟩ := reaches_of_contains he hc hd (by simpa using hcontains)
  obtain rfl := hr.leads.unique hl
  rw [hp] at hsome
  cases hsome

lemma replaceFile_ok (h : faults.replaceFile path content d = .ok () d') :
    d.Reaches path cs name q ∧ d.Puts d' (name :: q) content := by
  rw [replaceFile_of_not_contains (not_contains hd he hc hl hp), failingAt_eq_ok_iff] at h
  exact writeNew_ok he hc hl hp h

lemma replaceFile_error (h : faults.replaceFile path content d = .error f d') :
    d' = d ∨ d.Reaches path cs name q ∧ ∃ bytes, d.Puts d' (name :: q) bytes := by
  rw [replaceFile_of_not_contains (not_contains hd he hc hl hp)] at h
  obtain ⟨e, -, h⟩ := failingAt_eq_error_iff.mp h
  exact writeNew_error he hc hl hp h

end Replace

lemma replaceFile_never (h : d.Reaches path cs name q) (hp : d.HasRoom (name :: q))
    (content : ByteArray) : ∃ d', Faults.never.replaceFile path content d = .ok () d' ∧
      d.Puts d' (name :: q) content := by
  have hcontains := h.contains
  rcases hp with hp | ⟨old, hp⟩
  · rw [hp] at hcontains
    obtain ⟨d', hd', hputs⟩ := writeNew_never h hp content
    exact ⟨d', by rw [replaceFile_of_not_contains hcontains, failingAt_eq_ok_iff, hd'], hputs⟩
  · rw [hp] at hcontains
    have hnone : (d.erase (name :: q)).get? (name :: q) = none := by rw [get?_erase, if_pos rfl]
    have hkept := h.kept (KeepsWays.erase (Or.inr ⟨old, hp⟩))
    obtain ⟨d', hd', hputs⟩ := writeNew_never hkept hnone content
    refine ⟨d', ?_, hputs.current, fun p => ?_⟩
    · rw [replaceFile_of_contains hcontains, bind_eq_ok_iff]
      exact ⟨(), _, failingAt_eq_ok_iff.mpr (perform_never (h.remove_file hp)),
        failingAt_eq_ok_iff.mpr hd'⟩
    · rw [hputs.get?, get?_erase]
      split <;> rfl

/-! ### Beside its place -/

lemma perform_sync_ok (h : faults.perform (.sync path) d = .ok () d') : d' = d := by
  have hsync : d.sync path = .ok d' := (perform_eq_ok_iff.mp h).2
  rw [Disk.sync] at hsync
  split at hsync
  · cases hsync
  · exact (Except.ok.inj hsync).symm

lemma discard_ok (h : faults.discard path d = .ok () d') :
    faults.perform (.remove path) d = .ok () d' ∨
      d' = d ∧ ∃ e, faults.perform (.remove path) d = .error e d := by
  rcases tryCatch_eq_ok_iff.mp h with h | ⟨f, d₁, h, hnext⟩
  · exact Or.inl (failingAt_eq_ok_iff.mp h)
  · cases hnext
    obtain ⟨e, -, h⟩ := failingAt_eq_error_iff.mp h
    obtain rfl := perform_error_of_ne (by simp) h
    exact Or.inr ⟨rfl, e, h⟩

lemma discard_ne_error : faults.discard path d ≠ .error f d' := by
  intro h
  obtain ⟨_, _, -, hnext⟩ := tryCatch_eq_error_iff.mp h
  cases hnext

lemma moveFile_ok_iff : faults.moveFile path content d = .ok () d' ↔ ∃ d₁ d₂,
    faults.writeNew (Naming.temporaryPath path) content d = .ok () d₁ ∧
    faults.perform (.sync (Naming.temporaryPath path)) d₁ = .ok () d₂ ∧
    faults.perform (.rename (Naming.temporaryPath path) path) d₂ = .ok () d' := by
  rw [moveFile, tryCatch_eq_ok_iff]
  have hthrow : ∀ f d₁, (do faults.discard (Naming.temporaryPath path); throw f) d₁ ≠
      EStateM.Result.ok () d' := by
    intro f d₁ h
    obtain ⟨_, _, -, h⟩ := bind_eq_ok_iff.mp h
    cases h
  simp only [bind_eq_ok_iff, failingAt_eq_ok_iff, hthrow, and_false, exists_false, or_false]
  constructor
  · rintro ⟨⟨⟩, d₂, ⟨⟨⟩, d₁, hnew, hsync⟩, hrename⟩
    exact ⟨d₁, d₂, hnew, hsync, hrename⟩
  · rintro ⟨d₁, d₂, hnew, hsync, hrename⟩
    exact ⟨(), d₂, ⟨(), d₁, hnew, hsync⟩, hrename⟩

/-- The steps of moving a file to its path, each with the path that is named when it fails. -/
def moveSteps (path : String) (content : ByteArray) : List (String × Operation) :=
  let temporary := Naming.temporaryPath path
  [(temporary, .create temporary), (temporary, .write temporary content),
    (temporary, .sync temporary), (path, .rename temporary path)]

/-- Steps are done up to one that fails. -/
inductive FailsIn (faults : Faults) : List (String × Operation) → Disk → Failure → Disk → Prop
  | here {named : String} {op : Operation} {rest : List (String × Operation)} {d d' : Disk}
      {e : DiskError} (h : faults.perform op d = .error e d') :
      FailsIn faults ((named, op) :: rest) d (.disk named e) d'
  | later {step : String × Operation} {rest : List (String × Operation)} {d d₁ d' : Disk}
      {f : Failure} (h : faults.perform step.2 d = .ok () d₁)
      (hrest : FailsIn faults rest d₁ f d') :
      FailsIn faults (step :: rest) d f d'

lemma failsIn_of_moveFile (h : faults.moveFile path content d = .error f d') : ∃ d₁,
    faults.FailsIn (moveSteps path content) d f d₁ ∧
      faults.discard (Naming.temporaryPath path) d₁ = .ok () d' := by
  obtain ⟨f', d₁, hbody, hhandle⟩ := tryCatch_eq_error_iff.mp h
  obtain ⟨rfl, hdiscard⟩ :
      f' = f ∧ faults.discard (Naming.temporaryPath path) d₁ = .ok () d' := by
    rcases bind_eq_error_iff.mp hhandle with hdiscard | ⟨⟨⟩, d₂, hdiscard, hthrow⟩
    · exact absurd hdiscard discard_ne_error
    · cases hthrow
      exact ⟨rfl, hdiscard⟩
  refine ⟨d₁, ?_, hdiscard⟩
  rcases bind_eq_error_iff.mp hbody with hmake | ⟨⟨⟩, d₂, hmake, hrename⟩
  · obtain ⟨e, rfl, hfail⟩ := failingAt_eq_error_iff.mp hmake
    rcases bind_eq_error_iff.mp hfail with hnew | ⟨⟨⟩, d₂, hnew, hsync⟩
    · rcases bind_eq_error_iff.mp hnew with hcreate | ⟨⟨⟩, d₂, hcreate, hwrite⟩
      · exact .here hcreate
      · exact .later hcreate (.here hwrite)
    · obtain ⟨⟨⟩, d₃, hcreate, hwrite⟩ := bind_eq_ok_iff.mp hnew
      exact .later hcreate (.later hwrite (.here hsync))
  · obtain ⟨⟨⟩, d₃, hnew, hsync⟩ := bind_eq_ok_iff.mp (failingAt_eq_ok_iff.mp hmake)
    obtain ⟨⟨⟩, d₄, hcreate, hwrite⟩ := bind_eq_ok_iff.mp hnew
    obtain ⟨e, rfl, hfail⟩ := failingAt_eq_error_iff.mp hrename
    exact .later hcreate (.later hwrite (.later hsync (.here hfail)))

/-- Whichever step fails, what it leaves is what writing the file beside its place leaves, whether
that fails or not. -/
lemma FailsIn.writeNew (h : faults.FailsIn (moveSteps path content) d f d') :
    (∃ e, faults.writeNew (Naming.temporaryPath path) content d = .error e d') ∨
      faults.writeNew (Naming.temporaryPath path) content d = .ok () d' := by
  cases h with
  | here hcreate => exact Or.inl ⟨_, bind_eq_error_iff.mpr (Or.inl hcreate)⟩
  | later hcreate h =>
    cases h with
    | here hwrite => exact Or.inl ⟨_, bind_eq_error_iff.mpr (Or.inr ⟨(), _, hcreate, hwrite⟩)⟩
    | @later _ _ _ d₂ _ _ hwrite h =>
      have hnew : faults.writeNew (Naming.temporaryPath path) content d = .ok () d₂ :=
        bind_eq_ok_iff.mpr ⟨(), _, hcreate, hwrite⟩
      cases h with
      | here hsync => exact Or.inr (perform_error_of_ne (by simp) hsync ▸ hnew)
      | later hsync h =>
        obtain rfl := perform_sync_ok hsync
        cases h with
        | here hrename => exact Or.inr (perform_error_of_ne (by simp) hrename ▸ hnew)
        | later hrename h => cases h

lemma sound_of_perform (hd : d.IsSound) {op : Operation}
    (h : faults.perform op d = .ok () d' ∨ ∃ e, faults.perform op d = .error e d') :
    d'.IsSound := by
  rcases h with h | ⟨e, h⟩
  · exact hd.apply op (perform_eq_ok_iff.mp h).2
  · rcases perform_error h with rfl | ⟨path, part, -, hpart⟩
    · exact hd
    · exact hd.write hpart

lemma FailsIn.sound {steps : List (String × Operation)} (hd : d.IsSound)
    (h : faults.FailsIn steps d f d') : d'.IsSound := by
  induction h with
  | here h => exact sound_of_perform hd (Or.inr ⟨_, h⟩)
  | later h _ ih => exact ih (sound_of_perform hd (Or.inl h))

lemma sound_of_moveFile (hd : d.IsSound) (h : faults.moveFile path content d = .error f d') :
    d'.IsSound := by
  obtain ⟨d₁, hfails, hdiscard⟩ := failsIn_of_moveFile h
  rcases discard_ok hdiscard with hremove | ⟨rfl, -⟩
  · exact sound_of_perform (hfails.sound hd) (Or.inl hremove)
  · exact hfails.sound hd

section Move

variable (he : Path.EndsIn path name) (hc : Path.components path = cs ++ [name])
  (hl : d.Leads cs q) (htp : d.get? (Path.temporaryName name :: q) = none)

include he hc hl htp

lemma writeNew_temporary (h : faults.writeNew (Naming.temporaryPath path) content d = .ok () d') :
    d.Reaches (Naming.temporaryPath path) cs (Path.temporaryName name) q ∧
      d.Puts d' (Path.temporaryName name :: q) content :=
  writeNew_ok he.temporary (Path.components_temporaryPath he hc) hl htp h

lemma moveFile_ok (hp : d.get? (name :: q) = none)
    (h : faults.moveFile path content d = .ok () d') :
    d.Reaches path cs name q ∧ d.Puts d' (name :: q) content := by
  obtain ⟨d₁, d₂, hnew, hsync, hrename⟩ := moveFile_ok_iff.mp h
  obtain rfl := perform_sync_ok hsync
  obtain ⟨ht, hputs⟩ := writeNew_temporary he hc hl htp hnew
  have hways := (hputs.within htp).keepsWays
  have hmove : d₂.rename (Naming.temporaryPath path) path = .ok d' :=
    (perform_eq_ok_iff.mp hrename).2
  obtain ⟨r, hr⟩ := reaches_of_rename he hc hmove
  obtain rfl := hr.leads.unique (hl.kept hways)
  have hother : name :: r ≠ Path.temporaryName name :: r := fun heq =>
    Path.ne_temporaryName name (List.cons.inj heq).1
  rw [(ht.kept hways).rename hr hputs.file (Or.inl (by rw [hputs.other hother, hp]))] at hmove
  cases hmove
  exact ⟨hr.of_leads hl, hputs.moved htp⟩

/-- Where a file cannot be moved to its place, nothing changes, unless the file beside it cannot be
taken away either. -/
lemma moveFile_leaves (h : faults.moveFile path content d = .error f d') : d.IsSame d' ∨
    (∃ e, faults.error? (.remove (Naming.temporaryPath path)) = some e) ∧
      ∃ bytes, d.Puts d' (Path.temporaryName name :: q) bytes := by
  obtain ⟨d₁, hfails, hdiscard⟩ := failsIn_of_moveFile h
  have hleft : d₁ = d ∨ d.Reaches (Naming.temporaryPath path) cs (Path.temporaryName name) q ∧
      ∃ bytes, d.Puts d₁ (Path.temporaryName name :: q) bytes := by
    rcases hfails.writeNew with ⟨e, hnew⟩ | hnew
    · exact writeNew_error he.temporary (Path.components_temporaryPath he hc) hl htp hnew
    · obtain ⟨ht, hputs⟩ := writeNew_temporary he hc hl htp hnew
      exact Or.inr ⟨ht, _, hputs⟩
  rcases hleft with rfl | ⟨ht, bytes, hputs⟩
  · -- there is no file beside the place, so nothing can be taken away
    rcases discard_ok hdiscard with hremove | ⟨rfl, -⟩
    · obtain ⟨r, hr⟩ := reaches_of_remove he.temporary (Path.components_temporaryPath he hc)
        (perform_eq_ok_iff.mp hremove).2
      obtain rfl := hr.leads.unique hl
      have hnone : d₁.remove (Naming.temporaryPath path) = .ok d' :=
        (perform_eq_ok_iff.mp hremove).2
      rw [hr.remove_none htp] at hnone
      cases hnone
    · exact Or.inl (.refl _)
  · have hremove := (ht.kept (hputs.within htp).keepsWays).remove_file hputs.file
    rcases discard_ok hdiscard with hremoved | ⟨rfl, e, hkept⟩
    · have hgone : d₁.remove (Naming.temporaryPath path) = .ok d' :=
        (perform_eq_ok_iff.mp hremoved).2
      rw [hremove] at hgone
      cases hgone
      exact Or.inl (hputs.taken htp)
    · refine Or.inr ⟨?_, bytes, hputs⟩
      rcases hfault : faults.error? (.remove (Naming.temporaryPath path)) with _ | refusal
      · rw [perform_eq_ok_iff.mpr ⟨hfault, hremove⟩] at hkept
        cases hkept
      · exact ⟨refusal, rfl⟩

omit htp in
/-- Where a file cannot be moved to its place, there is a file beside it only if there was one
before, or if it cannot be taken away. -/
lemma contains_of_moveFile (hd : d.IsSound) (h : faults.moveFile path content d = .error f d')
    (hcontains : d'.contains (Naming.temporaryPath path) = true) :
    d.contains (Naming.temporaryPath path) = true ∨
      ∃ e, faults.error? (.remove (Naming.temporaryPath path)) = some e := by
  obtain ⟨r, hr, -⟩ := reaches_of_contains he.temporary (Path.components_temporaryPath he hc)
    (sound_of_moveFile hd h) hcontains
  have hbefore : d.Reaches (Naming.temporaryPath path) cs (Path.temporaryName name) q :=
    ⟨he.temporary, Path.components_temporaryPath he hc, hr.check, hr.short, hl⟩
  rcases htp : d.get? (Path.temporaryName name :: q) with _ | node
  · rcases moveFile_leaves he hc hl htp h with hsame | ⟨hfault, -⟩
    · rw [(hbefore.kept hsame.within.keepsWays).contains, hsame.get?] at hcontains
      exact Or.inl (hbefore.contains.trans hcontains)
    · exact Or.inr hfault
  · exact Or.inl (by rw [hbefore.contains, htp, Option.isSome_some])

end Move

lemma moveFile_never (h : d.Reaches path cs name q)
    (ht : d.Reaches (Naming.temporaryPath path) cs (Path.temporaryName name) q)
    (hp : d.HasRoom (name :: q)) (htp : d.get? (Path.temporaryName name :: q) = none)
    (content : ByteArray) : ∃ d', Faults.never.moveFile path content d = .ok () d' ∧
      d.Puts d' (name :: q) content := by
  obtain ⟨d₁, hnew, hputs⟩ := writeNew_never ht htp content
  have hways := (hputs.within htp).keepsWays
  have hother : name :: q ≠ Path.temporaryName name :: q := fun heq =>
    Path.ne_temporaryName name (List.cons.inj heq).1
  have hroom : d₁.HasRoom (name :: q) := by
    rw [HasRoom, hputs.other hother]
    exact hp
  refine ⟨_, moveFile_ok_iff.mpr ⟨d₁, d₁, hnew, perform_never ((ht.kept hways).sync hputs.file),
    perform_never ((ht.kept hways).rename (h.kept hways) hputs.file hroom)⟩,
    hputs.moved htp⟩

/-! ### In either way -/

/-- Writes a file into a directory that is there. -/
def placeFile (faults : Faults) (mode : WriteMode) (path : String) (content : ByteArray) :
    EStateM Failure Disk Unit :=
  match mode with
  | .replace => faults.replaceFile path content
  | .atomic => faults.moveFile path content

lemma writeFile_eq (faults : Faults) (mode : WriteMode) (path : String) (content : ByteArray) :
    faults.writeFile mode path content =
      (faults.makeParents path >>= fun _ => faults.placeFile mode path content) := by
  cases mode <;> rfl

/-- What is left of a file that could not be written: nothing, a beginning of it, or a file beside
its place that could not be taken away. -/
inductive Leaves (faults : Faults) (path name : String) (q : Place) (d d' : Disk) : Prop
  | nothing (h : d.IsSame d')
  | beginning (bytes : ByteArray) (h : d.Puts d' (name :: q) bytes)
  | beside (bytes : ByteArray) (h : d.Puts d' (Path.temporaryName name :: q) bytes)
      (hfault : ∃ e, faults.error? (.remove (Naming.temporaryPath path)) = some e)

section Write

variable {mode : WriteMode} (he : Path.EndsIn path name)
  (hc : Path.components path = cs ++ [name])

include he hc

lemma checkPath_of_writeFile (h : faults.writeFile mode path content d = .ok () d') :
    checkPath path = .ok () := by
  have hnew : ∀ {d d'}, faults.writeNew path content d = .ok () d' → checkPath path = .ok () := by
    intro d d' h
    obtain ⟨⟨⟩, d₁, hcreate, -⟩ := bind_eq_ok_iff.mp h
    obtain ⟨q, hq⟩ := reaches_of_create he hc (perform_eq_ok_iff.mp hcreate).2
    exact hq.check
  rw [writeFile_eq] at h
  obtain ⟨⟨⟩, d₁, -, h⟩ := bind_eq_ok_iff.mp h
  cases mode with
  | replace =>
    rw [placeFile] at h
    rcases hcontains : d₁.contains path
    · rw [replaceFile_of_not_contains hcontains, failingAt_eq_ok_iff] at h
      exact hnew h
    · rw [replaceFile_of_contains hcontains] at h
      obtain ⟨⟨⟩, d₂, -, h⟩ := bind_eq_ok_iff.mp h
      exact hnew (failingAt_eq_ok_iff.mp h)
  | atomic =>
    obtain ⟨_, d₂, -, -, hrename⟩ := moveFile_ok_iff.mp h
    obtain ⟨q, hq⟩ := reaches_of_rename he hc (perform_eq_ok_iff.mp hrename).2
    exact hq.check

variable (hd : d.IsSound) (hup : ".." ∉ cs)

include hd hup

/-- **Writing a file.** The directories above it are made, and where there is no file at its place
and none beside it, it is put there. -/
theorem writeFile_ok (h : faults.writeFile mode path content d = .ok () d') :
    ∃ d₁ q, d.Deepens d₁ cs q ∧
      (d₁.get? (name :: q) = none → d₁.get? (Path.temporaryName name :: q) = none →
        d₁.Reaches path cs name q ∧ d₁.Puts d' (name :: q) content) := by
  rw [writeFile_eq] at h
  obtain ⟨⟨⟩, d₁, hparents, h⟩ := bind_eq_ok_iff.mp h
  obtain ⟨q, hq⟩ := makeParents_ok he hc hup hd hparents
  refine ⟨d₁, q, hq, fun hp htp => ?_⟩
  cases mode with
  | replace => exact replaceFile_ok (hq.sound hd) he hc hq.isLed hp h
  | atomic => exact moveFile_ok he hc hq.isLed htp hp h

/-- **Failing to write a file.** Directories above it may have been made, and below all of them
there may be something left of the file. -/
theorem writeFile_error (h : faults.writeFile mode path content d = .error f d') :
    d.DeepensPart d' cs ∨ ∃ d₁ q, d.Deepens d₁ cs q ∧
      (d₁.get? (name :: q) = none → d₁.get? (Path.temporaryName name :: q) = none →
        faults.Leaves path name q d₁ d') := by
  rw [writeFile_eq] at h
  rcases bind_eq_error_iff.mp h with hparents | ⟨⟨⟩, d₁, hparents, h⟩
  · exact Or.inl (makeParents_error he hc hup hd hparents)
  obtain ⟨q, hq⟩ := makeParents_ok he hc hup hd hparents
  refine Or.inr ⟨d₁, q, hq, fun hp htp => ?_⟩
  cases mode with
  | replace =>
    rcases replaceFile_error (hq.sound hd) he hc hq.isLed hp h with rfl | ⟨-, bytes, hputs⟩
    · exact .nothing (.refl _)
    · exact .beginning bytes hputs
  | atomic =>
    rcases moveFile_leaves he hc hq.isLed htp h with hsame | ⟨hfault, bytes, hputs⟩
    · exact .nothing hsame
    · exact .beside bytes hputs hfault

/-- A file whose path cannot be looked up is not written. If there is nothing to make above it, then
there is a file beside it only if there was one before, or if it cannot be taken away. -/
lemma contains_of_writeFile (hl : d.Leads cs q) (hcheck : checkPath path ≠ .ok ())
    (h : faults.writeFile mode path content d = .error f d')
    (hcontains : d'.contains (Naming.temporaryPath path) = true) :
    d.contains (Naming.temporaryPath path) = true ∨
      ∃ e, faults.error? (.remove (Naming.temporaryPath path)) = some e := by
  rw [writeFile_eq] at h
  rcases bind_eq_error_iff.mp h with hparents | ⟨⟨⟩, d₁, hparents, hplace⟩
  · obtain rfl := (makeParents_error he hc hup hd hparents).eq_of_leads hd hl
    exact Or.inl hcontains
  obtain ⟨r, hr⟩ := makeParents_ok he hc hup hd hparents
  obtain rfl := hr.eq_of_leads hd hl
  cases mode with
  | replace =>
    rw [placeFile, replaceFile_of_not_contains (not_contains_of_check hcheck)] at hplace
    obtain ⟨e, -, hnew⟩ := failingAt_eq_error_iff.mp hplace
    rcases bind_eq_error_iff.mp hnew with hcreate | ⟨⟨⟩, d₂, hcreate, -⟩
    · rw [perform_error_of_ne (by simp) hcreate] at hcontains
      exact Or.inl hcontains
    · obtain ⟨p, hp⟩ := reaches_of_create he hc (perform_eq_ok_iff.mp hcreate).2
      exact absurd hp.check hcheck
  | atomic => exact contains_of_moveFile he hc hl hd hplace hcontains

omit hup in
/-- **Writing a file again.** On a device that does not fail, a file that can be reached is written
whether there is one already or not. -/
theorem writeFile_never (hup : ".." ∉ cs) (h : d.Reaches path cs name q)
    (ht : mode = .atomic →
      d.Reaches (Naming.temporaryPath path) cs (Path.temporaryName name) q)
    (hp : d.HasRoom (name :: q)) (htp : d.get? (Path.temporaryName name :: q) = none)
    (content : ByteArray) : ∃ d', Faults.never.writeFile mode path content d = .ok () d' ∧
      d.Puts d' (name :: q) content := by
  have hparents := makeParents_never he hc hup hd h.check h.leads
  have hplace : ∃ d', Faults.never.placeFile mode path content d = .ok () d' ∧
      d.Puts d' (name :: q) content := by
    cases mode with
    | replace => exact replaceFile_never h hp content
    | atomic => exact moveFile_never h (ht rfl) hp htp content
  obtain ⟨d', hplaced, hputs⟩ := hplace
  refine ⟨d', ?_, hputs⟩
  rw [writeFile_eq, bind_eq_ok_iff]
  exact ⟨(), d, hparents, hplaced⟩

end Write

end Faults

end ClientGen
