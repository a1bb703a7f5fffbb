import ClientGen.Proofs.Disk.Operations
import ClientGen.Proofs.Disk.Refusal

/-!
Making the directories above a file. What is missing is made one directory below the other, so that
whatever a run of this leaves, the components lead as far as it came, and nothing else is new.
-/

namespace ClientGen

variable {d d' : Disk} {path name : String} {cs : List String} {q p : Place}

namespace Disk

/-- The components lead to a directory of the second disk, which is the first one with the last of
the directories on the way made, as far as they were missing. -/
inductive Deepens (d : Disk) : Disk → List String → Place → Prop
  | leads {cs : List String} {q : Place} (h : d.Leads cs q) : Deepens d d cs q
  | step {d' : Disk} {cs : List String} {q : Place} {name : String} (h : Deepens d d' cs q)
      (hn : Path.IsName name) (hs : name.utf8ByteSize ≤ longestName)
      (hp : d'.get? (name :: q) = none) :
      Deepens d (d'.insert (name :: q) .directory) (cs ++ [name]) (name :: q)

section Deepens

variable (h : d.Deepens d' cs q)

include h

lemma Deepens.within : d.IsWithin d' := by
  induction h with
  | leads => exact .refl d
  | step _ _ _ hp ih => exact ih.trans (.insert hp)

lemma Deepens.isLed : d'.Leads cs q := by
  induction h with
  | leads h => exact h
  | step _ hn hs hp ih =>
    refine Leads.concat hn (ih.kept (IsWithin.insert hp).keepsWays) hs ?_
    rw [get?_insert, if_pos rfl]

lemma Deepens.sound (hd : d.IsSound) : d'.IsSound := by
  induction h with
  | leads => exact hd
  | step h _ _ _ ih => exact ih.insert h.isLed.directory (Or.inr rfl)

lemma Deepens.get?_cases (p : Place) : d'.get? p = d.get? p ∨
    p <:+ q ∧ d.get? p = none ∧ d'.get? p = some .directory := by
  induction h with
  | leads => exact Or.inl rfl
  | @step d' cs q name h _ _ hp ih =>
    rw [get?_insert]
    split
    · next he =>
      subst he
      refine Or.inr ⟨List.suffix_rfl, ?_, rfl⟩
      rcases ih with ih | ⟨-, -, ih⟩
      · rw [← ih, hp]
      · rw [hp] at ih
        cases ih
    · rcases ih with ih | ⟨hsuffix, hnone, ih⟩
      · exact Or.inl ih
      · exact Or.inr ⟨hsuffix.trans (List.suffix_cons _ _), hnone, ih⟩

lemma Deepens.eq_of_leads (hd : d.IsSound) (hl : d.Leads cs p) : d' = d := by
  cases h with
  | leads => rfl
  | @step d' cs q m h hn _ hp =>
    obtain ⟨r, hr, -, hend⟩ := (hl.kept h.within.keepsWays).of_concat hn (h.sound hd)
    obtain rfl := hr.unique h.isLed
    rw [hp] at hend
    rcases hend with ⟨hend, -⟩ | ⟨_, hend⟩ <;> cases hend

lemma Deepens.eq_or_none (hd : d.IsSound) (name : String) :
    d' = d ∨ d'.get? (name :: q) = none := by
  cases h with
  | leads => exact Or.inl rfl
  | @step d' cs q m h hm hs hp =>
    have hbelow := (h.sound hd).get?_below [name] hp
    rw [List.singleton_append] at hbelow
    exact Or.inr (by rw [get?_insert, if_neg (by simp), hbelow])

lemma Deepens.eq_of_concat (hd : d.IsSound) (hn : Path.IsName name)
    (hl : d'.Leads (cs ++ [name]) p) : d' = d := by
  obtain ⟨r, hr, -, hend⟩ := hl.of_concat hn (h.sound hd)
  obtain rfl := hr.unique h.isLed
  refine (h.eq_or_none hd name).resolve_right fun hnone => ?_
  rw [hnone] at hend
  rcases hend with ⟨hend, -⟩ | ⟨_, hend⟩ <;> cases hend

lemma Deepens.eq_of_append (hd : d.IsSound) {rest : List String}
    (hrest : ∀ n ∈ rest, Path.IsName n) (hne : rest ≠ []) (hl : d'.Leads (cs ++ rest) p) :
    d' = d := by
  obtain ⟨n, rest, rfl⟩ := List.exists_cons_of_ne_nil hne
  rw [← List.singleton_append, ← List.append_assoc] at hl
  obtain ⟨r, hr⟩ := hl.of_append (h.sound hd) fun m hm => hrest m (by simp [hm])
  exact h.eq_of_concat hd (hrest n (by simp)) hr

lemma Deepens.not_leads (hd : d.IsSound) {rest : List String} (hrest : ∀ n ∈ rest, Path.IsName n)
    (hne : rest ≠ []) (hno : ∀ p, ¬ d.Leads (cs ++ rest) p) (p : Place) :
    ¬ d'.Leads (cs ++ rest) p := by
  intro hl
  obtain rfl := h.eq_of_append hd hrest hne hl
  exact hno p hl

end Deepens

lemma Deepens.of_append (hd : d.IsSound) {ns : List String} (hns : ∀ n ∈ ns, Path.IsName n)
    (h : d.Deepens d' (cs ++ ns) q) :
    ∃ d₁ p, d.Deepens d₁ cs p ∧ d₁.Deepens d' (cs ++ ns) q := by
  induction ns using List.reverseRecOn generalizing d' q with
  | nil => exact ⟨d', q, by rwa [List.append_nil] at h, .leads h.isLed⟩
  | append_singleton ns n ih =>
    have hn := hns n (by simp)
    rw [← List.append_assoc] at h ⊢
    obtain ⟨ds, hds⟩ : ∃ ds, cs ++ ns ++ [n] = ds := ⟨_, rfl⟩
    rw [hds] at h
    cases h with
    | leads h =>
      obtain ⟨p, hp⟩ := Leads.of_append hd hns (p := q) (by rw [← List.append_assoc, hds]; exact h)
      exact ⟨d, p, .leads hp, .leads (hds ▸ h)⟩
    | step h hm hs hp =>
      obtain ⟨rfl, hlast⟩ := List.append_inj' hds rfl
      obtain ⟨rfl, -⟩ := List.cons.inj hlast
      obtain ⟨d₁, p, h₁, h₂⟩ := ih (fun m hm => hns m (by simp [hm])) h
      exact ⟨d₁, p, h₁, .step h₂ hm hs hp⟩

/-- A part of some components leads to a directory, where there was one or it has been made, and
names are left behind it. -/
def DeepensPart (d d' : Disk) (cs : List String) : Prop :=
  ∃ base rest q, base ++ rest = cs ∧ (∀ n ∈ rest, Path.IsName n) ∧ d.Deepens d' base q

lemma Deepens.part (h : d.Deepens d' cs q) : d.DeepensPart d' cs :=
  ⟨cs, [], q, List.append_nil cs, by simp, h⟩

lemma DeepensPart.concat (h : d.DeepensPart d' cs) (hn : Path.IsName name) :
    d.DeepensPart d' (cs ++ [name]) := by
  obtain ⟨base, rest, q, rfl, hrest, hq⟩ := h
  refine ⟨base, rest ++ [name], q, by rw [List.append_assoc], fun n hmem => ?_, hq⟩
  rcases List.mem_append.mp hmem with hmem | hmem
  · exact hrest n hmem
  · rwa [List.mem_singleton.mp hmem]

lemma DeepensPart.eq_of_leads (hd : d.IsSound) (h : d.DeepensPart d' cs) (hl : d.Leads cs q) :
    d' = d := by
  obtain ⟨base, rest, r, rfl, hrest, hdeep⟩ := h
  by_cases hne : rest = []
  · subst hne
    rw [List.append_nil] at hl
    exact hdeep.eq_of_leads hd hl
  · exact hdeep.eq_of_append hd hrest hne (hl.kept hdeep.within.keepsWays)

lemma deepensPart_of_ladder (hd : d.IsSound) {paths : List String} (hl : Path.Ladder paths cs) :
    d.DeepensPart d cs := by
  induction hl with
  | @start cs h =>
    obtain ⟨p, hp⟩ := leads_start hd (h.imp_right Or.inl)
    exact (Deepens.leads hp).part
  | here =>
    obtain ⟨p, hp⟩ := leads_start hd (Or.inr (Or.inr rfl))
    exact (Deepens.leads hp).part
  | step he _ _ ih => exact ih.concat he.isName

lemma makeDirectory_dot (hd : d.IsSound) : d.makeDirectory "." = .error .exists := by
  have hnames : Path.names "." = ["."] := by decide
  have hcheck : checkPath "." = .ok () := by decide
  have hbegin : beginning d.current "." = d.current := by
    rw [beginning, if_neg (by decide)]
  have hspot : d.spotOf "." = .ok ⟨d.current, none, false⟩ := by
    simp [spotOf, spotFrom, hnames, hcheck, hbegin, hd.current, bind, Except.bind, pure,
      Except.pure]
  rw [makeDirectory, hspot]
  rfl

lemma makeDirectory_of_isDirectory (hd : d.IsSound) {paths : List String}
    (hl : Path.Ladder (path :: paths) cs) (h : d.isDirectory path = true) :
    d.makeDirectory path = .error .exists := by
  cases hl with
  | here => exact makeDirectory_dot hd
  | step he hc _ =>
    obtain ⟨q, hq, hsome⟩ := reaches_of_isDirectory he hc hd h
    obtain ⟨node, hnode⟩ := Option.isSome_iff_exists.mp hsome
    exact hq.makeDirectory_some hnode

end Disk

namespace Faults

open Disk

variable {faults : Faults} {e : DiskError}

lemma perform_eq_ok_iff {op : Operation} :
    faults.perform op d = .ok () d' ↔ faults.error? op = none ∧ d.apply op = .ok d' := by
  rw [perform]
  rcases faults.error? op with _ | e
  · rcases d.apply op with e | d'' <;> simp
  · simp only [reduceCtorEq, false_and, iff_false]
    split
    · split <;> simp
    · simp

/-- An operation that fails changes nothing, unless it is one of writing: then a part of the content
may be there. -/
lemma perform_error {op : Operation} (h : faults.perform op d = .error e d') : d' = d ∨
    ∃ path content, op = .write path content ∧
      d.write path (content.extract 0 faults.kept) = .ok d' := by
  rw [perform] at h
  split at h
  · split at h
    · split at h
      · next hw =>
        cases h
        exact Or.inr ⟨_, _, rfl, hw⟩
      · cases h
        exact Or.inl rfl
    · cases h
      exact Or.inl rfl
  · split at h
    · cases h
    · cases h
      exact Or.inl rfl

lemma perform_makeDirectory_error (h : faults.perform (.makeDirectory path) d = .error e d') :
    d' = d := by
  rcases perform_error h with h | ⟨_, _, h, -⟩
  · exact h
  · cases h

lemma perform_dot (hd : d.IsSound) : faults.perform (.makeDirectory ".") d ≠ .ok () d' := by
  intro h
  have hmake : d.makeDirectory "." = .ok d' := (perform_eq_ok_iff.mp h).2
  rw [makeDirectory_dot hd] at hmake
  cases hmake

lemma settle_eq_ok (h : settle path e d = .ok () d') : d' = d ∧ d.isDirectory path = true := by
  rw [settle] at h
  split at h
  · next hd =>
    cases h
    simp_all
  · cases h

lemma settle_eq_error {f : DiskError} (h : settle path e d = .error f d') : d' = d := by
  rw [settle] at h
  split at h
  · cases h
  · cases h
    rfl

section EndsIn

variable (he : Path.EndsIn path name) (hc : Path.components path = cs ++ [name])

include he hc

lemma deepens_of_makeDirectory {d₁ : Disk} (h : d.Deepens d₁ cs q)
    (ho : faults.perform (.makeDirectory path) d₁ = .ok () d') :
    ∃ p, d.Deepens d' (cs ++ [name]) p := by
  obtain ⟨r, hr, hnone, rfl⟩ := reaches_of_makeDirectory he hc (perform_eq_ok_iff.mp ho).2
  obtain rfl := hr.leads.unique h.isLed
  exact ⟨_, h.step he.isName hr.short hnone⟩

lemma deepens_of_isDirectory {d₁ : Disk} (hd : d.IsSound) (h : d.Deepens d₁ cs q)
    (ho : d₁.isDirectory path = true) : ∃ p, d.Deepens d₁ (cs ++ [name]) p := by
  obtain ⟨-, p, hp⟩ := isDirectory_iff.mp ho
  rw [hc] at hp
  obtain rfl := h.eq_of_concat hd he.isName hp
  exact ⟨p, .leads hp⟩

lemma ensureDirectory_ok {d₁ : Disk} (hd : d.IsSound) (h : d.Deepens d₁ cs q)
    (ho : faults.ensureDirectory path d₁ = .ok () d') :
    ∃ p, d.Deepens d' (cs ++ [name]) p := by
  rcases tryCatch_eq_ok_iff.mp ho with hmade | ⟨f, d₂, hfail, hsettled⟩
  · exact deepens_of_makeDirectory he hc h hmade
  · obtain rfl := perform_makeDirectory_error hfail
    obtain ⟨rfl, hdir⟩ := settle_eq_ok hsettled
    exact deepens_of_isDirectory he hc hd h hdir

omit he hc in
lemma ensureDirectory_error (ho : faults.ensureDirectory path d = .error e d') : d' = d := by
  obtain ⟨f, d₁, hfail, hsettled⟩ := tryCatch_eq_error_iff.mp ho
  obtain rfl := perform_makeDirectory_error hfail
  exact settle_eq_error hsettled

end EndsIn

lemma ensureDirectory_dot (hd : d.IsSound) (ho : faults.ensureDirectory "." d = .ok () d') :
    d' = d := by
  rcases tryCatch_eq_ok_iff.mp ho with hmade | ⟨f, d₁, hfail, hsettled⟩
  · exact absurd hmade (perform_dot hd)
  · obtain rfl := perform_makeDirectory_error hfail
    exact (settle_eq_ok hsettled).1

lemma ensureDirectories_ok (hd : d.IsSound) {paths : List String} (hl : Path.Ladder paths cs)
    (ho : faults.ensureDirectories paths d = .ok () d') : ∃ q, d.Deepens d' cs q := by
  induction hl generalizing d' with
  | @start cs h =>
    cases ho
    obtain ⟨p, hp⟩ := leads_start hd (h.imp_right Or.inl)
    exact ⟨p, .leads hp⟩
  | here =>
    obtain ⟨p, hp⟩ := leads_start hd (Or.inr (Or.inr rfl))
    suffices hsame : d' = d by
      rw [hsame]
      exact ⟨p, .leads hp⟩
    rw [ensureDirectories] at ho
    rcases tryCatch_eq_ok_iff.mp ho with hmade | ⟨f, d₁, hfail, hnext⟩
    · exact absurd hmade (perform_dot hd)
    · obtain rfl := perform_makeDirectory_error hfail
      split at hnext
      · obtain ⟨⟨⟩, d₂, hnil, hlast⟩ := bind_eq_ok_iff.mp hnext
        cases hnil
        exact ensureDirectory_dot hd hlast
      · exact (settle_eq_ok hnext).1
  | @step path name paths cs he hc hl ih =>
    rw [ensureDirectories] at ho
    rcases tryCatch_eq_ok_iff.mp ho with hmade | ⟨f, d₁, hfail, hnext⟩
    · obtain ⟨q, hq, hnone, rfl⟩ := reaches_of_makeDirectory he hc (perform_eq_ok_iff.mp hmade).2
      exact ⟨_, (Deepens.leads hq.leads).step he.isName hq.short hnone⟩
    · obtain rfl := perform_makeDirectory_error hfail
      split at hnext
      · obtain ⟨⟨⟩, d₂, habove, hlast⟩ := bind_eq_ok_iff.mp hnext
        obtain ⟨q, hq⟩ := ih habove
        exact ensureDirectory_ok he hc hd hq hlast
      · obtain ⟨rfl, hdir⟩ := settle_eq_ok hnext
        obtain ⟨-, p, hp⟩ := isDirectory_iff.mp hdir
        exact ⟨p, .leads (hc ▸ hp)⟩

lemma ensureDirectories_error (hd : d.IsSound) {paths : List String} (hl : Path.Ladder paths cs)
    (ho : faults.ensureDirectories paths d = .error e d') : d.DeepensPart d' cs := by
  have hstart := deepensPart_of_ladder hd hl
  induction hl generalizing e d' with
  | start => cases ho
  | here =>
    suffices hsame : d' = d by
      rw [hsame]
      exact hstart
    rw [ensureDirectories] at ho
    obtain ⟨f, d₁, hfail, hnext⟩ := tryCatch_eq_error_iff.mp ho
    obtain rfl := perform_makeDirectory_error hfail
    split at hnext
    · rcases bind_eq_error_iff.mp hnext with hnil | ⟨⟨⟩, d₂, hnil, hlast⟩
      · cases hnil
      · cases hnil
        exact ensureDirectory_error hlast
    · exact settle_eq_error hnext
  | @step path name paths cs he hc hl ih =>
    rw [ensureDirectories] at ho
    obtain ⟨f, d₁, hfail, hnext⟩ := tryCatch_eq_error_iff.mp ho
    obtain rfl := perform_makeDirectory_error hfail
    split at hnext
    · rcases bind_eq_error_iff.mp hnext with habove | ⟨⟨⟩, d₂, habove, hlast⟩
      · exact (ih habove (deepensPart_of_ladder hd hl)).concat he.isName
      · obtain ⟨q, hq⟩ := ensureDirectories_ok hd hl habove
        obtain rfl := ensureDirectory_error hlast
        exact hq.part.concat he.isName
    · rw [settle_eq_error hnext]
      exact hstart

/-! ### The directories above a file -/

lemma head_of_ancestors {keep : String → Bool} {above : String}
    (h : path ∈ ((Path.ancestors above).takeWhile keep).head?) : path = above := by
  have hhead : (Path.ancestors above).head? = some above := by
    rw [Path.ancestors]
    rcases above.length with _ | k
    · rfl
    · rw [Path.ancestorsFrom]
      split <;> rfl
  obtain ⟨rest, hrest⟩ := List.head?_eq_some_iff.mp hhead
  rw [hrest, List.takeWhile_cons] at h
  split at h
  · exact (Option.mem_some_iff.mp h).symm
  · cases h

/-- The directories above a path are made along a ladder, unless there is no component above. -/
lemma makeParents_eq (faults : Faults) (he : Path.EndsIn path name)
    (hc : Path.components path = cs ++ [name]) (hup : ".." ∉ cs) :
    (cs = [] ∧ faults.makeParents path = pure ()) ∨
      ∃ above paths, Path.components above = cs ∧ above.toList <+: path.toList ∧ above ≠ "" ∧
        Path.Ladder paths cs ∧ (∀ p ∈ paths.head?, p = above) ∧
        faults.makeParents path = failingAt above (faults.ensureDirectories paths) := by
  obtain ⟨base, hbase⟩ := he.exists_join
  have hback : Path.backward path ≠ [] := by
    obtain ⟨rest, -, hrest⟩ := Path.backward_join base he.isName
    rw [hbase, hrest]
    simp [he.isName.ne_empty]
  obtain ⟨above, habove⟩ := Path.exists_parent hback
  have hcs : Path.components above = cs := by
    rw [Path.components_parent habove, hc, List.dropLast_concat]
  rw [makeParents, habove]
  dsimp only
  by_cases hempty : above = ""
  · subst hempty
    exact Or.inl ⟨hcs.symm, rfl⟩
  · have hl := (Path.isTrimmed_parent habove).ladder le_rfl (hcs ▸ hup)
    rw [hcs] at hl
    refine Or.inr ⟨above, _, hcs, (Path.parent?_begins habove).1, hempty, hl,
      fun p hp => head_of_ancestors hp, ?_⟩
    rw [if_neg (by simpa using hempty)]
    rfl

section Parents

variable (he : Path.EndsIn path name) (hc : Path.components path = cs ++ [name]) (hup : ".." ∉ cs)

include he hc hup

/-- **Making the directories above a file.** If it succeeds, the components above the file lead to
a directory, and nothing is new but directories on the way. -/
theorem makeParents_ok (hd : d.IsSound) (ho : faults.makeParents path d = .ok () d') :
    ∃ q, d.Deepens d' cs q := by
  rcases faults.makeParents_eq he hc hup with ⟨rfl, heq⟩ | ⟨above, paths, -, -, -, hl, -, heq⟩
  · rw [heq] at ho
    cases ho
    obtain ⟨p, hp⟩ := leads_start hd (Or.inl rfl)
    exact ⟨p, .leads hp⟩
  · rw [heq, failingAt_eq_ok_iff] at ho
    exact ensureDirectories_ok hd hl ho

/-- Where that fails, a part of the components leads to a directory. -/
theorem makeParents_error (hd : d.IsSound) {f : Failure}
    (ho : faults.makeParents path d = .error f d') : d.DeepensPart d' cs := by
  rcases faults.makeParents_eq he hc hup with ⟨rfl, heq⟩ | ⟨above, paths, -, -, -, hl, -, heq⟩
  · rw [heq] at ho
    cases ho
  · rw [heq] at ho
    obtain ⟨e, -, ho⟩ := failingAt_eq_error_iff.mp ho
    exact ensureDirectories_error hd hl ho

/-- Where the components lead to a directory already, a device that does not fail has nothing to
do. -/
theorem makeParents_never (hd : d.IsSound) (hcheck : checkPath path = .ok ())
    (h : d.Leads cs q) : Faults.never.makeParents path d = .ok () d := by
  rcases Faults.never.makeParents_eq he hc hup with
    ⟨rfl, heq⟩ | ⟨above, paths, hcs, hbegin, hne, hl, hhead, heq⟩
  · rw [heq]
    rfl
  rw [heq, failingAt_eq_ok_iff]
  have hdir : d.isDirectory above = true :=
    isDirectory_iff.mpr ⟨checkPath_of_begins hbegin hne hcheck, q, hcs.symm ▸ h⟩
  cases paths with
  | nil => rfl
  | cons p paths =>
    obtain rfl := hhead p (by simp)
    have hexists := makeDirectory_of_isDirectory hd hl hdir
    rw [ensureDirectories]
    refine tryCatch_eq_ok_iff.mpr (Or.inr ⟨.exists, d, ?_, ?_⟩)
    · simp only [perform, Faults.never, Disk.apply, hexists]
    · simp [settle, hdir]

end Parents

end Faults

end ClientGen
