import ClientGen.Proofs.Disk.Writing

/-!
What grows on a disk when files are written below a path that leads nowhere yet. A directory comes
to be at the end of its components; above it there may be other new directories, and below it there
are the files written so far and the directories on the way to them. No link is below it, so every
path below it has one place.
-/

namespace ClientGen.Disk

variable {d₀ d d' : Disk} {rs dirs : List String} {rels : List (List String)} {P q p : Place}
  {pages : List (List String × ByteArray)} {path name : String} {content : ByteArray}

/-- A directory has come to be at the end of the components `rs`, with `pages` below it. A page is
given by its names below that directory, and the directories there are on the way to `rels`. -/
structure Grows (rs : List String) (rels : List (List String)) (d₀ : Disk) (P : Place)
    (pages : List (List String × ByteArray)) (d : Disk) : Prop where
  within : d₀.IsWithin d
  sound : d.IsSound
  leads : d.Leads rs P
  free : d₀.get? P = none
  outside : ∀ p, ¬ P <:+ p → d.get? p = d₀.get? p ∨
    p <:+ P ∧ d₀.get? p = none ∧ d.get? p = some .directory
  inside : ∀ ms node, d.get? (ms ++ P) = some node →
    (node = .directory ∧ ∃ rel ∈ rels, ms.reverse <+: rel.dropLast) ∨
      ∃ page ∈ pages, ms = page.1.reverse ∧ node = .file page.2
  pages : ∀ page ∈ pages, d.get? (page.1.reverse ++ P) = some (.file page.2)

/-- A path ends in a name, below directories that lie below the components `rs`. -/
structure LiesAt (rs : List String) (path : String) (dirs : List String) (name : String) :
    Prop where
  endsIn : Path.EndsIn path name
  components : Path.components path = rs ++ dirs ++ [name]
  isName : ∀ n ∈ dirs, Path.IsName n

lemma LiesAt.temporary (h : LiesAt rs path dirs name) :
    LiesAt rs (Naming.temporaryPath path) dirs (Path.temporaryName name) :=
  ⟨h.endsIn.temporary, Path.components_temporaryPath h.endsIn h.components, h.isName⟩

lemma LiesAt.below {root : String} (h : LiesAt (Path.components root) path dirs name) :
    Path.below root path = dirs ++ [name] :=
  Path.below_eq (by rw [h.components, List.append_assoc])

lemma LiesAt.no_up (h : LiesAt rs path dirs name) (hup : ".." ∉ rs) : ".." ∉ rs ++ dirs := by
  rw [List.mem_append]
  rintro (hmem | hmem)
  · exact hup hmem
  · exact (h.isName _ hmem).ne_dots rfl

lemma Deepens.grows (hd : d₀.IsSound) (hno : ∀ p, ¬ d₀.Leads rs p) (hrels : rels ≠ [])
    (h : d₀.Deepens d rs P) : Grows rs rels d₀ P [] d := by
  have hsound := h.sound hd
  have hwithin := h.within
  have hled := h.isLed
  have hcases := h.get?_cases
  cases h with
  | leads h => exact absurd h (hno P)
  | @step d' cs q n h hn hs hp =>
    refine ⟨hwithin, hsound, hled, ?_, fun p _ => hcases p, fun ms node hnode => Or.inl ?_,
      by simp⟩
    · by_contra hsome
      obtain ⟨node, hnode⟩ := Option.ne_none_iff_exists'.mp hsome
      rw [h.within.get? hnode] at hp
      cases hp
    · obtain ⟨rel, rels, rfl⟩ := List.exists_cons_of_ne_nil hrels
      rcases ms with _ | ⟨m, ms⟩
      · rw [List.nil_append, get?_insert, if_pos rfl] at hnode
        exact ⟨(Option.some.inj hnode).symm, rel, by simp, List.nil_prefix⟩
      · have hne : m :: ms ++ n :: q ≠ n :: q := fun heq => by
          have hlength := congrArg List.length heq
          simp at hlength
          omega
        rw [get?_insert, if_neg hne, (h.sound hd).get?_below _ hp] at hnode
        cases hnode

section Grows

variable (h : Grows rs rels d₀ P pages d)

include h

lemma Grows.no_link (ms : List String) (target : String) :
    d.get? (ms ++ P) ≠ some (.link target) := by
  intro hlink
  rcases h.inside ms _ hlink with ⟨hnode, -⟩ | ⟨page, -, -, hnode⟩ <;> cases hnode

lemma Grows.place (hdirs : ∀ n ∈ dirs, Path.IsName n) (hq : d.Leads (rs ++ dirs) q) :
    q = dirs.reverse ++ P :=
  Leads.of_append_plain h.sound hdirs h.no_link h.leads hq

lemma Grows.get?_none {rel : List String} (hpages : ∀ page ∈ pages, page.1 ≠ rel)
    (hways : ∀ other ∈ rels, ¬ rel <+: other.dropLast) : d.get? (rel.reverse ++ P) = none := by
  by_contra hsome
  obtain ⟨node, hnode⟩ := Option.ne_none_iff_exists'.mp hsome
  rcases h.inside _ _ hnode with ⟨-, other, hother, hbegin⟩ | ⟨page, hpage, heq, -⟩
  · rw [List.reverse_reverse] at hbegin
    exact hways other hother hbegin
  · exact hpages page hpage (List.reverse_inj.mp heq).symm

lemma Grows.not_contains (hl : LiesAt rs path dirs name)
    (hp : d.get? ((dirs ++ [name]).reverse ++ P) = none) : d.contains path = false := by
  by_contra hcontains
  obtain ⟨q, hq, hsome⟩ :=
    reaches_of_contains hl.endsIn hl.components h.sound (by simpa using hcontains)
  obtain rfl := h.place hl.isName hq.leads
  rw [List.reverse_concat, List.cons_append] at hp
  rw [hp] at hsome
  cases hsome

lemma Grows.same (hs : d.IsSame d') : Grows rs rels d₀ P pages d' where
  within := h.within.trans hs.within
  sound := hs.sound h.sound
  leads := h.leads.kept hs.within.keepsWays
  free := h.free
  outside p hp := by
    rw [hs.get?]
    exact h.outside p hp
  inside ms node hnode := by
    rw [hs.get?] at hnode
    exact h.inside ms node hnode
  pages page hpage := by
    rw [hs.get?]
    exact h.pages page hpage

lemma Grows.makeDirectory (hdirs : d.get? (dirs.reverse ++ P) = some .directory)
    (hp : d.get? (name :: (dirs.reverse ++ P)) = none)
    (hrel : ∃ rel ∈ rels, dirs ++ [name] <+: rel.dropLast) :
    Grows rs rels d₀ P pages (d.insert (name :: (dirs.reverse ++ P)) .directory) := by
  have hwithin : d.IsWithin (d.insert (name :: (dirs.reverse ++ P)) .directory) := .insert hp
  refine ⟨h.within.trans hwithin, h.sound.insert hdirs (Or.inr rfl),
    h.leads.kept hwithin.keepsWays, h.free, fun p hout => ?_, fun ms node hnode => ?_,
    fun page hpage => hwithin.get? (h.pages page hpage)⟩
  · rw [get?_insert, if_neg]
    · exact h.outside p hout
    · rintro rfl
      exact hout ((List.suffix_append _ _).trans (List.suffix_cons _ _))
  · rw [get?_insert] at hnode
    split at hnode
    · next heq =>
      rw [← List.cons_append] at heq
      obtain ⟨rel, hrel, hbegin⟩ := hrel
      refine Or.inl ⟨(Option.some.inj hnode).symm, rel, hrel, ?_⟩
      rw [List.append_cancel_right heq, List.reverse_cons, List.reverse_reverse]
      exact hbegin
    · exact h.inside ms node hnode

lemma Grows.puts (hdirs : d.get? (dirs.reverse ++ P) = some .directory)
    (hp : d.get? (name :: (dirs.reverse ++ P)) = none)
    (hputs : d.Puts d' (name :: (dirs.reverse ++ P)) content) :
    Grows rs rels d₀ P (pages ++ [(dirs ++ [name], content)]) d' := by
  have hwithin := hputs.within hp
  have hplace : (dirs ++ [name]).reverse ++ P = name :: (dirs.reverse ++ P) := by
    rw [List.reverse_concat, List.cons_append]
  refine ⟨h.within.trans hwithin, hputs.sound h.sound hdirs (by simp [hp]),
    h.leads.kept hwithin.keepsWays, h.free, fun p hout => ?_, fun ms node hnode => ?_,
    fun page hpage => ?_⟩
  · rw [hputs.other]
    · exact h.outside p hout
    · rintro rfl
      exact hout ((List.suffix_append _ _).trans (List.suffix_cons _ _))
  · rw [hputs.get?] at hnode
    split at hnode
    · next heq =>
      rw [← hplace] at heq
      exact Or.inr ⟨_, List.mem_append_right _ (List.mem_singleton_self _),
        List.append_cancel_right heq, (Option.some.inj hnode).symm⟩
    · rcases h.inside ms node hnode with hdirectory | ⟨page, hpage, hms, hfile⟩
      · exact Or.inl hdirectory
      · exact Or.inr ⟨page, List.mem_append_left _ hpage, hms, hfile⟩
  · rcases List.mem_append.mp hpage with hpage | hpage
    · exact hwithin.get? (h.pages page hpage)
    · rw [List.mem_singleton.mp hpage, hplace]
      exact hputs.file

lemma Grows.deepen (hdirs : ∀ n ∈ dirs, Path.IsName n)
    (hrel : ∃ rel ∈ rels, dirs <+: rel.dropLast) (hq : d.Deepens d' (rs ++ dirs) q) :
    Grows rs rels d₀ P pages d' := by
  obtain ⟨cs, hcs⟩ : ∃ cs, rs ++ dirs = cs := ⟨_, rfl⟩
  rw [hcs] at hq
  induction hq generalizing dirs with
  | leads => exact h
  | @step d₁ cs q n hq hn hs hp ih =>
    rcases List.eq_nil_or_concat dirs with rfl | ⟨ds, m, rfl⟩
    · -- the components lead to the directory already
      rw [List.append_nil] at hcs
      have heq := (Deepens.step hq hn hs hp).eq_of_leads h.sound (hcs ▸ h.leads)
      rw [heq]
      exact h
    · rw [List.concat_eq_append, ← List.append_assoc] at hcs
      obtain ⟨rfl, hlast⟩ := List.append_inj' hcs rfl
      obtain ⟨rfl, -⟩ := List.cons.inj hlast
      rw [List.concat_eq_append] at hrel hdirs
      obtain ⟨rel, hmem, hbegin⟩ := hrel
      have hds : ∀ n ∈ ds, Path.IsName n := fun n hn => hdirs n (by simp [hn])
      have hgrown := ih hds ⟨rel, hmem, (List.prefix_append _ _).trans hbegin⟩ rfl
      obtain rfl := hgrown.place hds hq.isLed
      exact hgrown.makeDirectory hq.isLed.directory hp ⟨rel, hmem, hbegin⟩

end Grows

/-- A disk in the course of a run: nothing has been made yet, or something has grown. -/
inductive Begun (rs : List String) (rels : List (List String)) (d₀ : Disk) :
    List (List String × ByteArray) → Disk → Prop
  | bare (h : ∀ p, ¬ d₀.Leads rs p) : Begun rs rels d₀ [] d₀
  | grown {pages : List (List String × ByteArray)} {d : Disk} (P : Place)
      (h : Grows rs rels d₀ P pages d) : Begun rs rels d₀ pages d

/-- A disk that a run has left: the components lead nowhere, or something has grown. -/
def Left (rs : List String) (rels : List (List String)) (d₀ : Disk)
    (pages : List (List String × ByteArray)) (d : Disk) : Prop :=
  (∀ p, ¬ d.Leads rs p) ∨ ∃ P, Grows rs rels d₀ P pages d

lemma Left.not_contains (hd : d.IsSound) (h : Left rs rels d₀ pages d)
    (hl : LiesAt rs path dirs name) (hpages : ∀ page ∈ pages, page.1 ≠ dirs ++ [name])
    (hways : ∀ other ∈ rels, ¬ dirs ++ [name] <+: other.dropLast) : d.contains path = false := by
  rcases h with h | ⟨P, h⟩
  · by_contra hcontains
    obtain ⟨q, hq, -⟩ := reaches_of_contains hl.endsIn hl.components hd (by simpa using hcontains)
    obtain ⟨p, hp⟩ := hq.leads.of_append hd hl.isName
    exact h p hp
  · exact h.not_contains hl (h.get?_none hpages hways)

/-- No place is on the way to another one, and a file beside one is no place and on no way. -/
structure AreApart (rels : List (List String)) : Prop where
  way : ∀ rel ∈ rels, ∀ other ∈ rels, ¬ rel <+: other.dropLast
  temporary : ∀ dirs name, dirs ++ [name] ∈ rels → dirs ++ [Path.temporaryName name] ∉ rels
  temporary_way : ∀ dirs name, dirs ++ [name] ∈ rels → ∀ other ∈ rels,
    ¬ dirs ++ [Path.temporaryName name] <+: other.dropLast

lemma exists_way (hmem : dirs ++ [name] ∈ rels) : ∃ rel ∈ rels, dirs <+: rel.dropLast :=
  ⟨_, hmem, by simp⟩

section Begun

variable (hd : d₀.IsSound) (h : Begun rs rels d₀ pages d)

include hd h

lemma Begun.sound : d.IsSound := by
  cases h with
  | bare => exact hd
  | grown _ h => exact h.sound

omit hd in
lemma Begun.within : d₀.IsWithin d := by
  cases h with
  | bare => exact .refl d₀
  | grown _ h => exact h.within

omit hd in
lemma Begun.left : Left rs rels d₀ pages d := by
  cases h with
  | bare h => exact Or.inl h
  | grown P h => exact Or.inr ⟨P, h⟩

lemma Begun.deepen (hdirs : ∀ n ∈ dirs, Path.IsName n)
    (hrel : ∃ rel ∈ rels, dirs <+: rel.dropLast) (hq : d.Deepens d' (rs ++ dirs) q) :
    ∃ P, Grows rs rels d₀ P pages d' ∧ q = dirs.reverse ++ P := by
  suffices hgrown : ∃ P, Grows rs rels d₀ P pages d' by
    obtain ⟨P, hP⟩ := hgrown
    exact ⟨P, hP, hP.place hdirs hq.isLed⟩
  cases h with
  | bare h =>
    have hne : rels ≠ [] := List.ne_nil_of_mem hrel.choose_spec.1
    obtain ⟨d₁, P, h₁, h₂⟩ := hq.of_append hd hdirs
    exact ⟨P, (h₁.grows hd h hne).deepen hdirs hrel h₂⟩
  | grown P h => exact ⟨P, h.deepen hdirs hrel hq⟩

/-- When a part of them has been made, something has grown or the components still lead nowhere. -/
lemma Begun.deepenPart (hdirs : ∀ n ∈ dirs, Path.IsName n)
    (hrel : ∃ rel ∈ rels, dirs <+: rel.dropLast) (hq : d.DeepensPart d' (rs ++ dirs)) :
    Left rs rels d₀ pages d' := by
  obtain ⟨base, rest, q, heq, hrest, hq⟩ := hq
  obtain ⟨rel, hmem, hbegin⟩ := hrel
  have hgrown : ∀ ds, ds <+: dirs → base = rs ++ ds → ∃ P, Grows rs rels d₀ P pages d' := by
    rintro ds hds rfl
    obtain ⟨P, hP, -⟩ := h.deepen hd (fun n hn => hdirs n (hds.subset hn))
      ⟨rel, hmem, hds.trans hbegin⟩ hq
    exact ⟨P, hP⟩
  rcases List.append_eq_append_iff.mp heq with ⟨more, rfl, rfl⟩ | ⟨ds, hbase, rfl⟩
  · by_cases hne : more = []
    · subst hne
      exact Or.inr (hgrown [] List.nil_prefix (by simp))
    · have hmore : ∀ n ∈ more, Path.IsName n := fun n hn => hrest n (by simp [hn])
      cases h with
      | bare h => exact Or.inl (hq.not_leads hd hmore hne h)
      | grown P h =>
        obtain ⟨p, hp⟩ := h.leads.of_append h.sound hmore
        obtain rfl := hq.eq_of_leads h.sound hp
        exact Or.inr ⟨P, h⟩
  · exact Or.inr (hgrown ds (List.prefix_append _ _) hbase)

variable (hl : LiesAt rs path dirs name) (ha : AreApart rels) (hmem : dirs ++ [name] ∈ rels)
  (hpages : ∀ page ∈ pages, page.1 ∈ rels ∧ page.1 ≠ dirs ++ [name])

include hl ha hmem hpages

lemma Begun.room {d₁ : Disk} (hq : d.Deepens d₁ (rs ++ dirs) q) :
    ∃ P, Grows rs rels d₀ P pages d₁ ∧ q = dirs.reverse ++ P ∧ d₁.get? (name :: q) = none ∧
      d₁.get? (Path.temporaryName name :: q) = none := by
  obtain ⟨P, hP, rfl⟩ := h.deepen hd hl.isName (exists_way hmem) hq
  have hnone := hP.get?_none (fun page hpage => (hpages page hpage).2) (ha.way _ hmem)
  have htemporary : d₁.get? ((dirs ++ [Path.temporaryName name]).reverse ++ P) = none :=
    hP.get?_none (fun page hpage he => ha.temporary _ _ hmem (he ▸ (hpages page hpage).1))
      (ha.temporary_way _ _ hmem)
  rw [List.reverse_concat, List.cons_append] at hnone htemporary
  exact ⟨P, hP, rfl, hnone, htemporary⟩

variable {faults : Faults} {mode : WriteMode} (hup : ".." ∉ rs)

include hup

/-- **A file is written.** It is there afterwards, and nothing else has grown but directories. -/
theorem Begun.write_ok (ho : faults.writeFile mode path content d = .ok () d') :
    ∃ P, Grows rs rels d₀ P (pages ++ [(dirs ++ [name], content)]) d' ∧ d.IsWithin d' ∧
      d'.Reaches path (rs ++ dirs) name (dirs.reverse ++ P) := by
  obtain ⟨d₁, q, hq, hput⟩ :=
    Faults.writeFile_ok hl.endsIn hl.components (h.sound hd) (hl.no_up hup) ho
  obtain ⟨P, hP, rfl, hnone, htemporary⟩ := h.room hd hl ha hmem hpages hq
  obtain ⟨hr, hputs⟩ := hput hnone htemporary
  have hwithin := hputs.within hnone
  exact ⟨P, hP.puts hq.isLed.directory hnone hputs, hq.within.trans hwithin,
    hr.kept hwithin.keepsWays⟩

/-- **A file cannot be written.** Then nothing else has grown but directories, a beginning of the
file, or a file beside it that could not be taken away. -/
theorem Begun.write_error {f : Failure}
    (ho : faults.writeFile mode path content d = .error f d') : d.IsWithin d' ∧ d'.IsSound ∧
      ∃ more, Left rs rels d₀ (pages ++ more) d' ∧ ∀ page ∈ more, page.1 = dirs ++ [name] ∨
        page.1 = dirs ++ [Path.temporaryName name] ∧
          ∃ e, faults.error? (.remove (Naming.temporaryPath path)) = some e := by
  have hsound := h.sound hd
  rcases Faults.writeFile_error hl.endsIn hl.components hsound (hl.no_up hup) ho with
    hpart | ⟨d₁, q, hq, hleaves⟩
  · obtain ⟨_, _, _, -, -, hq⟩ := id hpart
    refine ⟨hq.within, hq.sound hsound, [], ?_, by simp⟩
    rw [List.append_nil]
    exact h.deepenPart hd hl.isName (exists_way hmem) hpart
  · obtain ⟨P, hP, rfl, hnone, htemporary⟩ := h.room hd hl ha hmem hpages hq
    have hdirs := hq.isLed.directory
    cases hleaves hnone htemporary with
    | nothing hsame =>
      refine ⟨hq.within.trans hsame.within, hsame.sound hP.sound, [], ?_, by simp⟩
      rw [List.append_nil]
      exact Or.inr ⟨P, hP.same hsame⟩
    | beginning bytes hputs =>
      have hgrown := hP.puts hdirs hnone hputs
      exact ⟨hq.within.trans (hputs.within hnone), hgrown.sound, _, Or.inr ⟨P, hgrown⟩, by simp⟩
    | beside bytes hputs hfault =>
      have hgrown := hP.puts hdirs htemporary hputs
      exact ⟨hq.within.trans (hputs.within htemporary), hgrown.sound, _, Or.inr ⟨P, hgrown⟩,
        by simp [hfault]⟩

end Begun

end ClientGen.Disk
