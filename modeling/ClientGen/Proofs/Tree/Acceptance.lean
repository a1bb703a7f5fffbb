import ClientGen.Proofs.Tree.Built

/-!
Accepted lists. A tree is built from a list of specs if and only if no spec has an issue and no
spec clashes, and before linking that tree is determined by the specs that register resources. So
two lists with the same specs are treated alike as soon as they agree on which spec comes first with
each directory and each file.
-/

namespace ClientGen.Tree

open Spec

variable {layout : Layout} {specs specs' : List Resource}

lemma clashes_eq_nil_iff : clashes specs = [] ↔ ∀ s ∈ specs, clash? specs s = none := by
  refine ⟨fun h s hs => clash?_eq_none_of_clashes h hs, fun h => ?_⟩
  refine List.filterMap_eq_nil_iff.mpr fun x hx => ?_
  have hmem : x.1 ∈ specs := (List.mem_zipIdx' hx).2 ▸ List.getElem_mem _
  rw [h x.1 hmem, Option.map_none]

lemma build_ok_iff : (∃ t, (build layout specs).result = .ok t) ↔
    (∀ s ∈ specs, s.IsClean) ∧ ∀ s ∈ specs, clash? specs s = none := by
  rw [← issues_eq_nil_iff, ← clashes_eq_nil_iff]
  by_cases hi : issues specs = []
  · have hc := (@tracks_register layout specs hi).2
    rw [← hc, List.map_eq_nil_iff]
    rcases hf : (register layout specs).issues with _ | ⟨i, more⟩
    · simp [build, hi, hf]
    · simp [build, hi, hf]
  · obtain ⟨i, more, hm⟩ := List.exists_cons_of_ne_nil hi
    simp [build, hm]

lemma build_dropped {t : Tree} (h : (build layout specs).result = .ok t) :
    t.dropped = lostReferences specs := by
  obtain ⟨t₀, links, m, rfl⟩ := build_isBuilt h
  exact m.dropped

/-- Nothing is wrong with the specs of a list, alone or together, and under strict checking no
reference is lost. -/
def IsAccepted (strict : Bool) (specs : List Resource) : Prop :=
  (∀ s ∈ specs, s.IsClean) ∧ (∀ s ∈ specs, clash? specs s = none) ∧
    (strict = true → lostReferences specs = [])

lemma requireResolved_eq_ok_iff {t t' : Tree} :
    requireResolved t = .ok t' ↔ t' = t ∧ t.dropped = [] := by
  rw [requireResolved]
  split
  · next h => simp [h, eq_comm]
  · next h => simp [h]

/-- A tree that is built in either way is one that is built leniently, and strictly only if no
reference is dropped. -/
lemma buildWith_eq_ok_iff {strict : Bool} {t : Tree} :
    (buildWith strict layout specs).result = .ok t ↔
      (build layout specs).result = .ok t ∧ (strict = true → t.dropped = []) := by
  cases strict with
  | false => simp [buildWith]
  | true =>
    simp only [buildWith, if_true, buildStrict]
    rcases (build layout specs).result with e | t'
    · simp [bind, Except.bind]
    · change requireResolved t' = .ok t ↔ _
      rw [requireResolved_eq_ok_iff]
      constructor
      · rintro ⟨rfl, hdropped⟩
        exact ⟨rfl, fun _ => hdropped⟩
      · rintro ⟨hsame, hdropped⟩
        obtain rfl := Except.ok.inj hsame
        exact ⟨rfl, hdropped trivial⟩

/-- **Acceptance.** Whether a tree is built depends on the specs and on how references are checked,
but not on the layout. -/
theorem buildWith_ok_iff {strict : Bool} :
    (∃ t, (buildWith strict layout specs).result = .ok t) ↔ IsAccepted strict specs := by
  simp only [buildWith_eq_ok_iff]
  constructor
  · rintro ⟨t, ht, hdropped⟩
    obtain ⟨hclean, hclash⟩ := build_ok_iff.mp ⟨t, ht⟩
    exact ⟨hclean, hclash, fun hs => (build_dropped ht).symm.trans (hdropped hs)⟩
  · rintro ⟨hclean, hclash, hlost⟩
    obtain ⟨t, ht⟩ := (@build_ok_iff layout specs).mpr ⟨hclean, hclash⟩
    exact ⟨t, ht, fun hs => (build_dropped ht).trans (hlost hs)⟩

lemma eq_group_of_sameDirectory (h : ∀ s ∈ specs, clash? specs s = none) {s s' : Resource}
    (hs : s ∈ specs) (hs' : s' ∈ specs) (hsame : sameDirectory s.identity s'.identity = true) :
    s.identity.group = s'.identity.group ∧ s.identity.version = s'.identity.version := by
  obtain ⟨o, ho, hid⟩ := registers_of_clash?_eq_none hs (h s hs)
  obtain ⟨o', ho', hid'⟩ := registers_of_clash?_eq_none hs' (h s' hs')
  have hv := hsame
  simp only [sameDirectory, Bool.and_eq_true, beq_iff_eq] at hv
  rw [← hid, ← hid'] at hsame ⊢
  exact ⟨ho.directory.eq_group ho'.directory hsame, by rw [hid, hid', hv.2]⟩

/-- Two lists have the same specs, and the same first one with each directory and each file. -/
structure SameFirsts (specs specs' : List Resource) : Prop where
  mem : ∀ s, s ∈ specs ↔ s ∈ specs'
  directory : ∀ id, firstInDirectory? specs id = firstInDirectory? specs' id
  file : ∀ id, firstInFile? specs id = firstInFile? specs' id

namespace SameFirsts

variable (w : SameFirsts specs specs')

include w

lemma clash?_eq (s : Resource) : clash? specs s = clash? specs' s := by
  rw [clash?, clash?, w.directory, w.file]

lemma registers_iff {s : Resource} : Registers specs s ↔ Registers specs' s := by
  have hdir : OwnsDirectory specs s.identity ↔ OwnsDirectory specs' s.identity := by
    rw [OwnsDirectory, OwnsDirectory, w.directory]
  have hfile : firstInFile? specs s.identity = some s ↔
      firstInFile? specs' s.identity = some s := by
    rw [w.file]
  exact ⟨fun h => ⟨hdir.mp h.directory, h.stem_ne, hfile.mp h.file⟩,
    fun h => ⟨hdir.mpr h.directory, h.stem_ne, hfile.mpr h.file⟩⟩

lemma build_ok (h : ∃ t, (build layout specs).result = .ok t) :
    ∃ t, (build layout specs').result = .ok t := by
  obtain ⟨hclean, hclash⟩ := build_ok_iff.mp h
  refine build_ok_iff.mpr ⟨fun s hs => hclean s ((w.mem s).mpr hs), fun s hs => ?_⟩
  rw [← w.clash?_eq]
  exact hclash s ((w.mem s).mpr hs)

end SameFirsts

/-! ### The tree before linking -/

lemma Branch.IsFrame.eq {b c : Branch} (hb : b.IsFrame layout) (hc : c.IsFrame layout)
    (hg : b.group = c.group) (hv : b.version = c.version) (he : b.entries = c.entries) : b = c := by
  have hframe : { b with entries := [] } = { c with entries := [] } := by
    rw [hb, hc, hg, hv]
  cases b
  cases c
  simp only [Branch.mk.injEq] at hframe ⊢
  simp only at he
  simp [hframe, he]

lemma Branch.IsFrame.entry_eq {b c : Branch} (hb : b.IsFrame layout) (hc : c.IsFrame layout)
    (hg : b.group = c.group) (hv : b.version = c.version) (s : Resource) :
    Entry.of layout b s = Entry.of layout c s := by
  have hframe : { b with entries := [] } = { c with entries := [] } := by
    rw [hb, hc, hg, hv]
  change Entry.of layout { b with entries := [] } s = Entry.of layout { c with entries := [] } s
  rw [hframe]

variable {t t' : Tree}

lemma IsUnlinked.mem_branches (u : IsUnlinked layout specs t) (u' : IsUnlinked layout specs' t')
    (hclashes : clashes specs = [])
    (hreg : ∀ s, Registers specs s ↔ Registers specs' s) {b : Branch} (hb : b ∈ t.branches) :
    b ∈ t'.branches := by
  obtain ⟨o, ho, hg, hv, -⟩ := u.owner b hb
  obtain ⟨r, hr, hid⟩ := registers_of_clashes hclashes ho
  obtain ⟨c, hc, hcg, hcv⟩ := u'.branch r ((hreg r).mp hr)
  rw [hid, hg] at hcg
  rw [hid, hv] at hcv
  have hframe := u.frame b hb
  have hframe' := u'.frame c hc
  have hentries : b.entries = c.entries := by
    refine (u.keyed.entries_sorted b hb).eq_of_mem_iff (u'.keyed.entries_sorted c hc) fun e => ?_
    rw [u.entry b hb, u'.entry c hc]
    refine exists_congr fun s => and_congr (hreg s) ?_
    rw [hcg, hcv, hframe.entry_eq hframe' hcg.symm hcv.symm]
  rw [hframe.eq hframe' hcg.symm hcv.symm hentries]
  exact hc

lemma IsUnlinked.eq_of_registers (u : IsUnlinked layout specs t)
    (u' : IsUnlinked layout specs' t') (hclashes : clashes specs = [])
    (hclashes' : clashes specs' = []) (hreg : ∀ s, Registers specs s ↔ Registers specs' s) :
    t' = { t with dropped := t'.dropped } := by
  have hbranches : t.branches = t'.branches := u.keyed.sorted.eq_of_mem_iff u'.keyed.sorted
    fun _ => ⟨u.mem_branches u' hclashes hreg,
      u'.mem_branches u hclashes' fun s => (hreg s).symm⟩
  have hroot := u.root.trans u'.root.symm
  cases t
  cases t'
  simp only [Tree.mk.injEq] at hroot ⊢
  simp only at hbranches
  simp [hroot, hbranches]

end ClientGen.Tree
