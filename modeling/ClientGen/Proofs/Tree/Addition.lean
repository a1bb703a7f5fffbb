import ClientGen.Proofs.Tree.Description

/-!
One spec more, of a new resource. The tree of the specs gains an entry, and a branch if the
group-version of the resource is new as well. Links come to where the new resource is one end: to
the resources that name it, whose references to it were lost before, and to those that it names. All
the rest is as it was.
-/

namespace ClientGen.Tree

open Spec

variable {layout : Layout} {specs : List Resource} {s o : Resource} {id : Identity}
  {gv : String × String}

lemma exists_concat_iff {p : Resource → Prop} :
    (∃ o ∈ specs ++ [s], p o) ↔ (∃ o ∈ specs, p o) ∨ p s := by
  simp only [List.mem_append, List.mem_singleton, or_and_right, exists_or, exists_eq_left]

/-! ### First specs -/

lemma firstOf?_concat (h : s.identity ≠ id) : firstOf? (specs ++ [s]) id = firstOf? specs id := by
  simp [firstOf?, h]

lemma firstsOf_concat {ids : List Identity} (h : s.identity ∉ ids) :
    firstsOf (specs ++ [s]) ids = firstsOf specs ids :=
  List.filterMap_congr fun _ hid => firstOf?_concat fun he => h (he ▸ hid)

/-! ### Resources, group-versions and kinds -/

/-- The group-version of one spec more, if it is new. -/
def newGroupVersions (specs : List Resource) (s : Resource) : List (String × String) :=
  if pairOf s.identity ∈ groupVersions specs then [] else [pairOf s.identity]

lemma mem_groupVersions_concat :
    gv ∈ groupVersions (specs ++ [s]) ↔ gv ∈ groupVersions specs ∨ pairOf s.identity = gv := by
  have hspecs : ∀ {specs}, gv ∈ groupVersions specs ↔ ∃ o ∈ specs, pairOf o.identity = gv := by
    simp [mem_groupVersions, mem_identities]
  rw [hspecs, hspecs, exists_concat_iff]

section New

variable (hnew : ∀ o ∈ specs, o.identity ≠ s.identity)

include hnew

lemma identities_concat : identities (specs ++ [s]) = identities specs ++ [s.identity] := by
  have hnot : s.identity ∉ specs.map Resource.identity := by simpa using hnew
  rw [identities, List.map_append, List.map_singleton, eraseDups_concat, if_neg hnot, identities]

lemma groupVersions_concat (h : pairOf s.identity ∈ groupVersions specs) :
    groupVersions (specs ++ [s]) = groupVersions specs := by
  have hknown : pairOf s.identity ∈ (identities specs).map pairOf := by
    rw [mem_groupVersions] at h
    exact List.mem_map.mpr h
  rw [groupVersions, identities_concat hnew, List.map_append, List.map_singleton, eraseDups_concat,
    if_pos hknown, groupVersions]

lemma kinds_concat (h : pairOf s.identity ≠ gv) : kinds (specs ++ [s]) gv = kinds specs gv := by
  have hnone : [s.identity].filter (fun id => decide (pairOf id = gv)) = [] := by simp [h]
  rw [kinds, identities_concat hnew, List.filter_append, hnone, List.append_nil, kinds]

lemma resourcesOf_concat (h : pairOf s.identity ≠ gv) :
    resourcesOf (specs ++ [s]) gv = resourcesOf specs gv := by
  rw [resourcesOf, kinds_concat hnew h, resourcesOf]

lemma firstOf?_concat_self : firstOf? (specs ++ [s]) s.identity = some s := by
  have hnone : specs.find? (fun o => decide (o.identity = s.identity)) = none :=
    List.find?_eq_none.mpr fun o ho => by simpa using hnew o ho
  simp [firstOf?, hnone]

lemma firstOf?_concat_iff : firstOf? (specs ++ [s]) o.identity = some o ↔
    firstOf? specs o.identity = some o ∨ o = s := by
  by_cases h : s.identity = o.identity
  · have hnone : firstOf? specs o.identity ≠ some o := by
      intro ho
      exact hnew o (firstOf?_eq_some ho).1 h.symm
    rw [← h, firstOf?_concat_self hnew, Option.some.injEq, h]
    exact ⟨fun he => Or.inr he.symm, fun hor => (hor.resolve_left hnone).symm⟩
  · rw [firstOf?_concat h]
    refine ⟨Or.inl, fun hor => hor.resolve_right ?_⟩
    rintro rfl
    exact h rfl

lemma groupVersions_concat_perm :
    (groupVersions (specs ++ [s])).Perm (groupVersions specs ++ newGroupVersions specs s) := by
  rw [newGroupVersions]
  split
  · next h => rw [groupVersions_concat hnew h, List.append_nil]
  · next h =>
    have hnodup : (groupVersions specs ++ [pairOf s.identity]).Nodup := by
      rw [← List.concat_eq_append]
      exact (nodup_groupVersions specs).concat h
    refine (List.perm_ext_iff_of_nodup (nodup_groupVersions _) hnodup).mpr fun gv => ?_
    rw [mem_groupVersions_concat, List.mem_append, List.mem_singleton, eq_comm]

end New

/-! ### Links -/

lemma filter_declaredPairs_concat {q : Identity × Identity → Bool}
    (howner : ∀ p ∈ pairsOf s, q p = false)
    (hchild : ∀ p ∈ specs.flatMap pairsOf, q p = true → p.2 ≠ s.identity) :
    (declaredPairs (specs ++ [s])).filter q = (declaredPairs specs).filter q := by
  have hnone : (pairsOf s).filter (fun p => q p && isKnown (specs ++ [s]) p.2) = [] :=
    List.filter_eq_nil_iff.mpr fun p hp => by simp [howner p hp]
  rw [filter_declaredPairs, filter_declaredPairs, List.flatMap_append, List.flatMap_singleton,
    List.filter_append, hnone, List.append_nil]
  refine congrArg _ (List.filter_congr fun p hp => ?_)
  rcases hq : q p with _ | _
  · rfl
  · have hne := hchild p hp hq
    simp [isKnown, hne.symm]

lemma ownedIn_concat (hid : s.identity ≠ id)
    (h : ∀ o ∈ specs, o.identity = id → ¬ Owns o s.identity) :
    ownedIn (specs ++ [s]) id = ownedIn specs id := by
  rw [ownedIn, filter_declaredPairs_concat, ownedIn]
  · intro p hp
    simpa [(mem_pairsOf.mp hp).1] using hid
  · intro p hp hq hchild
    obtain ⟨o, ho, hp⟩ := List.mem_flatMap.mp hp
    obtain ⟨howner, howns⟩ := mem_pairsOf.mp hp
    rw [hchild] at howns
    exact h o ho (howner.symm.trans (of_decide_eq_true hq)) howns

lemma ownersIn_concat (hid : s.identity ≠ id) (h : ¬ Owns s id) :
    ownersIn (specs ++ [s]) id = ownersIn specs id := by
  rw [ownersIn, filter_declaredPairs_concat, ownersIn]
  · intro p hp
    refine decide_eq_false fun hchild => h ?_
    rw [← hchild]
    exact (mem_pairsOf.mp hp).2
  · intro p _ hq hchild
    exact hid (hchild.symm.trans (of_decide_eq_true hq))

section Linked

variable (hnew : ∀ o ∈ specs, o.identity ≠ s.identity)

include hnew

lemma linkedOf_client_concat (hid : s.identity ≠ o.identity)
    (h : ∀ a ∈ specs, a.identity = o.identity → ¬ Owns a s.identity) :
    (linkedOf layout (specs ++ [s]) o).client = (linkedOf layout specs o).client := by
  have hnot : s.identity ∉ ownedIn specs o.identity := fun hmem => by
    obtain ⟨c, hc, hcs⟩ := (mem_ownedIn.mp hmem).2
    exact hnew c hc hcs
  rw [linkedOf_client, linkedOf_client, ownedIn_concat hid h, firstsOf_concat hnot]

lemma linkedOf_reference?_concat (hid : s.identity ≠ o.identity) (h : ¬ Owns s o.identity) :
    (linkedOf layout (specs ++ [s]) o).reference? = (linkedOf layout specs o).reference? := by
  have hnot : s.identity ∉ ownersIn specs o.identity := fun hmem => by
    obtain ⟨⟨a, ha, has, -⟩, -⟩ := mem_ownersIn.mp hmem
    exact hnew a ha has
  rw [linkedOf_reference?, linkedOf_reference?, ownersIn_concat hid h, firstsOf_concat hnot]

end Linked

end ClientGen.Tree
