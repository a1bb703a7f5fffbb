import ClientGen.Proofs.Tree.Built

/-!
Declared pairs of two lists that differ in the order of two neighbours. Seen from an owner they are
the same. Seen from a child they are the same unless both neighbours are the first ones to name it;
then their two pairs stand side by side, and trade places.
-/

namespace ClientGen.Tree

open Spec

/-! ### Lists without repeats -/

section Distinct

variable {α : Type} [BEq α] [LawfulBEq α]

lemma filter_eraseDups (p : α → Bool) (as : List α) :
    as.eraseDups.filter p = (as.filter p).eraseDups := by
  induction as using List.reverseRecOn with
  | nil => simp
  | append_singleton as a ih =>
    by_cases hp : p a = true
    · have hone : [a].filter p = [a] := List.filter_cons_of_pos hp
      rw [List.filter_append, hone, eraseDups_concat, eraseDups_concat]
      by_cases h : a ∈ as
      · rw [if_pos h, if_pos (List.mem_filter.mpr ⟨h, hp⟩), ih]
      · rw [if_neg h, if_neg fun hf => h (List.mem_filter.mp hf).1, List.filter_append, ih, hone]
    · have hnone : [a].filter p = [] := List.filter_cons_of_neg hp
      rw [List.filter_append, hnone, List.append_nil, eraseDups_concat]
      split
      · exact ih
      · rw [List.filter_append, hnone, List.append_nil, ih]

lemma eraseDups_append_known {as bs : List α} (h : ∀ b ∈ bs, b ∈ as) (cs : List α) :
    (as ++ (bs ++ cs)).eraseDups = (as ++ cs).eraseDups := by
  have hnone : bs.filter (fun b => !as.contains b) = [] :=
    List.filter_eq_nil_iff.mpr fun b hb => by simp [h b hb]
  have hremove : (bs ++ cs).removeAll as = cs.removeAll as := by
    simp only [List.removeAll, List.filter_append]
    exact (congrArg (· ++ _) hnone).trans (List.nil_append _)
  rw [List.eraseDups_append, List.eraseDups_append, hremove]

lemma eraseDups_append_copies {as bs : List α} {x : α} (h : ∀ b ∈ bs, b = x) (hx : x ∈ bs)
    (cs : List α) : (as ++ (bs ++ cs)).eraseDups = (as ++ x :: cs).eraseDups := by
  obtain ⟨b, rest, rfl⟩ := List.exists_cons_of_ne_nil (List.ne_nil_of_mem hx)
  obtain rfl := h b (by simp)
  have hrest : ∀ c ∈ rest, c ∈ as ++ [b] := fun c hc => by simp [h c (by simp [hc])]
  calc (as ++ (b :: rest ++ cs)).eraseDups
      = (as ++ [b] ++ (rest ++ cs)).eraseDups := by simp
    _ = (as ++ [b] ++ cs).eraseDups := eraseDups_append_known hrest cs
    _ = (as ++ b :: cs).eraseDups := by simp

lemma eraseDups_flatMap_copies {f : α → List α} {as : List α}
    (hf : ∀ a, a ∈ f a ∧ ∀ b ∈ f a, b = a) (h : as.Nodup) : (as.flatMap f).eraseDups = as := by
  induction as using List.reverseRecOn with
  | nil => rfl
  | append_singleton as a ih =>
    obtain ⟨has, -, hdisjoint⟩ := List.nodup_append.mp h
    have hnew : a ∉ as.flatMap f := by
      intro ha
      obtain ⟨b, hb, hab⟩ := List.mem_flatMap.mp ha
      exact hdisjoint b hb a (by simp) ((hf b).2 a hab).symm
    have hcopies : (as.flatMap f ++ (f a ++ [])).eraseDups = (as.flatMap f ++ [a]).eraseDups :=
      eraseDups_append_copies (hf a).2 (hf a).1 []
    rw [List.append_nil] at hcopies
    rw [List.flatMap_append, List.flatMap_singleton, hcopies, eraseDups_concat, if_neg hnew, ih has]

lemma eraseDups_append_two {as bs bs' : List α} {x y : α} (h : ∀ b ∈ bs, b = x) (hx : x ∈ bs)
    (h' : ∀ b ∈ bs', b = y) (hy : y ∈ bs') (hxa : x ∉ as) (hya : y ∉ as) (hxy : x ≠ y)
    (cs : List α) : (as ++ (bs ++ (bs' ++ cs))).eraseDups =
      as.eraseDups ++ x :: y :: (cs.removeAll (as ++ [x] ++ [y])).eraseDups := by
  have hyx : y ∉ as ++ [x] := by simp [hya, hxy.symm]
  calc (as ++ (bs ++ (bs' ++ cs))).eraseDups
      = (as ++ [x] ++ (bs' ++ cs)).eraseDups := by rw [eraseDups_append_copies h hx]; simp
    _ = (as ++ [x] ++ [y] ++ cs).eraseDups := by rw [eraseDups_append_copies h' hy]; simp
    _ = _ := by
      rw [List.eraseDups_append, eraseDups_concat, if_neg hyx, eraseDups_concat, if_neg hxa]
      simp

/-- Two new elements trade places with the blocks that they come from. -/
lemma eraseDups_trade {as bs bs' : List α} {x y : α} (h : ∀ b ∈ bs, b = x) (hx : x ∈ bs)
    (h' : ∀ b ∈ bs', b = y) (hy : y ∈ bs') (hxa : x ∉ as) (hya : y ∉ as) (hxy : x ≠ y)
    (cs : List α) : ∃ ys, (as ++ (bs ++ (bs' ++ cs))).eraseDups = as.eraseDups ++ x :: y :: ys ∧
      (as ++ (bs' ++ (bs ++ cs))).eraseDups = as.eraseDups ++ y :: x :: ys := by
  have hremove : cs.removeAll (as ++ [x] ++ [y]) = cs.removeAll (as ++ [y] ++ [x]) := by
    refine List.filter_congr fun c _ => ?_
    simp [or_comm]
  refine ⟨_, eraseDups_append_two h hx h' hy hxa hya hxy cs, ?_⟩
  rw [hremove, eraseDups_append_two h' hy h hx hya hxa hxy.symm]

lemma eraseDups_comm {as bs bs' : List α} (h : ∀ b ∈ bs, b ∈ as) (cs : List α) :
    (as ++ (bs ++ (bs' ++ cs))).eraseDups = (as ++ (bs' ++ (bs ++ cs))).eraseDups := by
  have h' : ∀ b ∈ bs, b ∈ as ++ bs' := fun b hb => List.mem_append_left _ (h b hb)
  rw [eraseDups_append_known h, ← List.append_assoc as bs', ← List.append_assoc as bs',
    eraseDups_append_known h']

end Distinct

/-! ### Declared pairs -/

/-- A spec names a resource as one that its own resource owns. -/
def Owns (s : Resource) (id : Identity) : Prop := ∃ r ∈ s.references, r.identity = id

/-- Two specs that follow `before` are the first ones to name their resources owners of `id`. -/
def NewOwners (before : List Resource) (s s' : Resource) (id : Identity) : Prop :=
  Owns s id ∧ Owns s' id ∧
    ∀ o ∈ before, Owns o id → o.identity ≠ s.identity ∧ o.identity ≠ s'.identity

instance (s : Resource) (id : Identity) : Decidable (Owns s id) := by
  unfold Owns
  infer_instance

instance (before : List Resource) (s s' : Resource) (id : Identity) :
    Decidable (NewOwners before s s' id) := by
  unfold NewOwners
  infer_instance

/-- The pairs of an owner and a child that one spec declares. -/
def pairsOf (s : Resource) : List (Identity × Identity) :=
  s.references.map fun r => (s.identity, r.identity)

variable {before after : List Resource} {s s' : Resource} {id : Identity}

lemma mem_pairsOf {p : Identity × Identity} : p ∈ pairsOf s ↔ p.1 = s.identity ∧ Owns s p.2 := by
  rw [pairsOf, List.mem_map]
  constructor
  · rintro ⟨r, hr, rfl⟩
    exact ⟨rfl, r, hr, rfl⟩
  · rintro ⟨ho, r, hr, hc⟩
    exact ⟨r, hr, Prod.ext ho.symm hc⟩

def isKnown (specs : List Resource) (id : Identity) : Bool := specs.any fun s => s.identity = id

lemma isKnown_swap :
    isKnown (before ++ s :: s' :: after) = isKnown (before ++ s' :: s :: after) := by
  funext id
  simp only [isKnown, List.any_append, List.any_cons, Bool.or_left_comm]

lemma filter_declaredPairs (specs : List Resource) (q : Identity × Identity → Bool) :
    (declaredPairs specs).filter q =
      ((specs.flatMap pairsOf).filter fun p => q p && isKnown specs p.2).eraseDups := by
  rw [declaredPairs, filter_eraseDups, List.filter_filter]
  rfl

lemma filter_pairs (q : Identity × Identity → Bool) :
    ((before ++ s :: s' :: after).flatMap pairsOf).filter q =
      (before.flatMap pairsOf).filter q ++
        ((pairsOf s).filter q ++ ((pairsOf s').filter q ++ (after.flatMap pairsOf).filter q)) := by
  simp [List.flatMap_append, List.filter_append]

lemma declaredPairs_swap_owner (hne : s.identity ≠ s'.identity) (id : Identity) :
    (declaredPairs (before ++ s :: s' :: after)).filter (fun p => p.1 = id) =
      (declaredPairs (before ++ s' :: s :: after)).filter fun p => p.1 = id := by
  rw [filter_declaredPairs, filter_declaredPairs, filter_pairs, filter_pairs, isKnown_swap]
  have hnone : ∀ {o : Resource}, o.identity ≠ id →
      ((pairsOf o).filter fun p =>
        decide (p.1 = id) && isKnown (before ++ s' :: s :: after) p.2) = [] := by
    intro o ho
    refine List.filter_eq_nil_iff.mpr fun p hp => ?_
    rw [(mem_pairsOf.mp hp).1]
    simp [ho]
  by_cases h : s.identity = id
  · have h' : s'.identity ≠ id := by
      rw [← h]
      exact hne.symm
    rw [hnone h', List.nil_append, List.nil_append]
  · rw [hnone h, List.nil_append, List.nil_append]

lemma eq_of_mem_filter_pairsOf {known : Identity → Bool} {p : Identity × Identity}
    (h : p ∈ (pairsOf s).filter fun p => decide (p.2 = id) && known p.2) :
    p = (s.identity, id) := by
  obtain ⟨hp, hq⟩ := List.mem_filter.mp h
  rw [Bool.and_eq_true, decide_eq_true_eq] at hq
  exact Prod.ext (mem_pairsOf.mp hp).1 hq.1

/-- A child keeps its owners in their order, unless both of the swapped specs name it first. -/
lemma declaredPairs_swap_child (h : ¬ NewOwners before s s' id) :
    (declaredPairs (before ++ s :: s' :: after)).filter (fun p => p.2 = id) =
      (declaredPairs (before ++ s' :: s :: after)).filter fun p => p.2 = id := by
  rw [filter_declaredPairs, filter_declaredPairs, filter_pairs, filter_pairs, isKnown_swap]
  set known := isKnown (before ++ s' :: s :: after)
  -- a spec that names nothing new has no place of its own among the pairs of the child
  have hold : ∀ {o : Resource},
      (Owns o id → ∃ x ∈ before, Owns x id ∧ x.identity = o.identity) →
      ∀ p ∈ (pairsOf o).filter fun p => decide (p.2 = id) && known p.2,
        p ∈ (before.flatMap pairsOf).filter fun p => decide (p.2 = id) && known p.2 := by
    intro o ho p hp
    have hpo := eq_of_mem_filter_pairsOf hp
    obtain ⟨hp, hq⟩ := List.mem_filter.mp hp
    obtain ⟨x, hx, hown, hid⟩ := ho (by simpa [hpo] using (mem_pairsOf.mp hp).2)
    refine List.mem_filter.mpr ⟨List.mem_flatMap.mpr ⟨x, hx, mem_pairsOf.mpr ?_⟩, hq⟩
    rw [hpo]
    exact ⟨hid.symm, hown⟩
  by_cases hs : Owns s id → ∃ x ∈ before, Owns x id ∧ x.identity = s.identity
  · exact eraseDups_comm (hold hs) _
  by_cases hs' : Owns s' id → ∃ x ∈ before, Owns x id ∧ x.identity = s'.identity
  · exact (eraseDups_comm (hold hs') _).symm
  rw [Classical.not_imp] at hs hs'
  refine absurd ⟨hs.1, hs'.1, fun o ho hown => ⟨fun he => ?_, fun he => ?_⟩⟩ h
  · exact hs.2 ⟨o, ho, hown, he⟩
  · exact hs'.2 ⟨o, ho, hown, he⟩

/-- A child that both of the swapped specs name first has the two owners side by side, and they
trade places. -/
lemma declaredPairs_swap_newOwners (h : NewOwners before s s' id) (hne : s.identity ≠ s'.identity)
    (hid : isKnown (before ++ s :: s' :: after) id = true) :
    ∃ xs ys, (declaredPairs (before ++ s :: s' :: after)).filter (fun p => p.2 = id) =
        xs ++ (s.identity, id) :: (s'.identity, id) :: ys ∧
      (declaredPairs (before ++ s' :: s :: after)).filter (fun p => p.2 = id) =
        xs ++ (s'.identity, id) :: (s.identity, id) :: ys := by
  rw [filter_declaredPairs, filter_declaredPairs, filter_pairs, filter_pairs]
  rw [isKnown_swap] at hid ⊢
  set known := isKnown (before ++ s' :: s :: after)
  obtain ⟨hs, hs', hbefore⟩ := h
  have hmem : ∀ {o : Resource}, Owns o id →
      (o.identity, id) ∈ (pairsOf o).filter fun p => decide (p.2 = id) && known p.2 :=
    fun ho => List.mem_filter.mpr ⟨mem_pairsOf.mpr ⟨rfl, ho⟩, by simp [hid]⟩
  have hnew : ∀ {o : Identity}, (∀ x ∈ before, Owns x id → x.identity ≠ o) →
      (o, id) ∉ (before.flatMap pairsOf).filter fun p => decide (p.2 = id) && known p.2 := by
    intro o ho hp
    obtain ⟨x, hx, hpx⟩ := List.mem_flatMap.mp (List.mem_filter.mp hp).1
    obtain ⟨hxo, hown⟩ := mem_pairsOf.mp hpx
    exact ho x hx hown hxo.symm
  obtain ⟨ys, h₁, h₂⟩ := eraseDups_trade (fun _ => eq_of_mem_filter_pairsOf) (hmem hs)
    (fun _ => eq_of_mem_filter_pairsOf) (hmem hs') (hnew fun x hx hown => (hbefore x hx hown).1)
    (hnew fun x hx hown => (hbefore x hx hown).2) (fun he => hne (congrArg Prod.fst he))
    ((after.flatMap pairsOf).filter fun p => decide (p.2 = id) && known p.2)
  exact ⟨_, ys, h₁, h₂⟩

end ClientGen.Tree
