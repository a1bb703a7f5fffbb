import ClientGen.Proofs.Tree.Compatible
import ClientGen.Proofs.Tree.Swap

/-!
Permuting a list of specs. The permuted list stays accepted, and the same references are dropped. If
no resource has two specs, the two trees come from one unlinked tree: every resource keeps its
children in their order, and has the same owners in another order.
-/

namespace ClientGen.Tree

open Spec

variable {layout : Layout} {specs specs' : List Resource} {t : Tree} {ls ls' : List Link}
  {id : Identity}

/-- What a dropped reference says, its place aside. -/
def Dropped.pair (d : Dropped) : Identity × Identity := (d.owner, d.reference)

/-! ### Declared pairs -/

lemma mem_declaredPairs {p : Identity × Identity} : p ∈ declaredPairs specs ↔
    (∃ s ∈ specs, s.identity = p.1 ∧ Owns s p.2) ∧ ∃ s ∈ specs, s.identity = p.2 := by
  have hpairs : declaredPairs specs =
      ((specs.flatMap pairsOf).filter fun p => isKnown specs p.2).eraseDups := rfl
  rw [hpairs, List.mem_eraseDups, List.mem_filter, List.mem_flatMap]
  simp only [mem_pairsOf, isKnown, List.any_eq_true, decide_eq_true_eq,
    @eq_comm _ p.1]

lemma isKnown_perm (h : specs.Perm specs') : isKnown specs = isKnown specs' := by
  funext id
  rw [Bool.eq_iff_iff, isKnown, isKnown, List.any_eq_true, List.any_eq_true]
  exact exists_congr fun s => and_congr_left fun _ => h.mem_iff

lemma declaredPairs_perm (h : specs.Perm specs') :
    (declaredPairs specs).Perm (declaredPairs specs') := by
  refine (List.perm_ext_iff_of_nodup (nodup_declaredPairs _) (nodup_declaredPairs _)).mpr ?_
  intro p
  simp only [mem_declaredPairs, h.mem_iff]

lemma filter_owner_perm (h : specs.Perm specs') (hdistinct : (specs.map Resource.identity).Nodup)
    (q : Identity × Identity → Bool) :
    (specs.flatMap pairsOf).filter (fun p => decide (p.1 = id) && q p) =
      (specs'.flatMap pairsOf).filter fun p => decide (p.1 = id) && q p := by
  have hnone : ∀ {s : Resource}, s.identity ≠ id →
      (pairsOf s).filter (fun p => decide (p.1 = id) && q p) = [] := by
    intro s hs
    refine List.filter_eq_nil_iff.mpr fun p hp => ?_
    simp [(mem_pairsOf.mp hp).1, hs]
  induction h with
  | nil => rfl
  | cons s _ ih =>
    rw [List.flatMap_cons, List.flatMap_cons, List.filter_append, List.filter_append,
      ih (List.nodup_cons.mp hdistinct).2]
  | swap s s' rest =>
    simp only [List.flatMap_cons, List.filter_append]
    by_cases hs : s.identity = id
    · have hs' : s'.identity ≠ id := by
        rintro rfl
        simp [hs] at hdistinct
      rw [hnone hs', List.nil_append, List.nil_append]
    · rw [hnone hs, List.nil_append, List.nil_append]
  | trans h _ ih ih' => exact (ih hdistinct).trans (ih' ((h.map _).nodup_iff.mp hdistinct))

lemma declaredPairs_perm_owner (h : specs.Perm specs')
    (hdistinct : (specs.map Resource.identity).Nodup) (id : Identity) :
    (declaredPairs specs).filter (fun p => p.1 = id) =
      (declaredPairs specs').filter fun p => p.1 = id := by
  rw [filter_declaredPairs, filter_declaredPairs, isKnown_perm h, filter_owner_perm h hdistinct]

/-! ### Dropped references -/

lemma lostReferences_pairs (specs : List Resource) : (lostReferences specs).map Dropped.pair =
    (specs.flatMap pairsOf).filter fun p => !isKnown specs p.2 := by
  have hpairs : specs.flatMap pairsOf = (declarations specs).map Declaration.pair :=
    (declarationsFrom_pair 0 specs).symm
  rw [lostReferences, List.map_map, hpairs, List.filter_map]
  rfl

lemma lostReferences_perm (h : specs.Perm specs') :
    ((lostReferences specs).map Dropped.pair).Perm ((lostReferences specs').map Dropped.pair) := by
  rw [lostReferences_pairs, lostReferences_pairs, isKnown_perm h]
  exact (h.flatMap_right _).filter _

/-! ### Links -/

lemma links_perm (k : IsKeyed t) (hls : ∀ l ∈ ls, l.In t) (hls' : ∀ l ∈ ls', l.In t)
    (hnodup : (ls.map Link.pair).Nodup) (h : (ls.map Link.pair).Perm (ls'.map Link.pair)) :
    ls.Perm ls' := by
  have hmem : ∀ {ms ms' : List Link}, (∀ l ∈ ms, l.In t) → (∀ l ∈ ms', l.In t) →
      (ms.map Link.pair).Perm (ms'.map Link.pair) → ∀ l ∈ ms, l ∈ ms' := by
    intro ms ms' hms hms' hperm l hl
    obtain ⟨m, hm, hpair⟩ := List.mem_map.mp (hperm.mem_iff.mp (List.mem_map_of_mem hl))
    rwa [← Link.eq_of_pair k (hms' m hm) (hms l hl) hpair]
  refine (List.perm_ext_iff_of_nodup hnodup.of_map (h.nodup_iff.mp hnodup).of_map).mpr fun l => ?_
  exact ⟨hmem hls hls' h l, hmem hls' hls h.symm l⟩

/-- What two lists of links differ in when the specs behind them are permuted: every resource keeps
its children in their order. -/
structure PermutedLinks (ls ls' : List Link) : Prop where
  perm : ls.Perm ls'
  linksFrom : ∀ id, linksFrom ls id = linksFrom ls' id

lemma IsBuilt.permuted {t' : Tree} (m : IsBuilt layout specs t ls)
    (m' : IsBuilt layout specs' t' ls') (h : specs.Perm specs')
    (hdistinct : (specs.map Resource.identity).Nodup) :
    t' = { t with dropped := t'.dropped } ∧ PermutedLinks ls ls' := by
  have hclash := clashes_eq_nil_iff.mp m.clashes
  have hclash' := clashes_eq_nil_iff.mp m'.clashes
  have hreg : ∀ s, Registers specs s ↔ Registers specs' s := by
    intro s
    rw [registers_iff_mem hclash hdistinct,
      registers_iff_mem hclash' ((h.map _).nodup_iff.mp hdistinct), h.mem_iff]
  have ht := m.unlinked.eq_of_registers m'.unlinked m.clashes m'.clashes hreg
  have hls' : ∀ l ∈ ls', l.In t := by
    intro l hl
    have hin := m'.linked l hl
    rw [ht] at hin
    exact hin.with_dropped t.dropped
  have hk := m.unlinked.keyed
  have hnodup : (ls.map Link.pair).Nodup := m.pairs ▸ nodup_declaredPairs specs
  refine ⟨ht, links_perm hk m.linked hls' hnodup ?_, fun id => linksFrom_eq hk m.linked hls' ?_⟩
  · rw [m.pairs, m'.pairs]
    exact declaredPairs_perm h
  · rw [m.pairs, m'.pairs]
    exact declaredPairs_perm_owner h hdistinct id

end ClientGen.Tree
