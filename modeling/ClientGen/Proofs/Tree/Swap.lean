import ClientGen.Proofs.Tree.Acceptance
import ClientGen.Proofs.Tree.Pairs

/-!
Swapping two neighbours in a list of specs. If they are of different group-versions, the list stays
accepted, and the tree stays the same but for the owners of each resource that both neighbours are
the first ones to name: there the two owners trade places.
-/

namespace ClientGen.Tree

open Spec

/-- The owners in which two trade places, where the second stands right behind the first. -/
def tradeOwners (a b : Identity) : List Owner → List Owner
  | o :: o' :: os =>
    if o.key = a ∧ o'.key = b then o' :: o :: os else o :: tradeOwners a b (o' :: os)
  | os => os

def ReferencePart.trade (a b : Identity) (r : ReferencePart) : ReferencePart :=
  { r with owners := tradeOwners a b r.owners }

def Entry.trade (a b : Identity) (e : Entry) : Entry :=
  { e with reference? := e.reference?.map (ReferencePart.trade a b) }

/-- Two resources are owners, one right behind the other. -/
def Entry.OwnedInTurn (a b : Identity) (e : Entry) : Prop :=
  ∃ r xs o o' ys, e.reference? = some r ∧ r.owners = xs ++ o :: o' :: ys ∧ o.key = a ∧ o'.key = b

/-- The entry after a swap of two specs: where both are new owners, they trade places. -/
def Entry.swap (before : List Resource) (s s' : Resource) (e : Entry) : Entry :=
  if NewOwners before s s' e.key then e.trade s.identity s'.identity else e

/-- The tree after a swap of two specs. -/
def swap (before : List Resource) (s s' : Resource) (t : Tree) : Tree :=
  t.mapEntries fun _ => Entry.swap before s s'

variable {layout : Layout} {before after : List Resource} {s s' : Resource}

/-! ### Acceptance -/

lemma find?_swap {p : Resource → Bool} (h : ¬ (p s = true ∧ p s' = true)) :
    (before ++ s :: s' :: after).find? p = (before ++ s' :: s :: after).find? p := by
  rw [List.find?_append, List.find?_append]
  by_cases hs : p s = true
  · have hs' : p s' = false := by simpa [hs] using h
    simp [hs, hs']
  · simp [List.find?_cons, hs]

/-- In an accepted list, no directory and no file is that of two specs of different
group-versions, so it makes no difference which of the two comes first. -/
lemma sameFirsts_swap
    (hne : (s.identity.group, s.identity.version) ≠ (s'.identity.group, s'.identity.version))
    (h : ∀ o ∈ before ++ s :: s' :: after, clash? (before ++ s :: s' :: after) o = none) :
    SameFirsts (before ++ s :: s' :: after) (before ++ s' :: s :: after) where
  mem := by
    intro o
    simp only [List.mem_append, List.mem_cons]
    tauto
  directory := by
    intro id
    refine find?_swap fun h' => hne ?_
    obtain ⟨hs, hs'⟩ := h'
    have hsame : sameDirectory s.identity s'.identity = true := by
      simp only [sameDirectory, Bool.and_eq_true, beq_iff_eq] at hs hs' ⊢
      exact ⟨hs.1.trans hs'.1.symm, hs.2.trans hs'.2.symm⟩
    obtain ⟨hg, hv⟩ := eq_group_of_sameDirectory h (by simp) (by simp) hsame
    rw [hg, hv]
  file := by
    intro id
    refine find?_swap fun h' => hne ?_
    obtain ⟨hs, hs'⟩ := h'
    obtain ⟨hg, hv, -⟩ := sameFile_iff.mp hs
    obtain ⟨hg', hv', -⟩ := sameFile_iff.mp hs'
    rw [hg, hv, hg', hv']

/-! ### Links -/

lemma tradeOwners_append {a b : Identity} {xs ys : List Owner} {o o' : Owner}
    (hxs : ∀ x ∈ xs, x.key ≠ a) (ho : o.key = a) (ho' : o'.key = b) :
    tradeOwners a b (xs ++ o :: o' :: ys) = xs ++ o' :: o :: ys := by
  induction xs with
  | nil => simp [tradeOwners, ho, ho']
  | cons x xs ih =>
    obtain ⟨z, zs, hz⟩ : ∃ z zs, xs ++ o :: o' :: ys = z :: zs :=
      List.exists_cons_of_ne_nil (by simp)
    have hx : ¬ (x.key = a ∧ z.key = b) := fun h => hxs x (by simp) h.1
    rw [List.cons_append, hz, tradeOwners, if_neg hx, ← hz, ih fun y hy => hxs y (by simp [hy])]
    rfl

variable {t : Tree} {ls ls' : List Link} {id : Identity}

lemma links_eq_of_pairs (k : IsKeyed t) (hls : ∀ l ∈ ls, l.In t) (hls' : ∀ l ∈ ls', l.In t)
    (h : ls.map Link.pair = ls'.map Link.pair) : ls = ls' := by
  induction ls generalizing ls' with
  | nil => exact (List.map_eq_nil_iff.mp h.symm).symm
  | cons l ls ih =>
    obtain ⟨m, ms, rfl, hm, hms⟩ := List.map_eq_cons_iff.mp h.symm
    rw [Link.eq_of_pair k (hls l (by simp)) (hls' m (by simp)) hm.symm,
      ih (fun x hx => hls x (by simp [hx])) (fun x hx => hls' x (by simp [hx])) hms.symm]

section Links

variable (k : IsKeyed t) (hls : ∀ l ∈ ls, l.In t) (hls' : ∀ l ∈ ls', l.In t)

include k hls hls'

lemma linksFrom_eq (h : (ls.map Link.pair).filter (fun p => p.1 = id) =
    (ls'.map Link.pair).filter fun p => p.1 = id) : linksFrom ls id = linksFrom ls' id := by
  refine links_eq_of_pairs k (fun l hl => hls l (List.mem_filter.mp hl).1)
    (fun l hl => hls' l (List.mem_filter.mp hl).1) ?_
  rw [linksFrom_pairs, linksFrom_pairs, h]

lemma linksTo_eq (h : (ls.map Link.pair).filter (fun p => p.2 = id) =
    (ls'.map Link.pair).filter fun p => p.2 = id) : linksTo ls id = linksTo ls' id := by
  refine links_eq_of_pairs k (fun l hl => hls l (List.mem_filter.mp hl).1)
    (fun l hl => hls' l (List.mem_filter.mp hl).1) ?_
  rw [linksTo_pairs, linksTo_pairs, h]

lemma linksTo_trade {xs ys : List (Identity × Identity)} {p q : Identity × Identity}
    (h : (ls.map Link.pair).filter (fun p => p.2 = id) = xs ++ p :: q :: ys)
    (h' : (ls'.map Link.pair).filter (fun p => p.2 = id) = xs ++ q :: p :: ys) :
    ∃ as l m bs, linksTo ls id = as ++ l :: m :: bs ∧ linksTo ls' id = as ++ m :: l :: bs ∧
      as.map Link.pair = xs ∧ l.pair = p ∧ m.pair = q := by
  rw [← linksTo_pairs] at h h'
  obtain ⟨as, rest, hto, has, hrest⟩ := List.map_eq_append_iff.mp h
  obtain ⟨l, rest, rfl, hl, hrest⟩ := List.map_eq_cons_iff.mp hrest
  obtain ⟨m, bs, rfl, hm, hbs⟩ := List.map_eq_cons_iff.mp hrest
  have hin : ∀ x ∈ as ++ m :: l :: bs, x.In t := by
    intro x hx
    have hx' : x ∈ linksTo ls id := by
      rw [hto]
      simp only [List.mem_append, List.mem_cons] at hx ⊢
      tauto
    exact hls x (List.mem_filter.mp hx').1
  refine ⟨as, l, m, bs, hto, ?_, has, hl, hm⟩
  refine links_eq_of_pairs k (fun x hx => hls' x (List.mem_filter.mp hx).1) hin ?_
  rw [h', List.map_append, List.map_cons, List.map_cons, has, hl, hm, hbs]

end Links

lemma withLinks_trade {a c : Identity} {b : Branch} {e : Entry} {as bs : List Link} {l m : Link}
    (hfrom : linksFrom ls e.key = linksFrom ls' e.key)
    (hto : linksTo ls e.key = as ++ l :: m :: bs) (hto' : linksTo ls' e.key = as ++ m :: l :: bs)
    (has : ∀ x ∈ as, x.owner.key ≠ a) (hl : l.owner.key = a) (hm : m.owner.key = c) :
    e.withLinks ls' b = (e.withLinks ls b).trade a c := by
  have howners : tradeOwners a c ((as ++ l :: m :: bs).map Link.toOwner) =
      (as ++ m :: l :: bs).map Link.toOwner := by
    rw [List.map_append, List.map_append]
    refine tradeOwners_append (fun o ho => ?_) hl hm
    obtain ⟨x, hx, rfl⟩ := List.mem_map.mp ho
    exact has x hx
  rw [Entry.withLinks, Entry.withLinks, Entry.linked, Entry.linked, hfrom, hto, hto',
    if_neg (by simp), if_neg (by simp), Entry.trade, Option.map_some, ReferencePart.trade, howners]

lemma owner_ne_of_trade {specs : List Resource} {xs ys : List (Identity × Identity)}
    {p : Identity × Identity} {as rest : List Link}
    (h : (declaredPairs specs).filter (fun p => p.2 = id) = xs ++ p :: ys)
    (hto : linksTo ls id = as ++ rest) (has : as.map Link.pair = xs) (hp : p.2 = id) :
    ∀ x ∈ as, x.owner.key ≠ p.1 := by
  have hnodup := (nodup_declaredPairs specs).filter fun p => decide (p.2 = id)
  rw [h, ← has] at hnodup
  intro x hx hkey
  have hchild : x ∈ linksTo ls id := hto ▸ List.mem_append_left _ hx
  have hxp : x.pair = p :=
    Prod.ext hkey ((of_decide_eq_true (List.mem_filter.mp hchild).2).trans hp.symm)
  exact (List.nodup_append.mp hnodup).2.2 _ (List.mem_map_of_mem hx) p (by simp) hxp

section Swapped

/-! The links of two lists of specs that differ in the order of two neighbours. -/

variable (u : IsUnlinked layout (before ++ s :: s' :: after) t) (hne : s.identity ≠ s'.identity)
  (hls : ∀ l ∈ ls, l.In t) (hls' : ∀ l ∈ ls', l.In t)
  (hpairs : ls.map Link.pair = declaredPairs (before ++ s :: s' :: after))
  (hpairs' : ls'.map Link.pair = declaredPairs (before ++ s' :: s :: after))

include u hne hls hls' hpairs hpairs'

lemma IsUnlinked.exists_links_swap {e : Entry} (he : e ∈ t.entries)
    (hnew : NewOwners before s s' e.key) :
    ∃ as l m bs, linksTo ls e.key = as ++ l :: m :: bs ∧ linksTo ls' e.key = as ++ m :: l :: bs ∧
      (∀ x ∈ as, x.owner.key ≠ s.identity) ∧ l.owner.key = s.identity ∧
      m.owner.key = s'.identity := by
  have hknown : isKnown (before ++ s :: s' :: after) e.key = true := by
    obtain ⟨o, ho, hid⟩ := u.exists_entry_iff.mp ⟨e, he, rfl⟩
    exact List.any_eq_true.mpr ⟨o, ho.mem, decide_eq_true hid⟩
  obtain ⟨xs, ys, h, h'⟩ := declaredPairs_swap_newOwners hnew hne hknown
  obtain ⟨as, l, m, bs, hto, hto', has, hl, hm⟩ :=
    linksTo_trade u.keyed hls hls' (hpairs ▸ h) (hpairs' ▸ h')
  exact ⟨as, l, m, bs, hto, hto', owner_ne_of_trade h hto has rfl, congrArg Prod.fst hl,
    congrArg Prod.fst hm⟩

lemma IsUnlinked.withLinks_swap : t.withLinks ls' = (t.withLinks ls).swap before s s' := by
  rw [swap, withLinks, withLinks, mapEntries_mapEntries]
  refine mapEntries_congr fun b hb e he => ?_
  have hfrom : linksFrom ls e.key = linksFrom ls' e.key := by
    refine linksFrom_eq u.keyed hls hls' ?_
    rw [hpairs, hpairs', declaredPairs_swap_owner hne]
  rw [Entry.swap, withLinks_key]
  split
  · next hnew =>
    obtain ⟨as, l, m, bs, hto, hto', has, hl, hm⟩ :=
      u.exists_links_swap hne hls hls' hpairs hpairs' (mem_entries.mpr ⟨b, hb, he⟩) hnew
    exact withLinks_trade hfrom hto hto' has hl hm
  · next hold =>
    have hto : linksTo ls e.key = linksTo ls' e.key := by
      refine linksTo_eq u.keyed hls hls' ?_
      rw [hpairs, hpairs', declaredPairs_swap_child hold]
    rw [Entry.withLinks, Entry.withLinks, hfrom, hto]

lemma IsUnlinked.ownedInTurn {e : Entry} (he : e ∈ (t.withLinks ls).entries)
    (hnew : NewOwners before s s' e.key) : e.OwnedInTurn s.identity s'.identity := by
  obtain ⟨b, hb, x, hx, rfl⟩ := mem_entries_mapEntries.mp he
  obtain ⟨as, l, m, bs, hto, -, -, hl, hm⟩ :=
    u.exists_links_swap hne hls hls' hpairs hpairs' (mem_entries.mpr ⟨b, hb, hx⟩) hnew
  have hsome : linksTo ls x.key ≠ [] := by simp [hto]
  refine ⟨_, as.map Link.toOwner, l.toOwner, m.toOwner, bs.map Link.toOwner,
    withLinks_reference?_eq_some_iff.mpr ⟨hsome, rfl⟩, ?_, hl, hm⟩
  dsimp only
  rw [hto, List.map_append, List.map_cons, List.map_cons]

end Swapped

/-- Two neighbours of different group-versions in an accepted list can be swapped. Wherever both are
new owners, they stand side by side in the tree and trade places, and nothing else changes but what
was dropped. -/
lemma exists_build_swap
    (hne : (s.identity.group, s.identity.version) ≠ (s'.identity.group, s'.identity.version))
    (h : (build layout (before ++ s :: s' :: after)).result = .ok t) :
    (∀ e ∈ t.entries, NewOwners before s s' e.key → e.OwnedInTurn s.identity s'.identity) ∧
      ∃ dropped, (build layout (before ++ s' :: s :: after)).result =
        .ok { t.swap before s s' with dropped := dropped } := by
  have hid : s.identity ≠ s'.identity := fun he => hne (by rw [he])
  have w := sameFirsts_swap hne (build_ok_iff.mp ⟨t, h⟩).2
  obtain ⟨t', h'⟩ := w.build_ok ⟨t, h⟩
  have hclashes := (build_ok h).2.1
  have hclashes' := (build_ok h').2.1
  obtain ⟨t₀, ls, u, -, hls, hpairs, rfl⟩ := build_withLinks h
  obtain ⟨t₁, ls', u', -, hls', hpairs', rfl⟩ := build_withLinks h'
  have ht := u.eq_of_registers u' hclashes hclashes' fun _ => w.registers_iff
  generalize t₁.dropped = ds at ht
  subst ht
  have hls₀ : ∀ l ∈ ls', l.In t₀ := fun l hl => (hls' l hl).with_dropped t₀.dropped
  refine ⟨fun e he hnew => u.ownedInTurn hid hls hls₀ hpairs hpairs' he hnew, ds, h'.trans ?_⟩
  rw [← u.withLinks_swap hid hls hls₀ hpairs hpairs']
  rfl

end ClientGen.Tree
