import ClientGen.Proofs.Tree.Linking
import ClientGen.Proofs.Tree.Registration

/-!
Built trees. A tree that is built from a list of specs is the unlinked tree of these specs with one
link for each pair of an owner and a child that they declare, and so every entry has exactly the
children and the owners that the specs give it.
-/

namespace ClientGen.Tree

open Spec

variable {layout : Layout} {specs : List Resource} {t : Tree} {ls : List Link}

/-- The pairs of an owner and a child that the specs declare, where some spec is the child's: each
pair once, in the order of the specs and of their references. -/
def declaredPairs (specs : List Resource) : List (Identity × Identity) :=
  ((specs.flatMap fun s => s.references.map fun r => (s.identity, r.identity)).filter fun p =>
    specs.any fun s => s.identity = p.2).eraseDups

lemma nodup_declaredPairs (specs : List Resource) : (declaredPairs specs).Nodup :=
  nodup_eraseDups _

/-- Distinct elements with one side in common differ on the other side. -/
lemma nodup_map_filter {α β γ : Type} [DecidableEq β] {as : List α} (f : α → β) (g : α → γ)
    (hinj : ∀ a a', f a = f a' → g a = g a' → a = a') (h : as.Nodup) (b : β) :
    ((as.filter fun a => f a = b).map g).Nodup := by
  refine (h.filter _).map_on fun a ha a' ha' hg => hinj a a' ?_ hg
  exact (of_decide_eq_true (List.mem_filter.mp ha).2).trans
    (of_decide_eq_true (List.mem_filter.mp ha').2).symm

/-- The links of a tree are those of a list of pairs of an owner and a child, on both sides. -/
structure IsLinkedBy (t : Tree) (ps : List (Identity × Identity)) : Prop where
  distinct : (t.entries.map Entry.key).Nodup
  known : ∀ p ∈ ps, (∃ e ∈ t.entries, e.key = p.1) ∧ ∃ e ∈ t.entries, e.key = p.2
  references : ∀ e ∈ t.entries, e.references = (ps.filter fun p => p.1 = e.key).map Prod.snd
  children : ∀ e ∈ t.entries, e.client.children.map Child.key = e.references
  reference : ∀ e ∈ t.entries, e.reference?.isSome = true ↔ ∃ p ∈ ps, p.2 = e.key
  owners : ∀ e ∈ t.entries, ∀ r, e.reference? = some r →
    r.owners.map Owner.key = (ps.filter fun p => p.2 = e.key).map Prod.fst
  agree : ∀ owner ∈ t.entries, ∀ child ∈ t.entries, (owner.key, child.key) ∈ ps →
    ∃ r, child.reference? = some r ∧
      ∀ c ∈ owner.client.children, c.key = child.key → c.referenceModule = r.module ∧
        ∀ o ∈ r.owners, o.key = owner.key → c.lookup = o.lookup

lemma Link.eq_of_pair (k : IsKeyed t) {l l' : Link} (hl : l.In t) (hl' : l'.In t)
    (h : l.pair = l'.pair) : l = l' := by
  obtain ⟨ho, hc⟩ := Prod.mk.inj h
  obtain ⟨b, hb, hlb⟩ := mem_entries.mp hl.owner
  obtain ⟨b', hb', hlb'⟩ := mem_entries.mp hl'.owner
  obtain ⟨-, howner⟩ := k.eq_entry hb hb' hlb hlb' ho
  obtain ⟨hbranch, hchild⟩ := k.eq_entry hl.branch hl'.branch hl.child hl'.child hc
  cases l
  cases l'
  simp only at howner hbranch hchild
  rw [howner, hbranch, hchild]

lemma exists_withLinks_iff {id : Identity} :
    (∃ e ∈ (t.withLinks ls).entries, e.key = id) ↔ ∃ e ∈ t.entries, e.key = id := by
  constructor
  · rintro ⟨e, he, rfl⟩
    obtain ⟨b, hb, x, hx, rfl⟩ := mem_entries_mapEntries.mp he
    exact ⟨x, mem_entries.mpr ⟨b, hb, hx⟩, rfl⟩
  · rintro ⟨x, hx, rfl⟩
    obtain ⟨b, hb, hx⟩ := mem_entries.mp hx
    exact ⟨_, mem_entries_mapEntries.mpr ⟨b, hb, x, hx, rfl⟩, rfl⟩

lemma linksFrom_pairs (ls : List Link) (id : Identity) :
    (linksFrom ls id).map Link.pair = (ls.map Link.pair).filter fun p => p.1 = id := by
  rw [linksFrom, List.filter_map]
  rfl

lemma linksTo_pairs (ls : List Link) (id : Identity) :
    (linksTo ls id).map Link.pair = (ls.map Link.pair).filter fun p => p.2 = id := by
  rw [linksTo, List.filter_map]
  rfl

lemma linksFrom_children (id : Identity) : (linksFrom ls id).map (·.child.key) =
    ((ls.map Link.pair).filter fun p => p.1 = id).map Prod.snd := by
  rw [← linksFrom_pairs, List.map_map]
  rfl

lemma linksTo_owners (id : Identity) : (linksTo ls id).map (·.owner.key) =
    ((ls.map Link.pair).filter fun p => p.2 = id).map Prod.fst := by
  rw [← linksTo_pairs, List.map_map]
  rfl

lemma isLinkedBy_withLinks (k : IsKeyed t) (hls : ∀ l ∈ ls, l.In t) :
    (t.withLinks ls).IsLinkedBy (ls.map Link.pair) where
  distinct := (k.mapped (keepsKeys_withLinks ls)).nodup_keys
  known := by
    intro p hp
    obtain ⟨l, hl, rfl⟩ := List.mem_map.mp hp
    rw [exists_withLinks_iff, exists_withLinks_iff]
    exact ⟨⟨l.owner, (hls l hl).owner, rfl⟩,
      ⟨l.child, mem_entries.mpr ⟨l.branch, (hls l hl).branch, (hls l hl).child⟩, rfl⟩⟩
  references := by
    intro e he
    obtain ⟨b, -, x, -, rfl⟩ := mem_entries_mapEntries.mp he
    exact linksFrom_children x.key
  children := by
    intro e he
    obtain ⟨b, -, x, -, rfl⟩ := mem_entries_mapEntries.mp he
    exact List.map_map
  reference := by
    intro e he
    obtain ⟨b, -, x, -, rfl⟩ := mem_entries_mapEntries.mp he
    by_cases h : linksTo ls x.key = []
    · have hnone := List.filter_eq_nil_iff.mp h
      simpa [Entry.withLinks, Entry.linked, h, Link.pair] using hnone
    · obtain ⟨l, hl⟩ := List.exists_mem_of_ne_nil _ h
      obtain ⟨hl, hk⟩ := List.mem_filter.mp hl
      refine ⟨fun _ => ⟨l.pair, List.mem_map_of_mem hl, of_decide_eq_true hk⟩, fun _ => ?_⟩
      simp [Entry.withLinks, Entry.linked, h]
  owners := by
    intro e he r hr
    obtain ⟨b, -, x, -, rfl⟩ := mem_entries_mapEntries.mp he
    by_cases h : linksTo ls x.key = []
    · simp [Entry.withLinks, Entry.linked, h] at hr
    · simp only [Entry.withLinks, Entry.linked, h, if_false, Option.some.injEq] at hr
      rw [← hr, List.map_map]
      exact linksTo_owners x.key
  agree := by
    intro owner ho child hc hp
    obtain ⟨b, hb, x, hx, rfl⟩ := mem_entries_mapEntries.mp ho
    obtain ⟨d, hd, y, hy, rfl⟩ := mem_entries_mapEntries.mp hc
    obtain ⟨l, hl, hlp⟩ := List.mem_map.mp hp
    obtain ⟨hlx, hly⟩ := Prod.mk.inj hlp
    have hinto : l ∈ linksTo ls y.key := List.mem_filter.mpr ⟨hl, decide_eq_true hly⟩
    have hne : linksTo ls y.key ≠ [] := List.ne_nil_of_mem hinto
    obtain ⟨rfl, rfl⟩ := k.eq_entry (hls l hl).branch hd (hls l hl).child hy hly
    refine ⟨_, if_neg hne, fun a ha hak => ?_⟩
    obtain ⟨m, hm, rfl⟩ := List.mem_map.mp ha
    obtain ⟨hm, hmx⟩ := List.mem_filter.mp hm
    have hml : m = l := Link.eq_of_pair k (hls m hm) (hls l hl)
      (Prod.ext ((of_decide_eq_true hmx).trans hlx.symm) hak)
    subst hml
    refine ⟨rfl, fun o ho hok => ?_⟩
    obtain ⟨n, hn, rfl⟩ := List.mem_map.mp ho
    obtain ⟨hn, hny⟩ := List.mem_filter.mp hn
    have hnm : n = m := Link.eq_of_pair k (hls n hn) (hls m hm)
      (Prod.ext (Eq.trans hok hlx.symm) (of_decide_eq_true hny))
    rw [hnm]
    rfl

lemma declarationsOf_pair (owner : Identity) (index sub : Nat) (refs : List Reference) :
    (declarationsOf owner index sub refs).map Declaration.pair =
      refs.map fun r => (owner, r.identity) := by
  induction refs generalizing sub with
  | nil => rfl
  | cons r rs ih => rw [declarationsOf, List.map_cons, ih, List.map_cons, Declaration.pair]

lemma declarationsFrom_pair (index : Nat) (specs : List Resource) :
    (declarationsFrom index specs).map Declaration.pair =
      specs.flatMap fun s => s.references.map fun r => (s.identity, r.identity) := by
  induction specs generalizing index with
  | nil => rfl
  | cons s rest ih =>
    rw [declarationsFrom, List.map_append, declarationsOf_pair, ih, List.flatMap_cons]

lemma mem_declarations {d : Declaration} (h : d ∈ declarations specs) :
    ∃ s ∈ specs, d.owner = s.identity ∧ ∃ r ∈ s.references, d.child = r.identity := by
  have hp := List.mem_map_of_mem (f := Declaration.pair) h
  rw [declarations, declarationsFrom_pair, List.mem_flatMap] at hp
  obtain ⟨s, hs, hp⟩ := hp
  obtain ⟨r, hr, heq⟩ := List.mem_map.mp hp
  obtain ⟨ho, hc⟩ := Prod.mk.inj heq
  exact ⟨s, hs, ho.symm, r, hr, hc.symm⟩

lemma IsUnlinked.find?_isSome (u : IsUnlinked layout specs t) (hclashes : clashes specs = [])
    {id : Identity} (hid : '/' ∉ id.version.toList) :
    (t.find? id).isSome = specs.any fun s => s.identity = id := by
  rw [Bool.eq_iff_iff, u.keyed.find?_isSome_iff hid, u.exists_entry_iff, List.any_eq_true]
  constructor
  · rintro ⟨o, ho, rfl⟩
    exact ⟨o, ho.mem, by simp⟩
  · rintro ⟨s, hs, hsid⟩
    obtain ⟨o, ho, hos⟩ := registers_of_clashes hclashes hs
    exact ⟨o, ho, hos.trans (of_decide_eq_true hsid)⟩

lemma IsUnlinked.knownPairs_eq (u : IsUnlinked layout specs t) (hclashes : clashes specs = [])
    (hvalid : ∀ s ∈ specs, s.IsValid) :
    (knownPairs t (declarations specs)).eraseDups = declaredPairs specs := by
  have hfilter : knownPairs t (declarations specs) =
      ((declarations specs).filter fun d => specs.any fun s => s.identity = d.child).map
        Declaration.pair := by
    refine congrArg _ (List.filter_congr fun d hd => ?_)
    obtain ⟨s, hs, -, r, hr, hc⟩ := mem_declarations hd
    rw [hc]
    exact u.find?_isSome hclashes ((hvalid s hs).references r hr).isName_version.no_slash
  rw [hfilter, declaredPairs, ← declarationsFrom_pair 0, List.filter_map]
  rfl

/-- The declared references to resources that no spec is of, in the order of the specs and of their
references. -/
def lostReferences (specs : List Resource) : List Dropped :=
  ((declarations specs).filter fun d => !specs.any fun s => s.identity = d.child).map
    Declaration.toDropped

lemma IsUnlinked.unknown_eq (u : IsUnlinked layout specs t) (hclashes : clashes specs = [])
    (hvalid : ∀ s ∈ specs, s.IsValid) : unknown t (declarations specs) = lostReferences specs := by
  refine congrArg _ (List.filter_congr fun d hd => congrArg _ ?_)
  obtain ⟨s, hs, -, r, hr, hc⟩ := mem_declarations hd
  rw [hc]
  exact u.find?_isSome hclashes ((hvalid s hs).references r hr).isName_version.no_slash

/-- A tree and links that a list of specs is built into. -/
structure IsBuilt (layout : Layout) (specs : List Resource) (t : Tree) (links : List Link) :
    Prop where
  valid : ∀ s ∈ specs, s.IsValid
  clashes : clashes specs = []
  unlinked : IsUnlinked layout specs t
  linked : ∀ l ∈ links, Link.In t l
  pairs : links.map Link.pair = declaredPairs specs
  dropped : t.dropped = lostReferences specs

lemma build_isBuilt (h : (build layout specs).result = .ok t) :
    ∃ t₀ links, IsBuilt layout specs t₀ links ∧ t = t₀.withLinks links := by
  obtain ⟨hvalid, hclashes, t₀, u, hdropped, rfl⟩ := build_ok h
  have hds : ∀ d ∈ declarations specs, '/' ∉ d.child.version.toList ∧
      '/' ∉ d.owner.version.toList ∧ (t₀.find? d.owner).isSome = true := by
    intro d hd
    obtain ⟨s, hs, ho, r, hr, hc⟩ := mem_declarations hd
    have hs' := (hvalid s hs).identity.isName_version.no_slash
    rw [ho, hc]
    refine ⟨((hvalid s hs).references r hr).isName_version.no_slash, hs', ?_⟩
    rw [u.find?_isSome hclashes hs', List.any_eq_true]
    exact ⟨s, hs, by simp⟩
  have hbare : t₀.withLinks [] = t₀ := by
    refine mapEntries_id fun b hb e he => ?_
    obtain ⟨o, -, -, -, rfl⟩ := (u.entry b hb e).mp he
    exact linked_nil rfl rfl rfl b
  have hnil : ([] : List Link).map Link.pair = ([] : List (Identity × Identity)).eraseDups := by
    simp
  obtain ⟨links, hlinks, hpairs, hrun⟩ := followAll_withLinks u.keyed (by simp) hnil hds
  rw [hbare] at hrun
  rw [List.nil_append, u.knownPairs_eq hclashes hvalid] at hpairs
  refine ⟨_, links, ⟨hvalid, hclashes, u.with_dropped _, fun l hl => (hlinks l hl).with_dropped _,
    hpairs, ?_⟩, hrun⟩
  rw [hdropped, List.nil_append, u.unknown_eq hclashes hvalid]

lemma build_withLinks (h : (build layout specs).result = .ok t) :
    ∃ t₀ links, IsUnlinked layout specs t₀ ∧ (∀ s ∈ specs, s.IsValid) ∧
      (∀ l ∈ links, Link.In t₀ l) ∧ links.map Link.pair = declaredPairs specs ∧
      t = t₀.withLinks links := by
  obtain ⟨t₀, links, m, rfl⟩ := build_isBuilt h
  exact ⟨t₀, links, m.unlinked, m.valid, m.linked, m.pairs, rfl⟩

section Built

variable {links : List Link} {b : Branch} (u : IsUnlinked layout specs t)

include u

lemma IsUnlinked.frame_withLinks (hb : b ∈ (t.withLinks links).branches) : b.IsFrame layout := by
  obtain ⟨c, hc, rfl⟩ := List.mem_map.mp hb
  exact u.frame c hc

lemma IsUnlinked.owner_withLinks (hb : b ∈ (t.withLinks links).branches) :
    ∃ o ∈ specs, o.identity.group = b.group ∧ o.identity.version = b.version ∧
      OwnsDirectory specs o.identity := by
  obtain ⟨c, hc, rfl⟩ := List.mem_map.mp hb
  exact u.owner c hc

lemma IsUnlinked.entry_withLinks (hb : b ∈ (t.withLinks links).branches) {e : Entry} :
    e ∈ b.entries ↔ ∃ o, Registers specs o ∧ o.identity.group = b.group ∧
      o.identity.version = b.version ∧ e = (Entry.of layout b o).withLinks links b := by
  obtain ⟨c, hc, rfl⟩ := List.mem_map.mp hb
  rw [List.mem_map]
  constructor
  · rintro ⟨x, hx, rfl⟩
    obtain ⟨o, ho, hg, hv, rfl⟩ := (u.entry c hc x).mp hx
    exact ⟨o, ho, hg, hv, rfl⟩
  · rintro ⟨o, ho, hg, hv, rfl⟩
    exact ⟨_, (u.entry c hc _).mpr ⟨o, ho, hg, hv, rfl⟩, rfl⟩

lemma IsUnlinked.eq_of_dirs {c : Branch} (hb : b ∈ (t.withLinks links).branches)
    (hc : c ∈ (t.withLinks links).branches)
    (hs : Naming.groupSegment b.group = Naming.groupSegment c.group) (hv : b.version = c.version) :
    b = c := by
  obtain ⟨o, -, hog, hov, hown⟩ := u.owner_withLinks hb
  obtain ⟨o', -, hog', hov', hown'⟩ := u.owner_withLinks hc
  have hsame : sameDirectory o.identity o'.identity = true := by
    simp [sameDirectory, hog, hog', hov, hov', hs, hv]
  have hg : b.group = c.group := by rw [← hog, ← hog', hown.eq_group hown' hsame]
  exact (u.keyed.mapped (keepsKeys_withLinks links)).eq_branch hb hc hg hv

end Built

/-- **Linking is exact.** A built tree is linked by the pairs that its specs declare: every entry
has its children and its owners in the order of these pairs, and both sides of a link agree. -/
theorem build_isLinkedBy (layout : Layout) (specs : List Resource) (t : Tree)
    (h : (build layout specs).result = .ok t) : t.IsLinkedBy (declaredPairs specs) := by
  obtain ⟨t₀, links, u, -, hlinks, hpairs, rfl⟩ := build_withLinks h
  rw [← hpairs]
  exact isLinkedBy_withLinks u.keyed hlinks

/-- Two resources that own each other, the second one itself as well. -/
def mutualOwners : List Resource :=
  let deployment : Identity := ⟨"apps", "v1", "Deployment"⟩
  let replicaSet : Identity := ⟨"apps", "v1", "ReplicaSet"⟩
  [{ Resource.plain "apps" "v1" "Deployment" "deployments" with
      references := [⟨replicaSet, none⟩] },
    { Resource.plain "apps" "v1" "ReplicaSet" "replicasets" with
      references := [⟨deployment, none⟩, ⟨replicaSet, none⟩, ⟨deployment, none⟩] }]

lemma exists_of_isOk (specs : List Resource) (h : (build {} specs).result.isOk = true) :
    ∃ t, (build {} specs).result = .ok t := by
  rcases hb : (build {} specs).result with f | t
  · rw [hb] at h
    cases h
  · exact ⟨t, rfl⟩

lemma exists_of_any (specs : List Resource) (p : Tree → Bool)
    (h : (build {} specs).result.toOption.any p = true) :
    ∃ t, (build {} specs).result = .ok t ∧ p t = true := by
  rcases hb : (build {} specs).result with f | t
  · rw [hb] at h
    cases h
  · rw [hb] at h
    exact ⟨t, rfl, h⟩

lemma mutualOwners_built : ∃ t, (build {} mutualOwners).result = .ok t :=
  exists_of_isOk mutualOwners (by decide +kernel)

/-- Resources that own each other are linked in both directions, and each pair once. -/
theorem mutualOwners_isLinkedBy :
    ∃ t, (build {} mutualOwners).result = .ok t ∧
      t.IsLinkedBy [(⟨"apps", "v1", "Deployment"⟩, ⟨"apps", "v1", "ReplicaSet"⟩),
        (⟨"apps", "v1", "ReplicaSet"⟩, ⟨"apps", "v1", "Deployment"⟩),
        (⟨"apps", "v1", "ReplicaSet"⟩, ⟨"apps", "v1", "ReplicaSet"⟩)] := by
  obtain ⟨t, ht⟩ := mutualOwners_built
  have hpairs : declaredPairs mutualOwners =
      [(⟨"apps", "v1", "Deployment"⟩, ⟨"apps", "v1", "ReplicaSet"⟩),
        (⟨"apps", "v1", "ReplicaSet"⟩, ⟨"apps", "v1", "Deployment"⟩),
        (⟨"apps", "v1", "ReplicaSet"⟩, ⟨"apps", "v1", "ReplicaSet"⟩)] := by
    decide +kernel
  exact ⟨t, ht, hpairs ▸ build_isLinkedBy {} mutualOwners t ht⟩

end ClientGen.Tree
