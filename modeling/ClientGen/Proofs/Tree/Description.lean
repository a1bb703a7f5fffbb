import ClientGen.Proofs.Tree.Firsts

/-!
The tree that a list of specs describes. What registration and linking lead to step by step is here
written down at once: the group-versions and the resources of the specs in their order, each with
what its first spec says of it, with the resources that it owns and with those that own it.
-/

namespace ClientGen.Tree

open Spec

variable {layout : Layout} {specs : List Resource} {t : Tree} {links : List Link} {o : Resource}
  {id : Identity}

/-- The resources that a resource owns, in the order of their first mention. -/
def ownedIn (specs : List Resource) (id : Identity) : List Identity :=
  ((declaredPairs specs).filter fun p => p.1 = id).map Prod.snd

/-- The resources that own a resource, in the order in which they first say so. -/
def ownersIn (specs : List Resource) (id : Identity) : List Identity :=
  ((declaredPairs specs).filter fun p => p.2 = id).map Prod.fst

def firstsOf (specs : List Resource) (ids : List Identity) : List Resource :=
  ids.filterMap (firstOf? specs)

def linkOf (layout : Layout) (owner child : Resource) : Link where
  owner := entryOf layout owner
  child := entryOf layout child
  branch := Branch.empty layout child.identity.group child.identity.version

def linkedOf (layout : Layout) (specs : List Resource) (o : Resource) : Entry :=
  (entryOf layout o).linked ((firstsOf specs (ownedIn specs o.identity)).map (linkOf layout o))
    ((firstsOf specs (ownersIn specs o.identity)).map (linkOf layout · o))
    (Branch.empty layout o.identity.group o.identity.version)

def branchOf (layout : Layout) (specs : List Resource) (gv : String × String) : Branch :=
  { Branch.empty layout gv.1 gv.2 with
    entries := (firstsOf specs (resourcesOf specs gv)).map (linkedOf layout specs) }

def treeOf (layout : Layout) (specs : List Resource) : Tree :=
  { empty layout with
    branches := (groupVersions specs).map (branchOf layout specs)
    dropped := lostReferences specs }

/-! ### First specs -/

lemma firstOf?_eq_some (h : firstOf? specs id = some o) : o ∈ specs ∧ o.identity = id :=
  ⟨List.mem_of_find?_eq_some h, by simpa using List.find?_some h⟩

lemma mem_firstsOf {ids : List Identity} :
    o ∈ firstsOf specs ids ↔ o.identity ∈ ids ∧ firstOf? specs o.identity = some o := by
  rw [firstsOf, List.mem_filterMap]
  constructor
  · rintro ⟨id, hid, h⟩
    obtain ⟨-, rfl⟩ := firstOf?_eq_some h
    exact ⟨hid, h⟩
  · rintro ⟨hid, h⟩
    exact ⟨_, hid, h⟩

lemma mem_of_mem_firstsOf {ids : List Identity} (h : o ∈ firstsOf specs ids) : o ∈ specs :=
  (firstOf?_eq_some (mem_firstsOf.mp h).2).1

lemma exists_firstOf? (h : ∃ s ∈ specs, s.identity = id) : ∃ o, firstOf? specs id = some o := by
  obtain ⟨s, hs, hid⟩ := h
  exact Option.isSome_iff_exists.mp (List.find?_isSome.mpr ⟨s, hs, decide_eq_true hid⟩)

lemma firstsOf_identity {ids : List Identity} (h : ∀ id ∈ ids, ∃ s ∈ specs, s.identity = id) :
    (firstsOf specs ids).map Resource.identity = ids := by
  rw [firstsOf, List.map_filterMap]
  have hself :
      ids.filterMap (fun id => (firstOf? specs id).map Resource.identity) = ids.map id := by
    refine List.filterMap_eq_map_iff_forall_eq_some.mpr fun id hid => ?_
    obtain ⟨o, ho⟩ := exists_firstOf? (h id hid)
    rw [ho, Option.map_some, (firstOf?_eq_some ho).2, id_eq]
  rw [hself, List.map_id]

/-! ### Links -/

lemma mem_ownedIn {child : Identity} : child ∈ ownedIn specs id ↔
    (∃ s ∈ specs, s.identity = id ∧ Owns s child) ∧ ∃ s ∈ specs, s.identity = child := by
  simp only [ownedIn, List.mem_map, List.mem_filter, decide_eq_true_eq]
  constructor
  · rintro ⟨p, ⟨hp, rfl⟩, rfl⟩
    exact mem_declaredPairs.mp hp
  · intro h
    exact ⟨(id, child), ⟨mem_declaredPairs.mpr h, rfl⟩, rfl⟩

lemma nodup_ownedIn (specs : List Resource) (id : Identity) : (ownedIn specs id).Nodup :=
  nodup_map_filter Prod.fst Prod.snd (fun _ _ howner hchild => Prod.ext howner hchild)
    (nodup_declaredPairs specs) id

lemma mem_ownersIn {owner : Identity} : owner ∈ ownersIn specs id ↔
    (∃ s ∈ specs, s.identity = owner ∧ Owns s id) ∧ ∃ s ∈ specs, s.identity = id := by
  simp only [ownersIn, List.mem_map, List.mem_filter, decide_eq_true_eq]
  constructor
  · rintro ⟨p, ⟨hp, rfl⟩, rfl⟩
    exact mem_declaredPairs.mp hp
  · intro h
    exact ⟨(owner, id), ⟨mem_declaredPairs.mpr h, rfl⟩, rfl⟩

/-- A link without the entries of the child's branch. -/
def Link.bare (l : Link) : Link := { l with branch := { l.branch with entries := [] } }

lemma linked_bare (out into : List Link) (b : Branch) (e : Entry) :
    e.linked (out.map Link.bare) (into.map Link.bare) b = e.linked out into b := by
  have hchild : Link.toChild ∘ Link.bare = Link.toChild := rfl
  have howner : Link.toOwner ∘ Link.bare = Link.toOwner := rfl
  simp only [Entry.linked, List.map_map, List.map_eq_nil_iff, hchild, howner]
  rfl

lemma linked_frame {b : Branch} (h : b.IsFrame layout) (out into : List Link) (e : Entry) :
    e.linked out into (Branch.empty layout b.group b.version) = e.linked out into b := by
  rw [← h]
  rfl

@[simp] lemma linkedOf_key : (linkedOf layout specs o).key = o.identity := rfl

@[simp] lemma linkedOf_names :
    (linkedOf layout specs o).names = Names.of o.identity.kind o.plural := rfl

@[simp] lemma linkedOf_scope : (linkedOf layout specs o).scope = o.scope := rfl

@[simp] lemma linkedOf_reader : (linkedOf layout specs o).reader = (entryOf layout o).reader := rfl

@[simp] lemma linkedOf_object : (linkedOf layout specs o).object = (entryOf layout o).object := rfl

lemma linkedOf_references : (linkedOf layout specs o).references =
    (firstsOf specs (ownedIn specs o.identity)).map Resource.identity := by
  simp only [linkedOf, Entry.linked, List.map_map]
  rfl

lemma linkedOf_client (layout : Layout) (specs : List Resource) (o : Resource) :
    (linkedOf layout specs o).client =
      { (entryOf layout o).client with
        children := (firstsOf specs (ownedIn specs o.identity)).map fun c =>
          (linkOf layout o c).toChild } := by
  rw [linkedOf, Entry.linked, List.map_map, List.map_map]
  rfl

lemma linkedOf_reference? (layout : Layout) (specs : List Resource) (o : Resource) :
    (linkedOf layout specs o).reference? =
      if firstsOf specs (ownersIn specs o.identity) = [] then none
      else some { ReferencePart.of (Branch.empty layout o.identity.group o.identity.version)
          (entryOf layout o) with
        owners := (firstsOf specs (ownersIn specs o.identity)).map fun a =>
          (linkOf layout a o).toOwner } := by
  simp only [linkedOf, Entry.linked, List.map_map, List.map_eq_nil_iff]
  rfl

lemma linkedOf_children_key (layout : Layout) (specs : List Resource) (o : Resource) :
    (linkedOf layout specs o).client.children.map Child.key = ownedIn specs o.identity := by
  rw [linkedOf_client, List.map_map]
  exact firstsOf_identity fun id hid => (mem_ownedIn.mp hid).2

lemma linkedOf_owners_key {r : ReferencePart}
    (hr : (linkedOf layout specs o).reference? = some r) :
    r.owners.map Owner.key = ownersIn specs o.identity := by
  rw [linkedOf_reference?] at hr
  split at hr
  · cases hr
  · rw [← Option.some.inj hr, List.map_map]
    refine firstsOf_identity fun id hid => ?_
    obtain ⟨⟨a, ha, hid, -⟩, -⟩ := mem_ownersIn.mp hid
    exact ⟨a, ha, hid⟩

lemma linkOf_eq {b : Branch} (h : b.IsFrame layout) (a : Resource) {c : Resource}
    (hg : c.identity.group = b.group) (hv : c.identity.version = b.version) :
    linkOf layout a c = ⟨entryOf layout a, entryOf layout c, { b with entries := [] }⟩ := by
  rw [linkOf, hg, hv, ← h]

lemma map_bare {ls : List Link} {key : Link → Identity} {link : Resource → Link}
    (h : ∀ l ∈ ls, ∃ a, firstOf? specs (key l) = some a ∧ l.bare = link a) :
    ls.map Link.bare = (firstsOf specs (ls.map key)).map link := by
  rw [firstsOf, List.filterMap_map, List.map_filterMap]
  refine (List.filterMap_eq_map_iff_forall_eq_some.mpr fun l hl => ?_).symm
  obtain ⟨a, ha, hbare⟩ := h l hl
  rw [Function.comp_apply, ha, Option.map_some, hbare]

section Built

variable (m : IsBuilt layout specs t links)

include m

lemma IsBuilt.bare_eq_linkOf {l : Link} (hl : l ∈ links) :
    ∃ a c, firstOf? specs l.owner.key = some a ∧ firstOf? specs l.child.key = some c ∧
      l.bare = linkOf layout a c := by
  have hin := m.linked l hl
  obtain ⟨a, ha, howner⟩ := m.unlinked.eq_entryOf hin.owner
  obtain ⟨c, hc, hg, hv, hchild⟩ := m.unlinked.exists_entryOf hin.branch hin.child
  refine ⟨a, c, ha, by rw [hchild]; exact hc, ?_⟩
  rw [linkOf_eq (m.unlinked.frame _ hin.branch) a hg hv, ← howner, ← hchild, Link.bare]

lemma IsBuilt.linksFrom_bare (ho : firstOf? specs o.identity = some o) :
    (linksFrom links o.identity).map Link.bare =
      (firstsOf specs (ownedIn specs o.identity)).map (linkOf layout o) := by
  rw [ownedIn, ← m.pairs, ← linksFrom_children]
  refine map_bare fun l hl => ?_
  obtain ⟨hl, hkey⟩ := List.mem_filter.mp hl
  obtain ⟨a, c, ha, hc, hbare⟩ := m.bare_eq_linkOf hl
  rw [of_decide_eq_true hkey, ho, Option.some.injEq] at ha
  exact ⟨c, hc, ha ▸ hbare⟩

lemma IsBuilt.linksTo_bare (ho : firstOf? specs o.identity = some o) :
    (linksTo links o.identity).map Link.bare =
      (firstsOf specs (ownersIn specs o.identity)).map (linkOf layout · o) := by
  rw [ownersIn, ← m.pairs, ← linksTo_owners]
  refine map_bare fun l hl => ?_
  obtain ⟨hl, hkey⟩ := List.mem_filter.mp hl
  obtain ⟨a, c, ha, hc, hbare⟩ := m.bare_eq_linkOf hl
  rw [of_decide_eq_true hkey, ho, Option.some.injEq] at hc
  exact ⟨a, ha, hc ▸ hbare⟩

lemma IsBuilt.entry_eq {b : Branch} (hb : b ∈ t.branches) {e : Entry} (he : e ∈ b.entries) :
    (firstOf? specs e.key).map (linkedOf layout specs) = some (e.withLinks links b) := by
  obtain ⟨o, ho, hg, hv, rfl⟩ := m.unlinked.exists_entryOf hb he
  have hkey : (entryOf layout o).key = o.identity := rfl
  rw [hkey, ho, Option.map_some, linkedOf, ← m.linksFrom_bare ho, ← m.linksTo_bare ho,
    linked_bare, hg, hv, linked_frame (m.unlinked.frame b hb), Entry.withLinks, hkey]

lemma IsBuilt.branch_eq {b : Branch} (hb : b ∈ t.branches) :
    { b with entries := b.entries.map (Entry.withLinks links b) } =
      branchOf layout specs (b.group, b.version) := by
  have hentries : (firstsOf specs (resourcesOf specs (b.group, b.version))).map
      (linkedOf layout specs) = b.entries.map (Entry.withLinks links b) := by
    rw [firstsOf, ← m.unlinked.resourcesOf_eq m.clashes hb, List.filterMap_map, List.map_filterMap]
    exact List.filterMap_eq_map_iff_forall_eq_some.mpr fun e he => m.entry_eq hb he
  rw [branchOf, hentries, ← m.unlinked.frame b hb]

lemma IsBuilt.eq_treeOf : t.withLinks links = treeOf layout specs := by
  have hbranches :
      (t.withLinks links).branches = (groupVersions specs).map (branchOf layout specs) := by
    rw [← m.unlinked.groupVersions_eq m.clashes m.valid, List.map_map, withLinks, mapEntries]
    exact List.map_congr_left fun b hb => m.branch_eq hb
  rw [treeOf, ← hbranches, ← m.unlinked.root, ← m.dropped]
  rfl

end Built

/-- **The described tree.** What is built from specs is the tree that they describe. -/
theorem build_eq_treeOf (h : (build layout specs).result = .ok t) : t = treeOf layout specs := by
  obtain ⟨t₀, links, m, rfl⟩ := build_isBuilt h
  exact m.eq_treeOf

end ClientGen.Tree
