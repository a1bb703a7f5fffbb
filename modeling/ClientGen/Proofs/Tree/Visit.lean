import ClientGen.Proofs.Text.Bytes
import ClientGen.Proofs.Tree.Permutation

/-!
The order of a tree, read off the list of specs alone. The branches are the distinct group-versions
of the specs, by the bytes of their texts, and the entries of a branch are the distinct kinds of its
group-version, by their bytes. Copies among the specs and the order of the specs make no difference.
-/

namespace ClientGen.Tree

open Spec

variable {layout : Layout} {specs : List Resource} {t : Tree} {links : List Link} {b : Branch}

def pairOf (id : Identity) : String × String := (id.group, id.version)

def labelOf (gv : String × String) : String := Naming.groupVersionLabel gv.1 gv.2

/-- The distinct resources of the specs. -/
def identities (specs : List Resource) : List Identity := (specs.map Resource.identity).eraseDups

/-- The distinct group-versions of the specs, in the order of the bytes of their texts. -/
def groupVersions (specs : List Resource) : List (String × String) :=
  Text.ascending labelOf ((identities specs).map pairOf).eraseDups

/-- The distinct kinds of a group-version among the specs, in the order of their bytes. -/
def kinds (specs : List Resource) (gv : String × String) : List String :=
  Text.ascending id (((identities specs).filter fun i => pairOf i = gv).map Identity.kind).eraseDups

/-- The distinct resources of a group-version among the specs, in the order of their kinds. -/
def resourcesOf (specs : List Resource) (gv : String × String) : List Identity :=
  (kinds specs gv).map fun kind => ⟨gv.1, gv.2, kind⟩

/-- The distinct resources of the specs in the order of the tree. -/
def visited (specs : List Resource) : List Identity :=
  (groupVersions specs).flatMap (resourcesOf specs)

/-! ### Group-versions and kinds of a list -/

lemma mem_identities {id : Identity} : id ∈ identities specs ↔ ∃ s ∈ specs, s.identity = id := by
  rw [identities, List.mem_eraseDups, List.mem_map]

lemma mem_groupVersions {gv : String × String} :
    gv ∈ groupVersions specs ↔ ∃ id ∈ identities specs, pairOf id = gv := by
  rw [groupVersions, Text.mem_ascending, List.mem_eraseDups, List.mem_map]

lemma mem_kinds {gv : String × String} {kind : String} :
    kind ∈ kinds specs gv ↔ ⟨gv.1, gv.2, kind⟩ ∈ identities specs := by
  rw [kinds, Text.mem_ascending, List.mem_eraseDups, List.mem_map]
  constructor
  · rintro ⟨id, hid, rfl⟩
    obtain ⟨hid, hgv⟩ := List.mem_filter.mp hid
    rwa [← of_decide_eq_true hgv]
  · intro h
    exact ⟨_, List.mem_filter.mpr ⟨h, decide_eq_true rfl⟩, rfl⟩

lemma mem_resourcesOf {gv : String × String} {id : Identity} :
    id ∈ resourcesOf specs gv ↔ id ∈ identities specs ∧ pairOf id = gv := by
  rw [resourcesOf, List.mem_map]
  constructor
  · rintro ⟨kind, hk, rfl⟩
    exact ⟨mem_kinds.mp hk, rfl⟩
  · rintro ⟨hid, rfl⟩
    exact ⟨id.kind, mem_kinds.mpr hid, rfl⟩

lemma nodup_groupVersions (specs : List Resource) : (groupVersions specs).Nodup :=
  (List.perm_insertionSort _ _).nodup_iff.mpr (nodup_eraseDups _)

lemma nodup_kinds (specs : List Resource) (gv : String × String) : (kinds specs gv).Nodup :=
  (List.perm_insertionSort _ _).nodup_iff.mpr (nodup_eraseDups _)

lemma visited_perm (specs : List Resource) : (visited specs).Perm (identities specs) := by
  have hnodup : (visited specs).Nodup := by
    refine List.nodup_flatMap.mpr ⟨fun gv _ => ?_, ?_⟩
    · exact (nodup_kinds specs gv).map fun k k' h => congrArg Identity.kind h
    · refine (nodup_groupVersions specs).imp fun {gv gv'} hne id hid hid' => hne ?_
      rw [← (mem_resourcesOf.mp hid).2, (mem_resourcesOf.mp hid').2]
  refine (List.perm_ext_iff_of_nodup hnodup (nodup_eraseDups _)).mpr fun id => ?_
  rw [visited, List.mem_flatMap]
  constructor
  · rintro ⟨gv, -, hid⟩
    exact (mem_resourcesOf.mp hid).1
  · intro hid
    exact ⟨_, mem_groupVersions.mpr ⟨id, hid, rfl⟩, mem_resourcesOf.mpr ⟨hid, rfl⟩⟩

lemma sorted_kinds (specs : List Resource) (gv : String × String) :
    Text.Sorted id (kinds specs gv) :=
  Text.sorted_ascending (by rw [List.map_id]; exact nodup_eraseDups _)

lemma sorted_groupVersions (hvalid : ∀ s ∈ specs, s.IsValid) :
    Text.Sorted labelOf (groupVersions specs) := by
  refine Text.sorted_ascending (List.Nodup.map_on (fun gv hgv gv' hgv' h => ?_) (nodup_eraseDups _))
  have hslash : ∀ {x : String × String}, x ∈ ((identities specs).map pairOf).eraseDups →
      '/' ∉ x.2.toList := by
    intro x hx
    obtain ⟨id, hid, rfl⟩ := List.mem_map.mp (List.mem_eraseDups.mp hx)
    obtain ⟨s, hs, rfl⟩ := mem_identities.mp hid
    exact (hvalid s hs).identity.isName_version.no_slash
  obtain ⟨hg, hv⟩ := (Naming.groupVersionLabel_inj (hslash hgv) (hslash hgv')).mp h
  exact Prod.ext hg hv

/-! ### Branches and entries of a tree -/

section Unlinked

variable (u : IsUnlinked layout specs t) (hclashes : clashes specs = [])

include u hclashes

lemma IsUnlinked.groupVersions_eq (hvalid : ∀ s ∈ specs, s.IsValid) :
    t.branches.map (fun b => (b.group, b.version)) = groupVersions specs := by
  have hsorted : Text.Sorted labelOf (t.branches.map fun b => (b.group, b.version)) :=
    Text.sorted_map u.keyed.sorted fun _ _ => rfl
  refine hsorted.eq_of_mem_iff (sorted_groupVersions hvalid) fun gv => ?_
  rw [List.mem_map, mem_groupVersions]
  constructor
  · rintro ⟨b, hb, rfl⟩
    obtain ⟨s, hs, hg, hv, -⟩ := u.owner b hb
    exact ⟨s.identity, mem_identities.mpr ⟨s, hs, rfl⟩, Prod.ext hg hv⟩
  · rintro ⟨id, hid, rfl⟩
    obtain ⟨s, hs, rfl⟩ := mem_identities.mp hid
    obtain ⟨o, ho, hid⟩ := registers_of_clashes hclashes hs
    obtain ⟨b, hb, hg, hv⟩ := u.branch o ho
    rw [hid] at hg hv
    exact ⟨b, hb, Prod.ext hg hv⟩

lemma IsUnlinked.kinds_eq (hb : b ∈ t.branches) :
    b.entries.map Entry.kind = kinds specs (b.group, b.version) := by
  have hsorted : Text.Sorted id (b.entries.map Entry.kind) :=
    Text.sorted_map (u.keyed.entries_sorted b hb) fun _ _ => rfl
  refine hsorted.eq_of_mem_iff (sorted_kinds specs _) fun kind => ?_
  rw [List.mem_map, mem_kinds, mem_identities]
  constructor
  · rintro ⟨e, he, rfl⟩
    obtain ⟨o, ho, hg, hv, rfl⟩ := (u.entry b hb e).mp he
    exact ⟨o, ho.mem, identity_ext hg hv rfl⟩
  · rintro ⟨s, hs, hid⟩
    obtain ⟨o, ho, hos⟩ := registers_of_clashes hclashes hs
    rw [hid] at hos
    exact ⟨_, (u.entry b hb _).mpr
      ⟨o, ho, congrArg Identity.group hos, congrArg Identity.version hos, rfl⟩,
      congrArg Identity.kind hos⟩

lemma IsUnlinked.resourcesOf_eq (hb : b ∈ t.branches) :
    b.entries.map Entry.key = resourcesOf specs (b.group, b.version) := by
  rw [resourcesOf, ← u.kinds_eq hclashes hb, List.map_map]
  exact List.map_congr_left fun e he => u.keyed.key b hb e he

lemma IsUnlinked.visited_eq (hvalid : ∀ s ∈ specs, s.IsValid) :
    t.entries.map Entry.key = visited specs := by
  rw [visited, ← u.groupVersions_eq hclashes hvalid, List.flatMap_map, entries, List.map_flatMap]
  exact List.flatMap_congr fun b hb => u.resourcesOf_eq hclashes hb

end Unlinked

lemma withLinks_entries_map {α : Type} {f : Entry → α}
    (hf : ∀ ls b e, f (Entry.withLinks ls b e) = f e) (ls : List Link) (t : Tree) :
    (t.withLinks ls).entries.map f = t.entries.map f := by
  rw [entries, entries, List.map_flatMap, List.map_flatMap, withLinks, mapEntries, List.flatMap_map]
  refine List.flatMap_congr fun b _ => ?_
  rw [List.map_map]
  exact List.map_congr_left fun e _ => hf ls b e

lemma withLinks_entries_key (ls : List Link) (t : Tree) :
    (t.withLinks ls).entries.map Entry.key = t.entries.map Entry.key :=
  withLinks_entries_map (fun _ _ _ => rfl) ls t

/-- **The order of the tree.** A built tree has an entry for each resource of its specs, by the
bytes of the group-version and then of the kind, and nothing else. -/
theorem build_visited (layout : Layout) (specs : List Resource) (t : Tree)
    (h : (build layout specs).result = .ok t) : t.entries.map Entry.key = visited specs := by
  obtain ⟨t₀, links, m, rfl⟩ := build_isBuilt h
  rw [withLinks_entries_key, m.unlinked.visited_eq m.clashes m.valid]

end ClientGen.Tree
