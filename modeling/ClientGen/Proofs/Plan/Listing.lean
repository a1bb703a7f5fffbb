import ClientGen.Proofs.Plan.Destinations
import ClientGen.Proofs.Tree.Visit
import Mathlib.Data.List.Perm.Basic

/-!
The listing of a plan. Which files are planned, where and in which order, can be told from the specs
without the tree: from the resources that they are of, and from the resources that some of them
names as owned.
-/

namespace ClientGen

open Spec ClientGen.Tree

/-- Some spec names a resource as one that its own resource owns. -/
def Tree.IsOwned (specs : List Resource) (id : Identity) : Prop := ∃ s ∈ specs, Owns s id

instance (specs : List Resource) : DecidablePred (IsOwned specs) := fun id =>
  inferInstanceAs (Decidable (∃ s ∈ specs, Owns s id))

/-- A planned file without what its text is made from. -/
def PlannedFile.heading (f : PlannedFile) : Role × String × Option Identity :=
  (f.role, f.destination, f.identity?)

section Listing

variable (layout : Layout) (specs : List Resource)

/-- The roles of the files of a resource: there is a reference file if the resource is owned. -/
def rolesOf (id : Identity) : List Role :=
  [.client, .reader, .object] ++ if IsOwned specs id then [.reference] else []

def resourceListing (id : Identity) : List (Role × String × Option Identity) :=
  (rolesOf specs id).map fun role =>
    (role, Path.join (Naming.groupVersionDir layout.rootPath id.group id.version)
      (Naming.stem id.kind ++ role.ending), some id)

/-- The files of a group-version: its client, then the files of its resources. -/
def groupVersionListing (gv : String × String) : List (Role × String × Option Identity) :=
  (.groupVersionClient,
      Path.join (Naming.groupVersionDir layout.rootPath gv.1 gv.2) Naming.clientFile, none)
    :: (resourcesOf specs gv).flatMap (resourceListing layout specs)

/-- All files: the root client, then the files of the group-versions. -/
def listing : List (Role × String × Option Identity) :=
  (.rootClient, Path.join layout.rootPath Naming.clientFile, none)
    :: (groupVersions specs).flatMap (groupVersionListing layout specs)

lemma length_resourceListings (ids : List Identity) :
    (ids.flatMap (resourceListing layout specs)).length =
      3 * ids.length + (ids.filter (IsOwned specs)).length := by
  induction ids with
  | nil => rfl
  | cons id ids ih =>
    rw [List.flatMap_cons, List.length_append, ih, List.filter_cons]
    by_cases h : IsOwned specs id <;> simp [resourceListing, rolesOf, h] <;> omega

def groupVersionHeading (gv : String × String) : Role × String × Option Identity :=
  (.groupVersionClient,
    Path.join (Naming.groupVersionDir layout.rootPath gv.1 gv.2) Naming.clientFile, none)

lemma listing_perm : (listing layout specs).Perm
    ((.rootClient, Path.join layout.rootPath Naming.clientFile, none)
      :: ((groupVersions specs).map (groupVersionHeading layout)
        ++ (identities specs).flatMap (resourceListing layout specs))) := by
  have hclients : ((groupVersions specs).flatMap (groupVersionListing layout specs)).Perm
      ((groupVersions specs).map (groupVersionHeading layout) ++ (groupVersions specs).flatMap
        fun gv => (resourcesOf specs gv).flatMap (resourceListing layout specs)) :=
    (List.map_append_flatMap_perm _ _ _).symm
  have hvisited : ((groupVersions specs).flatMap fun gv =>
      (resourcesOf specs gv).flatMap (resourceListing layout specs)) =
        (visited specs).flatMap (resourceListing layout specs) :=
    List.flatMap_assoc.symm
  rw [hvisited] at hclients
  exact (hclients.trans (((visited_perm specs).flatMap_right _).append_left _)).cons _

lemma length_listing : (listing layout specs).length = 1 + (groupVersions specs).length +
    3 * (identities specs).length + ((identities specs).filter (IsOwned specs)).length := by
  rw [(listing_perm layout specs).length_eq, List.length_cons, List.length_append, List.length_map,
    length_resourceListings]
  omega

end Listing

/-! ### The headings of a built tree -/

lemma entry_plan_roles (rootPackage : String) (b : Branch) (e : Entry) :
    (e.plan rootPackage b).map PlannedFile.role = [.client, .reader, .object] ++
      if e.reference?.isSome = true then [.reference] else [] := by
  rcases h : e.reference? with _ | r <;> simp [Entry.plan, h]

section Built

variable {layout : Layout} {specs : List Resource} {t : Tree} {links : List Link} {b : Branch}
  {e : Entry} (m : IsBuilt layout specs t links)

include m

lemma linksTo_ne_nil_iff (he : e ∈ t.entries) : linksTo links e.key ≠ [] ↔ IsOwned specs e.key := by
  have hmap : linksTo links e.key ≠ [] ↔
      ((declaredPairs specs).filter fun p => p.2 = e.key) ≠ [] := by
    rw [← m.pairs, ← linksTo_pairs, Ne, Ne, List.map_eq_nil_iff]
  rw [hmap, Ne, List.filter_eq_nil_iff]
  obtain ⟨o, ho, hid⟩ := m.unlinked.exists_entry_iff.mp ⟨e, he, rfl⟩
  push Not
  constructor
  · rintro ⟨p, hp, hpe⟩
    obtain ⟨⟨s, hs, -, hown⟩, -⟩ := mem_declaredPairs.mp hp
    rw [of_decide_eq_true hpe] at hown
    exact ⟨s, hs, hown⟩
  · rintro ⟨s, hs, hown⟩
    exact ⟨(s.identity, e.key),
      mem_declaredPairs.mpr ⟨⟨s, hs, rfl, hown⟩, o, ho.mem, hid⟩, decide_eq_true rfl⟩

lemma entry_headings (rootPackage : String) (hb : b ∈ t.branches) (he : e ∈ b.entries)
    (c : Branch) : ((e.withLinks links b).plan rootPackage c).map PlannedFile.heading =
      resourceListing layout specs e.key := by
  have howned := linksTo_ne_nil_iff m (mem_entries.mpr ⟨b, hb, he⟩)
  obtain ⟨o, ho, hg, hv, rfl⟩ := (m.unlinked.entry b hb e).mp he
  have hroles : (((Entry.of layout b o).withLinks links b).plan rootPackage c).map
      PlannedFile.role = rolesOf specs o.identity := by
    rw [entry_plan_roles, rolesOf]
    exact congrArg _ (if_congr (withLinks_reference?_isSome.trans howned) rfl rfl)
  rw [of_key, resourceListing, ← hroles, List.map_map]
  refine List.map_congr_left fun f hf => ?_
  obtain ⟨hid, hdest⟩ := entry_plan hf
  rw [PlannedFile.heading, hdest, hid, PlannedFile.name, PlannedFile.stem, hid,
    (m.unlinked.frame b hb).location, ← hg, ← hv]
  rfl

lemma branch_headings (rootPackage : String) (hb : b ∈ t.branches) :
    (Branch.plan rootPackage { b with entries := b.entries.map (Entry.withLinks links b) }).map
      PlannedFile.heading = groupVersionListing layout specs (b.group, b.version) := by
  have hclient : (Branch.clientFile rootPackage
        { b with entries := b.entries.map (Entry.withLinks links b) }).heading =
      (.groupVersionClient, Path.join (Naming.groupVersionDir layout.rootPath b.group b.version)
        Naming.clientFile, none) := by
    rw [← (m.unlinked.frame b hb).location, ← (m.unlinked.frame b hb).file]
    rfl
  rw [branch_plan_eq, List.map_cons, hclient, groupVersionListing,
    ← m.unlinked.resourcesOf_eq m.clashes hb, List.map_flatMap, List.flatMap_map, List.flatMap_map]
  exact congrArg _ (List.flatMap_congr fun e he => entry_headings m rootPackage hb he _)

lemma plan_headings :
    (t.withLinks links).plan.map PlannedFile.heading = listing layout specs := by
  have hroot : (t.withLinks links).rootFile.heading =
      (.rootClient, Path.join layout.rootPath Naming.clientFile, none) :=
    congrArg (fun r : Tree => (Role.rootClient, r.file, none)) m.unlinked.root
  rw [plan_eq, List.map_cons, hroot, listing, ← m.unlinked.groupVersions_eq m.clashes m.valid,
    List.map_flatMap, List.flatMap_map, withLinks, mapEntries, List.flatMap_map]
  exact congrArg _ (List.flatMap_congr fun b hb => branch_headings m t.package hb)

end Built

/-- **The listing of a plan.** The plan of a built tree has the files that its specs call for, in
their order, and no two of them at one place; there are three for each resource, one more for each
that is owned, one for each group-version and the root client. -/
theorem plan_listing (layout : Layout) (specs : List Resource) (t : Tree)
    (h : (build layout specs).result = .ok t) :
    t.plan.map PlannedFile.heading = listing layout specs ∧
      (t.plan.map PlannedFile.destination).Nodup ∧
      t.plan.length = 1 + (groupVersions specs).length + 3 * (identities specs).length +
        ((identities specs).filter (IsOwned specs)).length := by
  obtain ⟨t₀, links, m, rfl⟩ := build_isBuilt h
  have hlisting := plan_headings m
  refine ⟨hlisting, (plan_components_nodup m.unlinked m.valid).of_map, ?_⟩
  rw [← length_listing layout, ← hlisting, List.length_map]

/-- Jobs of two groups, of which the text of one begins with that of the other. The second spec of
one of them says that it owns the other one. -/
def batchJobs : List Resource :=
  [.plain "batch" "v1" "Job" "jobs", .plain "batch.volcano.sh" "v1" "Job" "jobs",
    { Resource.plain "batch" "v1" "Job" "Jobs" with
      references := [⟨⟨"batch.volcano.sh", "v1", "Job"⟩, none⟩] }]

/-- Of two specs of one resource the second one counts for what it owns only. -/
theorem batchJobs_listing : ∃ t, (build {} batchJobs).result = .ok t ∧ t.plan.length = 10 ∧
    t.plan.map PlannedFile.heading =
      let volcano : Identity := ⟨"batch.volcano.sh", "v1", "Job"⟩
      let batch : Identity := ⟨"batch", "v1", "Job"⟩
      [(.rootClient, "generated/client.rs", none),
        (.groupVersionClient, "generated/batch_volcano_sh/v1/client.rs", none),
        (.client, "generated/batch_volcano_sh/v1/job_client.rs", some volcano),
        (.reader, "generated/batch_volcano_sh/v1/job_reader.rs", some volcano),
        (.object, "generated/batch_volcano_sh/v1/job.rs", some volcano),
        (.reference, "generated/batch_volcano_sh/v1/job_reference.rs", some volcano),
        (.groupVersionClient, "generated/batch/v1/client.rs", none),
        (.client, "generated/batch/v1/job_client.rs", some batch),
        (.reader, "generated/batch/v1/job_reader.rs", some batch),
        (.object, "generated/batch/v1/job.rs", some batch)] := by
  obtain ⟨t, ht⟩ := exists_of_isOk batchJobs (by decide +kernel)
  obtain ⟨hlisting, -, hlength⟩ := plan_listing {} batchJobs t ht
  exact ⟨t, ht, hlength.trans (by decide +kernel), hlisting.trans (by decide +kernel)⟩

end ClientGen
