import ClientGen.Proofs.Plan.Files
import ClientGen.Proofs.Tree.Description

/-!
The plan of the tree that specs describe, and what its files list: the root client the
group-versions, the client of a group-version its kinds, the client of a resource what it owns and a
reference file the owners.
-/

namespace ClientGen

open Spec ClientGen.Tree

variable {layout : Layout} {specs : List Resource} {o : Resource} {f : PlannedFile}

/-! ### What a file lists -/

def Context.groupVersion? : Context → Option (String × String)
  | .root _ _ _ _ => none
  | .groupVersion _ summary _ => some (summary.group, summary.version)
  | .resource _ summary _ _ _ => some (summary.group, summary.version)

def Context.groupVersions : Context → List (String × String)
  | .root _ _ _ summaries => summaries.map fun summary => (summary.group, summary.version)
  | _ => []

/-- The kinds that the client of a group-version lists. -/
def Context.kinds : Context → List String
  | .groupVersion _ _ resources => resources.map ResourceSummary.kind
  | _ => []

/-- The resources that the client of a resource lists as owned, and a reference file as owners. -/
def Context.links : Context → List Identity
  | .resource _ _ _ _ (.client part) => part.children.map Child.key
  | .resource _ _ _ _ (.reference part) => part.owners.map Owner.key
  | _ => []

/-- What a file lists is what the specs say. -/
def PlannedFile.ListsOf (specs : List Resource) (f : PlannedFile) : Prop :=
  match f.role with
  | .rootClient => f.context.groupVersions = groupVersions specs
  | .groupVersionClient =>
    ∀ gv, f.context.groupVersion? = some gv → f.context.kinds = kinds specs gv
  | .client => ∀ id, f.identity? = some id → f.context.links = ownedIn specs id
  | .reference => ∀ id, f.identity? = some id → f.context.links = ownersIn specs id
  | .reader => True
  | .object => True

/-! ### The files of a described tree -/

def filesOf (layout : Layout) (specs : List Resource) (o : Resource) : List PlannedFile :=
  (linkedOf layout specs o).plan layout.rootPackage
    (Branch.empty layout o.identity.group o.identity.version)

lemma summary_with_entries (b : Branch) (es : List Entry) :
    Branch.summary { b with entries := es } = b.summary := rfl

lemma linked_summary (out into : List Link) (b : Branch) (e : Entry) :
    (e.linked out into b).summary = e.summary := rfl

lemma plan_branchOf (layout : Layout) (specs : List Resource) (o : Resource) :
    (linkedOf layout specs o).plan layout.rootPackage (branchOf layout specs (pairOf o.identity)) =
      filesOf layout specs o := by
  rw [filesOf, Entry.plan, Entry.plan, branchOf, summary_with_entries, pairOf]

lemma mem_plan_treeOf : f ∈ (treeOf layout specs).plan ↔ f = (treeOf layout specs).rootFile ∨
    (∃ gv ∈ groupVersions specs, f = (branchOf layout specs gv).clientFile layout.rootPackage) ∨
      ∃ o, firstOf? specs o.identity = some o ∧ f ∈ filesOf layout specs o := by
  have hbranches : (treeOf layout specs).branches =
      (groupVersions specs).map (branchOf layout specs) := rfl
  have hpackage : (treeOf layout specs).package = layout.rootPackage := rfl
  have hentries : ∀ gv, (branchOf layout specs gv).entries =
    (firstsOf specs (resourcesOf specs gv)).map (linkedOf layout specs) := fun _ => rfl
  rw [mem_plan, hbranches, hpackage]
  refine or_congr Iff.rfl ?_
  simp only [List.mem_map, exists_exists_and_eq_and, mem_branch_plan, hentries, mem_firstsOf,
    mem_resourcesOf, and_or_left, exists_or]
  refine or_congr Iff.rfl ⟨?_, ?_⟩
  · rintro ⟨gv, -, o, ⟨⟨-, rfl⟩, ho⟩, hf⟩
    rw [plan_branchOf] at hf
    exact ⟨o, ho, hf⟩
  · rintro ⟨o, ho, hf⟩
    rw [← plan_branchOf] at hf
    have hid := mem_identities.mpr ⟨o, (firstOf?_eq_some ho).1, rfl⟩
    exact ⟨pairOf o.identity, mem_groupVersions.mpr ⟨_, hid, rfl⟩, o, ⟨⟨hid, rfl⟩, ho⟩, hf⟩

lemma exists_of_mem_plan {id : Identity} (hf : f ∈ (treeOf layout specs).plan)
    (hid : f.identity? = some id) : ∃ o ∈ specs, o.identity = id := by
  rcases mem_plan_treeOf.mp hf with rfl | ⟨gv, -, rfl⟩ | ⟨o, ho, hf⟩
  · cases hid
  · cases hid
  · refine ⟨o, (firstOf?_eq_some ho).1, ?_⟩
    rcases mem_entry_plan.mp hf with rfl | rfl | rfl | ⟨r, -, rfl⟩ <;> exact Option.some.inj hid

lemma rootFile_treeOf (layout : Layout) (specs : List Resource) : (treeOf layout specs).rootFile =
    ⟨.rootClient, (empty layout).file, none,
      .root (empty layout).package (empty layout).clientType (empty layout).location
        ((groupVersions specs).map fun gv => (Branch.empty layout gv.1 gv.2).summary)⟩ := by
  have hsummary : Branch.summary ∘ branchOf layout specs =
      fun gv => (Branch.empty layout gv.1 gv.2).summary :=
    funext fun _ => summary_with_entries _ _
  rw [Tree.rootFile, treeOf, List.map_map, hsummary]

lemma clientFile_branchOf (layout : Layout) (specs : List Resource) (gv : String × String) :
    (branchOf layout specs gv).clientFile layout.rootPackage =
      ⟨.groupVersionClient, (Branch.empty layout gv.1 gv.2).file, none,
        .groupVersion layout.rootPackage (Branch.empty layout gv.1 gv.2).summary
          ((firstsOf specs (resourcesOf specs gv)).map fun o => (entryOf layout o).summary)⟩ := by
  have hsummary : Entry.summary ∘ linkedOf layout specs = fun o => (entryOf layout o).summary :=
    funext fun o => linked_summary _ _ _ _
  rw [Branch.clientFile, branchOf, summary_with_entries, List.map_map, hsummary]

lemma summaries_kind (layout : Layout) (specs : List Resource) (gv : String × String) :
    ((firstsOf specs (resourcesOf specs gv)).map fun o => (entryOf layout o).summary).map
      ResourceSummary.kind = kinds specs gv := by
  have hkind : ResourceSummary.kind ∘ (fun o => (entryOf layout o).summary) =
      Identity.kind ∘ Resource.identity := rfl
  have hknown : ∀ id ∈ resourcesOf specs gv, ∃ s ∈ specs, s.identity = id := fun id hid =>
    mem_identities.mp (mem_resourcesOf.mp hid).1
  rw [List.map_map, hkind, ← List.map_map, firstsOf_identity hknown, resourcesOf, List.map_map]
  exact List.map_id' _

/-- **What files list.** Of the files that are planned for specs, the root client lists the
group-versions, the client of a group-version its kinds, the client of a resource what it owns, and
a reference file the owners, as the specs have them. -/
theorem listsOf_of_mem_plan (hf : f ∈ (treeOf layout specs).plan) : f.ListsOf specs := by
  rcases mem_plan_treeOf.mp hf with rfl | ⟨gv, -, rfl⟩ | ⟨o, -, hf⟩
  · rw [rootFile_treeOf]
    change ((groupVersions specs).map fun gv => (Branch.empty layout gv.1 gv.2).summary).map
      (fun summary => (summary.group, summary.version)) = groupVersions specs
    rw [List.map_map]
    exact List.map_id' _
  · rw [clientFile_branchOf]
    rintro gv' hgv
    obtain rfl : gv = gv' := Option.some.inj hgv
    exact summaries_kind layout specs gv
  · rcases mem_entry_plan.mp hf with rfl | rfl | rfl | ⟨r, hr, rfl⟩
    · rintro id hid
      obtain rfl : o.identity = id := Option.some.inj hid
      exact linkedOf_children_key layout specs o
    · exact trivial
    · exact trivial
    · rintro id hid
      obtain rfl : o.identity = id := Option.some.inj hid
      exact linkedOf_owners_key hr

end ClientGen
