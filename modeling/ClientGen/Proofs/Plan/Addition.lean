import ClientGen.Proofs.Plan.Description
import ClientGen.Proofs.Plan.Listing
import ClientGen.Proofs.Tree.Addition

/-!
The plan of one spec more, of a new resource. It has the files of the new resource, the client of
its group-version if that is new as well, and a reference file for each resource that it is the
first one to own. Of the files from before, those that list the new resource or its group-version
change, and no others.
-/

namespace ClientGen

open Spec ClientGen.Tree

variable {layout : Layout} {specs : List Resource} {s o : Resource} {f : PlannedFile}

/-! ### Files that stay -/

/-- The files that one spec more changes: the root client if the group-version is new, the client of
the group-version, the clients of the resources that name the new one, and the reference files of
those that it names. -/
inductive PlannedFile.IsChangedBy (specs : List Resource) (s : Resource) (f : PlannedFile) : Prop
  | rootClient (hrole : f.role = .rootClient) (hnew : pairOf s.identity ∉ groupVersions specs)
  | groupVersionClient (hrole : f.role = .groupVersionClient)
      (hgv : f.context.groupVersion? = some (pairOf s.identity))
  | client {a : Resource} (hrole : f.role = .client) (ha : a ∈ specs)
      (hid : f.identity? = some a.identity) (howns : Owns a s.identity)
  | reference {id : Identity} (hrole : f.role = .reference) (hid : f.identity? = some id)
      (howns : Owns s id)

section New

variable (hnew : ∀ o ∈ specs, o.identity ≠ s.identity)

include hnew

lemma rootFile_concat (h : pairOf s.identity ∈ groupVersions specs) :
    (treeOf layout (specs ++ [s])).rootFile = (treeOf layout specs).rootFile := by
  rw [rootFile_treeOf, rootFile_treeOf, groupVersions_concat hnew h]

lemma clientFile_concat {gv : String × String} (h : pairOf s.identity ≠ gv) :
    (branchOf layout (specs ++ [s]) gv).clientFile layout.rootPackage =
      (branchOf layout specs gv).clientFile layout.rootPackage := by
  have hnot : s.identity ∉ resourcesOf specs gv := fun hs => h (mem_resourcesOf.mp hs).2
  rw [clientFile_branchOf, clientFile_branchOf, resourcesOf_concat hnew h, firstsOf_concat hnot]

lemma mem_filesOf_concat (ho : o ∈ specs) (hf : f ∈ filesOf layout specs o)
    (h : ¬ f.IsChangedBy specs s) : f ∈ filesOf layout (specs ++ [s]) o := by
  have hid : s.identity ≠ o.identity := fun he => hnew o ho he.symm
  refine mem_entry_plan.mpr ?_
  rcases mem_entry_plan.mp hf with rfl | rfl | rfl | ⟨r, hr, rfl⟩
  · left
    have hclient : (linkedOf layout (specs ++ [s]) o).client = (linkedOf layout specs o).client :=
      linkedOf_client_concat hnew hid fun a ha hao howns =>
        h (.client rfl ha (congrArg some hao.symm) howns)
    rw [hclient]
    rfl
  · exact Or.inr (Or.inl rfl)
  · exact Or.inr (Or.inr (Or.inl rfl))
  · right; right; right
    refine ⟨r, ?_, rfl⟩
    rw [linkedOf_reference?_concat hnew hid fun howns => h (.reference rfl rfl howns), hr]

lemma mem_plan_concat (hf : f ∈ (treeOf layout specs).plan) (h : ¬ f.IsChangedBy specs s) :
    f ∈ (treeOf layout (specs ++ [s])).plan := by
  rw [mem_plan_treeOf]
  rcases mem_plan_treeOf.mp hf with rfl | ⟨gv, hgv, rfl⟩ | ⟨o, ho, hf⟩
  · left
    by_cases hs : pairOf s.identity ∈ groupVersions specs
    · rw [rootFile_concat hnew hs]
    · exact absurd (.rootClient rfl hs) h
  · right; left
    refine ⟨gv, mem_groupVersions_concat.mpr (Or.inl hgv), ?_⟩
    by_cases hs : pairOf s.identity = gv
    · exact absurd (.groupVersionClient rfl (congrArg some hs.symm)) h
    · rw [clientFile_concat hnew hs]
  · right; right
    exact ⟨o, (firstOf?_concat_iff hnew).mpr (Or.inl ho),
      mem_filesOf_concat hnew (firstOf?_eq_some ho).1 hf h⟩

end New

/-! ### Files that change -/

lemma not_mem_plan_concat (hnew : ∀ o ∈ specs, o.identity ≠ s.identity)
    (hf : f ∈ (treeOf layout specs).plan) (h : f.IsChangedBy specs s) :
    f ∉ (treeOf layout (specs ++ [s])).plan := by
  intro hf'
  have hold := listsOf_of_mem_plan hf
  have hlists := listsOf_of_mem_plan hf'
  have hknown : s.identity ∉ identities specs := by simpa [mem_identities] using hnew
  cases h with
  | rootClient hrole hgv =>
    simp only [PlannedFile.ListsOf, hrole] at hold hlists
    refine hgv ?_
    rw [← hold, hlists]
    exact mem_groupVersions_concat.mpr (Or.inr rfl)
  | groupVersionClient hrole hgv =>
    simp only [PlannedFile.ListsOf, hrole] at hold hlists
    have hkind : s.identity.kind ∈ kinds (specs ++ [s]) (pairOf s.identity) := by
      rw [mem_kinds, identities_concat hnew]
      exact List.mem_append_right _ (List.mem_singleton.mpr rfl)
    rw [← hlists _ hgv, hold _ hgv, mem_kinds] at hkind
    exact hknown hkind
  | @client a hrole ha hid howns =>
    simp only [PlannedFile.ListsOf, hrole] at hold hlists
    have howned : s.identity ∈ ownedIn (specs ++ [s]) a.identity :=
      mem_ownedIn.mpr ⟨⟨a, by simp [ha], rfl, howns⟩, s, by simp, rfl⟩
    rw [← hlists _ hid, hold _ hid] at howned
    exact hknown (mem_identities.mpr (mem_ownedIn.mp howned).2)
  | @reference id hrole hid howns =>
    simp only [PlannedFile.ListsOf, hrole] at hold hlists
    have howner : s.identity ∈ ownersIn (specs ++ [s]) id :=
      mem_ownersIn.mpr ⟨⟨s, by simp, rfl, howns⟩, exists_of_mem_plan hf' hid⟩
    rw [← hlists _ hid, hold _ hid] at howner
    obtain ⟨a, ha, has, -⟩ := (mem_ownersIn.mp howner).1
    exact hnew a ha has

/-! ### Files that are added -/

lemma flatMap_ite {α β : Type} (p : α → Prop) [DecidablePred p] (f : α → β) (as : List α) :
    (as.flatMap fun a => if p a then [f a] else []) = (as.filter p).map f := by
  induction as with
  | nil => rfl
  | cons a as ih =>
    rw [List.flatMap_cons, ih, List.filter_cons]
    by_cases h : p a <;> simp [h]

section Added

variable (layout : Layout) (specs : List Resource) (s : Resource)

/-- The resources that one spec more is the first one to name as owned. -/
def newlyOwned : List Identity :=
  (identities specs).filter fun id => Owns s id ∧ ¬ IsOwned specs id

def referenceHeading (id : Identity) : Role × String × Option Identity :=
  (.reference, Path.join (Naming.groupVersionDir layout.rootPath id.group id.version)
    (Naming.stem id.kind ++ Role.reference.ending), some id)

/-- The files that one spec more of a new resource adds: those of its resource, the client of its
group-version if that is new, and the reference files of what it is the first one to own. -/
def addedListing : List (Role × String × Option Identity) :=
  resourceListing layout (specs ++ [s]) s.identity
    ++ (newGroupVersions specs s).map (groupVersionHeading layout)
    ++ (newlyOwned specs s).map (referenceHeading layout)

/-- A resource gains a reference file if it is owned now and was not before. -/
lemma resourceListing_concat (id : Identity) : resourceListing layout (specs ++ [s]) id =
    resourceListing layout specs id ++
      if Owns s id ∧ ¬ IsOwned specs id then [referenceHeading layout id] else [] := by
  have howned : IsOwned (specs ++ [s]) id ↔ IsOwned specs id ∨ Owns s id := exists_concat_iff
  by_cases h : IsOwned specs id <;> by_cases hs : Owns s id <;>
    simp [resourceListing, rolesOf, howned, h, hs, referenceHeading]

lemma resourceListings_concat (ids : List Identity) :
    (ids.flatMap (resourceListing layout (specs ++ [s]))).Perm
      (ids.flatMap (resourceListing layout specs) ++
        (ids.filter fun id => Owns s id ∧ ¬ IsOwned specs id).map (referenceHeading layout)) := by
  rw [← flatMap_ite]
  refine List.Perm.trans (.of_eq ?_) (List.flatMap_append_perm _ _ _).symm
  exact List.flatMap_congr fun id _ => resourceListing_concat layout specs s id

lemma listing_concat (hnew : ∀ o ∈ specs, o.identity ≠ s.identity) :
    (listing layout (specs ++ [s])).Perm (listing layout specs ++ addedListing layout specs s) := by
  have hclients := (groupVersions_concat_perm hnew).map (groupVersionHeading layout)
  have hold := resourceListings_concat layout specs s (identities specs)
  have hbefore := listing_perm layout specs
  have hafter := listing_perm layout (specs ++ [s])
  rw [identities_concat hnew, List.flatMap_append, List.flatMap_singleton] at hafter
  rw [List.perm_iff_count] at hclients hold hbefore hafter ⊢
  intro heading
  have hgroups := hclients heading
  have hresources := hold heading
  simp only [addedListing, newlyOwned, List.map_append, List.count_append, List.count_cons,
    hbefore heading, hafter heading] at hgroups hresources ⊢
  omega

end Added

/-- **One spec more.** If the specs stay accepted with one more, of a new resource, then the planned
files stay, contexts included, but for the root client if the group-version is new, the client of
the group-version, the clients of the resources that name the new one and the reference files of
those that it names, which all change. The files of the new resource are added, the client of its
group-version if that is new, and the reference files of what it is the first one to own, and they
are at new places. -/
theorem plan_concat (layout : Layout) (specs : List Resource) (s : Resource) (t t' : Tree)
    (hnew : ∀ o ∈ specs, o.identity ≠ s.identity) (h : (build layout specs).result = .ok t)
    (h' : (build layout (specs ++ [s])).result = .ok t') :
    (∀ f ∈ t.plan, f ∈ t'.plan ↔ ¬ f.IsChangedBy specs s) ∧
      (t'.plan.map PlannedFile.heading).Perm
        (t.plan.map PlannedFile.heading ++ addedListing layout specs s) ∧
      ∀ d, d ∈ t'.plan.map PlannedFile.destination ∧ d ∉ t.plan.map PlannedFile.destination ↔
        d ∈ (addedListing layout specs s).map fun heading => heading.2.1 := by
  obtain ⟨t₀, ls, m, rfl⟩ := build_isBuilt h
  obtain ⟨t₁, ls', m', rfl⟩ := build_isBuilt h'
  have hplan : ((t₁.withLinks ls').plan.map PlannedFile.heading).Perm
      ((t₀.withLinks ls).plan.map PlannedFile.heading ++ addedListing layout specs s) := by
    rw [plan_headings m, plan_headings m']
    exact listing_concat layout specs s hnew
  have hdestination : (fun heading : Role × String × Option Identity => heading.2.1) ∘
      PlannedFile.heading = PlannedFile.destination := rfl
  have hdests := hplan.map fun heading => heading.2.1
  rw [List.map_append, List.map_map, List.map_map, hdestination] at hdests
  have hnodup := hdests.nodup_iff.mp (plan_components_nodup m'.unlinked m'.valid).of_map
  refine ⟨fun f hf => ?_, hplan, fun d => ?_⟩
  · rw [m.eq_treeOf] at hf
    rw [m'.eq_treeOf]
    exact ⟨fun hf' hc => not_mem_plan_concat hnew hf hc hf', mem_plan_concat hnew hf⟩
  · rw [hdests.mem_iff, List.mem_append]
    constructor
    · rintro ⟨hd, hnot⟩
      exact hd.resolve_left fun hd => hnot hd
    · intro hd
      exact ⟨Or.inr hd, fun hd' => (List.nodup_append.mp hnodup).2.2 _ hd' _ hd rfl⟩

/-- A deployment that owns pods, of which there is no spec, and replica sets. -/
def podlessDeployment : List Resource :=
  [{ Resource.plain "apps" "v1" "Deployment" "deployments" with
      references := [⟨⟨"core", "v1", "Pod"⟩, none⟩, ⟨⟨"apps", "v1", "ReplicaSet"⟩, none⟩] },
    .plain "apps" "v1" "ReplicaSet" "replicasets"]

/-- A pod that owns itself, the replica sets and the deployment that owns it. -/
def owningPod : Resource :=
  { Resource.plain "core" "v1" "Pod" "pods" with
    references := [⟨⟨"core", "v1", "Pod"⟩, none⟩, ⟨⟨"apps", "v1", "ReplicaSet"⟩, none⟩,
      ⟨⟨"apps", "v1", "Deployment"⟩, none⟩] }

/-- With the pod come its own files, its group-version and a reference file for the deployment. -/
theorem podlessDeployment_concat : ∃ t t', (build {} podlessDeployment).result = .ok t ∧
    (build {} (podlessDeployment ++ [owningPod])).result = .ok t' ∧
    (∀ f ∈ t.plan, f ∈ t'.plan ↔ ¬ f.IsChangedBy podlessDeployment owningPod) ∧
    ∀ d, d ∈ t'.plan.map PlannedFile.destination ∧ d ∉ t.plan.map PlannedFile.destination ↔
      d ∈ ["generated/core/v1/pod_client.rs", "generated/core/v1/pod_reader.rs",
        "generated/core/v1/pod.rs", "generated/core/v1/pod_reference.rs",
        "generated/core/v1/client.rs", "generated/apps/v1/deployment_reference.rs"] := by
  obtain ⟨t, ht⟩ := exists_of_isOk podlessDeployment (by decide +kernel)
  obtain ⟨t', ht'⟩ := exists_of_isOk (podlessDeployment ++ [owningPod]) (by decide +kernel)
  obtain ⟨hstays, -, hadded⟩ :=
    plan_concat {} podlessDeployment owningPod t t' (by decide +kernel) ht ht'
  have hdests : (addedListing {} podlessDeployment owningPod).map (fun heading => heading.2.1) =
      ["generated/core/v1/pod_client.rs", "generated/core/v1/pod_reader.rs",
        "generated/core/v1/pod.rs", "generated/core/v1/pod_reference.rs",
        "generated/core/v1/client.rs", "generated/apps/v1/deployment_reference.rs"] := by
    decide +kernel
  rw [hdests] at hadded
  exact ⟨t, t', ht, ht', hstays, hadded⟩

end ClientGen
