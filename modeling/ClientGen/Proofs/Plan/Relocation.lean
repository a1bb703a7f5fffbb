import ClientGen.Proofs.Plan.Containment
import ClientGen.Proofs.Plan.Listing
import ClientGen.Proofs.Plan.Permutation
import ClientGen.Proofs.Tree.Relocation

/-!
One list of specs under two layouts. A layout moves what is generated and does not change it: the
specs are refused under both layouts or under neither, and the planned files are the same ones in
the same order, each at the same place below the root of its layout.
-/

namespace ClientGen

open Spec ClientGen.Tree

variable {layout layout' : Layout} {specs : List Resource}

/-- Two headings are of one file under two layouts: the same steps lead down to it from both roots,
and are what is left of its place without the root. -/
structure IsRelocated (layout layout' : Layout) (h h' : Role × String × Option Identity) :
    Prop where
  role : h.1 = h'.1
  identity? : h.2.2 = h'.2.2
  place : ∃ names, Path.IsDownFrom layout.rootPath names h.2.1 ∧
    Path.IsDownFrom layout'.rootPath names h'.2.1
  below : Path.below layout.rootPath h.2.1 = Path.below layout'.rootPath h'.2.1

/-- What two layouts make of one list of specs. Both refuse it, with issues of the same kinds at the
same places of the list, or both lead to a tree. Then the trees say the same, places aside, and the
plans have the same files. -/
inductive IsMoved (layout layout' : Layout) : Except Failure Tree → Except Failure Tree → Prop
  | refused {found found' : List Issue} (hsame : found.map verdict = found'.map verdict) :
      IsMoved layout layout' (.error (.invalidSpec found)) (.error (.invalidSpec found'))
  | built {t t' : Tree} (htree : t.unplaced = t'.unplaced)
      (hplan : List.Forall₂ (IsRelocated layout layout') (t.plan.map PlannedFile.heading)
        (t'.plan.map PlannedFile.heading)) :
      IsMoved layout layout' (.ok t) (.ok t')

/-! ### Listings -/

lemma isRelocated_foldl {names : List String} (h : ∀ n ∈ names, Path.IsName n) (role : Role)
    (id? : Option Identity) : IsRelocated layout layout'
      (role, names.foldl Path.join layout.rootPath, id?)
      (role, names.foldl Path.join layout'.rootPath, id?) where
  role := rfl
  identity? := rfl
  place := ⟨names, Path.isDownFrom_foldl h, Path.isDownFrom_foldl h⟩
  below := by
    rw [Path.below_eq (Path.components_foldl_join h), Path.below_eq (Path.components_foldl_join h)]

lemma isRelocated_inBranch {id : Identity} (h : id.IsValid) {name : String}
    (hname : Path.IsName name) (role : Role) (id? : Option Identity) : IsRelocated layout layout'
      (role, Path.join (Naming.groupVersionDir layout.rootPath id.group id.version) name, id?)
      (role, Path.join (Naming.groupVersionDir layout'.rootPath id.group id.version) name, id?) := by
  have hsteps : ∀ n ∈ [Naming.groupSegment id.group, id.version, name], Path.IsName n := by
    simpa using ⟨h.isName_segment, h.isName_version, hname⟩
  exact isRelocated_foldl hsteps role id?

lemma resourceListing_relocated {id : Identity} (h : id.IsValid) :
    List.Forall₂ (IsRelocated layout layout') (resourceListing layout specs id)
      (resourceListing layout' specs id) := by
  rw [resourceListing, resourceListing, List.forall₂_map_left_iff, List.forall₂_map_right_iff,
    List.forall₂_same]
  intro role _
  exact isRelocated_inBranch h (isName_file h.stem_ne_empty h.isSmall_stem role) role _

lemma groupVersionListing_relocated (hvalid : ∀ id ∈ identities specs, id.IsValid)
    {gv : String × String} (hgv : gv ∈ groupVersions specs) :
    List.Forall₂ (IsRelocated layout layout') (groupVersionListing layout specs gv)
      (groupVersionListing layout' specs gv) := by
  obtain ⟨id, hid, rfl⟩ := mem_groupVersions.mp hgv
  refine .cons ?_ (forall₂_flatMap fun o ho => ?_)
  · exact isRelocated_inBranch (hvalid id hid) isName_clientFile .groupVersionClient none
  · exact resourceListing_relocated (hvalid o (mem_resourcesOf.mp ho).1)

lemma listing_relocated (hvalid : ∀ id ∈ identities specs, id.IsValid) :
    List.Forall₂ (IsRelocated layout layout') (listing layout specs) (listing layout' specs) := by
  refine .cons ?_ (forall₂_flatMap fun gv hgv => groupVersionListing_relocated hvalid hgv)
  have hsteps : ∀ n ∈ [Naming.clientFile], Path.IsName n := by simpa using isName_clientFile
  exact isRelocated_foldl hsteps .rootClient none

/-! ### Builds -/

/-- **The layout only relocates.** Two layouts lead to the same outcome for a list of specs: to
issues of the same kinds at the same places of the list, or to trees that say the same, places
aside, and to plans of the same files in the same order, at the same places below the two roots. -/
theorem build_moved (layout layout' : Layout) (specs : List Resource) :
    IsMoved layout layout' (build layout specs).result (build layout' specs).result := by
  rcases build_cases layout specs with ⟨hnone, t, ht⟩ | ⟨hsome, found, hfound, hverdicts⟩
  · rcases build_cases layout' specs with ⟨-, t', ht'⟩ | ⟨hsome, -⟩
    · rw [ht, ht']
      obtain ⟨t₀, links, m, rfl⟩ := build_isBuilt ht
      obtain ⟨t₁, links', m', rfl⟩ := build_isBuilt ht'
      refine .built ?_ ?_
      · rw [m.eq_treeOf, m'.eq_treeOf]
        exact treeOf_unplaced layout layout' specs
      · rw [plan_headings m, plan_headings m']
        refine listing_relocated fun id hid => ?_
        obtain ⟨s, hs, rfl⟩ := mem_identities.mp hid
        exact (m.valid s hs).identity
    · exact absurd hnone hsome
  · rcases build_cases layout' specs with ⟨hnone, -⟩ | ⟨-, found', hfound', hverdicts'⟩
    · exact absurd hnone hsome
    · rw [hfound, hfound']
      exact .refused (hverdicts.trans hverdicts'.symm)

end ClientGen
