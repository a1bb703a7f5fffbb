import ClientGen.Proofs.Plan.Description
import ClientGen.Proofs.Plan.Destinations
import ClientGen.Proofs.Plan.References

/-!
The modules of a plan. Every file is a module, and the directories are modules around them. A file
that is generated declares no modules itself, so its module must not be one of those around another
file. Destinations are kept apart with their extensions, and modules are without: the root client
and the directory of a group can have one name.
-/

namespace ClientGen

open Spec ClientGen.Tree

/-- The module of one file is a module around that of another file. -/
def ModuleIsAbove (layout : Layout) (d e : String) : Prop :=
  moduleNames layout d <+: moduleNames layout e ∧ moduleNames layout d ≠ moduleNames layout e

instance (layout : Layout) (d e : String) : Decidable (ModuleIsAbove layout d e) :=
  inferInstanceAs (Decidable (_ ∧ _))

/-! ### The files of a branch -/

section Branch

variable {rootPackage : String} {b : Branch} {f : PlannedFile}

lemma branch_plan_role (hf : f ∈ b.plan rootPackage) : f.role ≠ .rootClient := by
  rcases mem_branch_plan.mp hf with rfl | ⟨e, -, hf⟩
  · simp [Branch.clientFile]
  · rintro hrole
    have hmem := role_of_entry_plan hf
    rw [hrole] at hmem
    exact absurd hmem (by decide)

lemma branch_plan_groupVersion? (hf : f ∈ b.plan rootPackage) :
    f.context.groupVersion? = some (b.group, b.version) := by
  rcases mem_branch_plan.mp hf with rfl | ⟨e, -, hf⟩
  · rfl
  · rcases mem_entry_plan.mp hf with rfl | rfl | rfl | ⟨r, -, rfl⟩ <;> rfl

end Branch

/-! ### The modules of a built tree -/

section Built

variable {layout : Layout} {specs : List Resource} {t : Tree} {links : List Link}
  (u : IsUnlinked layout specs t)

include u

lemma rootFile_moduleNames : moduleNames layout (t.withLinks links).rootFile.destination =
    [layout.rootPackage, "client"] := by
  have hbare : bareName (t.withLinks links).rootFile.name = "client" := by
    rw [rootFile_name]
    exact bareName_append "client"
  rw [(rootFile_liesIn u).moduleNames, hbare, List.nil_append]

variable (hvalid : ∀ s ∈ specs, s.IsValid)

include hvalid

lemma branch_moduleNames {rootPackage : String} {b : Branch} {f : PlannedFile}
    (hb : b ∈ (t.withLinks links).branches) (hf : f ∈ b.plan rootPackage) :
    moduleNames layout f.destination =
      [layout.rootPackage, Naming.groupSegment b.group, b.version, bareName f.name] :=
  (branch_plan_liesIn u hvalid hb hf).moduleNames

lemma below_eq_of_moduleNames {f g : PlannedFile} (hf : f ∈ (t.withLinks links).plan)
    (hg : g ∈ (t.withLinks links).plan)
    (h : moduleNames layout f.destination = moduleNames layout g.destination) :
    Path.below layout.rootPath f.destination = Path.below layout.rootPath g.destination := by
  obtain ⟨dirs, hlf, -⟩ := plan_liesIn u hvalid hf
  obtain ⟨dirs', hlg, -⟩ := plan_liesIn u hvalid hg
  rw [hlf.moduleNames, hlg.moduleNames] at h
  obtain ⟨hdirs, hlast⟩ := List.append_inj' (List.cons.inj h).2 rfl
  rw [hlf.below, hlg.below, hdirs, f.name_eq_bareName, g.name_eq_bareName, (List.cons.inj hlast).1]

lemma plan_moduleNames_nodup :
    ((t.withLinks links).plan.map fun f => moduleNames layout f.destination).Nodup := by
  refine List.pairwise_map.mpr ?_
  refine (List.pairwise_map.mp (plan_below_nodup u hvalid)).imp_of_mem fun hf hg hne h => ?_
  exact hne (below_eq_of_moduleNames u hvalid hf hg h)

/-- Modules of files have two names or four, so that only that of the root client can be above. -/
lemma moduleIsAbove_iff {f g : PlannedFile} (hf : f ∈ (t.withLinks links).plan)
    (hg : g ∈ (t.withLinks links).plan) :
    ModuleIsAbove layout f.destination g.destination ↔ f.role = .rootClient ∧
      ∃ gv, g.context.groupVersion? = some gv ∧ Naming.groupSegment gv.1 = "client" := by
  rw [ModuleIsAbove]
  rcases mem_plan.mp hf with rfl | ⟨b, hb, hf⟩
  · rw [rootFile_moduleNames u]
    have hrole : (t.withLinks links).rootFile.role = .rootClient := rfl
    rcases mem_plan.mp hg with rfl | ⟨c, hc, hg⟩
    · rw [rootFile_moduleNames u]
      have hnone : (t.withLinks links).rootFile.context.groupVersion? = none := rfl
      simp [hnone]
    · rw [branch_moduleNames u hvalid hc hg, branch_plan_groupVersion? hg, and_iff_right hrole]
      simpa [List.cons_prefix_cons] using eq_comm
  · rw [branch_moduleNames u hvalid hb hf]
    refine iff_of_false (fun ⟨hbegin, hne⟩ => ?_) fun h => branch_plan_role hf h.1
    rcases mem_plan.mp hg with rfl | ⟨c, hc, hg⟩
    · rw [rootFile_moduleNames u] at hbegin
      simpa using hbegin.length_le
    · rw [branch_moduleNames u hvalid hc hg] at hbegin hne
      exact hne (hbegin.eq_of_length (by simp only [List.length_cons]))

end Built

/-- **Modules of files.** Each planned file of a built tree has a module of its own. That of one
file is around that of another one just if the first file is the root client and the second one is
of a group with the segment `client`; there are such files just if some spec is of such a group. -/
theorem plan_modules (layout : Layout) (specs : List Resource) (t : Tree)
    (h : (build layout specs).result = .ok t) :
    (t.plan.map fun f => moduleNames layout f.destination).Nodup ∧
      (∀ f ∈ t.plan, ∀ g ∈ t.plan, ModuleIsAbove layout f.destination g.destination ↔
        f.role = .rootClient ∧
          ∃ gv, g.context.groupVersion? = some gv ∧ Naming.groupSegment gv.1 = "client") ∧
      ((∃ f ∈ t.plan, ∃ g ∈ t.plan, ModuleIsAbove layout f.destination g.destination) ↔
        ∃ s ∈ specs, Naming.groupSegment s.identity.group = "client") := by
  obtain ⟨t₀, links, m, rfl⟩ := build_isBuilt h
  refine ⟨plan_moduleNames_nodup m.unlinked m.valid,
    fun f hf g hg => moduleIsAbove_iff m.unlinked m.valid hf hg, ?_, ?_⟩
  · rintro ⟨f, hf, g, hg, habove⟩
    obtain ⟨-, gv, hgv, hsegment⟩ := (moduleIsAbove_iff m.unlinked m.valid hf hg).mp habove
    rcases mem_plan.mp hg with rfl | ⟨b, hb, hg⟩
    · cases hgv
    · rw [branch_plan_groupVersion? hg, Option.some.injEq] at hgv
      obtain ⟨o, ho, hgroup, -⟩ := m.unlinked.owner_withLinks hb
      exact ⟨o, ho, by rw [hgroup, ← hsegment, ← hgv]⟩
  · rintro ⟨s, hs, hsegment⟩
    obtain ⟨o, ho, hos⟩ := registers_of_clashes m.clashes hs
    obtain ⟨b, hb, hgroup, -⟩ := m.unlinked.branch o ho
    obtain ⟨c, hc, hcb⟩ : ∃ c ∈ (t₀.withLinks links).branches, c.group = b.group :=
      ⟨_, List.mem_map_of_mem hb, rfl⟩
    have hclient :
        c.clientFile (t₀.withLinks links).package ∈ c.plan (t₀.withLinks links).package :=
      mem_branch_plan.mpr (Or.inl rfl)
    have hroot : (t₀.withLinks links).rootFile ∈ (t₀.withLinks links).plan :=
      mem_plan.mpr (Or.inl rfl)
    have hg := mem_plan.mpr (Or.inr ⟨c, hc, hclient⟩)
    refine ⟨_, hroot, _, hg, (moduleIsAbove_iff m.unlinked m.valid hroot hg).mpr
      ⟨rfl, _, branch_plan_groupVersion? hclient, ?_⟩⟩
    rw [hcb, hgroup, hos, hsegment]

/-- The modules of resources that own each other can all be declared. -/
theorem mutualOwners_modules : ∃ t, (build {} mutualOwners).result = .ok t ∧
    (t.plan.map fun f => moduleNames {} f.destination).Nodup ∧
    ∀ f ∈ t.plan, ∀ g ∈ t.plan, ¬ ModuleIsAbove {} f.destination g.destination := by
  obtain ⟨t, ht⟩ := mutualOwners_built
  obtain ⟨hnodup, -, hsome⟩ := plan_modules {} mutualOwners t ht
  have hno : ¬ ∃ s ∈ mutualOwners, Naming.groupSegment s.identity.group = "client" := by
    decide +kernel
  exact ⟨t, ht, hnodup, fun f hf g hg habove => hno (hsome.mp ⟨f, hf, g, hg, habove⟩)⟩

/-- A resource of a group with the name of the root client. -/
def clientGroup : List Resource := [.plain "client" "v1" "Pod" "pods"]

/-- The module of the root client is around all modules of this group. -/
theorem clientGroup_module_above : ∃ t, (build {} clientGroup).result = .ok t ∧
    (t.plan.map fun f => moduleNames {} f.destination) =
      [["crate::generated", "client"], ["crate::generated", "client", "v1", "client"],
        ["crate::generated", "client", "v1", "pod_client"],
        ["crate::generated", "client", "v1", "pod_reader"],
        ["crate::generated", "client", "v1", "pod"]] ∧
    ¬ ∀ f ∈ t.plan, ∀ g ∈ t.plan, ¬ ModuleIsAbove {} f.destination g.destination := by
  obtain ⟨t, ht, hcomputed⟩ := exists_of_any clientGroup
    (fun t => t.plan.map (fun f => moduleNames {} f.destination) =
        [["crate::generated", "client"], ["crate::generated", "client", "v1", "client"],
          ["crate::generated", "client", "v1", "pod_client"],
          ["crate::generated", "client", "v1", "pod_reader"],
          ["crate::generated", "client", "v1", "pod"]] ∧
      ¬ ∀ f ∈ t.plan, ∀ g ∈ t.plan, ¬ ModuleIsAbove {} f.destination g.destination)
    (by decide +kernel)
  exact ⟨t, ht, of_decide_eq_true hcomputed⟩

end ClientGen
