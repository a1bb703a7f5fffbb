import ClientGen.Proofs.Plan.Constants
import ClientGen.Proofs.Plan.References
import ClientGen.Proofs.Tree.Acceptance

/-!
The module of the trait. The root client declares the trait that every object file implements for
its marker, and object files find it by a path that their template makes of the root package as it
was given. All other paths are made of names, of which colons at the ends and empty ones do not
count. So the two paths are one only where the root package is in this form already.
-/

namespace ClientGen

open Spec ClientGen.Tree Template

/-- The lines of an object file that looks for the trait in a module. -/
def Tree.ObjectPart.lines (o : ObjectPart) (traitModule : String) : List String :=
  ["// Code generated by kubegen. DO NOT EDIT.",
    "//! `" ++ o.identity.kind ++ "` type and identity metadata.",
    "",
    "pub use " ++ o.sourcePackage ++ "::" ++ o.typeName ++ ";",
    "",
    "/// Identity marker for [`" ++ o.typeName ++ "`].",
    "pub struct " ++ o.markerType ++ ";",
    "",
    "impl " ++ traitModule ++ "::ResourceIdentity for " ++ o.markerType ++ " \x7b"]
    ++ o.constants.lines

/-! ### Texts of object files -/

lemma ofLines_cons (l : String) (ls : List String) : ofLines (l :: ls) = l ++ "\n" ++ ofLines ls :=
  rfl

lemma ofLines_append (ls ms : List String) : ofLines (ls ++ ms) = ofLines ls ++ ofLines ms := by
  induction ls with
  | nil =>
    have hnil : ofLines [] = "" := rfl
    rw [List.nil_append, hnil, String.empty_append]
  | cons l ls ih => rw [List.cons_append, ofLines_cons, ih, ofLines_cons, ← String.append_assoc]

lemma fillAll_object {values : Values} {o : ObjectPart} {root : String}
    (h : values "object" = some o.toValue) (hroot : values "root_package" = some (.text root)) :
    fillAll (standardPieces .object) values = ofLines (o.lines (root ++ "::client")) := by
  have htexts : FieldPath.textIn ⟨"object", ["identity", "kind"]⟩ values = o.identity.kind ∧
      FieldPath.textIn ⟨"object", ["source_package"]⟩ values = o.sourcePackage ∧
      FieldPath.textIn ⟨"object", ["type_name"]⟩ values = o.typeName ∧
      FieldPath.textIn ⟨"object", ["marker_type"]⟩ values = o.markerType := by
    simp [FieldPath.textIn, FieldPath.value?, h, ObjectPart.toValue, Identity.toValue,
      List.lookup_cons]
  have hpackage : FieldPath.textIn ⟨"root_package", []⟩ values = root := by
    simp [FieldPath.textIn, FieldPath.value?, hroot]
  rw [standardPieces_object, fillAll_append, fillAll_constantPieces h, ObjectPart.lines,
    ofLines_append, ← String.append_assoc, ← String.append_assoc]
  congr 1
  simp only [headingPieces, fillAll, Piece.fill, htexts, hpackage, ofLines, List.foldr_cons,
    List.foldr_nil, String.append_assoc, String.append_empty]
  rfl

lemma ofLines_lines_inj {o : ObjectPart} {m m' : String} :
    ofLines (o.lines m) = ofLines (o.lines m') ↔ m = m' := by
  refine ⟨fun h => ?_, fun h => by rw [h]⟩
  simp only [ObjectPart.lines, ofLines_append, String.append_left_inj] at h
  simp only [ofLines, List.foldr_cons, List.foldr_nil, String.append_assoc,
    String.append_right_inj, String.append_left_inj] at h
  exact h

/-! ### The root package -/

lemma clientModule_eq (root : String) : clientModule root =
    if Naming.bareSegment root = "" then "client" else Naming.bareSegment root ++ "::client" := by
  have hclient : Naming.bareSegment "client" = "client" := by decide
  have hjoint : "::" ++ "client" = "::client" := rfl
  rw [clientModule, Naming.modulePath_eq, Naming.segments, List.map_cons, List.map_singleton,
    hclient]
  split
  · next h => simp [h]
  · next h => simp [h, String.append_assoc, hjoint]

/-- The path that is made of a root package as it is given is that of its client just if the root
package has a name and no colons at its ends. -/
lemma append_client_eq_clientModule_iff {root : String} :
    root ++ "::client" = clientModule root ↔ root ≠ "" ∧ Text.Bare (· == ':') root.toList := by
  rw [clientModule_eq]
  split
  · next h =>
    constructor
    · intro heq
      have hlong : "::client".length = 8 := rfl
      have hshort : "client".length = 6 := rfl
      have hlength := congrArg String.length heq
      rw [String.length_append] at hlength
      omega
    · rintro ⟨hne, hbare⟩
      exact absurd ((Naming.bareSegment_of_bare hbare).symm.trans h) hne
  · next h =>
    rw [String.append_left_inj]
    constructor
    · intro heq
      rw [heq]
      exact ⟨h, Naming.bare_bareSegment root⟩
    · rintro ⟨-, hbare⟩
      exact (Naming.bareSegment_of_bare hbare).symm

/-! ### Object files of built trees -/

variable {layout : Layout} {specs : List Resource} {t : Tree}

lemma moduleOf_rootFile {t₀ : Tree} {links : List Link} (u : IsUnlinked layout specs t₀) :
    moduleOf layout (t₀.withLinks links).file = clientModule layout.rootPackage := by
  have hplace : (t₀.withLinks links).rootFile.LiesIn layout.rootPath [] := rootFile_liesIn u
  exact hplace.moduleOf

lemma render_objectFile {b : Branch} {e : Entry} (hb : b ∈ t.branches) (he : e ∈ b.entries)
    {f : PlannedFile} (hf : f ∈ e.plan t.package b) (hrole : f.role = .object) :
    standardCompiled.render f.role f.context.fields f.destination =
      .ok (ofLines (e.object.lines (t.package ++ "::client"))) := by
  have hplan : f ∈ t.plan := mem_plan.mpr (Or.inr ⟨b, hb, mem_branch_plan.mpr (Or.inr ⟨e, he, hf⟩)⟩)
  have hvalues : f.context.fields.lookup "object" = some e.object.toValue ∧
      f.context.fields.lookup "root_package" = some (.text t.package) := by
    rcases mem_entry_plan.mp hf with rfl | rfl | rfl | ⟨r, -, rfl⟩
    · cases hrole
    · cases hrole
    · exact ⟨rfl, rfl⟩
    · cases hrole
  rw [render_of_mem_plan hplan, PlannedFile.standardText, hrole,
    fillAll_object hvalues.1 hvalues.2]

/-- **The module of the trait.** With the standard templates, every object file of a built tree
looks for the trait in the root package as it was given, with `::client` behind it. That is the
module of the root client, as all other paths name it, just if the root package is not empty and has
no colon at either end. -/
theorem plan_names_trait (layout : Layout) (specs : List Resource) (t : Tree)
    (h : (build layout specs).result = .ok t) :
    moduleOf layout t.file = Naming.modulePath [layout.rootPackage, "client"] ∧
    ∃ c, TemplateSet.standard.compile = .ok c ∧ ∀ f ∈ t.plan, ∀ id, f.IsObjectOf id →
      ∃ e ∈ t.entries, e.key = id ∧
        ∃ text, c.render f.role f.context.fields f.destination = .ok text ∧
          text = ofLines (e.object.lines (layout.rootPackage ++ "::client")) ∧
          (text = ofLines (e.object.lines (moduleOf layout t.file)) ↔
            layout.rootPackage ≠ "" ∧ Text.Bare (· == ':') layout.rootPackage.toList) := by
  obtain ⟨t₀, links, m, rfl⟩ := build_isBuilt h
  have hpackage : (t₀.withLinks links).package = layout.rootPackage :=
    congrArg Tree.package m.unlinked.root
  have hmodule : moduleOf layout (t₀.withLinks links).file = clientModule layout.rootPackage :=
    moduleOf_rootFile m.unlinked
  refine ⟨hmodule, standardCompiled, compile_standard, fun f hf id hof => ?_⟩
  obtain ⟨b, hb, e, he, hkey, hfe⟩ := exists_entry_of_isObjectOf hf hof
  refine ⟨e, mem_entries.mpr ⟨b, hb, he⟩, hkey, _, render_objectFile hb he hfe hof.1, ?_, ?_⟩
  · rw [hpackage]
  · rw [ofLines_lines_inj, hpackage, hmodule, append_client_eq_clientModule_iff]

/-- By default, object files look for the trait in the root client. -/
theorem mutualOwners_name_trait : ∃ t, (build {} mutualOwners).result = .ok t ∧
    (t.plan.filter fun f => f.role = .object).length = 2 ∧
    moduleOf {} t.file = "crate::generated::client" ∧
    ∃ c, TemplateSet.standard.compile = .ok c ∧ ∀ f ∈ t.plan, ∀ id, f.IsObjectOf id →
      ∃ e ∈ t.entries, e.key = id ∧
        c.render f.role f.context.fields f.destination =
          .ok (ofLines (e.object.lines "crate::generated::client")) := by
  obtain ⟨t, ht, hlength⟩ := exists_of_any mutualOwners
    (fun t => (t.plan.filter fun f => f.role = .object).length = 2) (by decide +kernel)
  have hroot : Naming.modulePath ["crate::generated", "client"] = "crate::generated::client" := by
    decide
  obtain ⟨hmodule, c, hc, hfiles⟩ := plan_names_trait {} mutualOwners t ht
  refine ⟨t, ht, of_decide_eq_true hlength, hmodule.trans hroot, c, hc, fun f hf id hof => ?_⟩
  obtain ⟨e, he, hkey, text, htext, hlines, -⟩ := hfiles f hf id hof
  exact ⟨e, he, hkey, htext.trans (congrArg _ hlines)⟩

/-- Behind colons at its end, the root package is not what other files take it for, and the object
file of a pod looks for the trait where there is nothing. -/
theorem trailing_colons_miss_trait : ∃ t,
    (build { rootPackage := "crate::generated::" } [.plain "core" "v1" "Pod" "pods"]).result =
      .ok t ∧
    moduleOf { rootPackage := "crate::generated::" } t.file = "crate::generated::client" ∧
    ∃ c, TemplateSet.standard.compile = .ok c ∧ ∃ f ∈ t.plan, f.role = .object ∧
      ∃ e ∈ t.entries, ∃ text, c.render f.role f.context.fields f.destination = .ok text ∧
        text = ofLines (e.object.lines "crate::generated::::client") ∧
        text ≠ ofLines (e.object.lines "crate::generated::client") := by
  obtain ⟨t, ht⟩ := (@build_ok_iff { rootPackage := "crate::generated::" } _).mpr
    (build_ok_iff.mp (exists_of_isOk [.plain "core" "v1" "Pod" "pods"] (by decide +kernel)))
  obtain ⟨t₀, links, m, rfl⟩ := build_isBuilt ht
  obtain ⟨e, he, -⟩ := exists_withLinks_iff.mpr (m.unlinked.exists_entry_iff.mpr
    (registers_of_clashes m.clashes (List.mem_singleton_self _)))
  obtain ⟨b, hb, heb⟩ := mem_entries.mp he
  have hpackage : (t₀.withLinks links).package = "crate::generated::" :=
    congrArg Tree.package m.unlinked.root
  have hfile : e.file (t₀.withLinks links).package b .object e.object.file (.object e.object) ∈
      e.plan (t₀.withLinks links).package b :=
    mem_entry_plan.mpr (Or.inr (Or.inr (Or.inl rfl)))
  have hplan := mem_plan.mpr (Or.inr ⟨b, hb, mem_branch_plan.mpr (Or.inr ⟨e, heb, hfile⟩)⟩)
  refine ⟨_, ht, (moduleOf_rootFile m.unlinked).trans (by decide), standardCompiled,
    compile_standard, _, hplan, rfl, e, he, _, render_objectFile hb heb hfile rfl, ?_, ?_⟩
  · rw [hpackage]
    rfl
  · rw [hpackage, Ne, ofLines_lines_inj]
    decide

end ClientGen
