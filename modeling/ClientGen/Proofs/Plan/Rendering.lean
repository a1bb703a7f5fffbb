import ClientGen.Proofs.Plan.Files
import ClientGen.Proofs.Template.Standard

/-!
What planned files are rendered for. The values of every planned file have the shapes that the
standard template of its role needs, so that rendering it never fails.
-/

namespace ClientGen

open Spec ClientGen.Tree Template

/-! ### Values by their shapes -/

lemma GroupVersionSummary.holds_toValue (s : GroupVersionSummary) :
    groupVersionShape.Holds s.toValue :=
  Shape.holds_record (by simp [AllHold, List.lookup_cons])

lemma ResourceSummary.holds_toValue (s : ResourceSummary) : summaryShape.Holds s.toValue :=
  Shape.holds_record (by simp [AllHold, List.lookup_cons])

lemma holds_identity (id : Identity) : identityShape.Holds id.toValue :=
  Shape.holds_record (by simp [AllHold, List.lookup_cons])

lemma Tree.Names.holds_toValue (n : Names) : namesShape.Holds n.toValue :=
  Shape.holds_record (by simp [AllHold, List.lookup_cons])

lemma Tree.Child.holds_toValue (c : Child) : childShape.Holds c.toValue :=
  Shape.holds_record (by simp [AllHold, List.lookup_cons, holds_identity])

lemma Tree.Owner.holds_toValue (o : Owner) : ownerShape.Holds o.toValue :=
  Shape.holds_record (by simp [AllHold, List.lookup_cons, holds_identity])

lemma Tree.ClientPart.holds_toValue (c : ClientPart) : (partShape .client).Holds c.toValue :=
  Shape.holds_record (by
    simp [AllHold, List.lookup_cons, Shape.holds_items fun child _ => Child.holds_toValue child])

lemma Tree.ReaderPart.holds_toValue (r : ReaderPart) : (partShape .reader).Holds r.toValue :=
  Shape.holds_record (by simp [AllHold, List.lookup_cons])

lemma Tree.ObjectPart.holds_toValue (o : ObjectPart) : (partShape .object).Holds o.toValue :=
  Shape.holds_record (by simp [AllHold, List.lookup_cons, holds_identity])

lemma Tree.ReferencePart.holds_toValue (r : ReferencePart) :
    (partShape .reference).Holds r.toValue :=
  Shape.holds_record (by
    simp [AllHold, List.lookup_cons, Shape.holds_items fun owner _ => Owner.holds_toValue owner])

/-! ### Contexts -/

/-- The values of a planned file have the shapes of its role. -/
def PlannedFile.IsSuited (f : PlannedFile) : Prop :=
  AllHold (contextShapes f.role) fun name => f.context.fields.lookup name

lemma rootFile_isSuited (t : Tree) : t.rootFile.IsSuited := by
  have hroot : Shape.Holds (.record [("package", .text), ("client_type", .text),
      ("location", .text)]) (.record [("package", .text t.package),
      ("client_type", .text t.clientType), ("location", .text t.location)]) :=
    Shape.holds_record (by simp [AllHold, List.lookup_cons])
  simp [PlannedFile.IsSuited, rootFile, contextShapes, Context.fields, AllHold, List.lookup_cons,
    hroot, Shape.holds_items fun s _ => GroupVersionSummary.holds_toValue s]

lemma clientFile_isSuited (rootPackage : String) (b : Branch) :
    (b.clientFile rootPackage).IsSuited := by
  simp [PlannedFile.IsSuited, Branch.clientFile, contextShapes, Context.fields, AllHold,
    List.lookup_cons, GroupVersionSummary.holds_toValue,
    Shape.holds_items fun s _ => ResourceSummary.holds_toValue s]

lemma entry_plan_isSuited {rootPackage : String} {b : Branch} {e : Entry} {f : PlannedFile}
    (hf : f ∈ e.plan rootPackage b) : f.IsSuited := by
  rcases mem_entry_plan.mp hf with rfl | rfl | rfl | ⟨r, -, rfl⟩
  all_goals
    simp [PlannedFile.IsSuited, Entry.file, contextShapes, resourceShapes, Context.fields,
      Part.field, AllHold, List.lookup_cons, GroupVersionSummary.holds_toValue,
      Names.holds_toValue, ClientPart.holds_toValue, ReaderPart.holds_toValue,
      ObjectPart.holds_toValue, ReferencePart.holds_toValue]

lemma isSuited_of_mem_plan {t : Tree} {f : PlannedFile} (hf : f ∈ t.plan) : f.IsSuited := by
  rcases mem_plan.mp hf with rfl | ⟨b, -, hf⟩
  · exact rootFile_isSuited t
  · rcases mem_branch_plan.mp hf with rfl | ⟨e, -, hf⟩
    · exact clientFile_isSuited t.package b
    · exact entry_plan_isSuited hf

/-! ### Texts -/

/-- The text of a planned file, as the pieces of its standard template say. -/
def PlannedFile.standardText (f : PlannedFile) : String :=
  fillAll (standardPieces f.role) fun name => f.context.fields.lookup name

lemma render_of_mem_plan {t : Tree} {f : PlannedFile} (hf : f ∈ t.plan) :
    standardCompiled.render f.role f.context.fields f.destination = .ok f.standardText :=
  render_standard (isSuited_of_mem_plan hf) f.destination

/-- **The standard templates suffice.** They can be read, and every planned file of every tree can
be rendered with them: of a built one, whatever its scopes, links and optional parts are, and of any
other one as well, since what a context holds does not depend on how its tree came about. -/
theorem plan_renders (t : Tree) : ∃ c, TemplateSet.standard.compile = .ok c ∧
    ∀ f ∈ t.plan, ∃ text, c.render f.role f.context.fields f.destination = .ok text :=
  ⟨standardCompiled, compile_standard, fun f hf => ⟨f.standardText, render_of_mem_plan hf⟩⟩

end ClientGen
