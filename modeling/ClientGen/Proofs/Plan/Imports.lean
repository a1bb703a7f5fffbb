import ClientGen.Proofs.Naming.Identifier
import ClientGen.Proofs.Plan.Constants
import ClientGen.Proofs.Tree.Acceptance

/-!
What a file imports. The files in which a resource is used take its type from the object file, by
its bare name, and some names from the crate `kube`. What else they use they call by its path.
Nothing compares the two: kinds are refused for the files that they would get, and so `Client` is,
but no other name that is imported there.
-/

namespace ClientGen

open Spec ClientGen.Tree Template

/-! ### Imported names -/

def isKubeImport (cs : List Char) : Bool := "use kube::".toList.isPrefixOf cs

/-- The lines of the standard template of a role that import from `kube`. -/
def kubeLines (role : Role) : List String :=
  (TemplateSet.standardLines role).filter fun line => isKubeImport line.toList

/-- The names that a line imports, which stand behind its last colon. -/
def importedNames (line : String) : List String :=
  (Naming.words (line.toList.rtakeWhile (· != ':'))).map String.ofList

/-- The names that the standard template of a role imports from `kube`. -/
def kubeNames (role : Role) : List String := (kubeLines role).flatMap importedNames

/-- The module and the name of the type that a file of a resource imports. -/
def Context.ownImport? : Context → Option (String × String)
  | .resource _ _ _ _ (.client part) => some (part.objectModule, part.objectType)
  | .resource _ _ _ _ (.reader part) => some (part.objectModule, part.objectType)
  | .resource _ _ _ _ (.reference part) => some (part.objectModule, part.objectType)
  | _ => none

/-- The kinds with a type that is named as something that the file of a role imports from `kube`. -/
def takenKinds : Role → List String
  | .reader => ["Api", "api", "ListParams", "listParams"]
  | .reference => ["Api", "api", "ListParams", "listParams", "Resource", "resource"]
  | _ => []

/-! ### The standard templates -/

lemma Template.Spells.filter {p : List Char → Bool} {lines : List String} {css : List (List Char)}
    (h : Spells lines css) :
    (lines.filter fun line => p line.toList) = (css.filter p).map String.ofList := by
  induction h with
  | nil => rfl
  | cons cs _ ih =>
    rw [List.filter_cons, List.filter_cons, String.toList_ofList, ih]
    split <;> rfl

lemma kubeLines_of_spells {role : Role} {css : List (List Char)}
    (hs : Spells (TemplateSet.standardLines role) css) :
    kubeLines role = (css.filter isKubeImport).map String.ofList :=
  hs.filter

lemma kubeNames_of_spells {role : Role} {css : List (List Char)} {names : List String}
    (hs : Spells (TemplateSet.standardLines role) css)
    (h : (css.filter isKubeImport).flatMap (fun cs =>
      (Naming.words (cs.rtakeWhile (· != ':'))).map String.ofList) = names) :
    kubeNames role = names := by
  rw [kubeNames, kubeLines_of_spells hs, List.flatMap_map, ← h]
  simp only [importedNames, String.toList_ofList]

lemma kubeNames_eq : kubeNames .client = ["Client"] ∧
    kubeNames .reader = ["Api", "ListParams", "Client"] ∧
    kubeNames .reference = ["Api", "ListParams", "Client", "Resource"] := by
  refine ⟨?_, ?_, ?_⟩
  all_goals
    apply kubeNames_of_spells
    · repeat apply Spells.cons
      exact .nil
    · rfl

/-- What stands in the heading of a file of a resource behind the name of the resource. -/
def headingEnd : Role → String
  | .reference => "` objects they own." ++ "\n" ++ "\n"
  | _ => "`." ++ "\n" ++ "\n"

/-- Pieces that begin with the heading of a file, the given lines, and the import of a type. -/
def importsOwn (role : Role) (lines : List String) : List Piece → Bool
  | .text _ :: .gap _ :: .text s :: .gap m :: .text joint :: .gap p :: _ =>
    s == headingEnd role ++ ofLines lines ++ "\n" ++ "use " && joint == "::" &&
      m == ⟨role.name, ["object_module"]⟩ && p == ⟨role.name, ["object_type"]⟩
  | _ => false

lemma importsOwn_of_spells {role : Role} {css : List (List Char)}
    (hs : Spells (TemplateSet.standardLines role) css)
    (h : (scanPieces? (ofCharLines css)).any
      (importsOwn role ((css.filter isKubeImport).map String.ofList)) = true) :
    importsOwn role (kubeLines role) (standardPieces role) = true := by
  rw [kubeLines_of_spells hs]
  exact check_of_spells _ hs h

set_option maxRecDepth 10000 in
/-- The files in which a resource is used import its type behind what they import from `kube`. -/
lemma standardPieces_importsOwn {role : Role} (h : role ∈ [.client, .reader, .reference]) :
    importsOwn role (kubeLines role) (standardPieces role) = true := by
  have hcases : role = .client ∨ role = .reader ∨ role = .reference := by simpa using h
  rcases hcases with rfl | rfl | rfl
  all_goals
    apply importsOwn_of_spells
    · repeat apply Spells.cons
      exact .nil
    · decide +kernel

/-- Behind the lines that it imports from `kube`, a text imports a type of a module. -/
def ImportsBehind (lines : List String) (module type text : String) : Prop :=
  ∃ before behind, text =
    before ++ ofLines lines ++ "\n" ++ "use " ++ module ++ "::" ++ type ++ behind

lemma importsBehind_of_importsOwn {role : Role} {lines : List String} {ps : List Piece}
    (h : importsOwn role lines ps = true) (values : Values) :
    ImportsBehind lines (FieldPath.textIn ⟨role.name, ["object_module"]⟩ values)
      (FieldPath.textIn ⟨role.name, ["object_type"]⟩ values) (fillAll ps values) := by
  rw [importsOwn.eq_def] at h
  split at h
  · next start subject s m joint p rest =>
    simp only [Bool.and_eq_true, beq_iff_eq] at h
    obtain ⟨⟨⟨rfl, rfl⟩, rfl⟩, rfl⟩ := h
    refine ⟨start ++ FieldPath.textIn subject values ++ headingEnd role, fillAll rest values, ?_⟩
    simp only [fillAll, Piece.fill, String.append_assoc]
  · cases h

/-! ### Files of resources -/

variable {layout : Layout} {specs : List Resource} {t : Tree} {e : Entry} {f : PlannedFile}
  {module type : String}

lemma exists_entry_of_ownImport? (hf : f ∈ t.plan)
    (h : f.context.ownImport? = some (module, type)) :
    f.role ∈ [.client, .reader, .reference] ∧
      ∃ b ∈ t.branches, ∃ e ∈ b.entries, f ∈ e.plan t.package b := by
  rcases mem_plan.mp hf with rfl | ⟨b, hb, hf⟩
  · cases h
  rcases mem_branch_plan.mp hf with rfl | ⟨e, he, hf⟩
  · cases h
  refine ⟨?_, b, hb, e, he, hf⟩
  rcases mem_entry_plan.mp hf with rfl | rfl | rfl | ⟨r, -, rfl⟩
  · simp [Entry.file]
  · simp [Entry.file]
  · cases h
  · simp [Entry.file]

lemma textIn_of_ownImport? {root : String} {b : Branch} (hf : f ∈ e.plan root b)
    (h : f.context.ownImport? = some (module, type)) :
    (FieldPath.textIn ⟨f.role.name, ["object_module"]⟩ fun name => f.context.fields.lookup name) =
        module ∧
      (FieldPath.textIn ⟨f.role.name, ["object_type"]⟩ fun name => f.context.fields.lookup name) =
        type := by
  rcases mem_entry_plan.mp hf with rfl | rfl | rfl | ⟨r, -, rfl⟩
  on_goal 3 => cases h
  all_goals
    obtain ⟨rfl, rfl⟩ := Prod.mk.inj (Option.some.inj h)
    simp [FieldPath.textIn, FieldPath.value?, Entry.file, Role.name, Context.fields, Part.field,
      ClientPart.toValue, ReaderPart.toValue, ReferencePart.toValue, List.lookup_cons]

lemma ownImport?_eq {root : String} {b : Branch} {ls : List Link} {o : Resource}
    (hf : f ∈ ((Entry.of layout b o).withLinks ls b).plan root b) :
    f.context.ownImport? = if f.role = .object then none
      else some ((Entry.of layout b o).object.module, (Entry.of layout b o).object.typeName) := by
  rcases mem_entry_plan.mp hf with rfl | rfl | rfl | ⟨r, hr, rfl⟩
  · simp [Entry.file, Context.ownImport?, Entry.of, ClientPart.of]
  · simp [Entry.file, Context.ownImport?, Entry.of, ReaderPart.of]
  · simp [Entry.file, Context.ownImport?]
  · obtain ⟨-, rfl⟩ := withLinks_reference?_eq_some_iff.mp hr
    simp [Entry.file, Context.ownImport?, ReferencePart.of]

/-! ### Types -/

/-- The names of the types of a resource are that of its own type, with something behind it. -/
lemma nodup_types (layout : Layout) (b : Branch) (ls : List Link) (o : Resource) :
    let e := (Entry.of layout b o).withLinks ls b
    [e.object.typeName, e.reader.typeName, e.client.typeName, e.object.markerType].Nodup := by
  have hendings : ["", "Reader", "Client", "Kind"].Nodup := by decide
  have happend : Function.Injective (Naming.pascal o.identity.kind ++ ·) := fun _ _ heq =>
    (String.append_right_inj _).mp heq
  have htypes := hendings.map happend
  rw [List.map_cons, String.append_empty] at htypes
  exact htypes

lemma pascal_mem_kubeNames_iff {role : Role} (hrole : role ∈ [.client, .reader, .reference])
    {kind : String} (hkind : kind ≠ "" ∧ ∀ c ∈ kind.toList, c.isAlphanum = true)
    (hclient : Naming.stem kind ≠ "client") :
    Naming.pascal kind ∈ kubeNames role ↔ kind ∈ takenKinds role := by
  have hapi : Naming.pascal kind = "Api" ↔ kind = "Api" ∨ kind = "api" :=
    Naming.pascal_eq_iff 'A' "pi".toList hkind (by decide)
  have hparams : Naming.pascal kind = "ListParams" ↔ kind = "ListParams" ∨ kind = "listParams" :=
    Naming.pascal_eq_iff 'L' "istParams".toList hkind (by decide)
  have hresource : Naming.pascal kind = "Resource" ↔ kind = "Resource" ∨ kind = "resource" :=
    Naming.pascal_eq_iff 'R' "esource".toList hkind (by decide)
  -- a kind with the type `Client` is refused for its file
  have hnot : Naming.pascal kind ≠ "Client" := by
    intro hpascal
    rcases (Naming.pascal_eq_iff 'C' "lient".toList hkind (by decide)).mp hpascal
      with rfl | rfl
    · exact hclient (by decide)
    · exact hclient (by decide)
  obtain ⟨hclientNames, hreaderNames, hreferenceNames⟩ := kubeNames_eq
  have hcases : role = .client ∨ role = .reader ∨ role = .reference := by simpa using hrole
  rcases hcases with rfl | rfl | rfl
  · simp [hclientNames, takenKinds, hnot]
  · simp [hreaderNames, takenKinds, hapi, hparams, hnot, or_assoc]
  · simp [hreferenceNames, takenKinds, hapi, hparams, hresource, hnot, or_assoc]

/-- **Imports.** The types of a resource have distinct names. With the standard templates, the
client, the reader and the reference file of a resource import its own type behind names from
`kube`. The type is one of these names just if the file is the reader or the reference file and the
kind is `Api`, `ListParams` or, in a reference file, `Resource`, up to the case of the first
letter. -/
theorem plan_imports (layout : Layout) (specs : List Resource) (t : Tree)
    (h : (build layout specs).result = .ok t) :
    (∀ e ∈ t.entries, [e.object.typeName, e.reader.typeName, e.client.typeName,
      e.object.markerType].Nodup) ∧
    ∃ c, TemplateSet.standard.compile = .ok c ∧ ∀ f ∈ t.plan, ∀ module type,
      f.context.ownImport? = some (module, type) →
        ∃ e ∈ t.entries, f.identity? = some e.key ∧ module = e.object.module ∧
          type = e.object.typeName ∧
          (∃ text, c.render f.role f.context.fields f.destination = .ok text ∧
            ImportsBehind (kubeLines f.role) module type text) ∧
          (type ∈ kubeNames f.role ↔ e.kind ∈ takenKinds f.role) := by
  obtain ⟨t₀, links, m, rfl⟩ := build_isBuilt h
  refine ⟨fun e he => ?_, standardCompiled, compile_standard, fun f hf module type himport => ?_⟩
  · obtain ⟨b, hb, he⟩ := mem_entries.mp he
    obtain ⟨o, -, -, -, rfl⟩ := (m.unlinked.entry_withLinks hb).mp he
    exact nodup_types layout b links o
  · obtain ⟨hrole, b, hb, e, he, hfe⟩ := exists_entry_of_ownImport? hf himport
    obtain ⟨hmodule, htype⟩ := textIn_of_ownImport? hfe himport
    have hentry : e ∈ (t₀.withLinks links).entries := mem_entries.mpr ⟨b, hb, he⟩
    obtain ⟨o, ho, -, -, rfl⟩ := (m.unlinked.entry_withLinks hb).mp he
    have hown := (ownImport?_eq hfe).symm.trans himport
    have hobject : f.role ≠ .object := by
      intro heq
      simp [heq] at hrole
    rw [if_neg hobject] at hown
    obtain ⟨rfl, rfl⟩ := Prod.mk.inj (Option.some.inj hown)
    have hid : f.identity? = some o.identity := by
      rcases mem_entry_plan.mp hfe with rfl | rfl | rfl | ⟨r, -, rfl⟩ <;> rfl
    refine ⟨_, hentry, hid, rfl, rfl, ⟨_, render_of_mem_plan hf, ?_⟩, ?_⟩
    · have himports := importsBehind_of_importsOwn (standardPieces_importsOwn hrole)
        fun name => f.context.fields.lookup name
      rwa [hmodule, htype] at himports
    · exact pascal_mem_kubeNames_iff hrole
        (isAlphanum_of_mem_identifier (m.valid o ho.mem).identity.kind) ho.stem_ne

/-- What the readers and the reference files of resources that own each other import. -/
theorem mutualOwners_imports : ∃ t, (build {} mutualOwners).result = .ok t ∧
    t.plan.filterMap (fun f => f.context.ownImport?.map fun i => (f.role, i.2)) =
      [(.client, "Deployment"), (.reader, "Deployment"), (.reference, "Deployment"),
        (.client, "ReplicaSet"), (.reader, "ReplicaSet"), (.reference, "ReplicaSet")] ∧
    ∃ c, TemplateSet.standard.compile = .ok c ∧ ∀ f ∈ t.plan, ∀ module type,
      f.context.ownImport? = some (module, type) →
        ∃ e ∈ t.entries, f.identity? = some e.key ∧ module = e.object.module ∧
          type = e.object.typeName ∧
          (∃ text, c.render f.role f.context.fields f.destination = .ok text ∧
            ImportsBehind (kubeLines f.role) module type text) ∧
          (type ∈ kubeNames f.role ↔ e.kind ∈ takenKinds f.role) := by
  obtain ⟨t, ht, himports⟩ := exists_of_any mutualOwners
    (fun t => t.plan.filterMap (fun f => f.context.ownImport?.map fun i => (f.role, i.2)) =
      [(.client, "Deployment"), (.reader, "Deployment"), (.reference, "Deployment"),
        (.client, "ReplicaSet"), (.reader, "ReplicaSet"), (.reference, "ReplicaSet")])
    (by decide +kernel)
  exact ⟨t, ht, of_decide_eq_true himports, (plan_imports {} mutualOwners t ht).2⟩

/-- A resource with a type that its reader imports from `kube` as well. -/
theorem apiKind_imported_twice : ∃ t, (build {} [.plain "core" "v1" "Api" "apis"]).result = .ok t ∧
    ∃ f ∈ t.plan, f.context.ownImport? = some ("crate::generated::core::v1::api", "Api") ∧
      "Api" ∈ kubeNames f.role := by
  obtain ⟨t, ht, himport⟩ := exists_of_any [.plain "core" "v1" "Api" "apis"]
    (fun t => ∃ f ∈ t.plan, f.role = .reader ∧
      f.context.ownImport? = some ("crate::generated::core::v1::api", "Api")) (by decide +kernel)
  obtain ⟨f, hf, hrole, himport⟩ := of_decide_eq_true himport
  exact ⟨t, ht, f, hf, himport, by rw [hrole, kubeNames_eq.2.1]; decide⟩

end ClientGen
