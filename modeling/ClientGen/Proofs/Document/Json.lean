import ClientGen.Document.Load
import ClientGen.Proofs.Data.Json

/-!
What is written of a document is read back as the document. A value under a name is either stated,
and then it is read from its field, or skipped, and then it is the default of the field.
-/

namespace ClientGen

open Spec Data

variable {α : Type} {dialect : Dialect} {name other : String} {fields : List (String × Json)}

/-! ### Records and lists -/

def entries (fields : List (String × Json)) : List (String × Datum) :=
  fields.map fun f => (f.1, .ofJson f.2)

lemma ofJsonFields_map (fields : List (String × Json)) :
    Datum.ofJsonFields (fields.map fun f => (some f.1, f.2)) =
      fields.map fun f => (.name f.1, .ofJson f.2) := by
  induction fields with
  | nil => rfl
  | cons f fields ih => rw [List.map_cons, Datum.ofJsonFields, ih, List.map_cons]

lemma record?_map (names : List String) (fields : List (String × Json)) :
    (Datum.map (fields.map fun f => (.name f.1, .ofJson f.2))).record? dialect names =
      some (entries fields) := by
  induction fields with
  | nil => rfl
  | cons f fields ih =>
    rw [Datum.record?] at ih ⊢
    rw [List.map_cons, List.mapM_cons, ih]
    rfl

lemma record?_ofJson (names : List String) (fields : List (String × Json)) :
    (Datum.ofJson (.record fields)).record? dialect names = some (entries fields) := by
  rw [Json.record, Datum.ofJson, ofJsonFields_map, record?_map]

lemma listOf?_ofJson {f : α → Json} {read : Datum → Option α}
    (h : ∀ a, read (.ofJson (f a)) = some a) (items : List α) :
    Datum.listOf? read (.ofJson (.list (items.map f))) = some items := by
  change (Datum.ofJsonItems (items.map f)).mapM read = some items
  induction items with
  | nil => rfl
  | cons a items ih =>
    rw [List.map_cons, Datum.ofJsonItems, List.mapM_cons, ih, h]
    rfl

/-! ### Fields -/

/-- What the fields of one name are read as. -/
def pick? (read : Datum → Option α) (default : Option α) : List (String × Json) → Option α
  | [] => default
  | [f] => read (.ofJson f.2)
  | _ => none

lemma field?_entries (read : Datum → Option α) (default : Option α)
    (fields : List (String × Json)) : field? name read default (entries fields) =
      pick? read default (fields.filter fun f => f.1 == name) := by
  have hfilter : (entries fields).filter (fun f => f.1 == name) =
      entries (fields.filter fun f => f.1 == name) := by
    rw [entries, List.filter_map]
    rfl
  rw [field?, hfilter]
  generalize (fields.filter fun f => f.1 == name) = named
  rcases named with _ | ⟨f, _ | ⟨g, fs⟩⟩ <;> rfl

@[simp] lemma pick?_single (read : Datum → Option α) (default : Option α) (v : Json) :
    pick? read default [(name, v)] = read (.ofJson v) := rfl

lemma forall_mem_optionalField {p : String × Json → Prop} {f : α → Json}
    (h : ∀ a, p (name, f a)) (a? : Option α) : ∀ g ∈ optionalField name f a?, p g := by
  rcases a? with _ | a
  · exact List.forall_mem_nil p
  · exact List.forall_mem_singleton.mpr (h a)

lemma filter_optionalField (f : α → Json) (a? : Option α) :
    (optionalField other f a?).filter (fun g => g.1 == name) =
      if other = name then optionalField other f a? else [] := by
  rcases a? with _ | a
  · simp [optionalField]
  · simp [optionalField, List.filter_cons]

lemma pick?_optionalField {f : α → Json} {read : Datum → Option (Option α)}
    (h : ∀ a, read (.ofJson (f a)) = some (some a)) (a? : Option α) :
    pick? read (some none) (optionalField name f a?) = some a? := by
  rcases a? with _ | a
  · rfl
  · exact h a

lemma filter_nonempty (items : List α) (v : Json) :
    (if items.isEmpty then [] else [(other, v)]).filter (fun g => g.1 == name) =
      if other = name then (if items.isEmpty then [] else [(other, v)]) else [] := by
  rcases items with _ | ⟨a, items⟩
  · simp
  · simp [List.filter_cons]

lemma pick?_nonempty {f : α → Json} {read : Datum → Option α}
    (h : ∀ a, read (.ofJson (f a)) = some a) (items : List α) :
    pick? (Datum.listOf? read) (some [])
      (if items.isEmpty then [] else [(name, .list (items.map f))]) = some items := by
  rcases items with _ | ⟨a, items⟩
  · rfl
  · exact listOf?_ofJson h (a :: items)

lemma pick?_optionalText (a? : Option String) :
    pick? Datum.optionalText? (some none) (optionalField name .text a?) = some a? :=
  pick?_optionalField (fun _ => rfl) a?

lemma text?_ofJson (s : String) : Datum.text? (.ofJson (.text s)) = some s := rfl

/-! ### References, resources and settings -/

lemma Spec.Reference.ofDatum?_toJson (r : Reference) :
    Reference.ofDatum? dialect (.ofJson r.toJson) = some r := by
  -- Each name picks its own field from among the others, and the field is read.
  simp [Reference.ofDatum?, Reference.toJson, record?_ofJson, field?_entries, filter_optionalField,
    text?_ofJson, pick?_optionalText]

lemma scope?_name (s : Scope) : scope? dialect (.ofJson (.text s.name)) = some s := by
  rcases s with _ | _ <;> rfl

lemma Spec.Resource.ofDatum?_toJson (r : Resource) :
    Resource.ofDatum? dialect (.ofJson r.toJson) = some r := by
  -- The list of references is skipped where it is empty, and the default is the empty list.
  simp [-List.isEmpty_iff, Resource.ofDatum?, Resource.toJson, record?_ofJson, field?_entries,
    filter_optionalField, filter_nonempty, text?_ofJson, scope?_name, pick?_optionalText,
    pick?_nonempty Reference.ofDatum?_toJson]

lemma Program.ofDatum?_toJson (p : Program) :
    Program.ofDatum? dialect (.ofJson p.toJson) = some p := by
  simp [Program.ofDatum?, Program.toJson, record?_ofJson, field?_entries, text?_ofJson,
    listOf?_ofJson text?_ofJson]

lemma Settings.ofFields?_toFields (s : Settings) :
    Settings.ofFields? dialect (entries s.toFields) = some s := by
  have hformatter : ∀ p : Program,
      Program.optionalOfDatum? dialect (.ofJson p.toJson) = some (some p) := by
    intro p
    change (Program.ofDatum? dialect (.ofJson p.toJson)).map some = some (some p)
    rw [p.ofDatum?_toJson]
    rfl
  simp [Settings.ofFields?, Settings.toFields, field?_entries, filter_optionalField,
    pick?_optionalText, pick?_optionalField hformatter]

/-! ### What is written -/

lemma isSpelled_record (h : ∀ f ∈ fields, f.2.IsSpelled) : (Json.record fields).IsSpelled :=
  .object (List.forall_mem_map.mpr h)

lemma isSpelled_list {f : α → Json} (h : ∀ a, (f a).IsSpelled) (items : List α) :
    (Json.list (items.map f)).IsSpelled :=
  .list (List.forall_mem_map.mpr fun a _ => h a)

lemma isSpelled_optionalText (a? : Option String) :
    ∀ f ∈ optionalField name Json.text a?, f.2.IsSpelled :=
  forall_mem_optionalField Json.IsSpelled.text a?

lemma Spec.Reference.isSpelled_toJson (r : Reference) : r.toJson.IsSpelled := by
  refine isSpelled_record (List.forall_mem_append.mpr ⟨?_, isSpelled_optionalText r.plural?⟩)
  simp [Json.IsSpelled.text]

lemma Spec.Resource.isSpelled_toJson (r : Resource) : r.toJson.IsSpelled := by
  have hreferences : ∀ f ∈ (if r.references.isEmpty then []
      else [("subResources", Json.list (r.references.map Reference.toJson))]), f.2.IsSpelled := by
    split
    · exact List.forall_mem_nil _
    · exact List.forall_mem_singleton.mpr (isSpelled_list Reference.isSpelled_toJson r.references)
  refine isSpelled_record ?_
  simp only [List.forall_mem_append]
  exact ⟨⟨⟨⟨by simp [Json.IsSpelled.text], isSpelled_optionalText r.listKind?⟩,
    by simp [Json.IsSpelled.text]⟩, isSpelled_optionalText r.package?⟩, hreferences⟩

lemma Program.isSpelled_toJson (p : Program) : p.toJson.IsSpelled :=
  isSpelled_record (by simp [Json.IsSpelled.text, isSpelled_list Json.IsSpelled.text])

lemma Settings.forall_mem_toFields {p : String × Json → Prop}
    (htext : ∀ name ∈ Settings.fieldNames, ∀ s, p (name, .text s))
    (hprogram : ∀ q : Program, p ("formatter", q.toJson)) (s : Settings) :
    ∀ f ∈ s.toFields, p f := by
  simp only [toFields, List.forall_mem_append]
  exact ⟨⟨⟨⟨forall_mem_optionalField (htext "rootPath" (by decide)) s.rootPath?,
    forall_mem_optionalField (htext "rootPackage" (by decide)) s.rootPackage?⟩,
    forall_mem_optionalField (htext "ecosystemRoot" (by decide)) s.ecosystemRoot?⟩,
    forall_mem_optionalField (htext "templates" (by decide)) s.templates?⟩,
    forall_mem_optionalField hprogram s.formatter?⟩

def Document.toFields (d : Document) : List (String × Json) :=
  d.settings.toFields ++ [("resources", .list (d.resources.map Resource.toJson))]

lemma Document.toJson_eq (d : Document) : d.toJson = .record d.toFields := rfl

lemma Document.isSpelled_toJson (d : Document) : d.toJson.IsSpelled := by
  refine isSpelled_record (List.forall_mem_append.mpr ⟨?_, ?_⟩)
  · exact Settings.forall_mem_toFields (fun _ _ => .text) Program.isSpelled_toJson d.settings
  · exact List.forall_mem_singleton.mpr (isSpelled_list Resource.isSpelled_toJson d.resources)

lemma areSound_texts (depth : Nat) (texts : List String) :
    Json.areSound depth (texts.map .text) = true := by
  induction texts with
  | nil => rfl
  | cons s texts ih => rw [List.map_cons, Json.areSound, Json.isSound, ih]; rfl

lemma Settings.isSound_toFields (s : Settings) :
    ∀ f ∈ s.toFields, f.2.isSound jsonDepth = true := by
  refine forall_mem_toFields (fun _ _ _ => rfl) (fun p => ?_) s
  simp [Program.toJson, Json.record, jsonDepth, Json.isSound, Json.areFieldsSound, areSound_texts]

lemma Settings.ne_resources (s : Settings) : ∀ f ∈ s.toFields, f.1 ≠ "resources" := by
  have hnames : ∀ name ∈ fieldNames, name ≠ "resources" := by decide
  exact forall_mem_toFields (fun name hname _ => hnames name hname)
    (fun _ => hnames "formatter" (by decide)) s

/-! ### Documents -/

lemma Document.ofFields?_toFields (d : Document) (settings resources : Dialect) :
    Document.ofFields? settings resources (entries d.toFields) = some d := by
  have hne := d.settings.ne_resources
  have hsettings : (entries d.toFields).filter (fun f => f.1 != "resources") =
      entries d.settings.toFields := by
    rw [entries, toFields, List.map_append, List.filter_append, List.filter_eq_self.mpr]
    · exact List.append_nil _
    · exact List.forall_mem_map.mpr fun f hf => bne_iff_ne.mpr (hne f hf)
  have hresources : d.toFields.filter (fun f => f.1 == "resources") =
      [("resources", .list (d.resources.map Resource.toJson))] := by
    rw [toFields, List.filter_append,
      List.filter_eq_nil_iff.mpr fun f hf => by simpa using hne f hf]
    rfl
  rw [ofFields?, hsettings, field?_entries, hresources]
  simp [d.settings.ofFields?_toFields, resourcesOfDatum?, listOf?_ofJson Resource.ofDatum?_toJson]

lemma Document.ofJson?_toJson (d : Document) : Document.ofJson? d.toJson = some d := by
  have hsound : (d.toFields.map fun f => (some f.1, f.2)).all (fun f =>
      f.1.isSome && (f.1 == some "resources" || f.2.isSound jsonDepth)) = true := by
    rw [List.all_map, List.all_eq_true]
    -- What stands under `resources` is not read in full, so it need not be sound.
    refine List.forall_mem_append.mpr ⟨fun f hf => ?_, List.forall_mem_singleton.mpr rfl⟩
    simp [d.settings.isSound_toFields f hf]
  rw [toJson_eq, Json.record, ofJson?, hsound, ofJsonFields_map, record?_map]
  simp [d.ofFields?_toFields]

/-- A document is read back from its JSON value, and so from the JSON text of this value. Hence
writing what was read, in whatever format, and reading it again changes nothing. -/
theorem Document.parse?_print_toJson :
    (∀ d : Document, ofJson? d.toJson = some d ∧ parse? .json d.toJson.print = some d) ∧
    ∀ (format : DocumentFormat) (text : String),
      (parse? format text).bind (fun d => parse? .json d.toJson.print) = parse? format text := by
  have hparse : ∀ d : Document, parse? .json d.toJson.print = some d := fun d => by
    rw [parse?, parseJson?, Json.parse?_print d.isSpelled_toJson, Option.bind_some, ofJson?_toJson]
  refine ⟨fun d => ⟨d.ofJson?_toJson, hparse d⟩, fun format text => ?_⟩
  simp only [hparse, Option.bind_fun_some]

end ClientGen
