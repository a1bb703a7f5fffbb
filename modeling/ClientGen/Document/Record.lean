import ClientGen.Document.Basic

/-!
From structured data to documents. The data is what the formats have in common; the rules say which
fields a record has, which may be missing, and what each value must look like.
-/

namespace ClientGen

open Spec

/-- The name of a field, as data gives it. -/
inductive FieldKey where
  | name (s : String)
  /-- The place of the field in its record. -/
  | place (n : Nat)
  /-- Something that names no field. -/
  | none
  deriving DecidableEq

/-- A scalar of which only the place where it stands tells what it is. -/
structure UntypedScalar where
  text : String
  /-- What it is where a text may be absent, if it can stand there. -/
  optional? : Option (Option String)
  /-- It is as good as an empty list or record. -/
  isEmpty : Bool
  /-- The case that it is of a type of several cases. -/
  case? : Option String

/-- Structured data. -/
inductive Datum where
  | null
  /-- A value that is no text, list or record. -/
  | other
  | text (s : String)
  | scalar (c : UntypedScalar)
  | list (items : List Datum)
  | map (fields : List (FieldKey × Datum))
  deriving Inhabited

/-- What the formats do not have in common. -/
structure Dialect where
  /-- A record may be given as the list of its fields. -/
  positional : Bool
  /-- The value that goes with a case without a value. -/
  isUnit : Datum → Bool

namespace Datum

def text? : Datum → Option String
  | .text s => some s
  | .scalar c => some c.text
  | _ => Option.none

def optionalText? : Datum → Option (Option String)
  | .null => some Option.none
  | .text s => some (some s)
  | .scalar c => c.optional?
  | _ => Option.none

def items? : Datum → Option (List Datum)
  | .list items => some items
  | .scalar c => if c.isEmpty then some [] else Option.none
  | _ => Option.none

def listOf? {α : Type} (f : Datum → Option α) (d : Datum) : Option (List α) :=
  d.items?.bind fun items => items.mapM f

/-- The field that a key names in a record with these fields. -/
def fieldName? (names : List String) : FieldKey → Option String
  | .name s => some s
  | .place n => some ((names[n]?).getD "")
  | .none => Option.none

/-- The fields of a record, by name. A list names its items in order and must not be too long. -/
def record? (dialect : Dialect) (names : List String) : Datum → Option (List (String × Datum))
  | .map fields => fields.mapM fun f => (fieldName? names f.1).map fun name => (name, f.2)
  | .scalar c => if c.isEmpty then some [] else Option.none
  | .list items =>
    if dialect.positional && items.length ≤ names.length then some (names.zip items)
    else Option.none
  | _ => Option.none

end Datum

/-- The value of a field, which must not be given twice. A field that is not given has a default. -/
def field? {α : Type} (name : String) (f : Datum → Option α) (default : Option α)
    (fields : List (String × Datum)) : Option α :=
  match fields.filter fun g => g.1 == name with
  | [] => default
  | [g] => f g.2
  | _ => none

def scopeOfName? (s : String) : Option Scope :=
  [("Namespaced", Scope.namespaced), ("namespaced", .namespaced), ("Cluster", .cluster),
    ("cluster", .cluster), ("ClusterScoped", .cluster)].lookup s

/-- A scope: its name, or a case without a value. -/
def scope? (dialect : Dialect) : Datum → Option Scope
  | .text s => scopeOfName? s
  | .scalar c => c.case?.bind scopeOfName?
  | .map [(.name s, value)] => if dialect.isUnit value then scopeOfName? s else none
  | _ => none

def Spec.Reference.fieldNames : List String :=
  ["group", "version", "kind", "pluralKind"]

def Spec.Resource.fieldNames : List String :=
  ["group", "version", "kind", "listKind", "pluralKind", "scope", "package", "subResources"]

def Program.fieldNames : List String :=
  ["command", "args"]

def Settings.fieldNames : List String :=
  ["rootPath", "rootPackage", "ecosystemRoot", "templates", "formatter"]

def Spec.Reference.ofDatum? (dialect : Dialect) (d : Datum) : Option Reference := do
  let fields ← d.record? dialect fieldNames
  let group ← field? "group" Datum.text? (some "") fields
  let version ← field? "version" Datum.text? (some "") fields
  let kind ← field? "kind" Datum.text? (some "") fields
  let plural? ← field? "pluralKind" Datum.optionalText? (some none) fields
  return ⟨⟨group, version, kind⟩, plural?⟩

def Spec.Resource.ofDatum? (dialect : Dialect) (d : Datum) : Option Resource := do
  let fields ← d.record? dialect fieldNames
  let group ← field? "group" Datum.text? (some "") fields
  let version ← field? "version" Datum.text? (some "") fields
  let kind ← field? "kind" Datum.text? (some "") fields
  let listKind? ← field? "listKind" Datum.optionalText? (some none) fields
  let plural ← field? "pluralKind" Datum.text? (some "") fields
  let scope ← field? "scope" (scope? dialect) (some .namespaced) fields
  let package? ← field? "package" Datum.optionalText? (some none) fields
  let references ←
    field? "subResources" (Datum.listOf? (Reference.ofDatum? dialect)) (some []) fields
  return { identity := ⟨group, version, kind⟩, listKind?, plural, scope, package?, references }

/-- A program. Its command must be given. -/
def Program.ofDatum? (dialect : Dialect) (d : Datum) : Option Program := do
  let fields ← d.record? dialect fieldNames
  let command ← field? "command" Datum.text? none fields
  let args ← field? "args" (Datum.listOf? Datum.text?) (some []) fields
  return ⟨command, args⟩

def Program.optionalOfDatum? (dialect : Dialect) : Datum → Option (Option Program)
  | .null => some none
  | d => (Program.ofDatum? dialect d).map some

def Settings.ofFields? (dialect : Dialect) (fields : List (String × Datum)) : Option Settings := do
  let rootPath? ← field? "rootPath" Datum.optionalText? (some none) fields
  let rootPackage? ← field? "rootPackage" Datum.optionalText? (some none) fields
  let ecosystemRoot? ← field? "ecosystemRoot" Datum.optionalText? (some none) fields
  let templates? ← field? "templates" Datum.optionalText? (some none) fields
  let formatter? ← field? "formatter" (Program.optionalOfDatum? dialect) (some none) fields
  return { rootPath?, rootPackage?, ecosystemRoot?, templates?, formatter? }

def resourcesOfDatum? (dialect : Dialect) (d : Datum) : Option (List Resource) :=
  d.listOf? (Resource.ofDatum? dialect)

/-- A document, from the data of its settings and the data of its resources, which are given under
the name `resources` among the fields. -/
def Document.ofFields? (settings resources : Dialect) (fields : List (String × Datum)) :
    Option Document := do
  let s ← Settings.ofFields? settings (fields.filter fun f => f.1 != "resources")
  let r ← field? "resources" (resourcesOfDatum? resources) (some []) fields
  return ⟨s, r⟩

end ClientGen
