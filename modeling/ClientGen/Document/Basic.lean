import ClientGen.Data.Json
import ClientGen.Path
import ClientGen.Spec.Resource

/-!
Spec documents: resource specs with the settings that go with them, and their form in JSON.
-/

namespace ClientGen

open Spec Data

structure Program where
  command : String
  args : List String
  deriving DecidableEq, Inhabited

/-- The settings that a document may hold. -/
structure Settings where
  rootPath? : Option String := none
  rootPackage? : Option String := none
  ecosystemRoot? : Option String := none
  /-- The directory of the templates, as seen from the document. -/
  templates? : Option String := none
  formatter? : Option Program := none
  deriving DecidableEq, Inhabited

/-- Settings and resources. -/
structure Document where
  settings : Settings
  resources : List Resource
  deriving DecidableEq, Inhabited

/-- The ways in which a document may be written. -/
inductive DocumentFormat where
  | yaml
  | json
  | toml
  deriving DecidableEq

/-- The format that a file name stands for. Any ending but the known ones stands for JSON. -/
def DocumentFormat.ofPath (path : String) : DocumentFormat :=
  match (Path.extension? path).map fun e => e.toList.map Char.toLower with
  | some ['y', 'a', 'm', 'l'] => .yaml
  | some ['y', 'm', 'l'] => .yaml
  | some ['t', 'o', 'm', 'l'] => .toml
  | _ => .json

/-- A field that is written only when there is a value. -/
def optionalField {α : Type} (name : String) (f : α → Json) : Option α → List (String × Json)
  | some a => [(name, f a)]
  | none => []

def Program.toJson (p : Program) : Json :=
  .record [("command", .text p.command), ("args", .list (p.args.map .text))]

def Spec.Reference.toJson (r : Reference) : Json :=
  .record ([("group", .text r.identity.group), ("version", .text r.identity.version),
      ("kind", .text r.identity.kind)] ++ optionalField "pluralKind" .text r.plural?)

def Spec.Resource.toJson (r : Resource) : Json :=
  .record ([("group", .text r.identity.group), ("version", .text r.identity.version),
      ("kind", .text r.identity.kind)]
    ++ optionalField "listKind" .text r.listKind?
    ++ [("pluralKind", .text r.plural), ("scope", .text r.scope.name)]
    ++ optionalField "package" .text r.package?
    ++ if r.references.isEmpty then []
      else [("subResources", .list (r.references.map Reference.toJson))])

def Settings.toFields (s : Settings) : List (String × Json) :=
  optionalField "rootPath" .text s.rootPath?
    ++ optionalField "rootPackage" .text s.rootPackage?
    ++ optionalField "ecosystemRoot" .text s.ecosystemRoot?
    ++ optionalField "templates" .text s.templates?
    ++ optionalField "formatter" Program.toJson s.formatter?

def Document.toJson (d : Document) : Json :=
  .record (d.settings.toFields ++ [("resources", .list (d.resources.map Resource.toJson))])

/-- The document with the directory of its templates as seen from where the document itself is. -/
def Document.locatedAt (d : Document) (path : String) : Document :=
  { d with settings := { d.settings with
    templates? := d.settings.templates?.map fun templates =>
      match Path.parent? path with
      | some directory => Path.join directory templates
      | none => templates } }

end ClientGen
