import ClientGen.Role
import ClientGen.Tree.View

/-!
The plan: every file to write, in the order in which the tree is visited, with what its template
gets to know. The root client comes first, then each group-version with its client, and then each
resource with its client, reader and object, and its reference file if some resource owns it.
-/

namespace ClientGen

open Spec ClientGen.Tree
open Template (Value)

/-- What a client needs to know about a group-version. -/
structure GroupVersionSummary where
  group : String
  version : String
  package : String
  shortName : String
  clientType : String
  clientModule : String
  deriving DecidableEq

/-- What a group-version client needs to know about a resource. -/
structure ResourceSummary where
  kind : String
  typeName : String
  plural : String
  pluralSnake : String
  clientType : String
  clientModule : String
  namespaced : Bool
  deriving DecidableEq

/-- The part of an entry that a file is made from. -/
inductive Part where
  | client (part : ClientPart)
  | reader (part : ReaderPart)
  | object (part : ObjectPart)
  | reference (part : ReferencePart)
  deriving DecidableEq

/-- What a template gets to know. -/
inductive Context where
  | root (package clientType location : String) (groupVersions : List GroupVersionSummary)
  | groupVersion (rootPackage : String) (summary : GroupVersionSummary)
      (resources : List ResourceSummary)
  | resource (rootPackage : String) (summary : GroupVersionSummary) (names : Names)
      (namespaced : Bool) (part : Part)
  deriving DecidableEq

structure PlannedFile where
  role : Role
  destination : String
  /-- The resource that the file belongs to. -/
  identity? : Option Identity
  context : Context
  deriving DecidableEq

def clientModule (package : String) : String :=
  Naming.modulePath [package, "client"]

def Tree.Branch.summary (b : Branch) : GroupVersionSummary where
  group := b.group
  version := b.version
  package := b.package
  shortName := b.shortName
  clientType := b.clientType
  clientModule := clientModule b.package

def Tree.Entry.summary (e : Entry) : ResourceSummary where
  kind := e.names.kind
  typeName := e.names.typeName
  plural := e.names.plural
  pluralSnake := e.names.pluralSnake
  clientType := e.client.typeName
  clientModule := e.client.module
  namespaced := e.scope.isNamespaced

def Tree.Entry.plan (rootPackage : String) (b : Branch) (e : Entry) : List PlannedFile :=
  let context := fun part =>
    Context.resource rootPackage b.summary e.names e.scope.isNamespaced part
  [⟨.client, e.client.file, some e.key, context (.client e.client)⟩,
    ⟨.reader, e.reader.file, some e.key, context (.reader e.reader)⟩,
    ⟨.object, e.object.file, some e.key, context (.object e.object)⟩]
    ++ (e.reference?.map fun r =>
      ⟨.reference, r.file, some e.key, context (.reference r)⟩).toList

def Tree.Branch.plan (rootPackage : String) (b : Branch) : List PlannedFile :=
  ⟨.groupVersionClient, b.file, none,
      .groupVersion rootPackage b.summary (b.entries.map Entry.summary)⟩
    :: b.entries.flatMap (Entry.plan rootPackage b)

def Tree.plan (t : Tree) : List PlannedFile :=
  ⟨.rootClient, t.file, none,
      .root t.package t.clientType t.location (t.branches.map Branch.summary)⟩
    :: t.branches.flatMap (Branch.plan t.package)

def GroupVersionSummary.toValue (s : GroupVersionSummary) : Value :=
  .record [("group", .text s.group), ("version", .text s.version), ("package", .text s.package),
    ("alias", .text s.shortName), ("client_type", .text s.clientType),
    ("client_module", .text s.clientModule)]

def ResourceSummary.toValue (s : ResourceSummary) : Value :=
  .record [("kind", .text s.kind), ("type_name", .text s.typeName), ("plural", .text s.plural),
    ("plural_snake", .text s.pluralSnake), ("client_type", .text s.clientType),
    ("client_module", .text s.clientModule), ("namespaced", .bool s.namespaced)]

/-- A part as a value, under the name of its role. -/
def Part.field : Part → String × Value
  | .client part => ("client", part.toValue)
  | .reader part => ("reader", part.toValue)
  | .object part => ("object", part.toValue)
  | .reference part => ("reference", part.toValue)

/-- The names that a template can use, with their values. -/
def Context.fields : Context → List (String × Value)
  | .root package clientType location groupVersions =>
    [("root", .record [("package", .text package), ("client_type", .text clientType),
        ("location", .text location)]),
      ("group_versions", .ofList GroupVersionSummary.toValue groupVersions)]
  | .groupVersion rootPackage summary resources =>
    [("root_package", .text rootPackage), ("group_version", summary.toValue),
      ("resources", .ofList ResourceSummary.toValue resources)]
  | .resource rootPackage summary names namespaced part =>
    [("root_package", .text rootPackage), ("group_version", summary.toValue),
      ("resource", names.toValue), ("namespaced", .bool namespaced), part.field]

end ClientGen
