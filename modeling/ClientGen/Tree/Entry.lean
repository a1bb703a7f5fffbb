import ClientGen.Tree.Basic

/-!
The names and paths of each part of the tree, from the layout and a spec.
-/

namespace ClientGen.Tree

open Spec

/-- The file of a role in the directory of a branch. -/
def roleFile (directory kind role : String) : String :=
  Path.join directory (Naming.roleFile kind role)

/-- The module of a role in the module of a branch. -/
def roleModule (package stem role : String) : String :=
  Naming.modulePath [package, stem ++ "_" ++ role]

def empty (layout : Layout) : Tree where
  location := layout.rootPath
  file := Path.join layout.rootPath Naming.clientFile
  package := layout.rootPackage
  clientType := "Clientset"
  branches := []
  dropped := []

def Branch.empty (layout : Layout) (group version : String) : Branch where
  group := group
  version := version
  segment := Naming.groupSegment group
  package := Naming.groupVersionModule layout.rootPackage group version
  shortName := Naming.groupVersionAlias group version
  clientType := Naming.pascal (Naming.groupSegment group) ++ Naming.pascal version ++ "Client"
  location := Naming.groupVersionDir layout.rootPath group version
  file := Path.join (Naming.groupVersionDir layout.rootPath group version) Naming.clientFile
  entries := []

/-- The package that the type of a resource comes from. -/
def packageOf (layout : Layout) (spec : Resource) : String :=
  let conventional :=
    Naming.groupVersionModule layout.ecosystemRoot spec.identity.group spec.identity.version
  match spec.package? with
  | some package => if Text.isBlankText package then conventional else package
  | none => conventional

def ObjectPart.of (layout : Layout) (branch : Branch) (spec : Resource) : ObjectPart :=
  let names := Names.of spec.identity.kind spec.plural
  { file := Path.join branch.location (Naming.objectFile spec.identity.kind)
    module := Naming.modulePath [branch.package, names.stem]
    typeName := names.typeName
    markerType := names.typeName ++ "Kind"
    identity := spec.identity
    listKind := spec.listKind
    pluralName := names.pluralName
    namespaced := spec.scope.isNamespaced
    sourcePackage := packageOf layout spec }

def ReaderPart.of (branch : Branch) (spec : Resource) (object : ObjectPart) : ReaderPart :=
  let names := Names.of spec.identity.kind spec.plural
  { file := roleFile branch.location spec.identity.kind "reader"
    module := roleModule branch.package names.stem "reader"
    typeName := names.typeName ++ "Reader"
    objectType := object.typeName
    objectModule := object.module
    namespaced := spec.scope.isNamespaced }

/-- The client file of a resource that owns nothing yet. -/
def ClientPart.of (branch : Branch) (spec : Resource) (object : ObjectPart) (reader : ReaderPart) :
    ClientPart :=
  let names := Names.of spec.identity.kind spec.plural
  { file := roleFile branch.location spec.identity.kind "client"
    module := roleModule branch.package names.stem "client"
    typeName := names.typeName ++ "Client"
    readerType := reader.typeName
    readerModule := reader.module
    objectType := object.typeName
    objectModule := object.module
    namespaced := spec.scope.isNamespaced
    children := [] }

def Entry.of (layout : Layout) (branch : Branch) (spec : Resource) : Entry :=
  let object := ObjectPart.of layout branch spec
  let reader := ReaderPart.of branch spec object
  { key := spec.identity
    names := Names.of spec.identity.kind spec.plural
    scope := spec.scope
    client := ClientPart.of branch spec object reader
    reader := reader
    object := object
    reference? := none
    references := [] }

/-- The reference file of a resource that nobody owns yet. -/
def ReferencePart.of (branch : Branch) (child : Entry) : ReferencePart where
  file := roleFile branch.location child.names.kind "reference"
  module := roleModule branch.package child.names.stem "reference"
  objectType := child.object.typeName
  objectModule := child.object.module
  pluralSnake := child.names.pluralSnake
  namespaced := child.scope.isNamespaced
  owners := []

/-- The function that finds the instances of `child` that an instance of `owner` owns. An owner of
another group-version is named with that group-version. -/
def lookupName (child owner : Entry) : String :=
  if child.key.groupVersion == owner.key.groupVersion then
    child.names.pluralSnake ++ "_for_" ++ owner.names.snake
  else
    child.names.pluralSnake ++ "_for_"
      ++ Naming.groupVersionAlias owner.key.group owner.key.version ++ "_" ++ owner.names.snake

/-- The method of the client of `owner` that lists owned instances of `child`. A child of another
group-version is named with that group-version. -/
def accessorName (child owner : Entry) : String :=
  if child.key.groupVersion == owner.key.groupVersion then child.names.pluralSnake
  else
    Naming.groupVersionAlias child.key.group child.key.version ++ "_" ++ child.names.pluralSnake

/-- What the reference file of `child` needs to know about `owner`. -/
def Owner.of (owner child : Entry) : Owner where
  key := owner.key
  typeName := owner.object.typeName
  objectModule := owner.object.module
  snake := owner.names.snake
  namespaced := owner.scope.isNamespaced
  lookup := lookupName child owner

/-- What the client of `owner` needs to know about `child`. -/
def Child.of (child : Entry) (referenceModule : String) (owner : Entry) : Child where
  key := child.key
  typeName := child.object.typeName
  objectModule := child.object.module
  referenceModule := referenceModule
  accessor := accessorName child owner
  lookup := lookupName child owner

end ClientGen.Tree
