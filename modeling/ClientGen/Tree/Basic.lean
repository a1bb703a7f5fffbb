import ClientGen.Naming.Words
import ClientGen.Spec.Issue

/-!
The module tree: every file that is generated, by group-version and resource, with all the names
and paths that its text needs. Branches and entries are kept in ascending order of their keys.
-/

namespace ClientGen

open Spec

/-- Where the tree is put, and where the types that it uses come from. -/
structure Layout where
  /-- The directory of the tree. -/
  rootPath : String := "generated"
  /-- The module of the tree. -/
  rootPackage : String := "crate::generated"
  /-- The module that holds the types of all group-versions, unless a spec names another. -/
  ecosystemRoot : String := "k8s_openapi::api"
  deriving DecidableEq, Inhabited

namespace Tree

/-- The names that come from a kind and its plural. -/
structure Names where
  kind : String
  plural : String
  /-- The lower-cased kind. -/
  stem : String
  typeName : String
  snake : String
  pluralSnake : String
  /-- The lower-cased plural. -/
  pluralName : String
  deriving DecidableEq

def Names.of (kind plural : String) : Names where
  kind := kind
  plural := plural
  stem := Naming.stem kind
  typeName := Naming.pascal kind
  snake := Naming.snake kind
  pluralSnake := Naming.snake plural
  pluralName := Text.lower plural

/-- The file with the type of a resource and what identifies it. -/
structure ObjectPart where
  file : String
  module : String
  typeName : String
  markerType : String
  identity : Identity
  listKind : String
  pluralName : String
  namespaced : Bool
  sourcePackage : String
  deriving DecidableEq

/-- The file that gets and lists instances. -/
structure ReaderPart where
  file : String
  module : String
  typeName : String
  objectType : String
  objectModule : String
  namespaced : Bool
  deriving DecidableEq

/-- A resource that another one owns, as the owner's client sees it. -/
structure Child where
  key : Identity
  typeName : String
  objectModule : String
  referenceModule : String
  /-- The method of the owner's client. -/
  accessor : String
  /-- The function of the child's reference file. -/
  lookup : String
  deriving DecidableEq

/-- The file with the client of a resource. -/
structure ClientPart where
  file : String
  module : String
  typeName : String
  readerType : String
  readerModule : String
  objectType : String
  objectModule : String
  namespaced : Bool
  children : List Child
  deriving DecidableEq

/-- A resource that owns another one, as the owned resource's reference file sees it. -/
structure Owner where
  key : Identity
  typeName : String
  objectModule : String
  snake : String
  namespaced : Bool
  /-- The function of the reference file. -/
  lookup : String
  deriving DecidableEq

/-- The file that finds instances by their owner. -/
structure ReferencePart where
  file : String
  module : String
  objectType : String
  objectModule : String
  pluralSnake : String
  namespaced : Bool
  /-- The owners in the order in which they were linked. -/
  owners : List Owner
  deriving DecidableEq

/-- The files of one resource. -/
structure Entry where
  key : Identity
  names : Names
  scope : Scope
  client : ClientPart
  reader : ReaderPart
  object : ObjectPart
  /-- There once some resource owns this one. -/
  reference? : Option ReferencePart
  /-- The resources that this one owns, in the order in which they were declared. -/
  references : List Identity
  deriving DecidableEq

/-- One group-version and its resources. -/
structure Branch where
  group : String
  version : String
  segment : String
  package : String
  shortName : String
  clientType : String
  location : String
  file : String
  /-- In ascending order of their kinds. -/
  entries : List Entry
  deriving DecidableEq

/-- A reference to a resource that is not in the tree. -/
structure Dropped where
  owner : Identity
  reference : Identity
  location : Location
  deriving DecidableEq

end Tree

/-- The root client and all group-versions. -/
structure Tree where
  location : String
  file : String
  package : String
  clientType : String
  /-- In ascending order of the texts that identify them. -/
  branches : List Tree.Branch
  /-- In the order of the input. -/
  dropped : List Tree.Dropped
  deriving DecidableEq

namespace Tree

/-- The key of an entry in its branch. -/
def Entry.kind (e : Entry) : String := e.names.kind

def Branch.label (b : Branch) : String :=
  Naming.groupVersionLabel b.group b.version

def Branch.find? (b : Branch) (kind : String) : Option Entry :=
  Text.findByKey? Entry.kind kind b.entries

def branch? (t : Tree) (group version : String) : Option Branch :=
  Text.findByKey? Branch.label (Naming.groupVersionLabel group version) t.branches

def find? (t : Tree) (id : Identity) : Option Entry :=
  (Text.findByKey? Branch.label id.groupVersion t.branches).bind (·.find? id.kind)

/-- Every entry, in the order of the tree. -/
def entries (t : Tree) : List Entry :=
  t.branches.flatMap (·.entries)

def modifyEntry (id : Identity) (f : Entry → Entry) (t : Tree) : Tree :=
  { t with
    branches := Text.modifyByKey Branch.label id.groupVersion
      (fun b => { b with entries := Text.modifyByKey Entry.kind id.kind f b.entries }) t.branches }

end Tree

end ClientGen
