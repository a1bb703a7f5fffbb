import ClientGen.Spec.Resource

/-!
Issues: what can be wrong with a list of resource specs, where, and how it is worded.
-/

namespace ClientGen.Spec

/-- A place in a list of resource specs. -/
inductive Location where
  | resource (index : Nat)
  | reference (index sub : Nat)
  deriving DecidableEq, Inhabited

def Location.label : Location → String
  | .resource i => "resources[" ++ toString i ++ "]"
  | .reference i j => "resources[" ++ toString i ++ "].subResources[" ++ toString j ++ "]"

/-- A field that has a form of its own. -/
inductive Field where
  | group
  | version
  | kind
  | plural
  | listKind
  deriving DecidableEq

def Field.name : Field → String
  | .group => "group"
  | .version => "version"
  | .kind => "kind"
  | .plural => "pluralKind"
  | .listKind => "listKind"

/-- A property on which two specs of one resource must agree. -/
inductive Aspect where
  | plural
  | listKind
  | scope
  | package
  deriving DecidableEq

def Aspect.name : Aspect → String
  | .plural => "pluralKind"
  | .listKind => "listKind"
  | .scope => "scope"
  | .package => "package"

/-- What is wrong with a spec. -/
inductive Problem where
  /-- A required field is blank. -/
  | missing (field : Field)
  /-- A group without a letter or a digit. -/
  | namelessGroup (group : String)
  | badVersion (version : String)
  /-- A kind, plural or list kind that is no identifier. -/
  | badIdentifier (field : Field) (value : String)
  /-- The spec at `first` says something else about the same resource. -/
  | redeclared (identity : Identity) (aspect : Aspect) (first : Nat)
  /-- Another group-version has the same directory. -/
  | sharedDirectory (group version otherGroup otherVersion directory : String)
  /-- The object file would be the group-version client. -/
  | clientKind (kind : String)
  /-- Another kind has the same object file. -/
  | sharedFile (kind otherKind file : String)
  deriving DecidableEq

/-- The kinds of problems. -/
inductive Category where
  | missingField
  | invalidIdentifier
  | identityConflict
  | pathCollision
  deriving DecidableEq

def Category.name : Category → String
  | .missingField => "MissingField"
  | .invalidIdentifier => "InvalidIdentifier"
  | .identityConflict => "IdentityConflict"
  | .pathCollision => "PathCollision"

namespace Problem

def category : Problem → Category
  | .missing _ => .missingField
  | .namelessGroup _ => .invalidIdentifier
  | .badVersion _ => .invalidIdentifier
  | .badIdentifier _ _ => .invalidIdentifier
  | .redeclared _ _ _ => .identityConflict
  | .sharedDirectory _ _ _ _ _ => .pathCollision
  | .clientKind _ => .pathCollision
  | .sharedFile _ _ _ => .pathCollision

def message : Problem → String
  | .missing field => "`" ++ field.name ++ "` is required"
  | .namelessGroup group => "group '" ++ group ++ "' has no alphanumeric characters"
  | .badVersion version =>
    "version '" ++ version ++ "' must be lowercase alphanumeric and start with a letter"
  | .badIdentifier field value =>
    field.name ++ " '" ++ value ++ "' must be alphanumeric and start with a letter"
  | .redeclared identity aspect first =>
    identity.label ++ " redeclared with a different " ++ aspect.name ++ " than "
      ++ (Location.resource first).label
  | .sharedDirectory group version otherGroup otherVersion directory =>
    "group-version '" ++ Naming.groupVersionLabel group version ++ "' and '"
      ++ Naming.groupVersionLabel otherGroup otherVersion ++ "' both generate " ++ directory
  | .clientKind kind =>
    "kind '" ++ kind ++ "' would overwrite the group-version " ++ Naming.clientFile
  | .sharedFile kind otherKind file =>
    "kind '" ++ kind ++ "' and kind '" ++ otherKind ++ "' both generate " ++ file

end Problem

/-- A problem and its place. -/
structure Issue where
  location : Location
  problem : Problem
  deriving DecidableEq

def Issue.label (issue : Issue) : String :=
  "[" ++ issue.problem.category.name ++ "] " ++ issue.location.label ++ ": "
    ++ issue.problem.message

end ClientGen.Spec
