import ClientGen.Text.Order
import ClientGen.Naming.Module

/-!
Resource specs: what a user writes down about one kind of API resource.
-/

namespace ClientGen.Spec

/-- Where the instances of a resource live. -/
inductive Scope where
  | namespaced
  | cluster
  deriving DecidableEq, Inhabited

def Scope.isNamespaced : Scope → Bool
  | .namespaced => true
  | .cluster => false

def Scope.name : Scope → String
  | .namespaced => "Namespaced"
  | .cluster => "Cluster"

/-- What tells one resource from another. -/
structure Identity where
  group : String
  version : String
  kind : String
  deriving DecidableEq, Inhabited

namespace Identity

def groupVersion (id : Identity) : String :=
  Naming.groupVersionLabel id.group id.version

/-- The text of an identity, `group/version/kind`. -/
def label (id : Identity) : String :=
  id.group ++ "/" ++ id.version ++ "/" ++ id.kind

/-- The order by group, then version, then kind. -/
def before (a b : Identity) : Bool :=
  Text.before a.group b.group
    || (a.group == b.group && (Text.before a.version b.version
      || (a.version == b.version && Text.before a.kind b.kind)))

/-- Puts an identity at its place in ascending order, once. -/
def insert (a : Identity) : List Identity → List Identity
  | [] => [a]
  | b :: bs => if a.before b then a :: b :: bs else if a == b then b :: bs else b :: insert a bs

/-- The identities in ascending order, each once. -/
def sorted (ids : List Identity) : List Identity :=
  ids.foldr insert []

end Identity

/-- Another resource that a resource owns instances of. -/
structure Reference where
  identity : Identity
  plural? : Option String
  deriving DecidableEq, Inhabited

/-- One resource to generate code for. -/
structure Resource where
  identity : Identity
  listKind? : Option String
  plural : String
  scope : Scope
  package? : Option String
  references : List Reference
  deriving DecidableEq, Inhabited

namespace Resource

/-- A namespaced resource with nothing optional. -/
def plain (group version kind plural : String) : Resource where
  identity := ⟨group, version, kind⟩
  listKind? := none
  plural := plural
  scope := .namespaced
  package? := none
  references := []

/-- The kind of a list of instances. One that is absent or empty comes from the kind. -/
def listKind (r : Resource) : String :=
  match r.listKind? with
  | some kind => if kind.isEmpty then r.identity.kind ++ "List" else kind
  | none => r.identity.kind ++ "List"

/-- The package that was asked for, without blanks around it; blanks alone ask for none. -/
def statedPackage? (r : Resource) : Option String :=
  match r.package? with
  | some package => if Text.isBlankText package then none else some (Text.trim package)
  | none => none

end Resource

end ClientGen.Spec
