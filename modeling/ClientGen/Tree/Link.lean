import ClientGen.Event
import ClientGen.Tree.Entry

/-!
Linking: every declared reference to a resource of the tree joins its owner and its child, once, on
both sides. A reference to any other resource is dropped.
-/

namespace ClientGen.Tree

open Spec

/-- A reference as the specs declare it. -/
structure Declaration where
  owner : Identity
  child : Identity
  location : Location
  deriving DecidableEq

/-- The references of the spec at place `index`, from the one at place `sub` on. -/
def declarationsOf (owner : Identity) (index : Nat) : Nat → List Reference → List Declaration
  | _, [] => []
  | sub, r :: rs =>
    ⟨owner, r.identity, .reference index sub⟩ :: declarationsOf owner index (sub + 1) rs

/-- The references of the specs from place `index` on. -/
def declarationsFrom : Nat → List Resource → List Declaration
  | _, [] => []
  | index, spec :: specs =>
    declarationsOf spec.identity index 0 spec.references ++ declarationsFrom (index + 1) specs

/-- Every reference that the specs declare, in order. -/
def declarations (specs : List Resource) : List Declaration :=
  declarationsFrom 0 specs

def Entry.gainOwner (branch : Branch) (owner child : Entry) : Entry :=
  let reference := child.reference?.getD (ReferencePart.of branch child)
  { child with
    reference? := some { reference with owners := reference.owners ++ [Owner.of owner child] } }

def Entry.gainChild (child : Entry) (referenceModule : String) (owner : Entry) : Entry :=
  { owner with
    references := owner.references ++ [child.key]
    client := { owner.client with
      children := owner.client.children ++ [Child.of child referenceModule owner] } }

def join (branch : Branch) (owner child : Entry) (t : Tree) : Tree :=
  let referenceModule := (child.reference?.getD (ReferencePart.of branch child)).module
  (t.modifyEntry child.key (Entry.gainOwner branch owner)).modifyEntry owner.key
    (Entry.gainChild child referenceModule)

def follow (t : Tree) (d : Declaration) : Told Tree :=
  match t.branch? d.child.group d.child.version, t.find? d.child with
  | some branch, some child =>
    match t.find? d.owner with
    | none => ⟨t, []⟩
    | some owner =>
      if owner.references.contains d.child then ⟨t, []⟩
      else ⟨t.join branch owner child, [.linked d.owner d.child]⟩
  | _, _ =>
    ⟨{ t with dropped := t.dropped ++ [⟨d.owner, d.child, d.location⟩] },
      [.dropped d.owner d.child d.location]⟩

def followAll (t : Tree) : List Declaration → Told Tree
  | [] => ⟨t, []⟩
  | d :: ds =>
    let step := t.follow d
    let rest := followAll step.result ds
    ⟨rest.result, step.events ++ rest.events⟩

end ClientGen.Tree
