import ClientGen.Event
import ClientGen.Spec.Validation
import ClientGen.Tree.Entry

/-!
Registration: the first spec of each resource gets an entry. A later spec of the same resource adds
nothing and must agree with the first; two group-versions must not share a directory, nor two kinds
a file.
-/

namespace ClientGen.Tree

open Spec

/-- Two texts are equal up to the case of ASCII letters. -/
def sameIgnoringCase (s t : String) : Bool :=
  s.toList.map Char.toLower == t.toList.map Char.toLower

/-- The first property on which two specs of one resource disagree. -/
def disagreement? (first other : Resource) : Option Aspect :=
  if !sameIgnoringCase first.plural other.plural then some .plural
  else if !(first.listKind == other.listKind) then some .listKind
  else if !decide (first.scope = other.scope) then some .scope
  else if !(first.statedPackage? == other.statedPackage?) then some .package
  else none

/-- What is registered so far: the branches, and the first spec of each resource with its place. -/
structure Registry where
  branches : List Branch
  firsts : List (Nat × Resource)

/-- The first spec of a resource and its place. -/
def Registry.first? (reg : Registry) (id : Identity) : Option (Nat × Resource) :=
  reg.firsts.find? fun entry => entry.2.identity == id

/-- The registry with a branch for the group-version of a resource, or the branch that already has
its directory. -/
def Registry.claim (layout : Layout) (reg : Registry) (id : Identity) :
    Except Branch (Registry × Branch) :=
  match Text.findByKey? Branch.label id.groupVersion reg.branches with
  | some branch => .ok (reg, branch)
  | none =>
    let branch := Branch.empty layout id.group id.version
    match reg.branches.find? fun other => other.location == branch.location with
    | some other => .error other
    | none =>
      .ok ({ reg with branches := Text.insertByKey Branch.label branch reg.branches }, branch)

/-- The registry with an entry for a spec, the first of its resource. -/
def Registry.insert (reg : Registry) (branch : Branch) (index : Nat) (spec : Resource)
    (entry : Entry) : Registry where
  branches := Text.modifyByKey Branch.label branch.label
    (fun b => { b with entries := Text.insertByKey Entry.kind entry b.entries }) reg.branches
  firsts := reg.firsts ++ [(index, spec)]

/-- Enters the spec at place `index`: the registry behind it, and what is wrong with it or what was
done. -/
def Registry.enter (layout : Layout) (reg : Registry) (index : Nat) (spec : Resource) :
    Registry × Except Problem Event :=
  let id := spec.identity
  match reg.first? id with
  | some (first, firstSpec) =>
    match disagreement? firstSpec spec with
    | some aspect => (reg, .error (.redeclared id aspect first))
    | none => (reg, .ok (.merged id index first))
  | none =>
    match reg.claim layout id with
    | .error other =>
      (reg, .error (.sharedDirectory id.group id.version other.group other.version
        (Naming.groupVersionDir layout.rootPath id.group id.version)))
    | .ok (reg, branch) =>
      if Naming.objectFile id.kind == Naming.clientFile then (reg, .error (.clientKind id.kind))
      else match branch.entries.find? fun e => e.names.stem == Naming.stem id.kind with
        | some other =>
          (reg, .error (.sharedFile id.kind other.names.kind
            (Path.join branch.location (Naming.objectFile id.kind))))
        | none =>
          let entry := Entry.of layout branch spec
          (reg.insert branch index spec entry, .ok (.registered id entry.object.file))

/-- The outcome of registration. -/
structure Registration where
  registry : Registry
  issues : List Issue
  events : List Event

/-- Enters the specs from place `index` on. -/
def Registry.enterFrom (layout : Layout) (reg : Registry) : Nat → List Resource → Registration
  | _, [] => ⟨reg, [], []⟩
  | index, spec :: specs =>
    let (next, outcome) := reg.enter layout index spec
    let rest := next.enterFrom layout (index + 1) specs
    match outcome with
    | .error problem => { rest with issues := ⟨.resource index, problem⟩ :: rest.issues }
    | .ok event => { rest with events := event :: rest.events }

def register (layout : Layout) (specs : List Resource) : Registration :=
  Registry.enterFrom layout ⟨[], []⟩ 0 specs

end ClientGen.Tree
