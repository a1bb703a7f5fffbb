import ClientGen.Failure
import ClientGen.Tree.Register
import ClientGen.Tree.Link

/-!
From specs to the tree: the form of every field, then registration, then linking. A list of specs
is refused with all issues of the first stage that has any.
-/

namespace ClientGen.Tree

open Spec

/-- The tree of a list of specs, in which references to unknown resources are dropped. -/
def build (layout : Layout) (specs : List Resource) : Told (Except Failure Tree) :=
  match issues specs with
  | issue :: more => ⟨.error (.invalidSpec (issue :: more)), []⟩
  | [] =>
    let registration := register layout specs
    match registration.issues with
    | issue :: more => ⟨.error (.invalidSpec (issue :: more)), registration.events⟩
    | [] =>
      let linked :=
        { empty layout with branches := registration.registry.branches }.followAll
          (declarations specs)
      let t := linked.result
      ⟨.ok t, registration.events ++ linked.events
        ++ [.built t.branches.length t.entries.length t.dropped.length]⟩

/-- The tree, where a dropped reference is a failure. -/
def requireResolved (t : Tree) : Except Failure Tree :=
  match t.dropped with
  | [] => .ok t
  | d :: _ => .error (.unresolved d.owner d.reference)

/-- The tree of a list of specs, none of which may refer to an unknown resource. -/
def buildStrict (layout : Layout) (specs : List Resource) : Told (Except Failure Tree) :=
  let built := build layout specs
  ⟨built.result >>= requireResolved, built.events⟩

/-- The tree of a list of specs under strict or lenient checking of references. -/
def buildWith (strict : Bool) (layout : Layout) (specs : List Resource) :
    Told (Except Failure Tree) :=
  if strict then buildStrict layout specs else build layout specs

end ClientGen.Tree
