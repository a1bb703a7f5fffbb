import ClientGen.Spec.Issue

/-!
Events: what a run tells about its progress, as data.
-/

namespace ClientGen

open Spec

/-- Something worth telling. -/
inductive Event where
  | registered (resource : Identity) (file : String)
  | merged (resource : Identity) (index first : Nat)
  | linked (owner child : Identity)
  | dropped (owner reference : Identity) (location : Location)
  | built (groupVersions resources droppedReferences : Nat)
  | loaded (resources groupVersions : Nat)
  | refused (reason : String)
  | generating (template path : String)
  | rendered (files : Nat)
  | completed (files : Nat) (root : String)
  deriving DecidableEq

namespace Event

/-- How much an event matters. -/
inductive Level where
  | debug
  | info
  | warn
  deriving DecidableEq

def Level.name : Level → String
  | .debug => "DEBUG"
  | .info => "INFO"
  | .warn => "WARN"

def level : Event → Level
  | .registered _ _ | .merged _ _ _ | .linked _ _ | .built _ _ _ | .rendered _ => .debug
  | .loaded _ _ | .generating _ _ | .completed _ _ => .info
  | .dropped _ _ _ | .refused _ => .warn

def message : Event → String
  | .registered _ _ => "registered resource"
  | .merged _ _ _ => "duplicate resource spec merged"
  | .linked _ _ => "linked sub-resource"
  | .dropped _ _ _ => "sub-resource is not a registered resource; reference dropped"
  | .built _ _ _ => "options tree built"
  | .loaded _ _ => "resource specs loaded"
  | .refused _ => "failed to build options tree"
  | .generating _ _ => "generating file"
  | .rendered _ => "all files rendered; writing"
  | .completed _ _ => "generation complete"

/-- A value that an event carries. -/
inductive Datum where
  | text (s : String)
  | count (n : Nat)
  deriving DecidableEq

def data : Event → List (String × Datum)
  | .registered resource file => [("resource", .text resource.label), ("file", .text file)]
  | .merged resource index first =>
    [("resource", .text resource.label), ("index", .count index), ("first", .count first)]
  | .linked owner child => [("owner", .text owner.label), ("child", .text child.label)]
  | .dropped owner reference location =>
    [("owner", .text owner.label), ("reference", .text reference.label),
      ("location", .text location.label)]
  | .built groupVersions resources droppedReferences =>
    [("group_versions", .count groupVersions), ("resources", .count resources),
      ("dropped_references", .count droppedReferences)]
  | .loaded resources groupVersions =>
    [("resources", .count resources), ("group_versions", .count groupVersions)]
  | .refused reason => [("error", .text reason)]
  | .generating template path => [("template", .text template), ("path", .text path)]
  | .rendered files => [("files", .count files)]
  | .completed files root => [("files", .count files), ("root", .text root)]

end Event

/-- A result together with the events on the way to it. -/
structure Told (α : Type) where
  result : α
  events : List Event

end ClientGen
