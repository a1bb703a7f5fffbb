import ClientGen.Spec.Issue

/-!
The form of each field of a spec. Every field is looked at on its own, and every issue of a list is
reported, in the order of the specs and of their fields.
-/

namespace ClientGen.Spec

/-- An ASCII letter, then ASCII letters and digits. -/
def isIdentifier (s : String) : Bool :=
  match s.toList with
  | [] => false
  | c :: cs => c.isAlpha && cs.all Char.isAlphanum

/-- A small ASCII letter, then small ASCII letters and digits. -/
def isVersion (s : String) : Bool :=
  match s.toList with
  | [] => false
  | c :: cs => c.isLower && cs.all fun d => d.isLower || d.isDigit

/-- A text with an ASCII letter or digit. -/
def hasName (s : String) : Bool :=
  s.toList.any Char.isAlphanum

/-- The problem of a required field: it is blank, or it has not the form asked for. -/
def requiredProblem? (field : Field) (value : String) (good : Bool) (otherwise : Problem) :
    Option Problem :=
  if Text.isBlankText value then some (.missing field)
  else if good then none
  else some otherwise

/-- The problems of an identity, in the order of its fields. -/
def identityProblems (id : Identity) : List Problem :=
  (requiredProblem? .group id.group (hasName id.group) (.namelessGroup id.group)).toList
    ++ (requiredProblem? .version id.version (isVersion id.version)
        (.badVersion id.version)).toList
    ++ (requiredProblem? .kind id.kind (isIdentifier id.kind)
        (.badIdentifier .kind id.kind)).toList

/-- The problem of a list kind, which may be absent or empty. -/
def listKindProblem? : Option String → Option Problem
  | none => none
  | some kind =>
    if kind.isEmpty || isIdentifier kind then none else some (.badIdentifier .listKind kind)

/-- The problems of a spec itself, in the order of its fields. -/
def Resource.problems (r : Resource) : List Problem :=
  identityProblems r.identity
    ++ (requiredProblem? .plural r.plural (isIdentifier r.plural)
        (.badIdentifier .plural r.plural)).toList
    ++ (listKindProblem? r.listKind?).toList

/-- The issues of the references from place `sub` on. -/
def referenceIssues (index : Nat) : Nat → List Reference → List Issue
  | _, [] => []
  | sub, r :: rs =>
    (identityProblems r.identity).map (Issue.mk (.reference index sub))
      ++ referenceIssues index (sub + 1) rs

/-- The issues of one spec: its own, then those of its references. -/
def Resource.issues (index : Nat) (r : Resource) : List Issue :=
  r.problems.map (Issue.mk (.resource index)) ++ referenceIssues index 0 r.references

/-- The issues of the specs from place `index` on. -/
def issuesFrom : Nat → List Resource → List Issue
  | _, [] => []
  | index, r :: rs => r.issues index ++ issuesFrom (index + 1) rs

def issues (specs : List Resource) : List Issue :=
  issuesFrom 0 specs

end ClientGen.Spec
