import ClientGen.Logging.Field
import ClientGen.Logging.Verbosity
import ClientGen.Text.Alphanumeric
import ClientGen.Text.Cut

/-!
Directives of a log filter, such as `info`, `kubegen::tree=debug` or `kubegen[load{path}]=trace`: a
target, a span with fields between brackets, and a verbosity, of which each may be missing.
-/

namespace ClientGen.Logging

/-- A rule of a filter. -/
structure Directive where
  target? : Option String := none
  /-- The name of the span. -/
  span? : Option String := none
  fields : List Field := []
  verbosity : Verbosity := .trace
  deriving DecidableEq

namespace Directive

def mayBegin (c : Char) : Bool :=
  c == '-' || c == ':' || c == '_' || Text.isAlphanumeric c

/-- What is being read. Places are counted in bytes. -/
inductive Part where
  | start
  /-- A target or a verbosity. -/
  | word
  | span (start : Nat)
  | field (start : Nat)
  /-- Behind the brace that closes the fields. -/
  | fieldsEnd
  /-- Behind the bracket that closes the span. -/
  | spanEnd
  | verbosity (start : Nat)

/-- What is read so far. -/
structure Draft where
  part : Part := .start
  directive : Directive := {}

/-- Reads a character at a place. `piece` gives the text between two places. -/
def Draft.read? (piece : Nat → Nat → String) (d : Draft) (i : Nat) (c : Char) : Option Draft :=
  match d.part with
  | .start =>
    if c == '[' then some { d with part := .span (i + 1) }
    else if mayBegin c then some { d with part := .word }
    else none
  | .word =>
    let known := { d.directive with target? := some (piece 0 i) }
    if c == '=' then some ⟨.verbosity (i + 1), known⟩
    else if c == '[' then some ⟨.span (i + 1), known⟩
    else some d
  | .span start =>
    let name := piece start i
    if c == ']' then some ⟨.spanEnd, { d.directive with span? := some name }⟩
    else if c == '{' then
      let span? := if name.isEmpty then none else some name
      some ⟨.field (i + 1), { d.directive with span? }⟩
    else some d
  | .field start =>
    if c == '}' then
      if i == start then none
      else (Field.parse? (piece start i)).map fun f =>
        ⟨.fieldsEnd, { d.directive with fields := d.directive.fields ++ [f] }⟩
    else some d
  | .fieldsEnd => if c == ']' then some { d with part := .spanEnd } else none
  | .spanEnd => if c == '=' then some { d with part := .verbosity (i + 1) } else none
  | .verbosity _ => some d

/-- The directive when nothing comes any more. `rest` gives the text from a place on. A target
without a verbosity lets all pass. -/
def Draft.finish? (rest : Nat → String) (d : Draft) : Option Directive :=
  match d.part with
  | .word =>
    match Verbosity.ofText? (rest 0) with
    | some v => some { verbosity := v }
    | none => some { target? := some (rest 0) }
  | .verbosity start =>
    if (rest start).isEmpty then some d.directive
    else (Verbosity.ofText? (rest start)).map fun v => { d.directive with verbosity := v }
  | .spanEnd => some d.directive
  | _ => none

/-- The directive of a text. Blanks around it move the places at which it is cut but are not cut
off. -/
def parse? (s : String) : Option Directive := do
  let whole := Text.indexed s
  let draft ← (Text.indexed (Text.trim s)).foldlM
    (fun d (i, c) => Draft.read? (Text.piece whole) d i c) ({} : Draft)
  draft.finish? fun start => Text.piece whole start s.utf8ByteSize

/-- A directive that depends on the spans around an event. -/
def isDynamic (d : Directive) : Bool := d.span?.isSome || !d.fields.isEmpty

/-- A directive that can be decided without looking at spans or values. -/
def isStatic (d : Directive) : Bool := d.span?.isNone && d.fields.all (·.value?.isNone)

/-- How two names that may be missing are ordered, by length first. -/
def lengthOrder (a b : Option String) : Ordering :=
  let size (s : Option String) : Nat := match s with
    | some t => t.utf8ByteSize + 1
    | none => 0
  compare (size a) (size b)

/-- How two names that may be missing are ordered. -/
def nameOrder : Option String → Option String → Ordering
  | some a, some b => Text.order a b
  | a, b => compare a.isSome.toNat b.isSome.toNat

def fieldsOrder : List Field → List Field → Ordering
  | [], [] => .eq
  | [], _ :: _ => .lt
  | _ :: _, [] => .gt
  | f :: fs, g :: gs => (f.order g).then (fieldsOrder fs gs)

/-- How specific a directive is, compared with another: by the length of its target, whether it
names a span, and the number of its fields, and if all that is equal, by their texts. -/
def order (d e : Directive) : Ordering :=
  (lengthOrder d.target? e.target?).then <|
    (compare d.span?.isSome.toNat e.span?.isSome.toNat).then <|
      (compare d.fields.length e.fields.length).then <|
        (nameOrder d.target? e.target?).then <|
          (nameOrder d.span? e.span?).then (fieldsOrder d.fields e.fields)

def text (d : Directive) : String :=
  let fields :=
    if d.fields.isEmpty then ""
    else "\x7b" ++ ",".intercalate (d.fields.map Field.text) ++ "\x7d"
  let span := if d.isDynamic then "[" ++ d.span?.getD "" ++ fields ++ "]" else ""
  let place := d.target?.getD "" ++ span
  if d.target?.isSome || d.isDynamic then place ++ "=" ++ d.verbosity.name else d.verbosity.name

end Directive

end ClientGen.Logging
