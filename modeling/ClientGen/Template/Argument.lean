import ClientGen.Template.Operation

/-!
The arguments of filters, tests and functions. Each of these takes its arguments by place; named
ones come behind all others, as one value.
-/

namespace ClientGen.Template

/-- The arguments of a call, of which the first one may be the value that it is applied to. -/
abbrev Arguments := List Value

namespace Arguments

def value (args : Arguments) (place : Nat) : Result :=
  match args[place]? with
  | some v => .ok v
  | none => .error .missingArgument

/-- The argument at a place, which must not be undefined. -/
def known (args : Arguments) (place : Nat) : Result := do
  match ← args.value place with
  | .undefined => throw .undefined
  | v => return v

def text (args : Arguments) (place : Nat) : Except TemplateError String := do
  match ← args.known place with
  | .named _ => throw .invalidOperation
  | v => return v.toText

/-- The argument at a place if it is there and stands for something, which it need not. -/
def given (args : Arguments) (place : Nat) : Option Value :=
  match args[place]? with
  | none | some .undefined | some .absent | some .none => none
  | some v => some v

/-- The argument at a place if it is there and stands for something. It must not be undefined. -/
def optional (args : Arguments) (place : Nat) : Except TemplateError (Option Value) :=
  match args[place]? with
  | some .undefined => .error .undefined
  | none | some .absent | some .none => .ok none
  | some v => .ok (some v)

/-- The text of the argument at a place if it is there and stands for something. -/
def optionalText (args : Arguments) (place : Nat) : Except TemplateError (Option String) := do
  match ← args.optional place with
  | some (.named _) => throw .invalidOperation
  | v? => return v?.map Value.toText

def asText (v : Value) : Except TemplateError String :=
  match v.text? with
  | some s => .ok s
  | none => .error .invalidOperation

def asBool : Value → Except TemplateError Bool
  | .bool b => .ok b
  | _ => .error .invalidOperation

/-- A value as a whole number of so many bits with a sign. -/
def asInt (bits : Nat) (v : Value) : Except TemplateError Int :=
  let most : Int := Nat.pow 2 (bits - 1)
  match v.whole? with
  | some n => if -most ≤ n && n < most then .ok n else .error .invalidOperation
  | none => .error .invalidOperation

/-- A value as a natural number of sixty-four bits. -/
def asNat (v : Value) : Except TemplateError Nat :=
  match v.whole? with
  | some n => if 0 ≤ n && n < (Nat.pow 2 64 : Int) then .ok n.toNat else .error .invalidOperation
  | none => .error .invalidOperation

def optionalAs {α : Type} (args : Arguments) (as : Value → Except TemplateError α) (place : Nat) :
    Except TemplateError (Option α) := do
  match ← args.optional place with
  | some v => return some (← as v)
  | none => return none

def noMore (args : Arguments) (place : Nat) : Except TemplateError Unit :=
  if args.length > place then .error .tooManyArguments else .ok ()

/-- The arguments by place, and the named ones. -/
def split (args : Arguments) : Arguments × List (Value × Value) :=
  match args.getLast? with
  | some (.named fields) => (args.dropLast, fields)
  | _ => (args, [])

/-- The named argument of a name, as something, if it is there and stands for something. -/
def namedAs {α : Type} (as : Value → Except TemplateError α) (fields : List (Value × Value))
    (name : String) : Except TemplateError (Option α) := do
  match given (Value.lookup (.text name) fields).toList 0 with
  | some v => return some (← as v)
  | none => return none

/-- All named arguments have one of some names. -/
def onlyNamed (fields : List (Value × Value)) (names : List String) : Except TemplateError Unit :=
  if fields.all fun f => (f.1.text?.map names.contains).getD false then .ok ()
  else .error .tooManyArguments

/-- The elements of a value that must have some. -/
def elementsOf (v : Value) (fault : TemplateError) : Except TemplateError (List Value) :=
  match v with
  | .undefined => .error fault
  | v =>
    match v.elements? with
    | some vs => .ok vs
    | none => .error .invalidOperation

/-- The elements of the argument at a place. One that has none is an invalid operation. -/
def elements (args : Arguments) (place : Nat) : Except TemplateError (List Value) := do
  elementsOf (← args.value place) .invalidOperation

/-- The elements of the argument at a place, which must not be undefined. -/
def knownElements (args : Arguments) (place : Nat) : Except TemplateError (List Value) := do
  elementsOf (← args.value place) .undefined

end Arguments

/-! ### Parts of values -/

/-- One step of a path into a value: a place in digits, or a name. -/
def stepInto (v : Value) (part : String) : Result :=
  match v with
  | .undefined => .error .undefined
  | v =>
    let found := match Data.Decimal.digits? part.toList with
      | some n => v.item? (.int n)
      | none => v.field? part
    .ok (found.getD .undefined)

/-- The value behind a path, whose parts stand between points. -/
def Value.behind (v : Value) (path : String) : Result :=
  (path.splitOn ".").foldlM stepInto v

/-- The value behind a path, or another one if there is none. -/
def Value.behindOr (v : Value) (path : String) (default : Value) : Value :=
  match v.behind path with
  | .ok w => if w.isUndefined then default else w
  | .error _ => default

/-- How two values are ordered in lists: texts without regard to case, if that is asked for. -/
def listed (caseSensitive : Bool) (v w : Value) : Ordering :=
  match v.text?, w.text? with
  | some s, some t =>
    if caseSensitive then Text.order s t
    else Text.order (String.ofList (s.toList.map Char.toLower))
      (String.ofList (t.toList.map Char.toLower))
  | _, _ => v.order w

def sortBy {α : Type} (order : α → α → Ordering) (as : List α) : List α :=
  as.mergeSort fun a b => order a b != .gt

end ClientGen.Template
