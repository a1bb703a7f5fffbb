import ClientGen.Template.Collection
import ClientGen.Template.Spell
import ClientGen.Template.Test
import ClientGen.Template.Wording

/-!
Filters: what a template may do with a value by name. The value is the first argument.
-/

namespace ClientGen.Template

open Data.Decimal (binary)

/-! ### Numbers -/

def truncate (x : Float) : Int :=
  let least : Int := -(Nat.pow 2 127 : Int)
  let most : Int := (Nat.pow 2 127 : Int) - 1
  if x.isNaN then 0
  else if x.isInf then (if x < 0.0 then least else most)
  else
    let (m, power) := binary x
    let size : Int := m * Nat.pow 2 power.toNat / Nat.pow 2 (-power).toNat
    max least (min most (if x < 0.0 then -size else size))

def applyInt (args : Arguments) : Result := do
  let v ← args.known 0
  args.noMore 1
  match v with
  | .absent | .none => return .int 0
  | .bool b => return .int (if b then 1 else 0)
  | .int n => return .int n
  | .float x => return .int (truncate x)
  | .text s | .safe s =>
    match (Data.Decimal.integer? s).filter Value.isUsable, Data.Decimal.float? s with
    | some n, _ => return .int n
    | none, some x => return .int (truncate x)
    | none, none => throw .invalidOperation
  | _ => throw .invalidOperation

def applyFloat (args : Arguments) : Result := do
  let v ← args.known 0
  args.noMore 1
  match v with
  | .absent | .none => return .float 0.0
  | .text s | .safe s =>
    match Data.Decimal.float? s with
    | some x => return .float x
    | none => throw .invalidOperation
  | v =>
    match v.float? with
    | some x => return .float x
    | none => throw .invalidOperation

def applyAbs (args : Arguments) : Result := do
  let v ← args.value 0
  args.noMore 1
  match v with
  | .int n => if 0 ≤ n then return .int n else intResult n.natAbs
  | .float x => return .float x.abs
  | _ => throw .invalidOperation

/-- A number times a power of another one with a whole exponent, by squares. -/
def timesPower (y x : Float) (n : Nat) : Float :=
  if n == 0 then y else timesPower (if n % 2 == 1 then y * x else y) (x * x) (n / 2)
termination_by n
decreasing_by grind

def tenToThe (n : Int) : Float :=
  let size := timesPower 1.0 10.0 n.natAbs
  if n < 0 then 1.0 / size else size

/-- The number with a number of places behind the point. A half goes away from zero. -/
def applyRound (args : Arguments) : Result := do
  let v ← args.value 0
  let places ← args.optionalAs (Arguments.asInt 32) 1
  args.noMore 2
  match v with
  | .int n => return .int n
  | .float x =>
    let scale := tenToThe (places.getD 0)
    return .float ((scale * x).round / scale)
  | _ => throw .invalidOperation

/-! ### Any value -/

/-- Another value in the place of one that stands for nothing, or also of one that does not count
as true. -/
def applyDefault (args : Arguments) : Result := do
  let (args, fields) := args.split
  let v ← args.value 0
  let other? ← placedOrNamed args fields .ok 1 "default_value"
  let lax? ← placedOrNamed args fields .ok 2 "boolean"
  args.noMore 3
  Arguments.onlyNamed fields (["default_value", "boolean"].drop (args.length - 1))
  let isLax := (lax?.map Value.isTrue).getD false
  return if v.isUndefined || (isLax && !v.isTrue) then other?.getD (.text "") else v

def applyBool (args : Arguments) : Result := do
  let v ← args.known 0
  args.noMore 1
  return .bool v.isTrue

def applySpell (args : Arguments) : Result := do
  let v ← args.value 0
  args.noMore 1
  return .text (spelled v)

def applyFormat (args : Arguments) : Result := do
  let s ← Arguments.asText (← args.known 0)
  let (values, fields) := Arguments.split (args.drop 1)
  return .text (← fill s values fields)

def valueFilters : List (String × (Arguments → Result)) :=
  [("int", applyInt), ("float", applyFloat), ("abs", applyAbs), ("round", applyRound),
    ("default", applyDefault), ("d", applyDefault), ("bool", applyBool), ("pprint", applySpell),
    ("format", applyFormat)]

/-! ### Elements that meet a test, or through a filter -/

/-- The filters that use other filters and tests by name. -/
def searchFilters : List String :=
  ["select", "reject", "selectattr", "rejectattr", "map"]

def isFilter (name : String) : Bool :=
  searchFilters.contains name
    || (textFilters false ++ collectionFilters ++ valueFilters).any fun f => f.1 == name

/-- The elements that meet a test, or those that do not. The test may be for what is behind a
path. -/
def applySelect (wanted hasPath : Bool) (args : Arguments) : Result := do
  let v ← args.value 0
  let path? ← if hasPath then some <$> args.text 1 else pure none
  let place := if hasPath then 2 else 1
  let name? ← args.optionalText place
  let test ← match name? with
    | none => pure fun (args : Arguments) => .ok ((args.head?.map Value.isTrue).getD false)
    | some name =>
      match test? isFilter name with
      | some test => pure test
      | none => throw .unknownTest
  let vs ← Arguments.elementsOf v .undefined
  let kept ← vs.filterM fun v => do
    let tested ← match path? with
      | some path => v.behind path
      | none => pure v
    return (← test (tested :: args.drop (place + 1))) == wanted
  return .list kept

/-- The values behind a path into the elements. -/
def applyMapPath (v path : Value) (default : Value) : Result := do
  let vs ← Arguments.elementsOf v .undefined
  let inner ← vs.mapM fun v => do
    let found : Result := match path.text? with
      | some path => v.behind path
      | none =>
        if v matches .undefined then .error .undefined
        else .ok ((v.item? path).getD .undefined)
    match found with
    | .ok w => return if w.isUndefined then default else w
    | .error e => if default.isUndefined then throw e else return default
  return .list inner

/-- The filter of a name, applied to arguments where outputs are escaped or not. One that uses
others hands on fewer arguments than it gets, so `depth` of them is enough. -/
def applyFilter (escaping : Bool) (name : String) (args : Arguments) : (depth : Nat) → Result
  | 0 => .error .invalidOperation
  | depth + 1 =>
    match (textFilters escaping ++ collectionFilters ++ valueFilters).lookup name with
    | some filter => filter args
    | none =>
      if name == "select" then applySelect true false args
      else if name == "reject" then applySelect false false args
      else if name == "selectattr" then applySelect true true args
      else if name == "rejectattr" then applySelect false true args
      else if name == "map" then do
        let v ← args.value 0
        let (rest, fields) := Arguments.split (args.drop 1)
        match ← Arguments.namedAs .ok fields "attribute", rest with
        | some path, [] =>
          applyMapPath v path ((Value.lookup (.text "default") fields).getD .undefined)
        | some _, _ :: _ => throw .tooManyArguments
        | none, [] => throw .invalidOperation
        | none, name :: more =>
          let name ← Arguments.asText name
          if !isFilter name then throw .unknownFilter
          let vs ← Arguments.elementsOf v .undefined
          let mapped ← vs.mapM fun v => applyFilter escaping name (v :: more) depth
          return .list mapped
      else .error .unknownFilter

end ClientGen.Template
