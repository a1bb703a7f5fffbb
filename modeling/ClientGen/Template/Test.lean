import ClientGen.Template.Argument
import ClientGen.Text.Case

/-!
Tests: what a template may ask of a value by name.
-/

namespace ClientGen.Template

def plainTest? : String → Option (Value → Bool)
  | "defined" => some (!·.isUndefined)
  | "undefined" => some (·.isUndefined)
  | "none" => some fun | .none => true | _ => false
  | "safe" | "escaped" => some fun | .safe _ => true | _ => false
  | "boolean" => some fun | .bool _ => true | _ => false
  | "true" => some fun | .bool b => b | _ => false
  | "false" => some fun | .bool b => !b | _ => false
  | "number" => some fun | .int _ | .float _ => true | _ => false
  | "integer" | "int" => some fun | .int _ => true | _ => false
  | "float" => some fun | .float _ => true | _ => false
  | "string" => some (·.text?.isSome)
  | "sequence" => some fun | .list _ | .group _ _ => true | _ => false
  | "iterable" => some (·.elements?.isSome)
  | "mapping" => some (·.rank == 6)
  | "odd" => some fun v => (v.whole?.map (· % 2 != 0)).getD false
  | "even" => some fun v => (v.whole?.map (· % 2 == 0)).getD false
  | _ => none

def divides (v w : Value) : Bool :=
  match Value.numbers? Value.exactFloat? v w with
  | some (.ints m n) => n != 0 && m % n == 0
  | some (.floats x y) => floatRest x y == 0.0
  | none => false

/-- Two values that hold no others are one and the same: of one sort, and equal. -/
def isOneValue (v w : Value) : Bool :=
  !v.isObject && !w.isObject && v.rank == w.rank && v.same w &&
    (v matches .float _) == (w matches .float _)

def relationTest? : String → Option (Value → Value → Bool)
  | "eq" | "equalto" | "==" => some (·.same ·)
  | "ne" | "!=" => some fun v w => !v.same w
  | "lt" | "lessthan" | "<" => some fun v w => v.order w == .lt
  | "le" | "<=" => some fun v w => v.order w != .gt
  | "gt" | "greaterthan" | ">" => some fun v w => v.order w == .gt
  | "ge" | ">=" => some fun v w => v.order w != .lt
  | "sameas" => some isOneValue
  | "divisibleby" => some divides
  | _ => none

/-- Whether the test of a name holds, if there is such a test. `isFilter` tells which filters there
are. -/
def test? (isFilter : String → Bool) (name : String) :
    Option (Arguments → Except TemplateError Bool) :=
  match plainTest? name, relationTest? name with
  | some test, _ => some fun args => do
    let v ← args.value 0
    args.noMore 1
    return test v
  | _, some test => some fun args => do
    let v ← args.value 0
    let w ← args.value 1
    args.noMore 2
    return test v w
  | none, none =>
    match name with
    | "startingwith" => some fun args => do
      let s ← args.text 0
      let start ← args.text 1
      args.noMore 2
      return start.toList.isPrefixOf s.toList
    | "endingwith" => some fun args => do
      let s ← args.text 0
      let stop ← args.text 1
      args.noMore 2
      return stop.toList.isSuffixOf s.toList
    | "lower" => some fun args => do
      let s ← Arguments.asText (← args.known 0)
      args.noMore 1
      return s.toList.all Text.isLowerChar
    | "upper" => some fun args => do
      let s ← Arguments.asText (← args.known 0)
      args.noMore 1
      return s.toList.all Text.isUpperChar
    | "in" => some fun args => do
      let v ← args.value 0
      match ← args.value 1 with
      | .undefined => throw .undefined
      | w =>
        args.noMore 2
        return (holds v w).toOption.getD false
    | "filter" => some fun args => do
      let s ← Arguments.asText (← args.known 0)
      args.noMore 1
      return isFilter s
    | "test" => some fun args => do
      let s ← Arguments.asText (← args.known 0)
      args.noMore 1
      return (plainTest? s).isSome || (relationTest? s).isSome
        || ["startingwith", "endingwith", "lower", "upper", "in", "filter", "test"].contains s
    | _ => none

end ClientGen.Template
