import ClientGen.Template.Operation

/-!
Constants: literals, lists and maps of literals, and what operators make of constants. Their values
are known before anything is rendered. Main definition: `Expr.constant?`.

The constant `and` gives its right side if both sides count as true, and otherwise the truth value
false. An operation that fails is no constant, so that it fails where it is rendered.
-/

namespace ClientGen.Template

def Literal.value : Literal → Value
  | .none => .none
  | .bool b => .bool b
  | .int n => .int n
  | .float x => .float x
  | .text s => .text s

def Operator.fold? (op : Operator) (v w : Value) : Option Value :=
  match op with
  | .and => some (if v.isTrue && w.isTrue then w else .bool false)
  | .or => some (if v.isTrue then v else w)
  | op => (op.apply v w).toOption

/-- The value of an expression that is a literal. -/
def Expr.literal? : Expr → Option Value
  | .literal l => some l.value
  | _ => none

def literalField? (f : Expr × Expr) : Option (Value × Value) := do
  return (← f.1.literal?, ← f.2.literal?)

mutual

def Expr.constant? : Expr → Option Value
  | .literal l => some l.value
  | .negation e => e.constant?.map fun v => .bool (!v.isTrue)
  | .opposite e => e.constant?.bind fun v => (opposite v).toOption
  | .binary op left right => do op.fold? (← left.constant?) (← right.constant?)
  | .comparison first rest => do
    return .bool (← foldComparisons? (← first.constant?) rest)
  | .list items => (items.mapM Expr.literal?).map .list
  | .map fields => (fields.mapM literalField?).map fun fs => .map (Value.sortFields fs)
  | _ => none

/-- Whether comparisons of constants hold, each with the value before it. -/
def foldComparisons? (v : Value) : List Comparison → Option Bool
  | [] => some true
  | .mk relation right :: rest => do
    let w ← right.constant?
    let first ← (relation.holds v w).toOption
    let others ← foldComparisons? w rest
    return first && others

end

/-- Both expressions lead to one place, through the same names. -/
def Expr.isSamePlace : Expr → Expr → Bool
  | .name s, .name t => s == t
  | .field e s, .field f t => s == t && e.isSamePlace f
  | .item e (.literal (.int m)), .item f (.literal (.int n)) => m == n && e.isSamePlace f
  | .item e (.literal (.text s)), .item f (.literal (.text t)) => s == t && e.isSamePlace f
  | _, _ => false

end ClientGen.Template
