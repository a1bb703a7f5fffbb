import ClientGen.Data.Decimal.Shortest
import ClientGen.Tool.Pattern.Find
import ClientGen.Tool.Pattern.Read
import ClientGen.Text.Order
import ClientGen.Tool.Option

/-!
Calculating with words, and counting from one number to another one.
-/

namespace ClientGen.Tool

inductive ExpressionFault where
  | unexpected (word : String)
  | missing (word : String)
  | noClosing (word : String)
  | noNumber
  | zero
  | pattern (e : PatternError)

def ExpressionFault.message : ExpressionFault → String
  | .unexpected word => "syntax error: unexpected argument '" ++ word ++ "'"
  | .missing word => "syntax error: missing argument after '" ++ word ++ "'"
  | .noClosing word => "syntax error: expecting ')' after '" ++ word ++ "'"
  | .noNumber => "non-integer argument"
  | .zero => "division by zero"
  | .pattern e => e.message

/-- An expression whose words are read one by one. The word before those that are left is kept. -/
abbrev Calculation := StateT (String × List String) (Except ExpressionFault)

def wordNumber? (word : String) : Option Int :=
  match word.toList with
  | '-' :: cs => (Data.Decimal.digits? cs).map fun n => -(n : Int)
  | cs => (Data.Decimal.digits? cs).map fun n => (n : Int)

def wordHolds (word : String) : Bool :=
  !word.isEmpty && wordNumber? word != some 0

/-- Takes the next word if it is one of some. -/
def takeOneOf? (words : List String) : Calculation (Option String) := do
  match ← get with
  | (_, word :: rest) =>
    if words.contains word then
      set (word, rest)
      return some word
    else return none
  | _ => return none

def takeWord : Calculation String := do
  match ← get with
  | (_, word :: rest) =>
    set (word, rest)
    return word
  | (last, []) => throw (.missing last)

/-- What a pattern finds at the beginning of a text: its first group, or how long it is. -/
def matchedAtStart (text pattern : String) : Except ExpressionFault String :=
  match Pattern.read ⟨false, false⟩ pattern.toList with
  | .error e => .error (.pattern e)
  | .ok p =>
    let subject : Pattern.Subject := { chars := text.toList.toArray }
    let hasGroup := p.groupCount > 0
    .ok <| match Pattern.fitAt? subject p 0 with
      | none => if hasGroup then "" else "0"
      | some fit =>
        if hasGroup then String.ofList (fit.group subject 1) else toString fit.stop

def wordOperation (operator left right : String) : Except ExpressionFault String := do
  let numbers : Except ExpressionFault (Int × Int) :=
    match wordNumber? left, wordNumber? right with
    | some m, some n => .ok (m, n)
    | _, _ => .error .noNumber
  let truth (b : Bool) : String := if b then "1" else "0"
  let compare (numeric : Int → Int → Bool) (textual : Bool) : String :=
    truth (match wordNumber? left, wordNumber? right with
      | some m, some n => numeric m n
      | _, _ => textual)
  match operator with
  | "|" => return if wordHolds left then left else if wordHolds right then right else "0"
  | "&" => return if wordHolds left && wordHolds right then left else "0"
  | "=" | "==" => return compare (· == ·) (left == right)
  | "!=" => return compare (· != ·) (left != right)
  | "<" => return compare (fun m n => m < n) (Text.before left right)
  | "<=" => return compare (fun m n => m ≤ n) (!Text.before right left)
  | ">" => return compare (fun m n => m > n) (Text.before right left)
  | ">=" => return compare (fun m n => m ≥ n) (!Text.before left right)
  | ":" => matchedAtStart left right
  | operator =>
    let (m, n) ← numbers
    match operator with
    | "+" => return toString (m + n)
    | "-" => return toString (m - n)
    | "*" => return toString (m * n)
    | _ =>
      if n == 0 then throw .zero
      return toString (if operator == "/" then Int.tdiv m n else Int.tmod m n)

/-- The operators, the loosest ones first. -/
def wordOperators : List (List String) :=
  [["|"], ["&"], ["<", "<=", "=", "==", "!=", ">=", ">"], ["+", "-"], ["*", "/", "%"], [":"]]

mutual

/-- The value of an expression with operators of some levels. The first argument bounds the number
of steps. -/
def calculate : Nat → List (List String) → Calculation String
  | 0, _ => throw .noNumber
  | n + 1, [] => calculateWord n
  | n + 1, level :: tighter => do
    calculateMore n level tighter (← calculate n tighter)

/-- Goes on behind an operand. -/
def calculateMore : Nat → List String → List (List String) → String → Calculation String
  | 0, _, _, left => return left
  | n + 1, level, tighter, left => do
    match ← takeOneOf? level with
    | none => return left
    | some operator =>
      let right ← calculate n tighter
      match wordOperation operator left right with
      | .ok value => calculateMore n level tighter value
      | .error e => throw e

/-- The value of a word, of an expression in brackets, or of a function of words. -/
def calculateWord : Nat → Calculation String
  | 0 => throw .noNumber
  | n + 1 => do
    match ← takeWord with
    | "(" =>
      let value ← calculate n wordOperators
      match ← get with
      | (_, ")" :: rest) =>
        set (")", rest)
        return value
      | (last, []) => throw (.noClosing last)
      | (_, word :: _) => throw (.unexpected word)
    | "+" => takeWord
    | ")" => throw (.unexpected ")")
    | "length" => return toString (← calculateWord n).length
    | "match" =>
      let text ← calculateWord n
      let pattern ← calculateWord n
      match matchedAtStart text pattern with
      | .ok value => return value
      | .error e => throw e
    | "index" =>
      let text ← calculateWord n
      let chars ← calculateWord n
      return toString ((text.toList.findIdx? chars.toList.contains).map (· + 1) |>.getD 0)
    | "substr" =>
      let text ← calculateWord n
      let start := (wordNumber? (← calculateWord n)).getD 0
      let size := (wordNumber? (← calculateWord n)).getD 0
      return if start ≤ 0 || size ≤ 0 then ""
        else String.ofList ((text.toList.drop (start.toNat - 1)).take size.toNat)
    | word => return word

end

/-- Prints the value of the expression that its arguments are. -/
def expression : Tool := fun arguments => do
  let words := if arguments.head? == some "--" then arguments.tail else arguments
  if words.isEmpty then
    return ← Work.fail 2 "expr: missing operand\nTry 'expr --help' for more information."
  match (calculate (20 * words.length + 20) wordOperators).run ("", words) with
  | .ok (value, (_, [])) =>
    Work.print (value.toList ++ ['\n'])
    return .code (if wordHolds value then 0 else 1)
  | .ok (_, (_, word :: _)) => Work.fail 2 ("expr: " ++ (ExpressionFault.unexpected word).message)
  | .error fault => Work.fail 2 ("expr: " ++ fault.message)

/-! ### Sequences -/

/-- The numbers from one to another one. The first argument bounds how many there are. -/
def countUp (step last : Int) : Nat → Int → List Int
  | 0, _ => []
  | n + 1, k =>
    if (0 < step && last < k) || (step < 0 && k < last) then []
    else k :: countUp step last n (k + step)

def sequence : Tool := fun arguments => do
  let table : OptionTable :=
    { name := "seq"
      letters := [('s', .needed), ('w', .none), ('f', .needed)]
      words := [("separator", "s", .needed), ("equal-width", "w", .none)]
      mixes := false }
  let isNumber (s : String) : Bool := (wordNumber? s).isSome
  let options := arguments.takeWhile fun s => !isNumber s
  let numbers := arguments.drop options.length
  match table.read options with
  | .error what => Work.fail 1 (table.complaint what)
  | .ok o =>
    let operands := o.operands ++ numbers
    match operands.find? fun s => !isNumber s with
    | some word =>
      Work.fail 1 (table.complaint ("invalid floating point argument: '" ++ word ++ "'"))
    | none =>
      let range? := match operands.filterMap wordNumber? with
        | [last] => some (1, 1, last)
        | [first, last] => some (first, 1, last)
        | [first, step, last] => some (first, step, last)
        | _ => none
      match range? with
      | none =>
        Work.fail 1 (table.complaint (match operands with
          | [] => "missing operand"
          | _ => "extra operand '" ++ (operands[3]?).getD "" ++ "'"))
      | some (_, 0, _) =>
        Work.fail 1 (table.complaint
          ("invalid Zero increment value: '" ++ (operands[1]?).getD "" ++ "'"))
      | some (first, step, last) =>
        let size := ((last - first).natAbs / step.natAbs) + 1
        let found := (countUp step last size first).map toString
        let width := (found.map String.length).foldl max 0
        let padded (s : String) : String :=
          if !o.has "w" then s
          else
            let sign := if s.startsWith "-" then "-" else ""
            let digits := s.toList.drop sign.length
            sign ++ String.ofList (List.replicate (width - s.length) '0' ++ digits)
        if !found.isEmpty then
          let separator := (o.value? "s").getD "\n"
          Work.print (separator.intercalate (found.map padded) ++ "\n").toList
        return .code 0

/-- How much is printed by a program that never stops printing. -/
def endlessSize : Nat := 131072

def repeatLine : Tool := fun arguments => do
  let line := (if arguments.isEmpty then "y" else " ".intercalate arguments).toList ++ ['\n']
  Work.print (List.replicate (endlessSize / line.length + 1) line).flatten
  return .code 0

end ClientGen.Tool
