import ClientGen.Tool.Pattern.Read

/-!
Whole numbers in shell scripts: reading an expression, and calculating what it amounts to. Numbers
have sixty-four bits.
-/

namespace ClientGen.Shell

inductive Term where
  | number (n : Int)
  | value (name : String)
  | one (operator : String) (a : Term)
  | two (operator : String) (a b : Term)
  | choice (test yes no : Term)
  /-- The operator combines the old value with the new one. -/
  | assign (name : String) (operator : String) (new : Term)
  /-- A variable grows by a number, before or behind its use. -/
  | step (name : String) (size : Int) (isBefore : Bool)

/-- Why an expression amounts to no number. -/
inductive CalculationFault where
  /-- What is wrong, for a plain shell and for a richer one, and the text from there on. -/
  | written (plain rich : String) (rest : List Char)
  | zeroDivisor
  | noNumber (text : String)

def wrapped (n : Int) : Int :=
  (n + 9223372036854775808) % 18446744073709551616 - 9223372036854775808

namespace Term

/-- A token of an expression. -/
inductive Lexeme where
  | number (n : Int)
  | word (s : String)
  | mark (s : String)
  | unknown

/-- The marks of expressions. Longer ones come first. -/
def marks (isRich : Bool) : List String :=
  ["<<=", ">>="] ++ (if isRich then ["**", "++", "--"] else [])
    ++ ["&&", "||", "<<", ">>", "<=", ">=", "==", "!=", "+=", "-=", "*=", "/=", "%=", "&=", "|=",
      "^=", "+", "-", "*", "/", "%", "<", ">", "&", "|", "^", "!", "~", "?", ":", "=", "(", ")"]
    ++ if isRich then [","] else []

/-- The number at the front, of which the first digit is there. -/
def numberAtFront (isRich : Bool) (cs : List Char) : Lexeme × List Char :=
  let ofBase (base : Nat) (cs : List Char) : Lexeme × List Char :=
    match Pattern.digitsAtFront base cs.length cs with
    | some (n, rest) => (.number (min n 9223372036854775807), rest)
    | none => (.number 0, cs)
  match cs with
  | '0' :: x :: rest =>
    if (x == 'x' || x == 'X') && (Pattern.digitsAtFront 16 1 rest).isSome then ofBase 16 rest
    else if isRich && x.isDigit && !(cs.takeWhile Char.isDigit).all (fun c => c != '8' && c != '9')
    then (.unknown, cs)
    else ofBase 8 cs
  | cs =>
    match ofBase 10 cs with
    | (.number base, '#' :: rest) =>
      if isRich then ofBase base.toNat rest else (.number base, '#' :: rest)
    | found => found

/-- The tokens of an expression, each with the text from it on. The first argument bounds their
number. -/
def lexemes (isRich : Bool) : Nat → List Char → List (Lexeme × List Char)
  | 0, _ => []
  | n + 1, cs =>
    match cs.dropWhile Char.isWhitespace with
    | [] => []
    | c :: rest =>
      if c.isDigit then
        let (lexeme, behind) := numberAtFront isRich (c :: rest)
        match lexeme with
        | .unknown => [(.unknown, c :: rest)]
        | lexeme => (lexeme, c :: rest) :: lexemes isRich n behind
      else if c.isAlpha || c == '_' then
        let name := (c :: rest).takeWhile isWordChar
        (.word (String.ofList name), c :: rest) :: lexemes isRich n ((c :: rest).drop name.length)
      else
        match (marks isRich).find? fun mark => mark.toList.isPrefixOf (c :: rest) with
        | some mark => (.mark mark, c :: rest) :: lexemes isRich n ((c :: rest).drop mark.length)
        | none => [(.unknown, c :: rest)]

/-- Reading an expression: the tokens that are left, and the text from the last one on. -/
abbrev Read := StateT (List (Lexeme × List Char) × List Char) (Except CalculationFault)

namespace Read

/-- The next token. It stays. -/
def peek? : Read (Option Lexeme) := return (← get).1.head?.map Prod.fst

def skip : Read Unit := modify fun (left, last) => (left.tail, (left.head?.map Prod.snd).getD last)

def takeMark (marks : List String) : Read (Option String) := do
  match ← peek? with
  | some (.mark s) =>
    if marks.contains s then
      skip
      return some s
    else return none
  | _ => return none

def refuse {α : Type} (plain rich : String) : Read α := do
  let (left, last) ← get
  throw (.written plain rich ((left.head?.map Prod.snd).getD last))

/-- The operators between two values, those that bind least first. -/
def levels (isRich : Bool) : List (List String) :=
  [["||"], ["&&"], ["|"], ["^"], ["&"], ["==", "!="], ["<", "<=", ">", ">="], ["<<", ">>"],
    ["+", "-"], ["*", "/", "%"]] ++ if isRich then [["**"]] else []

mutual

def sequence (isRich : Bool) : Nat → Read Term
  | 0 => refuse "too long" "too long"
  | n + 1 => do
    let a ← assignment isRich n
    if (← takeMark [","]).isSome then return .two "," a (← sequence isRich n) else return a

def assignment (isRich : Bool) : Nat → Read Term
  | 0 => refuse "too long" "too long"
  | n + 1 => do
    match (← get).1 with
    | (.word name, _) :: (.mark mark, _) :: _ =>
      let assigning := ["=", "+=", "-=", "*=", "/=", "%=", "<<=", ">>=", "&=", "|=", "^="]
      if assigning.contains mark then
        skip
        skip
        let operator := String.ofList mark.toList.dropLast
        return .assign name operator (← assignment isRich n)
      else chosen isRich n
    | _ => chosen isRich n

/-- Reads an expression that depends on another one. -/
def chosen (isRich : Bool) : Nat → Read Term
  | 0 => refuse "too long" "too long"
  | n + 1 => do
    let test ← level isRich n (levels isRich)
    if (← takeMark ["?"]).isSome then
      let yes ← assignment isRich n
      if (← takeMark [":"]).isNone then
        refuse "expecting ':'" "\x60:' expected for conditional expression"
      return .choice test yes (← chosen isRich n)
    else return test

/-- Reads values between operators of these levels. -/
def level (isRich : Bool) : Nat → List (List String) → Read Term
  | 0, _ => refuse "too long" "too long"
  | n + 1, [] => primary isRich n
  | n + 1, operators :: rest => do
    let first ← level isRich n rest
    levelBehind isRich n operators rest first

def levelBehind (isRich : Bool) : Nat → List String → List (List String) → Term → Read Term
  | 0, _, _, _ => refuse "too long" "too long"
  | n + 1, operators, rest, first => do
    match ← takeMark operators with
    | none => return first
    | some operator =>
      let second ← level isRich n (if operator == "**" then [operators] else rest)
      levelBehind isRich n operators rest (.two operator first second)

def primary (isRich : Bool) : Nat → Read Term
  | 0 => refuse "too long" "too long"
  | n + 1 => do
    match ← peek? with
    | some (.number k) =>
      skip
      return .number k
    | some (.word name) =>
      skip
      match ← takeMark ["++", "--"] with
      | some "++" => return .step name 1 false
      | some _ => return .step name (-1) false
      | none => return .value name
    | some (.mark "(") =>
      skip
      let a ← sequence isRich n
      if (← takeMark [")"]).isNone then refuse "expecting ')'" "missing \x60)'"
      return a
    | some (.mark mark) =>
      if ["++", "--"].contains mark then
        match (← get).1 with
        | _ :: (.word name, _) :: _ =>
          skip
          skip
          return .step name (if mark == "++" then 1 else -1) true
        | _ => refuse "expecting primary" "syntax error: operand expected"
      else if ["+", "-", "!", "~"].contains mark then
        skip
        return .one mark (← primary isRich n)
      else refuse "expecting primary" "syntax error: operand expected"
    | _ => refuse "expecting primary" "syntax error: operand expected"

end

end Read

def read (isRich : Bool) (cs : List Char) : Except CalculationFault Term := do
  let tokens := lexemes isRich (cs.length + 1) cs
  if isRich && tokens.isEmpty then return .number 0
  if let some (.unknown, rest) := tokens.getLast? then
    if isRich && (rest.head?.map Char.isDigit).getD false then
      throw (.written "expecting EOF" (String.ofList rest ++ ": value too great for base") rest)
  let (term, left, _) ← (Read.sequence isRich (32 * tokens.length + 64)).run (tokens, cs)
  match left with
  | [] => return term
  | (_, rest) :: _ => throw (.written "expecting EOF" "syntax error in expression" rest)

def combine (operator : String) (a b : Int) : Except CalculationFault Int :=
  let truth (holds : Bool) : Int := if holds then 1 else 0
  let bits (f : Nat → Nat → Nat) : Int :=
    wrapped (f (a % 18446744073709551616).toNat (b % 18446744073709551616).toNat)
  let power := Nat.pow 2 (b % 64).toNat
  match operator with
  | "+" => .ok (wrapped (a + b))
  | "-" => .ok (wrapped (a - b))
  | "*" => .ok (wrapped (a * b))
  | "/" => if b == 0 then .error .zeroDivisor else .ok (wrapped (a.tdiv b))
  | "%" => if b == 0 then .error .zeroDivisor else .ok (a.tmod b)
  | "**" =>
    .ok (wrapped ((List.replicate (min b.toNat 4096) a).foldl (fun x y => wrapped (x * y)) 1))
  | "<<" => .ok (wrapped (a * power))
  | ">>" => .ok (a / power)
  | "<" => .ok (truth (a < b))
  | "<=" => .ok (truth (a ≤ b))
  | ">" => .ok (truth (b < a))
  | ">=" => .ok (truth (b ≤ a))
  | "==" => .ok (truth (a == b))
  | "!=" => .ok (truth (a != b))
  | "&" => .ok (bits Nat.land)
  | "|" => .ok (bits Nat.lor)
  | "^" => .ok (bits Nat.xor)
  | _ => .ok b

/-- Calculating, with the variables that were changed. -/
abbrev Calculating := StateT (List (String × Int)) (Except CalculationFault)

/-- The number that a text stands for in a plain shell. -/
def plainNumber (text : String) : Except CalculationFault Int :=
  let cs := text.toList.dropWhile Char.isWhitespace
  let (isNegative, digits) := match cs with
    | '-' :: cs => (true, cs)
    | '+' :: cs => (false, cs)
    | cs => (false, cs)
  let (n, rest) := match digits with
    | c :: _ =>
      if c.isDigit then
        match numberAtFront false digits with
        | (.number n, rest) => (n, rest)
        | _ => (0, digits)
      else (0, cs)
    | [] => (0, cs)
  if (rest.dropWhile Char.isWhitespace).isEmpty then .ok (if isNegative then -n else n)
  else .error (.noNumber text)

/-- The number of a variable. In a richer shell its value may be an expression. -/
def valueOf (calculate : Term → Calculating Int) (isRich : Bool) (value? : String → Option String)
    (name : String) : Calculating Int := do
  match (← get).lookup name with
  | some n => return n
  | none =>
    let text := (value? name).getD ""
    if isRich then
      match read true text.toList with
      | .ok term => calculate term
      | .error e => throw e
    else
      match plainNumber text with
      | .ok n => return n
      | .error e => throw e

/-- What an expression amounts to. The first argument bounds the number of steps. -/
def calculate (isRich : Bool) (value? : String → Option String) : Nat → Term → Calculating Int
  | 0, _ => return 0
  | n + 1, term => do
    let inner := calculate isRich value? n
    let set (name : String) (k : Int) : Calculating Int := do
      modify fun known => (name, k) :: known
      return k
    match term with
    | .number k => return k
    | .value name => valueOf inner isRich value? name
    | .one operator a =>
      let k ← inner a
      return match operator with
        | "-" => wrapped (-k)
        | "!" => if k == 0 then 1 else 0
        | "~" => -k - 1
        | _ => k
    | .two "&&" a b =>
      if (← inner a) == 0 then return 0
      else return if (← inner b) == 0 then 0 else 1
    | .two "||" a b =>
      if (← inner a) != 0 then return 1
      else return if (← inner b) == 0 then 0 else 1
    | .two operator a b =>
      let x ← inner a
      let y ← inner b
      match combine operator x y with
      | .ok k => return k
      | .error e => throw e
    | .choice test yes no => if (← inner test) != 0 then inner yes else inner no
    | .assign name operator e =>
      if operator.isEmpty then
        let k ← inner e
        set name k
      else
        let old ← valueOf inner isRich value? name
        let new ← inner e
        match combine operator old new with
        | .ok k => set name k
        | .error e => throw e
    | .step name size isBefore =>
      let old ← valueOf inner isRich value? name
      let new ← set name (wrapped (old + size))
      return if isBefore then new else old

/-- What a text amounts to, and the variables that are changed, first one first. -/
def ofText (isRich : Bool) (value? : String → Option String) (cs : List Char) :
    Except CalculationFault (Int × List (String × Int)) := do
  let term ← read isRich cs
  let (n, known) ← (calculate isRich value? (64 * cs.length + 1024) term).run []
  return (n, known.reverse)

end Term

def CalculationFault.message (isRich : Bool) (text : String) : CalculationFault → String
  | .written plain rich rest =>
    if isRich then
      let about := if rich == String.ofList rest ++ ": value too great for base" then rich
        else text ++ ": " ++ rich
      about ++ " (error token is \"" ++ String.ofList rest ++ "\")"
    else "arithmetic expression: " ++ plain ++ ": \"" ++ text ++ "\""
  | .zeroDivisor =>
    if isRich then
      let divisor := (text.toList.reverse.takeWhile fun c => c != '/' && c != '%').reverse
      text ++ ": division by 0 (error token is \""
        ++ String.ofList (divisor.dropWhile (· == ' ')) ++ "\")"
    else "arithmetic expression: division by zero: \"" ++ text ++ "\""
  | .noNumber text => "Illegal number: " ++ text

end ClientGen.Shell
