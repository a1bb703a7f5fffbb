import ClientGen.Data.Decimal.Shortest
import ClientGen.Disk.Directory
import ClientGen.Tool.Option

/-!
Testing texts, numbers and files. A test is an expression of words, and whether it holds is told by
how the program ends.
-/

namespace ClientGen.Tool

/-- What a word of a test can be. -/
inductive TestWord where
  | one
  | two
  | negation
  | conjunction
  | disjunction
  | opening
  | closing
  | operand
  | nothing
  deriving DecidableEq

def testOperators : List (String × TestWord) :=
  ["-b", "-c", "-d", "-e", "-f", "-g", "-h", "-k", "-L", "-n", "-p", "-r", "-s", "-S", "-t", "-u",
    "-w", "-x", "-z", "-O", "-G"].map (·, .one)
  ++ ["=", "!=", "<", ">", "-eq", "-ne", "-gt", "-ge", "-lt", "-le", "-nt", "-ot", "-ef"].map
      (·, .two)
  ++ [("!", .negation), ("-a", .conjunction), ("-o", .disjunction), ("(", .opening),
    (")", .closing)]

/-- A richer manner knows more operators. -/
def operatorOf? (m : Manner) (word : String) : Option TestWord :=
  if !m.isPlain && word == "==" then some .two
  else if !m.isPlain && (word == "-v" || word == "-N") then some .one
  else testOperators.lookup word

/-- The words of a test from one on, of which the first one may be an operator. -/
def testWordOf (m : Manner) : List String → TestWord
  | [] => .nothing
  | word :: rest =>
    match operatorOf? m word with
    | none => .operand
    | some .one =>
      match rest with
      | [] => .operand
      | next :: _ :: _ => if operatorOf? m next == some .two then .operand else .one
      | [_] => .one
    | some .opening => if rest.isEmpty then .operand else .opening
    | some found => found

/-- Why a test is none. -/
inductive TestFault where
  | unexpected (word : String)
  | noArgument (operator : String)
  | noClosing
  | noNumber (text : String)

/-- Something that is tested, along the words that are left. -/
abbrev Testing := StateT (List String) (Except TestFault)

/-- The node that a path leads to, and the same without following a last link. -/
structure TestFiles where
  find? : String → Option (Place × Disk.Node)
  findLink? : String → Option Disk.Node

def testFile (files : TestFiles) (operator path : String) : Bool :=
  let node? := (files.find? path).map Prod.snd
  match operator with
  | "-e" | "-r" | "-w" | "-O" | "-G" | "-N" => node?.isSome
  | "-d" => (node? matches some .directory)
  | "-f" => (node? matches some (.file _) | some (.program _))
  | "-h" | "-L" => (files.findLink? path matches some (.link _))
  | "-c" => (node? matches some .device)
  | "-x" => (node? matches some .directory | some (.program _))
  | "-s" =>
    match node? with
    | some (.file content) => content.size > 0
    | some .device | none => false
    | some _ => true
  | _ => false

def testNumber? (text : String) : Option Int :=
  let isBlank (c : Char) : Bool := c == ' ' || c == '\t' || c == '\n'
  let cs := (((text.toList.dropWhile isBlank).reverse).dropWhile isBlank).reverse
  let (isNegative, digits) := Data.Decimal.signed cs
  match Data.Decimal.digits? digits with
  | some n =>
    let value := if isNegative then -(n : Int) else n
    if -9223372036854775808 ≤ value && value ≤ 9223372036854775807 then some value else none
  | none => none

def testNumber (text : String) : Testing Int :=
  match testNumber? text with
  | some n => return n
  | none => throw (.noNumber text)

def testTwo (files : TestFiles) (left operator right : String) : Testing Bool := do
  let compare (holds : Int → Int → Bool) : Testing Bool := do
    let m ← testNumber left
    let n ← testNumber right
    return holds m n
  match operator with
  | "=" | "==" => return left == right
  | "!=" => return left != right
  | "<" => return Text.before left right
  | ">" => return Text.before right left
  | "-eq" => compare fun m n => m == n
  | "-ne" => compare fun m n => m != n
  | "-gt" => compare fun m n => m > n
  | "-ge" => compare fun m n => m ≥ n
  | "-lt" => compare fun m n => m < n
  | "-le" => compare fun m n => m ≤ n
  | "-ef" =>
    return match files.find? left, files.find? right with
      | some (p, _), some (q, _) => p == q
      | _, _ => false
  | _ => return false

/-- The word at the front, which stays there. -/
def testHead : Testing String := do return (← get).headD ""

def testStep : Testing Unit := modify List.tail

mutual

/-- A test of which one part has to hold. The kind of the word at the front is known; the test ends
on its last word. The first argument bounds the number of steps. -/
def testDisjunction (m : Manner) (files : TestFiles) : Nat → TestWord → Testing Bool
  | 0, _ => return false
  | n + 1, word => do
    let first ← testConjunction m files n word
    if testWordOf m (← get).tail == .disjunction then
      modify (List.drop 2)
      let second ← testDisjunction m files n (testWordOf m (← get))
      return first || second
    else return first

/-- A test of which all parts have to hold. -/
def testConjunction (m : Manner) (files : TestFiles) : Nat → TestWord → Testing Bool
  | 0, _ => return false
  | n + 1, word => do
    let first ← testNegation m files n word
    if testWordOf m (← get).tail == .conjunction then
      modify (List.drop 2)
      let second ← testConjunction m files n (testWordOf m (← get))
      return first && second
    else return first

/-- A test that may have to fail. -/
def testNegation (m : Manner) (files : TestFiles) : Nat → TestWord → Testing Bool
  | 0, _ => return false
  | n + 1, word => do
    if word != .negation then testPrimary m files n word
    else
      let next := testWordOf m (← get).tail
      if next != .nothing then testStep
      return !(← testNegation m files n next)

/-- A single test, or one in brackets. -/
def testPrimary (m : Manner) (files : TestFiles) : Nat → TestWord → Testing Bool
  | 0, _ => return false
  | n + 1, word => do
    match word with
    | .nothing => return false
    | .opening =>
      testStep
      let next := testWordOf m (← get)
      if next == .closing then return false
      let holds ← testDisjunction m files n next
      testStep
      if testWordOf m (← get) != .closing then throw .noClosing
      return holds
    | .one =>
      let operator ← testHead
      testStep
      match ← get with
      | [] => throw (.noArgument operator)
      | operand :: _ =>
        return match operator with
          | "-z" => operand.isEmpty
          | "-n" => !operand.isEmpty
          | _ => testFile files operator operand
    | _ =>
      let left ← testHead
      let rest := (← get).tail
      if testWordOf m rest == .two then
        modify (List.drop 2)
        match ← get with
        | [] => throw (.noArgument (rest.headD ""))
        | right :: _ => testTwo files left (rest.headD "") right
      else return !left.isEmpty

end

/-- A test of some words. Up to four words there are rules of their own. The first argument bounds
the number of negations in front. -/
def testWords (m : Manner) (files : TestFiles) : Nat → List String → Except TestFault Bool
  | 0, _ => .ok false
  | _, [] => .ok false
  | n + 1, words =>
    let general (words : List String) (word : TestWord) : Except TestFault Bool := do
      let (holds, rest) ← (testDisjunction m files (4 * words.length + 8) word).run words
      match rest with
      | word :: _ :: _ => throw (.unexpected word)
      | _ => return holds
    let isShort := words.length == 3 || words.length == 4
    if words.length == 3 && operatorOf? m ((words.drop 1).headD "") == some .two then
      general words .operand
    else if isShort && words.head? == some "(" && words.getLast? == some ")" then
      let inner := words.tail.dropLast
      general inner (testWordOf m inner)
    else if isShort && words.head? == some "!" then
      (testWords m files n words.tail).map not
    else general words (testWordOf m words)

def TestFault.message (m : Manner) (words : List String) : TestFault → String
  | .noNumber text =>
    match m with
    | .plain _ => "Illegal number: " ++ text
    | .rich _ => text ++ ": integer expression expected"
    | .alone => "invalid integer '" ++ text ++ "'"
  | fault =>
    if m.isPlain then
      match fault with
      | .unexpected word =>
        if word.isEmpty then "unexpected operator" else word ++ ": unexpected operator"
      | .noArgument operator => operator ++ ": argument expected"
      | _ => "closing paren expected"
    else
      let quoted (s : String) : String := if m matches .alone then "'" ++ s ++ "'" else s
      match words with
      | [first, second] =>
        if m matches .alone then "missing argument after " ++ quoted second
        else first ++ ": unary operator expected"
      | [_, second, _] => quoted second ++ ": binary operator expected"
      | _ => if m matches .alone then "extra argument " ++ quoted (words.getLast?.getD "")
        else "too many arguments"

/-- Tests what its arguments say. Within brackets the last one has to close them. -/
def test (m : Manner) (isBracket : Bool) : Tool := fun arguments => do
  let name := if isBracket then "[" else "test"
  if isBracket && arguments.getLast? != some "]" then
    Work.fail 2 (m.about name ++ match m with
      | .plain _ => "missing ]"
      | .rich _ => "missing \x60]'"
      | .alone => "missing ']'")
  else
    let words := if isBracket then arguments.dropLast else arguments
    let disk := (← get).disk
    let files : TestFiles :=
      { find? := fun path => (disk.resolve (decodeText path)).toOption
        findLink? := fun path => (disk.entryAt (decodeText path)).toOption.map Prod.snd }
    match testWords m files (words.length + 1) words with
    | .ok holds => return .code (if holds then 0 else 1)
    | .error fault => Work.fail 2 (m.about name ++ fault.message m words)

end ClientGen.Tool
