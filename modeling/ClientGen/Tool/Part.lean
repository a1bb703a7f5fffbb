import ClientGen.Tool.Option

/-!
Keeping the beginning or the end of what is read.
-/

namespace ClientGen.Tool

/-- Which part of a sequence to keep. -/
inductive Part where
  | first (n : Nat)
  | last (n : Nat)
  | allButFirst (n : Nat)
  | allButLast (n : Nat)

def Part.of {α : Type} (part : Part) (xs : List α) : List α :=
  match part with
  | first n => xs.take n
  | last n => xs.drop (xs.length - n)
  | allButFirst n => xs.drop n
  | allButLast n => xs.take (xs.length - n)

def Part.amount : Part → Nat
  | first n | last n | allButFirst n | allButLast n => n

/-- How many bytes a letter behind a number stands for. -/
def unitOf? (unit : String) : Option Nat :=
  let power (base : Nat) (letter : Char) : Option Nat :=
    (['K', 'M', 'G', 'T', 'P', 'E', 'Z', 'Y'].idxOf? letter).map fun n => Nat.pow base (n + 1)
  match unit.toList with
  | [] => some 1
  | ['b'] => some 512
  | ['k'] => some 1024
  | ['k', 'B'] => some 1000
  | [c] => power 1024 c
  | [c, 'B'] => power 1000 c
  | [c, 'i', 'B'] => power 1024 c
  | _ => none

/-- The number of bytes or lines that a text asks for. -/
def amount? (cs : List Char) : Option Nat := do
  let digits := cs.takeWhile Char.isDigit
  let n ← (String.ofList digits).toNat?
  return n * (← unitOf? (String.ofList (cs.drop digits.length)))

/-- A part and the unit in which it is counted. -/
structure Selection where
  part : Part
  countsBytes : Bool := false
  lineEnd : Char := '\n'

def Selection.of (s : Selection) (input : List Char) : List Char :=
  if s.countsBytes then s.part.of input else (s.part.of (linesEnding s.lineEnd input)).flatten

/-- Reads a number, as the beginning of a sequence or as its end. -/
def partOfText? (isHead : Bool) (text : String) : Option Part :=
  match text.toList with
  | '-' :: cs => (amount? cs).map fun n => if isHead then .allButLast n else .last n
  | '+' :: cs => (amount? cs).map fun n => if isHead then .first n else .allButFirst (n - 1)
  | cs => (amount? cs).map fun n => if isHead then .first n else .last n

/-- The options of a program that keeps a part. -/
def partOptions (name : String) : OptionTable where
  name := name
  letters := [('n', .needed), ('c', .needed), ('q', .none), ('v', .none), ('z', .none)]
    ++ if name == "tail" then [('f', .none), ('F', .none), ('s', .needed)] else []
  words := [("lines", "n", .needed), ("bytes", "c", .needed), ("quiet", "q", .none),
    ("silent", "q", .none), ("verbose", "v", .none), ("zero-terminated", "z", .none)]

/-- A number behind a dash as an option of its own. -/
def modernArguments (isHead : Bool) : List String → List String
  | [] => []
  | first :: rest =>
    match first.toList with
    | '-' :: c :: cs =>
      let digits := (c :: cs).takeWhile Char.isDigit
      let letters := (c :: cs).drop digits.length
      if !c.isDigit then first :: rest
      else if isHead && letters.all ['c', 'l', 'q', 'v', 'z'].contains then
        let others := letters.filter ['q', 'v', 'z'].contains
        ("-" ++ String.ofList (others ++ [if letters.contains 'c' then 'c' else 'n'] ++ digits))
          :: rest
      else ("-n" ++ String.ofList (c :: cs)) :: rest
    | '+' :: c :: cs =>
      if c.isDigit && !isHead then ("-n+" ++ String.ofList (c :: cs)) :: rest else first :: rest
    | _ => first :: rest

def invalidAmount (name option text : String) : String :=
  name ++ ": invalid number of " ++ (if option == "c" then "bytes" else "lines") ++ ": '" ++ text
    ++ "'"

def selectionOf (isHead : Bool) (name : String) (o : Options) : Except String Selection :=
  let plain : Selection :=
    { part := if isHead then .first 10 else .last 10
      lineEnd := if o.has "z" then '\x00' else '\n' }
  o.options.foldlM (fun s (option, value?) =>
    if option == "n" || option == "c" then
      let text := value?.getD ""
      match partOfText? isHead text with
      | some part =>
        if part.amount < 18446744073709551616 then .ok { s with part, countsBytes := option == "c" }
        else .error (invalidAmount name option text ++ ": Value too large for defined data type")
      | none => .error (invalidAmount name option text)
    else .ok s) plain

def blockSize : Nat := 8192

/-- How many bytes of its input a program reads that needs so many of them. It reads block by block,
and no more than it needs. -/
def bytesRead (s : Selection) (kept waiting : Nat) (isEnough : Bool) : Nat :=
  if !isEnough then waiting
  else if s.countsBytes then kept
  else (kept + blockSize - 1) / blockSize * blockSize

/-- Selects from the input, which is read no further than needed. -/
def selectInput (isHead : Bool) (s : Selection) : Work (List Char) := do
  let waiting := ofBytes ((← get).waiting 0)
  let kept := s.of waiting
  let isEnough := match isHead, s.part with
    | true, .first n =>
      if s.countsBytes then n ≤ kept.length else n ≤ (linesEnding s.lineEnd kept).length
    | _, _ => false
  modify fun j => j.skip 0 (bytesRead s kept.length waiting.length isEnough)
  return kept

def select (isHead : Bool) : Tool := fun arguments => do
  let name := if isHead then "head" else "tail"
  match (partOptions name).read (modernArguments isHead arguments) with
  | .error what => Work.fail 1 ((partOptions name).complaint what)
  | .ok o =>
    match selectionOf isHead name o with
    | .error complaint => Work.fail 1 complaint
    | .ok s =>
      let operands := if o.operands.isEmpty then ["-"] else o.operands
      let hasTitles := o.has "v" || (operands.length > 1 && !o.has "q")
      let mut code := 0
      let mut isFirst := true
      for operand in operands do
        let found ← if operand == "-" then some <$> selectInput isHead s else do
          match ← Work.readPath operand with
          | .ok cs => pure (some (s.of cs))
          | .error .isDirectory =>
            if hasTitles then
              Work.print ((if isFirst then "" else "\n") ++ "==> " ++ operand ++ " <==\n").toList
            Work.complain (name ++ ": error reading '" ++ operand ++ "': Is a directory")
            code := 1
            isFirst := false
            pure none
          | .error e =>
            Work.complain
              (name ++ ": cannot open '" ++ operand ++ "' for reading: " ++ Work.saying e)
            code := 1
            pure none
        if let some cs := found then
          if hasTitles then
            let title := if operand == "-" then "standard input" else operand
            Work.print ((if isFirst then "" else "\n") ++ "==> " ++ title ++ " <==\n").toList
          isFirst := false
          Work.print cs
      return .code code

def head : Tool := select true

def tail : Tool := select false

end ClientGen.Tool
