import ClientGen.Data.Decimal.Shortest
import ClientGen.Text.Order
import ClientGen.Tool.Show

/-!
The order of lines: sorting them, turning them around, and finding those that are repeated.
-/

namespace ClientGen.Tool

def reverseLines : Tool :=
  ({ name := "tac", letters := [], words := [] } : OptionTable).program 1 fun o =>
    Work.overEachOperand ("tac: " ++ ·) o.operands fun cs => (linesEnding '\n' cs).reverse.flatten

/-! ### Sorting -/

/-- How texts are compared. -/
structure LineOrder where
  isNumeric : Bool := false
  isReverse : Bool := false
  foldsCase : Bool := false
  skipsBlanks : Bool := false
  ignoresMarks : Bool := false
  isGeneral : Bool := false

def LineOrder.ofLetters (letters : List Char) : LineOrder where
  isNumeric := letters.contains 'n' || letters.contains 'g' || letters.contains 'h'
  isReverse := letters.contains 'r'
  foldsCase := letters.contains 'f'
  skipsBlanks := letters.contains 'b'
  ignoresMarks := letters.contains 'd'

/-- A part of lines that is compared: from a field and a character on, up to others. -/
structure SortKey where
  firstField : Nat
  firstChar : Nat
  /-- The last field, and the last character of it, or all of them. -/
  last? : Option (Nat × Nat)
  ordering? : Option LineOrder

/-- The fields of a line. Without a separator each begins with the blanks before it. -/
def fieldsOf (separator? : Option Char) (line : List Char) : List (List Char) :=
  match separator? with
  | some c => Text.cut (· == c) line
  | none =>
    let isBlank (c : Char) : Bool := c == ' ' || c == '\t'
    line.foldr (fun c fields =>
      match fields with
      | [] => [[c]]
      | field :: rest =>
        match field with
        | next :: _ => if !isBlank c && isBlank next then [c] :: fields else (c :: field) :: rest
        | [] => [c] :: rest) []

/-- The part of a line that a key compares. -/
def SortKey.of (k : SortKey) (separator? : Option Char) (line : List Char) : List Char :=
  let fields := fieldsOf separator? line
  let skipsBlanks := (k.ordering?.map LineOrder.skipsBlanks).getD false
  let joined (fields : List (List Char)) : List Char := match separator? with
    | some c => [c].intercalate fields
    | none => fields.flatten
  let startOf (field : List Char) : Nat :=
    (if skipsBlanks then (field.takeWhile fun c => c == ' ' || c == '\t').length else 0)
      + (k.firstChar - 1)
  let first := k.firstField - 1
  let selected := match k.last? with
    | none => fields.drop first
    | some (last, 0) => (fields.take last).drop first
    | some (last, char) =>
      let whole := (fields.take last).drop first
      whole.dropLast ++ (whole.getLast?.map (List.take char)).toList
  match selected with
  | [] => []
  | field :: rest => joined (field.drop (startOf field) :: rest)

/-- The number at the beginning of a text, in units of a small fraction. -/
def numberInText (cs : List Char) : Int :=
  let cs := cs.dropWhile fun c => c == ' ' || c == '\t'
  let (isNegative, cs) := match cs with
    | '-' :: cs => (true, cs)
    | cs => (false, cs)
  let whole := cs.takeWhile Char.isDigit
  let fraction := match cs.drop whole.length with
    | '.' :: cs => cs.takeWhile Char.isDigit
    | _ => []
  let places := 20
  let digits := whole ++ (fraction ++ List.replicate places '0').take places
  let n : Int := digits.foldl (fun n c => n * 10 + (c.toNat - 48)) 0
  if isNegative then -n else n

def charsBefore (a b : List Char) : Bool := Text.before (String.ofList a) (String.ofList b)

/-- Texts in an ordering, without regard to its direction. -/
def LineOrder.precedes (o : LineOrder) (a b : List Char) : Bool :=
  if o.isNumeric then numberInText a < numberInText b
  else
    let prepared (cs : List Char) : List Char :=
      let cs := if o.skipsBlanks then cs.dropWhile fun c => c == ' ' || c == '\t' else cs
      let cs :=
        if o.ignoresMarks then cs.filter fun c => c.isAlphanum || c == ' ' || c == '\t' else cs
      if o.foldsCase then cs.map Char.toUpper else cs
    charsBefore (prepared a) (prepared b)

/-- How lines are sorted. -/
structure Sorting where
  ordering : LineOrder
  keys : List SortKey
  separator? : Option Char
  isStable : Bool

/-- Lines as the keys compare them: the first one that tells them apart decides. -/
def Sorting.compareKeys (s : Sorting) (a b : List Char) : Option Bool :=
  let keys := if s.keys.isEmpty then [⟨1, 1, none, none⟩] else s.keys
  keys.findSome? fun k =>
    let ordering := k.ordering?.getD s.ordering
    let k := { k with ordering? := some ordering }
    let x := if s.keys.isEmpty then a else k.of s.separator? a
    let y := if s.keys.isEmpty then b else k.of s.separator? b
    if ordering.precedes x y then some (!ordering.isReverse)
    else if ordering.precedes y x then some ordering.isReverse
    else none

/-- A line does not come behind another one. -/
def Sorting.ordered (s : Sorting) (a b : List Char) : Bool :=
  match s.compareKeys a b with
  | some isBefore => isBefore
  | none =>
    if s.isStable then true
    else if s.ordering.isReverse then !charsBefore a b
    else !charsBefore b a

def sortOptions : OptionTable where
  name := "sort"
  letters := ("nrfubsdgchizCMRV".toList.map fun c => (c, OptionValue.none))
    ++ [('k', .needed), ('t', .needed), ('o', .needed), ('S', .needed), ('T', .needed)]
  words := [("numeric-sort", "n", .none), ("reverse", "r", .none), ("ignore-case", "f", .none),
    ("unique", "u", .none), ("ignore-leading-blanks", "b", .none), ("stable", "s", .none),
    ("dictionary-order", "d", .none), ("check", "c", .none), ("key", "k", .needed),
    ("field-separator", "t", .needed), ("output", "o", .needed), ("zero-terminated", "z", .none)]

def readSortKey? (text : String) : Option SortKey := do
  let position (cs : List Char) : Option (Nat × Option Nat × List Char) := do
    let digits := cs.takeWhile Char.isDigit
    let field ← (String.ofList digits).toNat?
    match cs.drop digits.length with
    | '.' :: rest =>
      let more := rest.takeWhile Char.isDigit
      return (field, some (← (String.ofList more).toNat?), rest.drop more.length)
    | rest => return (field, none, rest)
  let (first, char?, rest) ← position text.toList
  let letters := rest.takeWhile Char.isAlpha
  let (last?, more) ← match rest.drop letters.length with
    | [] => some (none, [])
    | ',' :: rest => do
      let (last, char?, rest) ← position rest
      some (some (last, char?.getD 0), rest)
    | _ => none
  if first == 0 || !more.all Char.isAlpha then none
  else
    let letters := letters ++ more
    return ⟨first, char?.getD 1, last?, if letters.isEmpty then none else some (.ofLetters letters)⟩

/-- The first of lines that the keys do not tell apart. -/
def Sorting.firsts (s : Sorting) : List (List Char) → List (List Char)
  | [] => []
  | [a] => [a]
  | a :: b :: rest =>
    if (s.compareKeys a b).isNone then s.firsts (a :: rest) else a :: s.firsts (b :: rest)

def sort : Tool := sortOptions.program 2 fun o => do
  let letters := o.options.filterMap fun p => if p.2.isNone then p.1.toList.head? else none
  match (o.values "k").find? fun text => (readSortKey? text).isNone with
  | some text =>
    Work.fail 2 (if text.startsWith "0" then
        "sort: field number is zero: invalid field specification '" ++ text ++ "'"
      else "sort: invalid number at field start: invalid count at start of '" ++ text ++ "'")
  | none =>
    let stop := if o.has "z" then '\x00' else '\n'
    let separator? ← match (o.value? "t").map String.toList with
      | none => pure none
      | some [c] => pure (some c)
      | some ['\\', '0'] => pure (some '\x00')
      | some [] => return ← Work.fail 2 "sort: empty tab"
      | some cs => return ← Work.fail 2 ("sort: multi-character tab '" ++ String.ofList cs ++ "'")
    let s : Sorting :=
      { ordering := .ofLetters letters
        keys := (o.values "k").filterMap readSortKey?
        separator?
        isStable := o.has "s" || o.has "u" }
    let mut lines := []
    for operand in if o.operands.isEmpty then ["-"] else o.operands do
      match ← Work.readOperand operand with
      | .ok cs => lines := lines ++ bareLines stop cs
      | .error e =>
        let what := if e == .isDirectory then "read failed" else "cannot read"
        return ← Work.fail 2 ("sort: " ++ what ++ ": " ++ operand ++ ": " ++ Work.saying e)
    if o.has "c" || o.has "C" then
      match (lines.zip lines.tail).zipIdx.find? fun p =>
        !s.ordered p.1.1 p.1.2 || (o.has "u" && s.ordered p.1.2 p.1.1) with
      | none => return .code 0
      | some ((_, line), n) =>
        if o.has "C" then return .code 1
        return ← Work.fail 1 ("sort: " ++ o.operands.headD "-" ++ ":" ++ toString (n + 2)
          ++ ": disorder: " ++ String.ofList line)
    let sorted := lines.mergeSort s.ordered
    let text := (if o.has "u" then s.firsts sorted else sorted).flatMap fun line => line ++ [stop]
    match o.value? "o" with
    | none => Work.print text
    | some path => let _ ← Work.writePath path text false
    return .code 0

/-! ### Repeated lines -/

def repeatOptions : OptionTable where
  name := "uniq"
  letters := ("cdDuiz".toList.map fun c => (c, OptionValue.none))
    ++ ['f', 's', 'w'].map fun c => (c, .needed)
  words := [("count", "c", .none), ("repeated", "d", .none), ("unique", "u", .none),
    ("ignore-case", "i", .none), ("skip-fields", "f", .needed), ("skip-chars", "s", .needed),
    ("check-chars", "w", .needed), ("all-repeated", "D", .optional)]

/-- Runs of lines that are the same, by what is compared of them. -/
def runsOf (compared : List Char → List Char) (lines : List (List Char)) :
    List (List (List Char)) :=
  lines.foldr (fun line runs =>
    match runs with
    | (next :: more) :: rest =>
      if compared line == compared next then (line :: next :: more) :: rest else [line] :: runs
    | runs => [line] :: runs) []

/-- Prints one line of each run of lines that are the same. -/
def unique : Tool := repeatOptions.program 1 fun o => do
  let natOf (name : String) : Option Nat := (o.value? name).bind String.toNat?
  let isBlank (c : Char) : Bool := c == ' ' || c == '\t'
  let skipField (cs : List Char) : List Char := (cs.dropWhile isBlank).dropWhile (!isBlank ·)
  let compared (line : List Char) : List Char :=
    let line := (List.range ((natOf "f").getD 0)).foldl (fun line _ => skipField line) line
    let line := line.drop ((natOf "s").getD 0)
    let line := match natOf "w" with
      | some n => line.take n
      | none => line
    if o.has "i" then line.map Char.toLower else line
  let input := o.operands.headD "-"
  match ← Work.readOperand input with
  | .error e => Work.fail 1 ("uniq: " ++ input ++ ": " ++ Work.saying e)
  | .ok cs =>
    let shown (run : List (List Char)) : List Char :=
      let isRepeated := run.length > 1
      let line := run.headD []
      let label := if o.has "c" then alignRight 7 (toString run.length).toList ++ [' '] else []
      if o.has "D" then if isRepeated then run.flatMap fun l => l ++ ['\n'] else []
      else if (o.has "d" && !isRepeated) || (o.has "u" && isRepeated) then []
      else label ++ line ++ ['\n']
    let text := (runsOf compared (bareLines '\n' cs)).flatMap shown
    match o.operands with
    | [_, output] => let _ ← Work.writePath output text false
    | _ => Work.print text
    return .code 0

end ClientGen.Tool
