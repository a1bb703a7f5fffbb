import ClientGen.Tool.Show
import ClientGen.Text.Cut

/-!
Columns: cutting parts out of lines, joining lines, breaking long ones and turning them around.
-/

namespace ClientGen.Tool

/-- Turns each line around. -/
def reverseEach : Tool :=
  ({ name := "rev", letters := [], words := [] } : OptionTable).program 1 fun o =>
    Work.overOperands ("rev: " ++ ·) o.operands fun cs =>
      (linesEnding '\n' cs).flatMap fun line =>
        (withoutEnd '\n' line).reverse ++ if line.getLast? == some '\n' then ['\n'] else []

/-! ### Cutting -/

def cutOptions : OptionTable where
  name := "cut"
  letters := [('b', .needed), ('c', .needed), ('f', .needed), ('d', .needed), ('s', .none),
    ('n', .none), ('z', .none)]
  words := [("bytes", "b", .needed), ("characters", "c", .needed), ("fields", "f", .needed),
    ("delimiter", "d", .needed), ("only-delimited", "s", .none),
    ("complement", "complement", .none), ("output-delimiter", "output-delimiter", .needed),
    ("zero-terminated", "z", .none)]

/-- Reads ranges of numbers, the last of which may be open. -/
def readRanges (isFields : Bool) (text : String) : Except String (List (Nat × Option Nat)) :=
  let what := if isFields then "field" else "byte/character position"
  (Text.cut (fun c => c == ',' || c == ' ') text.toList).mapM fun part =>
    let digits := part.takeWhile Char.isDigit
    let rest := part.drop digits.length
    let first? := (String.ofList digits).toNat?
    let lastOf (cs : List Char) : Option (Option Nat) :=
      if cs.isEmpty then some none else (String.ofList cs).toNat?.map some
    let numbered (range : Nat × Option Nat) : Except String (Nat × Option Nat) :=
      if range.1 == 0 || range.2 == some 0 then
        .error (if isFields then "fields are numbered from 1"
          else "byte/character positions are numbered from 1")
      else if (range.2.map fun last => decide (last < range.1)).getD false then
        .error "invalid decreasing range"
      else .ok range
    let invalid : Except String (Nat × Option Nat) :=
      .error ("invalid " ++ what ++ " value '" ++ String.ofList part ++ "'")
    match first?, rest with
    | some n, [] => numbered (n, some n)
    | none, ['-'] => .error "invalid range with no endpoint: -"
    | first?, '-' :: cs =>
      match lastOf cs with
      | some last? => numbered (first?.getD 1, last?)
      | none => invalid
    | _, _ => if part.isEmpty then numbered (0, none) else invalid

def inRanges (ranges : List (Nat × Option Nat)) (n : Nat) : Bool :=
  ranges.any fun (first, last?) =>
    decide (first ≤ n) && (last?.map fun last => decide (n ≤ last)).getD true

/-- Cuts parts out of the lines that it reads. -/
def cut : Tool := cutOptions.program 1 fun o => do
  let lists := o.options.filter fun p => ["b", "c", "f"].contains p.1
  match lists with
  | [] =>
    Work.fail 1 (cutOptions.complaint "you must specify a list of bytes, characters, or fields")
  | _ :: _ :: _ => Work.fail 1 (cutOptions.complaint "only one list may be specified")
  | [(kind, list?)] =>
    let isFields := kind == "f"
    if !isFields && (o.has "d" || o.has "s") then
      let what :=
        if o.has "d" then "an input delimiter may be specified only when operating on fields"
        else "suppressing non-delimited lines makes sense\n\tonly when operating on fields"
      return ← Work.fail 1 (cutOptions.complaint what)
    match readRanges isFields (list?.getD ""), ((o.value? "d").getD "\t").toList with
    | .error what, _ => Work.fail 1 (cutOptions.complaint what)
    | .ok _, _ :: _ :: _ =>
      Work.fail 1 (cutOptions.complaint "the delimiter must be a single character")
    | .ok ranges, delimiters =>
      let delimiter := delimiters.headD '\x00'
      let joint? := (o.value? "output-delimiter").map String.toList
      let keeps (n : Nat) : Bool := inRanges ranges n != o.has "complement"
      let select {α : Type} (xs : List α) : List α :=
        (xs.zipIdx.filter fun x => keeps (x.2 + 1)).map Prod.fst
      let cutLine (line : List Char) : Option (List Char) :=
        if !isFields then some (select line)
        else if !line.contains delimiter then if o.has "s" then none else some line
        else some ((joint?.getD [delimiter]).intercalate (select (Text.cut (· == delimiter) line)))
      let stop := if o.has "z" then '\x00' else '\n'
      Work.overOperands ("cut: " ++ ·) o.operands fun cs =>
        ((bareLines stop cs).filterMap cutLine).flatMap fun line => line ++ [stop]

/-! ### Joining -/

def pasteOptions : OptionTable where
  name := "paste"
  letters := [('s', .none), ('d', .needed), ('z', .none)]
  words := [("serial", "s", .none), ("delimiters", "d", .needed)]

/-- Items with marks between them, which are used one after the other, again and again. -/
def joinWith (marks : List (List Char)) : List (List Char) → List Char
  | [] => []
  | first :: rest =>
    first ++ (rest.zipIdx.flatMap fun (item, n) =>
      (marks[n % max 1 marks.length]?).getD [] ++ item)

/-- The marks of a text, in which a backslash means what it does elsewhere. -/
def pasteMarks : List Char → List (List Char)
  | '\\' :: 'n' :: cs => ['\n'] :: pasteMarks cs
  | '\\' :: 't' :: cs => ['\t'] :: pasteMarks cs
  | '\\' :: '0' :: cs => [] :: pasteMarks cs
  | '\\' :: c :: cs => [c] :: pasteMarks cs
  | c :: cs => [c] :: pasteMarks cs
  | [] => []

/-- Lines of several inputs side by side. The first argument bounds their number. -/
def besides (marks : List (List Char)) : Nat → List (List (List Char)) → List Char
  | 0, _ => []
  | n + 1, inputs =>
    if inputs.all List.isEmpty then []
    else joinWith marks (inputs.map (·.headD [])) ++ '\n' :: besides marks n (inputs.map List.tail)

/-- Deals lines out to some inputs, one after the other. -/
def deal (count : Nat) (lines : List (List Char)) : List (List (List Char)) :=
  (List.range count).map fun k => (lines.zipIdx.filter fun l => l.2 % count == k).map Prod.fst

def paste : Tool := pasteOptions.program 1 fun o => do
  let marks := pasteMarks ((o.value? "d").getD "\t").toList
  let operands := if o.operands.isEmpty then ["-"] else o.operands
  let lines := bareLines '\n' (← Work.readAll 0)
  let count := (operands.filter (· == "-")).length
  let mut shared := if o.has "s" then [lines] else deal count lines
  let mut inputs := []
  for operand in operands do
    if operand == "-" then
      inputs := inputs ++ [shared.headD []]
      shared := shared.tail
    else
      match ← Work.readPath operand with
      | .ok cs => inputs := inputs ++ [bareLines '\n' cs]
      | .error e => return ← Work.fail 1 ("paste: " ++ operand ++ ": " ++ Work.saying e)
  if o.has "s" then Work.print (inputs.flatMap fun lines => joinWith marks lines ++ ['\n'])
  else Work.print (besides marks ((inputs.map List.length).foldl max 0 + 1) inputs)
  return .code 0

/-! ### Widths -/

/-- How lines are folded. -/
structure Folding where
  width : Nat
  /-- A line is broken behind a blank, if there is one. -/
  atBlanks : Bool
  /-- Each byte is one column wide. -/
  countsBytes : Bool

namespace Folding

def columnAfter (f : Folding) (column : Nat) (c : Char) : Nat :=
  if f.countsBytes then column + 1
  else if c == '\t' then column + 8 - column % 8
  else if c == '\r' then 0
  else if c == '\x08' then column - 1
  else column + 1

/-- Adds a character to a line, whose characters come last one first, with what is done. A line that
gets too long is broken. The first argument bounds how often. -/
def add (f : Folding) (c : Char) : Nat → List Char × List Char → List Char × List Char
  | 0, (done, line) => (done, c :: line)
  | n + 1, (done, line) =>
    let column := line.foldr (fun c column => f.columnAfter column c) 0
    if f.columnAfter column c ≤ f.width || line.isEmpty then (done, c :: line)
    else
      let behind := line.takeWhile fun c => c != ' ' && c != '\t'
      if f.atBlanks && behind.length < line.length then
        f.add c n ('\n' :: line.drop behind.length ++ done, behind)
      else f.add c n ('\n' :: line ++ done, [])

/-- A line broken where it gets too long. -/
def fold (f : Folding) (line : List Char) : List Char :=
  let (done, rest) := line.foldl (fun state c => f.add c 3 state) ([], [])
  (rest ++ done).reverse

end Folding

/-- A number behind a dash as the value of an option. -/
def widthArguments (letter : Char) (arguments : List String) : List String :=
  arguments.map fun argument =>
    match argument.toList with
    | '-' :: c :: cs =>
      if c.isDigit then String.ofList ('-' :: letter :: c :: cs) else argument
    | _ => argument

/-- Breaks the lines that it reads where they get too long. -/
def fold : Tool := fun arguments =>
  let table : OptionTable :=
    { name := "fold"
      letters := [('w', .needed), ('s', .none), ('b', .none)]
      words := [("width", "w", .needed), ("spaces", "s", .none), ("bytes", "b", .none)] }
  table.program 1 (fun o => do
    match ((o.value? "w").getD "80").toNat? with
    | none | some 0 =>
      Work.fail 1 ("fold: invalid number of columns: '" ++ (o.value? "w").getD "" ++ "'")
    | some width =>
      Work.overOperands ("fold: " ++ ·) o.operands fun cs =>
        (linesEnding '\n' cs).flatMap fun line =>
          let bare := withoutEnd '\n' line
          ({ width, atBlanks := o.has "s", countsBytes := o.has "b" } : Folding).fold bare
            ++ line.drop bare.length)
    (widthArguments 'w' arguments)

/-- A line with blanks in the place of tabs. -/
def expandLine (width : Nat) (line : List Char) : List Char :=
  (line.foldl (fun (state : List Char × Nat) c =>
    let (done, column) := state
    if c == '\t' then
      let n := width - column % width
      (List.replicate n ' ' ++ done, column + n)
    else (c :: done, column + 1)) ([], 0)).1.reverse

def expand : Tool := fun arguments =>
  let table : OptionTable :=
    { name := "expand"
      letters := [('t', .needed), ('i', .none)]
      words := [("tabs", "t", .needed), ("initial", "i", .none)] }
  table.program 1 (fun o =>
    let width := max 1 ((((o.value? "t").getD "8").toNat?).getD 8)
    Work.overOperands ("expand: " ++ ·) o.operands fun cs =>
      (linesEnding '\n' cs).flatMap (expandLine width)) (widthArguments 't' arguments)

/-- A line in which the blanks at the front are tabs as far as that is possible. -/
def unexpandLine (width : Nat) (line : List Char) : List Char :=
  let front := line.takeWhile fun c => c == ' ' || c == '\t'
  let column := (expandLine width front).length
  List.replicate (column / width) '\t' ++ List.replicate (column % width) ' '
    ++ line.drop front.length

/-- Replaces the blanks at the front of the lines that it reads by tabs. -/
def unexpand : Tool := fun arguments =>
  let table : OptionTable :=
    { name := "unexpand"
      letters := [('t', .needed), ('a', .none)]
      words := [("tabs", "t", .needed), ("all", "a", .none), ("first-only", "f", .none)] }
  table.program 1 (fun o =>
    let width := max 1 ((((o.value? "t").getD "8").toNat?).getD 8)
    Work.overOperands ("unexpand: " ++ ·) o.operands fun cs =>
      (linesEnding '\n' cs).flatMap (unexpandLine width)) (widthArguments 't' arguments)

end ClientGen.Tool
