import ClientGen.Tool.Option

/-!
Passing on what is read: as it is, or with its lines numbered, with runs of blank lines squeezed to
a single one, and with marks in the place of what cannot be seen.
-/

namespace ClientGen.Tool

/-- A byte with marks in the place of what cannot be seen. -/
def markedByte (c : Char) : List Char :=
  let low := c.toNat % 128
  (if c.toNat == low then [] else ['M', '-'])
    ++ if low < 32 then ['^', Char.ofNat (low + 64)]
      else if low == 127 then ['^', '?']
      else [Char.ofNat low]

/-- What is done to the lines that are passed on. -/
structure Display where
  numbers : Bool
  /-- Blank lines are neither numbered nor counted. -/
  skipsBlank : Bool
  squeezesBlank : Bool
  marksEnds : Bool
  marksTabs : Bool
  marksOthers : Bool

def Display.ofOptions (o : Options) : Display :=
  let has := fun (names : List String) => names.any o.has
  { numbers := has ["n", "b"]
    skipsBlank := has ["b"]
    squeezesBlank := has ["s"]
    marksEnds := has ["A", "E", "e"]
    marksTabs := has ["A", "T", "t"]
    marksOthers := has ["A", "e", "v", "t"] }

/-- The lines, of which none is blank directly behind another blank one. -/
def squeezeBlank : List (List Char) → List (List Char)
  | [] => []
  | [line] => [line]
  | line :: next :: rest =>
    if line == ['\n'] && next == ['\n'] then squeezeBlank (next :: rest)
    else line :: squeezeBlank (next :: rest)

/-- A text at the right end of a field. -/
def alignRight (width : Nat) (cs : List Char) : List Char :=
  List.replicate (width - cs.length) ' ' ++ cs

namespace Display

variable (display : Display)

/-- A byte within a line as it is displayed. -/
def ofByte (c : Char) : List Char :=
  if c == '\t' then if display.marksTabs then ['^', 'I'] else [c]
  else if display.marksOthers then markedByte c
  else [c]

/-- A line as it is displayed. A carriage return before a marked end is marked, too. -/
def ofLine (line : List Char) : List Char :=
  let bare := withoutEnd '\n' line
  let shown := if display.marksEnds && line.getLast? == some '\n' && bare.getLast? == some '\r' then
      bare.dropLast.flatMap display.ofByte ++ ['^', 'M']
    else bare.flatMap display.ofByte
  if line.getLast? == some '\n' then shown ++ (if display.marksEnds then ['$', '\n'] else ['\n'])
  else shown

/-- The lines from number `n` on as they are displayed. -/
def ofLines : Nat → List (List Char) → List (List Char)
  | _, [] => []
  | n, line :: rest =>
    if display.numbers && !(display.skipsBlank && line == ['\n']) then
      (alignRight 6 (toString n).toList ++ '\t' :: display.ofLine line) :: ofLines (n + 1) rest
    else display.ofLine line :: ofLines n rest

def of (input : List Char) : List Char :=
  let lines := linesEnding '\n' input
  (display.ofLines 1 (if display.squeezesBlank then squeezeBlank lines else lines)).flatten

end Display

def concatenateOptions : OptionTable where
  name := "cat"
  letters := "AbeEnstTuv".toList.map fun c => (c, .none)
  words := [("number-nonblank", "b", .none), ("number", "n", .none), ("squeeze-blank", "s", .none),
    ("show-nonprinting", "v", .none), ("show-ends", "E", .none), ("show-tabs", "T", .none),
    ("show-all", "A", .none)]

def concatenate : Tool := concatenateOptions.program 1 fun o => do
  if o.options.all fun p => p.1 == "u" then
    let mut code := 0
    for operand in if o.operands.isEmpty then ["-"] else o.operands do
      match ← Work.readOperand operand with
      | .ok cs => Work.print cs
      | .error e =>
        Work.complain ("cat: " ++ operand ++ ": " ++ Work.saying e)
        code := 1
    return .code code
  else Work.overOperands ("cat: " ++ ·) o.operands (Display.ofOptions o).of

end ClientGen.Tool
