import ClientGen.Text.Quoted

/-!
The scalars of YAML: plain ones, quoted ones and blocks of lines. Each scan takes what it needs from
the front of a text and says how many characters that was.

Line breaks inside a scalar are folded: one becomes a space, and of several the first is dropped.
-/

namespace ClientGen.Data.Yaml

/-- A line break. Other breaks have been written as line feeds before. -/
def isBreak (c : Char) : Bool :=
  c == '\n' || c.toNat == 0x2028 || c.toNat == 0x2029

def isSpace (c : Char) : Bool := c == ' ' || c == '\t'

/-- Nothing but a blank, a break or the end is at the front. -/
def endsWord : List Char → Bool
  | [] => true
  | c :: _ => isSpace c || isBreak c

/-- A mark that begins or ends a document is at the front. -/
def isDocumentMark : List Char → Bool
  | '-' :: '-' :: '-' :: cs => endsWord cs
  | '.' :: '.' :: '.' :: cs => endsWord cs
  | _ => false

/-- A mark of lists and maps in brackets. -/
def isFlowMark (c : Char) : Bool :=
  c == ',' || c == '[' || c == ']' || c == '{' || c == '}'

def columnBehind (c : Char) (column : Nat) : Nat :=
  if isBreak c then 0 else column + 1

/-! ### Folding -/

/-- Blanks and breaks between two words of a scalar, both last first. -/
structure Gap where
  spaces : List Char := []
  breaks : List Char := []
  /-- The first break is escaped, and no longer among `breaks`. -/
  escaped : Bool := false

namespace Gap

def isEmpty (g : Gap) : Bool := g.spaces.isEmpty && g.breaks.isEmpty && !g.escaped

/-- The words are on two lines. -/
def isBroken (g : Gap) : Bool := g.escaped || !g.breaks.isEmpty

/-- The gap with a blank or a break more. Blanks at the beginning of a line do not count. -/
def add (g : Gap) (c : Char) : Gap :=
  if isBreak c then { g with breaks := c :: g.breaks }
  else if g.isBroken then g
  else { g with spaces := c :: g.spaces }

/-- What a gap becomes in the value. -/
def text (g : Gap) : List Char :=
  if g.escaped then g.breaks.reverse
  else match g.breaks.reverse with
    | [] => g.spaces.reverse
    | b :: bs => if b != '\n' then b :: bs else if bs.isEmpty then [' '] else bs

end Gap

/-- A scalar that is scanned. -/
structure Scanned where
  text : List Char
  taken : Nat
  /-- The scan went on to another line behind the text. -/
  isBroken : Bool

/-! ### Plain scalars -/

/-- A plain scalar ends before these characters. -/
def endsPlain (isFlow : Bool) (c : Char) (cs : List Char) : Bool :=
  (c == ':' && endsWord cs) || (isFlow && isFlowMark c)

/-- A colon in brackets that is stuck to a mark. -/
def isStuckColon (c : Char) : List Char → Bool
  | [] => false
  | d :: _ => c == ':' && (d == '?' || isFlowMark d)

/-- Scans a plain scalar whose lines stand at column `indent` or behind it. `done` is the text so
far, last first. -/
def plainFrom (isFlow : Bool) (indent : Nat) (done : List Char) (gap : Gap) (column taken : Nat) :
    List Char → Option Scanned
  | [] => some ⟨done.reverse, taken, gap.isBroken⟩
  | c :: cs =>
    if isSpace c || isBreak c then
      if c == '\t' && gap.isBroken && column < indent then none
      else plainFrom isFlow indent done (gap.add c) (columnBehind c column) (taken + 1) cs
    else if !gap.isEmpty && ((!isFlow && column < indent)
        || (column == 0 && isDocumentMark (c :: cs)) || c == '#') then
      some ⟨done.reverse, taken, gap.isBroken⟩
    else if isFlow && isStuckColon c cs then none
    else if endsPlain isFlow c cs then some ⟨done.reverse, taken, gap.isBroken⟩
    else plainFrom isFlow indent (c :: (gap.text.reverse ++ done)) {} (column + 1) (taken + 1) cs

/-! ### Quoted scalars -/

/-- The character with a number of hexadecimal digits, and how many characters spell it behind the
backslash. -/
def hexEscape? (digits : List Char) (count : Nat) : Option (Char × Nat) := do
  guard (digits.length == count)
  let values ← digits.mapM Text.hexValue?
  let n := values.foldl (fun n v => 16 * n + v) 0
  if (0xd800 ≤ n && n ≤ 0xdfff) || n > 0x10ffff then none else some (Char.ofNat n, count + 1)

/-- The character of an escape whose part behind the backslash is at the front, and the length of
that part. -/
def escaped? : List Char → Option (Char × Nat)
  | 'x' :: cs => hexEscape? (cs.take 2) 2
  | 'u' :: cs => hexEscape? (cs.take 4) 4
  | 'U' :: cs => hexEscape? (cs.take 8) 8
  | c :: _ =>
    ([('0', Char.ofNat 0), ('a', '\x07'), ('b', '\x08'), ('t', '\t'), ('\t', '\t'), ('n', '\n'),
      ('v', '\x0b'), ('f', '\x0c'), ('r', '\r'), ('e', '\x1b'), (' ', ' '), ('"', '"'), ('/', '/'),
      ('\\', '\\'), ('N', Char.ofNat 0x85), ('_', Char.ofNat 0xa0), ('L', Char.ofNat 0x2028),
      ('P', Char.ofNat 0x2029)].lookup c).map fun d => (d, 1)
  | [] => none

/-- What a character of a quoted scalar does, with those behind it. -/
inductive QuotedStep where
  | close
  | blank
  /-- Adds a character, and takes `more` characters along. -/
  | add (c : Char) (more : Nat)
  | escapedBreak

/-- What the character `c` of a quoted scalar does before `cs`. -/
def quotedStep? (single : Bool) (c : Char) (cs : List Char) : Option QuotedStep :=
  if isSpace c || isBreak c then some .blank
  else if single then
    if c != '\'' then some (.add c 0)
    else if cs.head? == some '\'' then some (.add '\'' 1) else some .close
  else if c == '"' then some .close
  else if c != '\\' then some (.add c 0)
  else if (cs.head?.map isBreak).getD false then some .escapedBreak
  else (escaped? cs).map fun e => .add e.1 e.2

/-- Scans a quoted scalar behind its first mark. The last step also took the first `skip`
characters. -/
def quotedFrom (single : Bool) (done : List Char) (gap : Gap) (column taken skip : Nat) :
    List Char → Option Scanned
  | [] => none
  | c :: cs =>
    match skip with
    | k + 1 => quotedFrom single done gap (columnBehind c column) (taken + 1) k cs
    | 0 =>
      if column == 0 && isDocumentMark (c :: cs) then none
      else
        match quotedStep? single c cs with
        | none => none
        | some .close => some ⟨(gap.text.reverse ++ done).reverse, taken + 1, false⟩
        | some .blank =>
          quotedFrom single done (gap.add c) (columnBehind c column) (taken + 1) 0 cs
        | some (.add d more) =>
          quotedFrom single (d :: (gap.text.reverse ++ done)) {} (column + 1) (taken + 1) more cs
        | some .escapedBreak =>
          quotedFrom single (gap.text.reverse ++ done) ⟨[], [], true⟩ (column + 1) (taken + 1) 1 cs

/-! ### Blocks of lines -/

/-- What becomes of the breaks at the end of a block. -/
inductive Chomping where
  | clip
  | strip
  | keep
  deriving DecidableEq

def chomping? (c : Char) : Option Chomping :=
  if c == '+' then some .keep else if c == '-' then some .strip else none

def indentation? (c : Char) : Option Nat :=
  if c.isDigit && c != '0' then some (c.toNat - 48) else none

/-- The chomping and the indentation of a block, and how many characters they are. -/
def blockSigns : List Char → Chomping × Nat × Nat
  | c :: d :: _ =>
    match chomping? c, indentation? c, chomping? d, indentation? d with
    | some chomping, _, _, some n => (chomping, n, 2)
    | some chomping, _, _, none => (chomping, 0, 1)
    | _, some n, some chomping, _ => (chomping, n, 2)
    | _, some n, none, _ => (.clip, n, 1)
    | _, _, _, _ => (.clip, 0, 0)
  | [c] =>
    match chomping? c, indentation? c with
    | some chomping, _ => (chomping, 0, 1)
    | _, some n => (.clip, n, 1)
    | _, _ => (.clip, 0, 0)
  | [] => (.clip, 0, 0)

/-- The first line of a block: its chomping, its indentation, and its length. Behind the signs only
a comment may stand. -/
def blockHead? (cs : List Char) : Option (Chomping × Nat × Nat) :=
  let (chomping, indent, length) := blockSigns cs
  let behind := cs.drop length
  let blanks := (behind.takeWhile isSpace).length
  let rest := behind.drop blanks
  let comment := if rest.head? == some '#' then (rest.takeWhile (!isBreak ·)).length else 0
  match rest.drop comment with
  | [] => some (chomping, indent, length + blanks + comment)
  | c :: _ =>
    if isBreak c then some (chomping, indent, length + blanks + comment + 1) else none

/-- A block as far as it is scanned. Texts stand last first. -/
structure Block where
  folded : Bool
  /-- The least indentation that lines can have. -/
  least : Nat
  /-- The indentation of lines, or zero as long as no line has shown it. -/
  indent : Nat
  /-- The deepest blank line. -/
  deepest : Nat := 0
  text : List Char := []
  /-- The break at the end of the last line. -/
  lead : List Char := []
  /-- The breaks behind it. -/
  breaks : List Char := []
  /-- The last line began with a blank. -/
  wasBlank : Bool := false

namespace Block

/-- The block with a line more, which begins with `c`. A break is folded between two lines that do
not begin with blanks. -/
def beginLine (b : Block) (c : Char) : Block :=
  let folds := b.folded && b.lead == ['\n'] && !b.wasBlank && !isSpace c
  let lead := if folds then if b.breaks.isEmpty then [' '] else [] else b.lead
  { b with
    text := c :: (b.breaks ++ lead ++ b.text)
    lead := []
    breaks := []
    wasBlank := isSpace c }

/-- Scans a block, inside a line or before its first character. -/
def scan (b : Block) (inLine : Bool) (column taken : Nat) : List Char → Option (Block × Nat)
  | [] => some (b, taken)
  | c :: cs =>
    if inLine then
      if isBreak c then scan { b with lead := [c], deepest := 0 } false 0 (taken + 1) cs
      else scan { b with text := c :: b.text } true (column + 1) (taken + 1) cs
    else
      let inMargin := b.indent == 0 || column < b.indent
      if c == ' ' && inMargin then scan b false (column + 1) (taken + 1) cs
      else if c == '\t' && inMargin then none
      else
        let b := { b with deepest := max b.deepest column }
        if isBreak c then scan { b with breaks := c :: b.breaks } false 0 (taken + 1) cs
        else
          let b := if b.indent == 0 then { b with indent := max b.deepest b.least } else b
          if column == b.indent then scan (b.beginLine c) true (column + 1) (taken + 1) cs
          else some (b, taken)

def value (b : Block) : Chomping → List Char
  | .strip => b.text.reverse
  | .clip => (b.lead ++ b.text).reverse
  | .keep => (b.breaks ++ b.lead ++ b.text).reverse

end Block

/-- Scans a block behind its first mark, inside a structure at column `parent`, if it is inside
one. -/
def block? (folded : Bool) (parent : Int) (cs : List Char) : Option Scanned := do
  let (chomping, increment, length) ← blockHead? cs
  let least := (parent + 1).toNat
  let indent := if increment == 0 then 0 else parent.toNat + increment
  let (b, taken) ←
    Block.scan { folded := folded, least := max least 1, indent := indent } false 0 length
      (cs.drop length)
  return ⟨b.value chomping, taken, false⟩

end ClientGen.Data.Yaml
