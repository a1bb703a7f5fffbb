import ClientGen.Data.Yaml.Scalar

/-!
The tokens of a YAML text. Indentation becomes tokens that begin and end lists and maps, and a key
without a mark of its own gets one as soon as the colon behind it is met: until then the scan keeps
the place where the key would begin.
-/

namespace ClientGen.Data.Yaml

inductive Token where
  | version (major minor : Nat)
  /-- What the handle of a tag stands for. -/
  | tagStart (handle start : List Char)
  | documentStart
  | documentEnd
  | blockList
  | blockMap
  | blockEnd
  | openList
  | closeList
  | openMap
  | closeMap
  /-- A hyphen before an item. -/
  | entry
  | comma
  | key
  | value
  | repeated (name : List Char)
  | anchor (name : List Char)
  | tag (handle suffix : List Char)
  | scalar (text : List Char) (isPlain : Bool)

/-- A place where a key may have begun. -/
structure Candidate where
  /-- How many tokens come before it. -/
  tokens : Nat
  line : Nat
  column : Nat
  index : Nat
  /-- Nothing but a key can stand there. -/
  required : Bool

/-- Where a scan stands in the text. -/
structure Position where
  line : Nat
  column : Nat
  index : Nat

def Position.advance (p : Position) (c : Char) : Position :=
  ⟨if isBreak c then p.line + 1 else p.line, columnBehind c p.column, p.index + 1⟩

/-- What a scan remembers. -/
structure Scan where
  /-- The column of the innermost list or map without brackets, or minus one. -/
  indent : Int := -1
  /-- The columns of those around it. -/
  outer : List Int := []
  /-- A key may begin here. -/
  keyAllowed : Bool := true
  /-- Where a key may have begun: for the innermost brackets first, and for no brackets last. -/
  candidates : List (Option Candidate) := [none]
  /-- The tokens so far, last first. -/
  tokens : List Token := []
  /-- How many tokens there are. -/
  count : Nat := 0

namespace Scan

/-- The scan is inside brackets. -/
def inFlow (s : Scan) : Bool := s.candidates.length > 1

def emit (s : Scan) (t : Token) : Scan :=
  { s with tokens := t :: s.tokens, count := s.count + 1 }

def insertAt (s : Scan) (n : Nat) (t : Token) : Scan :=
  let behind := s.count - n
  { s with
    tokens := s.tokens.take behind ++ t :: s.tokens.drop behind
    count := s.count + 1 }

def allowKey (s : Scan) (allowed : Bool) : Scan := { s with keyAllowed := allowed }

/-- A place that can no longer begin a key: it is on another line, or too far away. -/
def isStale (p : Position) (c : Candidate) : Bool :=
  c.line < p.line || c.index + 1024 < p.index

/-- Forgets the places that can no longer begin a key. -/
def dropStale? (s : Scan) (p : Position) : Option Scan :=
  let stale := s.candidates.filterMap fun c => c.filter (isStale p)
  if stale.any (·.required) then none
  else if stale.isEmpty then some s
  else some { s with candidates := s.candidates.map fun c => c.filter fun c => !isStale p c }

def dropKey? (s : Scan) : Option Scan :=
  match s.candidates with
  | some c :: cs => if c.required then none else some { s with candidates := none :: cs }
  | _ => some s

/-- Remembers that a key may begin here. -/
def markKey? (s : Scan) (p : Position) : Option Scan :=
  if s.keyAllowed then do
    let s ← s.dropKey?
    let here : Candidate :=
      { tokens := s.count, line := p.line, column := p.column, index := p.index
        required := !s.inFlow && s.indent == p.column }
    return { s with candidates := some here :: s.candidates.tail }
  else some s

/-- Begins a list or a map at a column that is deeper than all before. -/
def roll (s : Scan) (column place : Nat) (t : Token) : Scan :=
  if !s.inFlow && s.indent < column then
    { s.insertAt place t with indent := column, outer := s.indent :: s.outer }
  else s

/-- How many of the columns around, innermost first, are deeper than a column, and which of them is
not. -/
def unrollFrom (column indent : Int) : List Int → Nat × Int × List Int
  | [] => if column < indent then (1, -1, []) else (0, indent, [])
  | next :: rest =>
    if column < indent then
      let (n, last, left) := unrollFrom column next rest
      (n + 1, last, left)
    else (0, indent, next :: rest)

/-- Ends the lists and maps that are deeper than a column. -/
def unroll (s : Scan) (column : Int) : Scan :=
  if s.inFlow then s
  else
    let (n, indent, outer) := unrollFrom column s.indent s.outer
    { s with
      indent := indent
      outer := outer
      tokens := List.replicate n .blockEnd ++ s.tokens
      count := s.count + n }

end Scan

/-! ### Tokens of several characters -/

def isNameChar (c : Char) : Bool :=
  c.isAlphanum || c == '_' || c == '-'

/-- What may follow the name of an anchor. -/
def endsName (cs : List Char) : Bool :=
  endsWord cs || match cs with
    | [] => true
    | c :: _ => ['?', ':', ',', ']', '}', '%', '@', '\x60'].contains c

def name? (cs : List Char) : Option (List Char) :=
  let name := cs.takeWhile isNameChar
  if !name.isEmpty && endsName (cs.drop name.length) then some name else none

def isTagChar (verbatim : Bool) (c : Char) : Bool :=
  isNameChar c
    || [';', '/', '?', ':', '@', '&', '=', '+', '$', '.', '!', '~', '*', '\'', '(', ')'].contains c
    || (verbatim && (c == ',' || c == '[' || c == ']'))

/-- At most `n` bytes that are escaped one behind the other, each by a percent sign with two
digits. -/
def escapedBytes (n : Nat) (cs : List Char) : List Nat :=
  match n, cs with
  | n + 1, '%' :: h :: l :: cs =>
    match Text.hexValue? h, Text.hexValue? l with
    | some h, some l => (16 * h + l) :: escapedBytes n cs
    | _, _ => []
  | _, _ => []

/-- How many bytes a character has whose first byte is given. -/
def bytesOf (first : Nat) : Nat :=
  if first < 0x80 then 1
  else if first < 0xc0 then 0
  else if first < 0xe0 then 2
  else if first < 0xf0 then 3
  else if first < 0xf8 then 4
  else 0

/-- The character whose bytes are escaped at the front, and how many characters that takes. -/
def escapedChar? (cs : List Char) : Option (Char × Nat) := do
  let first :: more := escapedBytes 4 cs | none
  let width := bytesOf first
  let more := more.take (width - 1)
  guard (width > 0 && more.length == width - 1 && more.all fun b => 0x80 ≤ b && b < 0xc0)
  let start := if width == 1 then first else first % Nat.pow 2 (7 - width)
  return (Char.ofNat (more.foldl (fun n b => 64 * n + b % 64) start), 3 * width)

/-- The characters of a tag, and how many they were before escapes were resolved. -/
def tagText (verbatim : Bool) (skip : Nat) : List Char → Option (List Char × Nat)
  | [] => some ([], 0)
  | c :: cs =>
    match skip with
    | k + 1 => (tagText verbatim k cs).map fun r => (r.1, r.2 + 1)
    | 0 =>
      if c == '%' then
        match escapedChar? (c :: cs) with
        | some (d, length) =>
          (tagText verbatim (length - 1) cs).map fun r => (d :: r.1, r.2 + 1)
        | none => none
      else if isTagChar verbatim c then
        (tagText verbatim 0 cs).map fun r => (c :: r.1, r.2 + 1)
      else some ([], 0)

/-- The handle of a tag: an exclamation mark, and perhaps a name and another mark. -/
def tagHandle (cs : List Char) : List Char :=
  let name := cs.takeWhile isNameChar
  '!' :: name ++ if (cs.drop name.length).head? == some '!' then ['!'] else []

/-- A tag behind its first mark, and its length with that mark. -/
def tag? (inFlow : Bool) (cs : List Char) : Option (Token × Nat) := do
  let found : Token × Nat ← match cs with
    | '<' :: cs => do
      let (text, length) ← tagText true 0 cs
      match text, (cs.drop length).head? with
      | [], _ => none
      | text, some '>' => some (.tag [] text, length + 3)
      | _, _ => none
    | cs =>
      let handle := tagHandle cs
      if handle.length > 1 && handle.getLast? == some '!' then do
        let (suffix, length) ← tagText false 0 (cs.drop (handle.length - 1))
        if suffix.isEmpty then none else some (.tag handle suffix, handle.length + length)
      else do
        let (suffix, length) ← tagText false 0 cs
        some (if suffix.isEmpty then .tag [] ['!'] else .tag ['!'] suffix, length + 1)
  let behind := cs.drop (found.2 - 1)
  if endsWord behind || (inFlow && behind.head? == some ',') then some found else none

/-- What follows a directive: blanks and a comment up to the end of the line. Gives the length. -/
def lineEnd? (cs : List Char) : Option Nat :=
  let blanks := (cs.takeWhile isSpace).length
  let rest := cs.drop blanks
  let comment := if rest.head? == some '#' then (rest.takeWhile (!isBreak ·)).length else 0
  match rest.drop comment with
  | [] => some (blanks + comment)
  | c :: _ => if isBreak c then some (blanks + comment + 1) else none

/-- A number of at most nine digits. -/
def versionNumber? (cs : List Char) : Option (Nat × Nat) :=
  let digits := cs.takeWhile Char.isDigit
  if digits.isEmpty || digits.length > 9 then none
  else some (digits.foldl (fun n c => 10 * n + (c.toNat - 48)) 0, digits.length)

def version? (cs : List Char) : Option (Token × Nat) := do
  let (major, n) ← versionNumber? cs
  guard ((cs.drop n).head? == some '.')
  let (minor, m) ← versionNumber? (cs.drop (n + 1))
  return (.version major minor, n + 1 + m)

/-- A handle and what it stands for in a directive, and their length. -/
def tagStart? (cs : List Char) : Option (Token × Nat) := do
  guard (cs.head? == some '!')
  let handle := tagHandle cs.tail
  guard (handle.length == 1 || handle.getLast? == some '!')
  let rest := cs.drop handle.length
  let blanks := (rest.takeWhile isSpace).length
  guard (blanks > 0)
  let (start, length) ← tagText true 0 (rest.drop blanks)
  guard (!start.isEmpty && endsWord (rest.drop (blanks + length)))
  return (.tagStart handle start, handle.length + blanks + length)

/-- A directive behind its first mark, and its length. -/
def directive? (cs : List Char) : Option (Token × Nat) := do
  let name := cs.takeWhile isNameChar
  let rest := cs.drop name.length
  let blanks := (rest.takeWhile isSpace).length
  guard (endsWord rest)
  let body := rest.drop blanks
  let (t, length) ←
    if name == ['Y', 'A', 'M', 'L'] then version? body
    else if name == ['T', 'A', 'G'] then tagStart? body
    else none
  let tail ← lineEnd? (body.drop length)
  return (t, name.length + blanks + length + tail)

/-! ### The scan -/

namespace Scan

/-- A mark of a document, behind which nothing is open. -/
def documentMark? (s : Scan) (t : Token) : Option Scan := do
  let s ← (s.unroll (-1)).dropKey?
  return (s.allowKey false).emit t

def openFlow? (s : Scan) (p : Position) (t : Token) : Option Scan := do
  let s ← s.markKey? p
  return ({ s with candidates := none :: s.candidates }.allowKey true).emit t

def closeFlow? (s : Scan) (t : Token) : Option Scan := do
  let s ← s.dropKey?
  let s := if s.inFlow then { s with candidates := s.candidates.tail } else s
  return (s.allowKey false).emit t

def item? (s : Scan) (p : Position) : Option Scan := do
  guard (s.inFlow || s.keyAllowed)
  let s ← (s.roll p.column s.count .blockList).dropKey?
  return (s.allowKey true).emit .entry

def explicitKey? (s : Scan) (p : Position) : Option Scan := do
  guard (s.inFlow || s.keyAllowed)
  let s ← (s.roll p.column s.count .blockMap).dropKey?
  return (s.allowKey (!s.inFlow)).emit .key

/-- A colon before a value. The key before it, if there is one, gets its mark. -/
def colon? (s : Scan) (p : Position) : Option Scan :=
  match s.candidates with
  | some c :: cs =>
    let s := (s.insertAt c.tokens .key).roll c.column c.tokens .blockMap
    some (({ s with candidates := none :: cs }.allowKey false).emit .value)
  | _ => do
    guard (s.inFlow || s.keyAllowed)
    let s := s.roll p.column s.count .blockMap
    return (s.allowKey (!s.inFlow)).emit .value

/-- A plain scalar may begin with this character before `cs`. -/
def beginsPlain (inFlow : Bool) (c : Char) (cs : List Char) : Bool :=
  let marks := ['-', '?', ':', ',', '[', ']', '{', '}', '#', '&', '*', '!', '|', '>', '\'', '"',
    '%', '@', '\x60']
  !(isSpace c || isBreak c || marks.contains c)
    || (c == '-' && !((cs.head?.map isSpace).getD false))
    || (!inFlow && (c == '?' || c == ':') && !endsWord cs)

def scalar? (s : Scan) (p : Position) (isPlain : Bool) (found : Option Scanned) (before : Nat) :
    Option (Scan × Nat) := do
  let s ← s.markKey? p
  let r ← found
  return ((s.allowKey r.isBroken).emit (.scalar r.text isPlain), before + r.taken)

/-- The token that begins with `c` before `cs`: the scan behind it, and its length. -/
def token? (s : Scan) (p : Position) (c : Char) (cs : List Char) : Option (Scan × Nat) :=
  if p.column == 0 && c == '%' then do
    let s ← (s.unroll (-1)).dropKey?
    let (t, length) ← directive? cs
    return ((s.allowKey false).emit t, length + 1)
  else if p.column == 0 && isDocumentMark (c :: cs) then
    (s.documentMark? (if c == '-' then .documentStart else .documentEnd)).map (·, 3)
  else if c == '[' then (s.openFlow? p .openList).map (·, 1)
  else if c == '{' then (s.openFlow? p .openMap).map (·, 1)
  else if c == ']' then (s.closeFlow? .closeList).map (·, 1)
  else if c == '}' then (s.closeFlow? .closeMap).map (·, 1)
  else if c == ',' then s.dropKey?.map fun s => ((s.allowKey true).emit .comma, 1)
  else if c == '-' && endsWord cs then (s.item? p).map (·, 1)
  else if c == '?' && (s.inFlow || endsWord cs) then (s.explicitKey? p).map (·, 1)
  else if c == ':' && (s.inFlow || endsWord cs) then (s.colon? p).map (·, 1)
  else if c == '*' || c == '&' then do
    let s ← s.markKey? p
    let name ← name? cs
    return ((s.allowKey false).emit (if c == '*' then .repeated name else .anchor name),
      name.length + 1)
  else if c == '!' then do
    let s ← s.markKey? p
    let (t, length) ← tag? s.inFlow cs
    return ((s.allowKey false).emit t, length)
  else if (c == '|' || c == '>') && !s.inFlow then do
    let s ← s.dropKey?
    let r ← block? (c == '>') s.indent cs
    return ((s.allowKey true).emit (.scalar r.text false), r.taken + 1)
  else if c == '\'' || c == '"' then
    s.scalar? p false (quotedFrom (c == '\'') [] {} (p.column + 1) 0 0 cs) 1
  else if beginsPlain s.inFlow c cs then
    s.scalar? p true
      (plainFrom s.inFlow (s.indent + 1).toNat [] {} p.column 0 (c :: cs)) 0
  else none

/-- One step at a character: the scan behind it, and how many characters it took. A byte order mark
at the beginning of a line counts as a blank. -/
def step? (s : Scan) (p : Position) (c : Char) (cs : List Char) : Option (Scan × Nat) :=
  if p.column == 0 && c.toNat == 0xfeff then some (s, 1)
  else if c == ' ' || (c == '\t' && (s.inFlow || !s.keyAllowed)) then some (s, 1)
  else if c == '#' then some (s, 1 + (cs.takeWhile (!isBreak ·)).length)
  else if isBreak c then some (if s.inFlow then s else s.allowKey true, 1)
  else do
    let s ← s.dropStale? p
    (s.unroll p.column).token? p c cs

def end? (s : Scan) (p : Position) : Option (List Token) := do
  let s ← s.dropStale? p
  let s ← (s.unroll (-1)).dropKey?
  return s.tokens.reverse

/-- Scans a text from a position on. The last step also took the first `skip` characters. -/
def run? (s : Scan) (p : Position) (skip : Nat) : List Char → Option (List Token)
  | [] => s.end? p
  | c :: cs =>
    match skip with
    | k + 1 => run? s (p.advance c) k cs
    | 0 =>
      match s.step? p c cs with
      | some (s, taken) => run? s (p.advance c) (taken - 1) cs
      | none => none

end Scan

/-! ### Texts -/

/-- A character that a YAML text may hold. -/
def isAllowed (c : Char) : Bool :=
  let n := c.toNat
  n == 9 || n == 10 || n == 13 || (0x20 ≤ n && n ≤ 0x7e) || n == 0x85 || (0xa0 ≤ n && n ≤ 0xfffd)
    || 0x10000 ≤ n

/-- The text with every usual line break written as a line feed. -/
def unifyBreaks : List Char → List Char
  | [] => []
  | '\r' :: '\n' :: cs => '\n' :: unifyBreaks cs
  | c :: cs => (if c == '\r' || c.toNat == 0x85 then '\n' else c) :: unifyBreaks cs

def tokens? (s : String) : Option (List Token) :=
  if s.toList.all isAllowed then
    Scan.run? {} ⟨0, 0, 0⟩ 0 (unifyBreaks s.toList)
  else none

end ClientGen.Data.Yaml
