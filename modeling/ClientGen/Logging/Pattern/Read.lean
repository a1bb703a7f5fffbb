import ClientGen.Logging.Pattern.Basic
import ClientGen.Text.Alphanumeric
import ClientGen.Text.Cut
import ClientGen.Text.Quoted

/-!
Reading patterns. Neither a brace that closes nor an equals sign can be part of a pattern, since the
directive around it ends its field there. So there are no counts, and a character or a category is
written without braces.

The readers call each other with ever less fuel. Each call takes a character or is one of a bounded
number between two of them, so fuel in proportion to the characters is never used up.
-/

namespace ClientGen.Logging.Pattern

/-- What is left of a pattern. -/
structure Rest where
  chars : List Char
  /-- Blanks and comments mean nothing here. -/
  skipsBlanks : Bool := false
  /-- The names of groups so far. -/
  names : List String := []

abbrev Read := StateT Rest Option

def behindBlanks (inComment : Bool) : List Char → List Char
  | [] => []
  | c :: cs =>
    if inComment then behindBlanks (c != '\n') cs
    else if c == '#' then behindBlanks true cs
    else if Text.isBlank c then behindBlanks false cs
    else c :: cs

namespace Read

def chars : Read (List Char) := return (← get).chars

def drop (n : Nat) : Read Unit :=
  modify fun r => { r with chars := r.chars.drop n }

/-- Drops blanks and comments, where they mean nothing. -/
def blanks : Read Unit :=
  modify fun r => if r.skipsBlanks then { r with chars := behindBlanks false r.chars } else r

/-- The character at the front, which must be there. -/
def peek : Read Char := do
  match ← chars with
  | c :: _ => return c
  | [] => failure

/-- Drops a character and the blanks behind it. Something must be left. -/
def step : Read Unit := do
  drop 1
  blanks
  discard peek

/-- Takes a text, if it is at the front. -/
def take (cs : List Char) : Read Bool := do
  if cs.isPrefixOf (← chars) then
    drop cs.length
    return true
  else return false

end Read

/-! ### Characters -/

/-- A character that means something by itself, in a pattern or in a set. -/
def isMarkChar (c : Char) : Bool :=
  ['\\', '.', '+', '*', '?', '(', ')', '|', '[', ']', '{', '}', '^', '$', '#', '&', '-',
    '~'].contains c

/-- A character that stands for itself behind a backslash. -/
def isEscapable (c : Char) : Bool :=
  isMarkChar c || (c.toNat < 128 && !c.isAlphanum && c != '<' && c != '>')

def readDigits (n value : Nat) : Nat → Read Nat
  | 0 => return value
  | left + 1 => do
    if left + 1 != n then Read.step
    let some digit := Text.hexValue? (← Read.peek) | failure
    readDigits n (16 * value + digit) left

/-- Reads the character behind the letter of an escape, in so many digits. -/
def readCode (digits : Nat) (isByte : Bool) : Read Node := do
  Read.step
  let n ← readDigits digits 0 digits
  Read.drop 1
  Read.blanks
  if n.isValidChar then return .literal ⟨Char.ofNat n, isByte⟩ else failure

def readEscape : Read Node := do
  Read.drop 1
  let c ← Read.peek
  if c == 'x' then readCode 2 true
  else if c == 'u' then readCode 4 false
  else if c == 'U' then readCode 8 false
  else if c == 'p' || c == 'P' then
    Read.step
    let letter ← Read.peek
    Read.drop 1
    Read.blanks
    return .category letter
  else
    Read.drop 1
    if c == 'd' || c == 's' || c == 'w' then return .sort false
    else if c == 'D' || c == 'S' || c == 'W' then return .sort true
    else if c == 'A' || c == 'z' then return .place
    else if c == 'b' || c == 'B' || c == '<' || c == '>' then return .wordPlace
    else if isEscapable c then return .literal { char := c }
    else
      let control := [('a', '\x07'), ('f', '\x0c'), ('t', '\t'), ('n', '\n'), ('r', '\r'),
        ('v', '\x0b')].lookup c
      match control with
      | some c => return .literal { char := c }
      | none => failure

def readOne : Read Node := do
  let c ← Read.peek
  if c == '\\' then readEscape
  else
    Read.drop 1
    if c == '.' then return .any
    else if c == '^' || c == '$' then return .place
    else return .literal { char := c }

/-! ### Sets -/

/-- What an escape or a character is in a set. -/
def Node.toItem? : Node → Option SetItem
  | .literal l => some (.literal l)
  | .sort isNegated => some (.sort isNegated)
  | .category letter => some (.category letter)
  | _ => none

def readItem : Read Node := do
  let c ← Read.peek
  if c == '\\' then readEscape
  else
    Read.drop 1
    return .literal { char := c }

/-- Reads one item of a set, or a range. A minus sign before the end or before another one does not
make a range. -/
def readRange : Read SetItem := do
  let first ← readItem
  Read.blanks
  let c ← Read.peek
  let skips := (← get).skipsBlanks
  let behind := (← Read.chars).tail
  let next? := (if skips then behindBlanks false behind else behind).head?
  if c != '-' || next? == some ']' || next? == some '-' then first.toItem?
  else
    Read.step
    match first, ← readItem with
    | .literal a, .literal b =>
      if a.char.toNat ≤ b.char.toNat then return .range a b else failure
    | _, _ => failure

def asciiNames : List String :=
  ["alnum", "alpha", "ascii", "blank", "cntrl", "digit", "graph", "lower", "print", "punct",
    "space", "upper", "word", "xdigit"]

/-- The set of ASCII characters whose name is at the front, and its length. -/
def asciiSet? (cs : List Char) : Option (SetItem × Nat) :=
  match cs with
  | '[' :: ':' :: cs =>
    let isNegated := cs.head? == some '^'
    let cs := if isNegated then cs.tail else cs
    let name := cs.takeWhile (· != ':')
    if asciiNames.contains (String.ofList name)
        && (cs.drop name.length).take 2 == [':', ']'] then
      some (.ascii isNegated, name.length + (if isNegated then 5 else 4))
    else none
  | _ => none

/-- Reads the minus signs at the beginning of a set. -/
def readMinuses : Nat → List SetItem → Read (List SetItem)
  | 0, _ => failure
  | fuel + 1, items => do
    if (← Read.peek) == '-' then
      Read.step
      readMinuses fuel (.literal { char := '-' } :: items)
    else return items

def setOperator? : List Char → Option SetOperator
  | '&' :: '&' :: _ => some .intersection
  | '-' :: '-' :: _ => some .difference
  | '~' :: '~' :: _ => some .symmetricDifference
  | _ => none

/-- A set of items, last first, behind an operator or not. -/
def joined (before? : Option (SetOperator × CharSet)) (items : List SetItem) : CharSet :=
  let s := CharSet.item (.ofItems items.reverse)
  match before? with
  | some (op, left) => .join op left s
  | none => s

mutual

def readSet : Nat → Read (Bool × CharSet)
  | 0 => failure
  | fuel + 1 => do
    Read.step
    let isNegated := (← Read.peek) == '^'
    if isNegated then Read.step
    let items ← readMinuses fuel []
    if items.isEmpty && (← Read.peek) == ']' then
      Read.step
      return (isNegated, ← readItems fuel none [.literal { char := ']' }])
    else return (isNegated, ← readItems fuel none items)

/-- Reads the items of a set behind those that are read, last first, up to the closing bracket. -/
def readItems : Nat → Option (SetOperator × CharSet) → List SetItem → Read CharSet
  | 0, _, _ => failure
  | fuel + 1, before?, items => do
    Read.blanks
    let c ← Read.peek
    let cs ← Read.chars
    match setOperator? cs with
    | some op =>
      Read.drop 2
      readItems fuel (some (op, joined before? items)) []
    | none =>
      if c == ']' then
        Read.drop 1
        return joined before? items
      else if c == '[' then
        match asciiSet? cs with
        | some (i, length) =>
          Read.drop length
          readItems fuel before? (i :: items)
        | none =>
          let (isNegated, inner) ← readSet fuel
          readItems fuel before? (.nested isNegated inner :: items)
      else
        let i ← readRange
        readItems fuel before? (i :: items)

end

/-! ### Groups -/

def flag? (c : Char) : Option Flag :=
  [('i', Flag.ignoresCase), ('m', .manyLines), ('s', .dotTakesAll), ('U', .swapsGreed),
    ('u', .unicode), ('R', .carriageReturns), ('x', .skipsBlanks)].lookup c

/-- Reads flags up to a colon or a closing bracket. No flag is given twice. Behind a minus sign, of
which there is at most one, all are switched off. -/
def readFlags (fs : Flags) (isOff ended : Bool) : Nat → Read Flags
  | 0 => failure
  | fuel + 1 => do
    let c ← Read.peek
    if c == ':' || c == ')' then
      if ended then return fs.reverse else failure
    else
      Read.drop 1
      if c == '-' then
        if isOff then failure else readFlags fs true false fuel
      else
        match flag? c with
        | none => failure
        | some f =>
          if fs.any (·.1 == f) then failure
          else readFlags ((f, !isOff) :: fs) isOff true fuel

def isNameChar (isFirst : Bool) (c : Char) : Bool :=
  if isFirst then c == '_' || Text.isAlphabetic c
  else ['_', '.', '[', ']'].contains c || Text.isAlphanumeric c

/-- Reads the name of a group, which must be new. -/
def readName : Read Unit := do
  let cs ← Read.chars
  let name := cs.takeWhile (· != '>')
  if name.isEmpty || name.length == cs.length then failure
  if !(name.zipIdx.all fun (c, i) => isNameChar (i == 0) c) then failure
  let name := String.ofList name
  if (← get).names.contains name then failure
  modify fun r => { r with names := name :: r.names }
  Read.drop (name.length + 1)

/-- Blanks mean nothing from now on, or something, if flags say so. -/
def obey (fs : Flags) : Read Unit :=
  modify fun r => { r with skipsBlanks := (fs.lookup .skipsBlanks).getD r.skipsBlanks }

mutual

/-- Reads alternatives up to a closing bracket or the end. -/
def readChoice : Nat → List Node → Read Node
  | 0, _ => failure
  | fuel + 1, before => do
    let n ← readParts fuel []
    if ← Read.take ['|'] then readChoice fuel (n :: before)
    else if before.isEmpty then return n
    else return .choice (n :: before).reverse

/-- Reads parts behind those that are read, last first. -/
def readParts : Nat → List Node → Read Node
  | 0, _ => failure
  | fuel + 1, before => do
    Read.blanks
    match (← Read.chars).head? with
    | none | some '|' | some ')' => return .ofParts before.reverse
    | some '(' =>
      let n ← readGroup fuel
      readParts fuel (n :: before)
    | some '[' =>
      let (isNegated, inner) ← readSet fuel
      readParts fuel (.set isNegated inner :: before)
    | some '{' => failure
    | some c =>
      if c == '*' || c == '+' || c == '?' then
        Read.drop 1
        match before with
        | n :: before =>
          if !n.isRepeatable then failure
          discard <| Read.take ['?']
          readParts fuel (.repeated n :: before)
        | [] => failure
      else
        let n ← readOne
        readParts fuel (n :: before)

/-- Reads a group from its opening bracket on, or flags in brackets. There is nothing that looks
ahead or behind. -/
def readGroup : Nat → Read Node
  | 0 => failure
  | fuel + 1 => do
    Read.drop 1
    Read.blanks
    let cs ← Read.chars
    if [['?', '='], ['?', '!'], ['?', '<', '='], ['?', '<', '!']].any (·.isPrefixOf cs) then failure
    if (← Read.take ['?', 'P', '<']) || (← Read.take ['?', '<']) then
      readName
      readInside fuel []
    else if ← Read.take ['?'] then
      let fs ← readFlags [] false true (cs.length + 1)
      if ← Read.take [')'] then
        if fs.isEmpty then failure
        obey fs
        return .flags fs
      else
        Read.drop 1
        readInside fuel fs
    else readInside fuel []

/-- Reads the inside of a group and its closing bracket. -/
def readInside : Nat → Flags → Read Node
  | 0, _ => failure
  | fuel + 1, fs => do
    let outer := (← get).skipsBlanks
    obey fs
    let n ← readChoice fuel []
    if !(← Read.take [')']) then failure
    modify fun r => { r with skipsBlanks := outer }
    return .group fs n

end

def Node.ofText? (s : String) : Option Node := do
  let cs := s.toList
  let (n, rest) ← (readChoice (6 * cs.length + 6) []).run { chars := cs }
  if rest.chars.isEmpty then some n else none

end ClientGen.Logging.Pattern
