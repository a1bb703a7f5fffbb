import ClientGen.Tool.Pattern.Basic

/-!
Reading patterns. There are two ways to write them, which differ in whether brackets, bars and
counts mean something by themselves or behind a backslash.
-/

namespace ClientGen

inductive PatternError where
  | badRepetition
  | badCount
  | bigCount
  | openCount
  | openGroup
  | closedGroup
  | openSet
  | badRange
  | badClass
  | badElement
  | badGroup
  | lastBackslash
  /-- A class is given without brackets around it. -/
  | bareClass
  deriving DecidableEq

def PatternError.message : PatternError → String
  | .badRepetition => "Invalid preceding regular expression"
  | .badCount => "Invalid content of \\\x7b\\\x7d"
  | .bigCount => "Regular expression too big"
  | .openCount => "Unmatched \\\x7b"
  | .openGroup => "Unmatched ( or \\("
  | .closedGroup => "Unmatched ) or \\)"
  | .openSet => "Unmatched [, [^, [:, [., or [="
  | .badRange => "Invalid range end"
  | .badClass => "Invalid character class name"
  | .badElement => "Invalid collation character"
  | .badGroup => "Invalid back reference"
  | .lastBackslash => "Trailing backslash"
  | .bareClass => "character class syntax is [[:space:]], not [:space:]"

namespace Pattern

/-- A way to write patterns. -/
structure Style where
  /-- Brackets, bars and counts stand by themselves. -/
  isExtended : Bool
  /-- Nothing is repeated where there is nothing to repeat, and letters behind a backslash may stand
  for characters that cannot be seen. -/
  isStrict : Bool

/-- What is left of a pattern, and the groups so far. -/
structure Rest where
  chars : List Char
  opened : Nat := 0
  closed : List Nat := []
  /-- The repetitions that were met where there is nothing to repeat, and left out. -/
  strays : List String := []

abbrev Read := StateT Rest (Except PatternError)

/-- A part of a pattern as it is written. -/
inductive Token where
  | open
  | close
  | bar
  | repetition (least : Nat) (most? : Option Nat)
  | count
  | set
  | lineStart
  | lineStop
  | lastBackslash
  | again (n : Nat)
  | one (p : Pattern)

/-- The value of up to `n` digits at the front in a base, and what is behind them. -/
def digitsAtFront (base n : Nat) (cs : List Char) : Option (Nat × List Char) :=
  let value? (c : Char) : Option Nat :=
    (if c.isDigit then some (c.toNat - 48)
      else if 'a'.toNat ≤ c.toLower.toNat && c.toLower.toNat ≤ 'f'.toNat then
        some (c.toLower.toNat - 87)
      else none).filter (· < base)
  let digits := (cs.take n).takeWhile fun c => (value? c).isSome
  if digits.isEmpty then none
  else some (digits.foldl (fun m c => m * base + (value? c).getD 0) 0, cs.drop digits.length)

/-- The character that is written behind a backslash by a letter or a number, and what is behind
it. -/
def escapedAtFront? : List Char → Option (Char × List Char)
  | 'a' :: cs => some ('\x07', cs)
  | 'f' :: cs => some ('\x0c', cs)
  | 'n' :: cs => some ('\n', cs)
  | 'r' :: cs => some ('\r', cs)
  | 't' :: cs => some ('\t', cs)
  | 'v' :: cs => some ('\x0b', cs)
  | 'c' :: c :: cs => some (Char.ofNat (c.toUpper.toNat ^^^ 64), cs)
  | 'd' :: cs => (digitsAtFront 10 3 cs).map fun r => (Char.ofNat (r.1 % 256), r.2)
  | 'o' :: cs => (digitsAtFront 8 3 cs).map fun r => (Char.ofNat (r.1 % 256), r.2)
  | 'x' :: cs => (digitsAtFront 16 2 cs).map fun r => (Char.ofNat (r.1 % 256), r.2)
  | _ => none

/-- The class or edge that a letter behind a backslash stands for. -/
def letterPattern? (c : Char) : Option Pattern :=
  let word := [('0', '9'), ('A', 'Z'), ('a', 'z'), ('_', '_')]
  let blank := [('\t', '\r'), (' ', ' ')]
  [('w', Pattern.among word false), ('W', .among word true), ('s', .among blank false),
    ('S', .among blank true), ('b', .edge .word), ('B', .edge .notWord), ('<', .edge .wordStart),
    ('>', .edge .wordStop), ('\x60', .edge .textStart), ('\'', .edge .textStop)].lookup c

/-- The operator that a character is, where operators stand by themselves. -/
def operator? : Char → Option Token
  | '(' => some .open
  | ')' => some .close
  | '|' => some .bar
  | '+' => some (.repetition 1 none)
  | '?' => some (.repetition 0 (some 1))
  | '\x7b' => some .count
  | _ => none

/-- The token at the front, and what is behind it. `begins` tells whether a line can begin here. -/
def tokenAtFront? (style : Style) (begins : Bool) : List Char → Option (Token × List Char)
  | [] => none
  | ['\\'] => some (.lastBackslash, [])
  | '\\' :: c :: cs =>
    let letter := match letterPattern? c with
      | some p => (.one p, cs)
      | none =>
        match if style.isStrict then escapedAtFront? (c :: cs) else none with
        | some (e, rest) => (.one (char e), rest)
        | none =>
          if c.isDigit && c != '0' then (.again (c.toNat - 48), cs) else (.one (char c), cs)
    some <| match if style.isExtended then none else operator? c with
      | some t => (t, cs)
      | none => letter
  | '[' :: cs => some (.set, cs)
  | '.' :: cs => some (.one .any, cs)
  | '*' :: cs => some (.repetition 0 none, cs)
  | '^' :: cs =>
    some (if style.isExtended || begins then .lineStart else .one (char '^'), cs)
  | '$' :: cs =>
    let stops := match cs with
      | [] | '\\' :: ')' :: _ | '\\' :: '|' :: _ => true
      | _ => false
    some (if style.isExtended || stops then .lineStop else .one (char '$'), cs)
  | c :: cs =>
    some <| match if style.isExtended then operator? c else none with
      | some t => (t, cs)
      | none => (.one (char c), cs)

/-! ### Sets -/

/-- What is named in brackets of its own between two marks, and what is behind it. -/
def namedAtFront? (mark : Char) (cs : List Char) : Option (String × List Char) :=
  let name := cs.takeWhile (· != mark)
  match cs.drop name.length with
  | m :: ']' :: rest => if m == mark then some (String.ofList name, rest) else none
  | _ => none

/-- A single member of a set, and what is behind it. -/
def memberAtFront (style : Style) : List Char → Except PatternError (Char × List Char)
  | [] => .error .openSet
  | '[' :: mark :: cs =>
    if mark == '.' || mark == '=' then
      match namedAtFront? mark cs with
      | some (name, rest) =>
        match name.toList with
        | [c] => .ok (c, rest)
        | _ => .error .badElement
      | none => .error .openSet
    else if mark == ':' then .error .badRange
    else .ok ('[', mark :: cs)
  | '\\' :: cs =>
    match if style.isStrict then escapedAtFront? cs else none with
    | some r => .ok r
    | none => .ok ('\\', cs)
  | c :: cs => .ok (c, cs)

/-- Reads the members of a set behind those in `found`. The first argument bounds their number. -/
def readMembers (style : Style) :
    Nat → List (Char × Char) → List Char → Except PatternError (List (Char × Char) × List Char)
  | 0, _, _ => .error .openSet
  | n + 1, found, cs =>
    match cs with
    | ']' :: rest => if found.isEmpty then goOn n found cs else .ok (found, rest)
    | '[' :: ':' :: rest =>
      match namedAtFront? ':' rest with
      | some (name, rest) =>
        match namedClass? name with
        | some ranges => readMembers style n (found ++ ranges) rest
        | none => .error .badClass
      | none => .error .openSet
    | _ => goOn n found cs
where
  /-- Reads a member, or a range of them. -/
  goOn (n : Nat) (found : List (Char × Char)) (cs : List Char) :
      Except PatternError (List (Char × Char) × List Char) := do
    let (first, rest) ← memberAtFront style cs
    match rest with
    | '-' :: ']' :: _ => readMembers style n (found ++ [(first, first)]) rest
    | '-' :: rest =>
      let (last, rest) ← memberAtFront style rest
      if first.toNat ≤ last.toNat then readMembers style n (found ++ [(first, last)]) rest
      else throw .badRange
    | rest => readMembers style n (found ++ [(first, first)]) rest

def readSet (style : Style) (cs : List Char) : Except PatternError (Pattern × List Char) :=
  let bare := match cs with
    | ':' :: rest =>
      match namedAtFront? ':' rest with
      | some (name, _) => (namedClass? name).isSome
      | none => false
    | _ => false
  if bare then .error .bareClass
  else
    match cs with
    | '^' :: rest =>
      (readMembers style (rest.length + 1) [] rest).map fun r => (.among r.1 true, r.2)
    | _ => (readMembers style (cs.length + 1) [] cs).map fun r => (.among r.1 false, r.2)

/-! ### Counts -/

def mostRepetitions : Nat := 32767

def readCount (style : Style) (cs : List Char) :
    Except PatternError (Nat × Option Nat × List Char) := do
  let number (cs : List Char) : Option Nat × List Char := match digitsAtFront 10 cs.length cs with
    | some (n, rest) => (some n, rest)
    | none => (none, cs)
  let (least?, rest) := number cs
  let (hasComma, most?, rest) := match rest with
    | ',' :: rest =>
      let (most?, rest) := number rest
      (true, most?, rest)
    | rest => (false, least?, rest)
  let rest ← match style.isExtended, rest with
    | true, '\x7d' :: rest => pure rest
    | false, '\\' :: '\x7d' :: rest => pure rest
    | _, [] => throw .openCount
    | _, _ => throw .badCount
  if least?.isNone && !hasComma then throw .badCount
  let least := least?.getD 0
  if mostRepetitions < least || mostRepetitions < most?.getD 0 then throw .bigCount
  if (most?.map fun most => decide (most < least)).getD false then throw .badCount
  return (least, most?, rest)

/-! ### Patterns -/

/-- Behind a repetition there is another one, which is not allowed everywhere. -/
def readRepetitions (style : Style) : Nat → Pattern → Read Pattern
  | 0, p => return p
  | n + 1, p => do
    let r ← get
    match tokenAtFront? style false r.chars with
    | some (.repetition least most?, rest) =>
      set { r with chars := rest }
      goOn n (.repeated p least most?)
    | some (.count, rest) =>
      match readCount style rest with
      | .ok (least, most?, rest) =>
        set { r with chars := rest }
        goOn n (.repeated p least most?)
      | .error e => if style.isExtended && !style.isStrict then return p else throw e
    | _ => return p
where
  /-- Reads what comes behind a repetition. -/
  goOn (n : Nat) (p : Pattern) : Read Pattern := do
    if style.isStrict && !style.isExtended then
      match tokenAtFront? style false (← get).chars with
      | some (.repetition 0 none, _) | some (.count, _) => throw .badRepetition
      | _ => pure ()
    readRepetitions style n p

/-- A repetition where there is nothing to repeat: it is refused, stands for itself, or is left
out. -/
def strayRepetition (style : Style) (written : Char) : Read (Option Pattern) :=
  if style.isStrict && (style.isExtended || written == '\x7b') then throw .badRepetition
  else if !style.isExtended then return some (char written)
  else do
    let r ← get
    if written != '\x7b' then
      set { r with strays := r.strays ++ [written.toString] }
      return none
    else
      match readCount style r.chars with
      | .ok (_, _, rest) =>
        set { r with chars := rest, strays := r.strays ++ ["\x7b...\x7d"] }
        return none
      | .error _ => return some (char written)

mutual

/-- Reads alternatives, inside of `depth` groups. -/
def readChoice (style : Style) : Nat → Nat → Read Pattern
  | 0, _ => return .nothing
  | n + 1, depth => do
    let p ← readSequence style n depth true
    let r ← get
    match tokenAtFront? style false r.chars with
    | some (.bar, rest) =>
      set { r with chars := rest }
      return .choice p (← readChoice style n depth)
    | _ => return p

/-- Reads what stands one behind the other. `begins` tells whether nothing came before. -/
def readSequence (style : Style) : Nat → Nat → Bool → Read Pattern
  | 0, _, _ => return .nothing
  | n + 1, depth, begins => do
    let r ← get
    match tokenAtFront? style begins r.chars with
    | none | some (.bar, _) => return .nothing
    | some (.close, rest) =>
      if depth > 0 then return .nothing
      else if style.isExtended && !style.isStrict then
        set { r with chars := rest }
        repeatable n depth (char ')')
      else throw .closedGroup
    | some (.open, rest) =>
      let number := r.opened + 1
      set { r with chars := rest, opened := number }
      let p ← readChoice style n (depth + 1)
      let r ← get
      match tokenAtFront? style false r.chars with
      | some (.close, rest) =>
        set { r with chars := rest, closed := number :: r.closed }
        repeatable n depth (.group number p)
      | _ => throw .openGroup
    | some (.set, rest) =>
      let (p, rest) ← match readSet style rest with
        | .ok found => pure found
        | .error e => throw e
      set { r with chars := rest }
      repeatable n depth p
    | some (.lineStart, rest) =>
      set { r with chars := rest }
      return .sequence (.edge .lineStart) (← readSequence style n depth true)
    | some (.lineStop, rest) =>
      set { r with chars := rest }
      repeatable n depth (.edge .lineStop)
    | some (.lastBackslash, _) => throw .lastBackslash
    | some (.again k, rest) =>
      if !r.closed.contains k then throw .badGroup
      set { r with chars := rest }
      repeatable n depth (.again k)
    | some (.one p, rest) =>
      set { r with chars := rest }
      repeatable n depth p
    | some (_, rest) =>
      -- begins with a repetition
      let written := ((r.chars.take (r.chars.length - rest.length)).getLast?).getD '*'
      set { r with chars := rest }
      match ← strayRepetition style written with
      | some p => repeatable n depth p
      | none => readSequence style n depth true
where
  /-- Reads repetitions of a pattern, and what comes behind it. -/
  repeatable (n depth : Nat) (p : Pattern) : Read Pattern := do
    let p ← readRepetitions style (← get).chars.length.succ p
    return .sequence p (← readSequence style n depth false)

end

/-- The pattern that is written, and what is left out of it. -/
def readWithStrays (style : Style) (cs : List Char) : Except PatternError (Pattern × List String) :=
  ((readChoice style (2 * cs.length + 2) 0).run { chars := cs }).map fun r => (r.1, r.2.strays)

def read (style : Style) (cs : List Char) : Except PatternError Pattern :=
  (readWithStrays style cs).map Prod.fst

/-! ### Wildcards -/

/-- A text as a whole is as a wildcard says, in which a star stands for anything, a question mark
for one character and brackets for one of a set. Each character comes with whether it is meant
literally. The first argument bounds the length of the wildcard. -/
def wildcardFits : Nat → List (Char × Bool) → List Char → Bool
  | 0, _, _ => false
  | _, [], text => text.isEmpty
  | n + 1, ('*', false) :: rest, text =>
    (List.range (text.length + 1)).any fun k => wildcardFits n rest (text.drop k)
  | n + 1, ('?', false) :: rest, text =>
    match text with
    | _ :: text => wildcardFits n rest text
    | [] => false
  | n + 1, ('[', false) :: rest, text =>
    match setAtFront? rest, text with
    | some (p, rest), c :: text => p c && wildcardFits n rest text
    | some _, [] => false
    | none, c :: text => c == '[' && wildcardFits n rest text
    | none, [] => false
  | n + 1, (c, _) :: rest, text =>
    match text with
    | d :: text => c == d && wildcardFits n rest text
    | [] => false
where
  /-- The set in brackets behind the opening one, and what is behind it. -/
  setAtFront? (cs : List (Char × Bool)) : Option ((Char → Bool) × List (Char × Bool)) :=
    let (isNegated, cs) := match cs with
      | ('!', false) :: cs | ('^', false) :: cs => (true, cs)
      | cs => (false, cs)
    match readMembers ⟨true, false⟩ (cs.length + 1) [] (cs.map Prod.fst) with
    | .ok (ranges, rest) =>
      some (fun c => ranges.any (inRange c) != isNegated, cs.drop (cs.length - rest.length))
    | .error _ => none

end Pattern

end ClientGen
