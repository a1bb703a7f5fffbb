import ClientGen.Text.Quoted

/-!
JSON texts. A text is cut into tokens, and the tokens are gathered into a value with a stack of the
lists and objects that are still open, so that no depth of nesting is too much.

A value remembers what it would cost to use it: a string with an unpaired surrogate escape and a
number beyond the range of floating point stand in the tree, and `isSound` refuses them.
-/

namespace ClientGen.Data

inductive Json where
  | null
  | bool (b : Bool)
  /-- A number as it is written. -/
  | number (literal : List Char)
  | text (s : String)
  /-- A string with an escape that means no character. -/
  | brokenText
  | list (items : List Json)
  /-- The fields in the order of the text; a name that means no character is none. -/
  | object (fields : List (Option String × Json))
  deriving Inhabited

namespace Json

inductive Token where
  | openList
  | closeList
  | openObject
  | closeObject
  | comma
  | colon
  | null
  | bool (b : Bool)
  | number (literal : List Char)
  | text (s : Option String)
  deriving DecidableEq

/-- A string as far as it is read: its characters, last first, a leading surrogate that waits for
its other half, and whether all of it meant something. -/
structure Partial where
  chars : List Char
  leading? : Option Nat
  sound : Bool

namespace Partial

def empty : Partial := ⟨[], none, true⟩

def add (p : Partial) (c : Char) : Partial :=
  ⟨c :: p.chars, none, p.sound && p.leading?.isNone⟩

/-- The string with the sixteen bits of an escape more. -/
def addUnit (p : Partial) (n : Nat) : Partial :=
  let trailing := 0xdc00 ≤ n && n ≤ 0xdfff
  match p.leading? with
  | some high =>
    if trailing then
      ⟨Char.ofNat (0x10000 + (high - 0xd800) * 0x400 + (n - 0xdc00)) :: p.chars, none, p.sound⟩
    else ⟨p.chars, none, false⟩
  | none =>
    if 0xd800 ≤ n && n ≤ 0xdbff then ⟨p.chars, some n, p.sound⟩
    else if trailing then ⟨p.chars, none, false⟩
    else ⟨Char.ofNat n :: p.chars, none, p.sound⟩

/-- The string that is read, if all of it meant something. -/
def finish (p : Partial) : Option String :=
  if p.sound && p.leading?.isNone then some (String.ofList p.chars.reverse) else none

end Partial

/-- Where a reader of tokens stands. -/
inductive Reading where
  /-- Between tokens. -/
  | gap
  /-- In a number or a word, whose characters stand last first. -/
  | run (chars : List Char)
  | string (p : Partial)
  /-- In a string, behind a backslash. -/
  | escape (p : Partial)
  /-- In a string, before the last `missing` digits of an escape with the value so far. -/
  | unit (p : Partial) (missing value : Nat)

def digits (cs : List Char) : List Char × List Char :=
  (cs.takeWhile Char.isDigit, cs.dropWhile Char.isDigit)

/-- An integer part: one zero, or digits that do not begin with one. -/
def isIntegerPart : List Char → Bool
  | [] => false
  | ['0'] => true
  | c :: _ => c != '0'

def isExponentPart : List Char → Bool
  | [] => true
  | c :: cs =>
    let cs := match cs with
      | '+' :: r => r
      | '-' :: r => r
      | _ => cs
    (c == 'e' || c == 'E') && !cs.isEmpty && cs.all Char.isDigit

/-- A fraction part and an exponent part, which may both be missing. -/
def isFraction : List Char → Bool
  | '.' :: cs => !(digits cs).1.isEmpty && isExponentPart (digits cs).2
  | cs => isExponentPart cs

def isNumber (cs : List Char) : Bool :=
  let cs := match cs with
    | '-' :: r => r
    | _ => cs
  isIntegerPart (digits cs).1 && isFraction (digits cs).2

def runToken? (run : List Char) : Option Token :=
  if run == ['n', 'u', 'l', 'l'] then some .null
  else if run == ['t', 'r', 'u', 'e'] then some (.bool true)
  else if run == ['f', 'a', 'l', 's', 'e'] then some (.bool false)
  else if isNumber run then some (.number run)
  else none

def markToken? (c : Char) : Option Token :=
  [('[', Token.openList), (']', .closeList), ('{', .openObject), ('}', .closeObject),
    (',', .comma), (':', .colon)].lookup c

def isGap (c : Char) : Bool :=
  c == ' ' || c == '\t' || c == '\n' || c == '\r'

def isRun (c : Char) : Bool :=
  c.isAlphanum || c == '-' || c == '+' || c == '.'

/-- What a character between tokens begins, if anything, and the token that it is. -/
def start? (c : Char) : Option (Reading × List Token) :=
  if isGap c then some (.gap, [])
  else if c == '"' then some (.string .empty, [])
  else if isRun c then some (.run [c], [])
  else (markToken? c).map fun t => (.gap, [t])

def escaped? (c : Char) : Option Char :=
  [('"', '"'), ('\\', '\\'), ('/', '/'), ('b', '\x08'), ('f', '\x0c'), ('n', '\n'), ('r', '\r'),
    ('t', '\t')].lookup c

/-- One character further: where the reader stands then, and the tokens that ended. -/
def Reading.step? (r : Reading) (c : Char) : Option (Reading × List Token) :=
  match r with
  | .gap => start? c
  | .run chars =>
    if isRun c then some (.run (c :: chars), [])
    else match runToken? chars.reverse, start? c with
      | some t, some (next, ts) => some (next, t :: ts)
      | _, _ => none
  | .string p =>
    if c == '"' then some (.gap, [.text p.finish])
    else if c == '\\' then some (.escape p, [])
    else if c.toNat < 32 then none
    else some (.string (p.add c), [])
  | .escape p =>
    if c == 'u' then some (.unit p 4 0, [])
    else (escaped? c).map fun d => (.string (p.add d), [])
  | .unit p missing value =>
    match Text.hexValue? c with
    | none => none
    | some v =>
      if missing ≤ 1 then some (.string (p.addUnit (16 * value + v)), [])
      else some (.unit p (missing - 1) (16 * value + v), [])

def Reading.end? : Reading → Option (List Token)
  | .gap => some []
  | .run chars => (runToken? chars.reverse).map ([·])
  | _ => none

/-- Reads a text on from where the reader stands. `done` holds the tokens so far, last first. -/
def tokensFrom (r : Reading) (done : List Token) : List Char → Option (List Token)
  | [] => r.end?.map fun ts => done.reverse ++ ts
  | c :: cs =>
    match r.step? c with
    | some (next, ts) => tokensFrom next (ts.reverse ++ done) cs
    | none => none

def tokens? (s : String) : Option (List Token) :=
  tokensFrom .gap [] s.toList

/-- A list or an object that is still open. Its items and fields stand last first. -/
inductive Frame where
  | list (items : List Json)
  /-- An object whose next value has the name `key`. -/
  | object (fields : List (Option String × Json)) (key : Option String)

/-- What a reader of values waits for. -/
inductive Expected where
  | value
  /-- The first item of a list or its end. -/
  | item
  /-- The first field of an object or its end. -/
  | field (before : List (Option String × Json))
  /-- The name of a further field. -/
  | key (before : List (Option String × Json))
  | colon (before : List (Option String × Json)) (key : Option String)
  /-- What follows a complete value. -/
  | next (value : Json)

def Token.scalar? : Token → Option Json
  | .null => some .null
  | .bool b => some (.bool b)
  | .number literal => some (.number literal)
  | .text (some s) => some (.text s)
  | .text none => some .brokenText
  | _ => none

/-- One token further: the open frames, innermost first, and what comes next. -/
def gather? (stack : List Frame) (expected : Expected) (t : Token) :
    Option (List Frame × Expected) :=
  let beginValue : Option (List Frame × Expected) :=
    match t with
    | .openList => some (.list [] :: stack, .item)
    | .openObject => some (stack, .field [])
    | _ => t.scalar?.map fun v => (stack, .next v)
  match expected with
  | .value => beginValue
  | .item =>
    match t, stack with
    | .closeList, .list items :: outer => some (outer, .next (.list items.reverse))
    | _, _ => beginValue
  | .field before =>
    match t with
    | .closeObject => some (stack, .next (.object before.reverse))
    | .text key => some (stack, .colon before key)
    | _ => none
  | .key before =>
    match t with
    | .text key => some (stack, .colon before key)
    | _ => none
  | .colon before key =>
    match t with
    | .colon => some (.object before key :: stack, .value)
    | _ => none
  | .next v =>
    match stack, t with
    | .list items :: outer, .comma => some (.list (v :: items) :: outer, .value)
    | .list items :: outer, .closeList => some (outer, .next (.list (v :: items).reverse))
    | .object before key :: outer, .comma => some (outer, .key ((key, v) :: before))
    | .object before key :: outer, .closeObject =>
      some (outer, .next (.object ((key, v) :: before).reverse))
    | _, _ => none

def gatherAll? (stack : List Frame) (expected : Expected) : List Token → Option Json
  | [] =>
    match stack, expected with
    | [], .next v => some v
    | _, _ => none
  | t :: ts =>
    match gather? stack expected t with
    | some (stack, expected) => gatherAll? stack expected ts
    | none => none

def parse? (s : String) : Option Json :=
  (tokens? s).bind (gatherAll? [] .value)

/-! ### Soundness -/

/-- Appends digits to a number of sixty-four bits. The digits that do not fit are counted, from the
first on when `strict`. -/
def appendDigits (strict : Bool) (value skipped : Nat) : List Char → Nat × Nat
  | [] => (value, skipped)
  | c :: cs =>
    let next := 10 * value + (c.toNat - 48)
    if next < Nat.pow 2 64 && !(strict && skipped != 0) then appendDigits strict next skipped cs
    else appendDigits true value (skipped + 1) cs

/-- The nearest number with fifty-three significant bits; a tie goes to the even one. -/
def roundBits (n : Nat) : Nat :=
  let excess := n.log2 - 52
  let unit := Nat.pow 2 excess
  let quotient := n / unit
  let rest := n % unit
  if 2 * rest < unit || (2 * rest == unit && quotient % 2 == 0) then quotient * unit
  else (quotient + 1) * unit

/-- A number in the range of floating point of sixty-four bits. -/
def isInRange (literal : List Char) : Bool :=
  let unsigned := literal.dropWhile (· == '-')
  let (whole, behind) := digits unsigned
  let (fraction, behind) := match behind with
    | '.' :: r => digits r
    | r => ([], r)
  let (negative, exponent) := match behind.drop 1 with
    | '-' :: r => (true, r)
    | '+' :: r => (false, r)
    | r => (false, r)
  let (head, skipped) := appendDigits true 0 0 whole
  let (significand, lost) := appendDigits false head 0 fraction
  let scale : Int := skipped - (fraction.length - lost : Nat)
  let stated : Int := exponent.foldl (fun n c => 10 * n + (c.toNat - 48 : Nat)) 0
  let power := if negative then scale - stated else scale + stated
  if behind.isEmpty && fraction.isEmpty && skipped == 0 then true
  else if significand == 0 || power < 0 then true
  else if power > 308 then false
  else roundBits (roundBits significand * roundBits (Nat.pow 10 power.toNat)) < Nat.pow 2 1024

mutual

/-- All strings mean something, all numbers are in range, and lists and objects are nested at most
`depth` deep. -/
def isSound (depth : Nat) : Json → Bool
  | .null => true
  | .bool _ => true
  | .number literal => isInRange literal
  | .text _ => true
  | .brokenText => false
  | .list items =>
    match depth with
    | 0 => false
    | d + 1 => areSound d items
  | .object fields =>
    match depth with
    | 0 => false
    | d + 1 => areFieldsSound d fields

def areSound (depth : Nat) : List Json → Bool
  | [] => true
  | v :: vs => isSound depth v && areSound depth vs

def areFieldsSound (depth : Nat) : List (Option String × Json) → Bool
  | [] => true
  | (key, v) :: fs => key.isSome && isSound depth v && areFieldsSound depth fs

end

/-! ### Writing -/

def escape (c : Char) : List Char :=
  if c == '"' then ['\\', '"']
  else if c == '\\' then ['\\', '\\']
  else if c == '\x08' then ['\\', 'b']
  else if c == '\x0c' then ['\\', 'f']
  else if c == '\n' then ['\\', 'n']
  else if c == '\r' then ['\\', 'r']
  else if c == '\t' then ['\\', 't']
  else if c.toNat < 32 then
    ['\\', 'u', '0', '0', Text.hexDigit (c.toNat / 16), Text.hexDigit (c.toNat % 16)]
  else [c]

def renderText (s : String) : List Char :=
  '"' :: s.toList.flatMap escape ++ ['"']

mutual

/-- The shortest text that spells a value. A string that means nothing is written as an unpaired
surrogate. -/
def render : Json → List Char
  | .null => ['n', 'u', 'l', 'l']
  | .bool true => ['t', 'r', 'u', 'e']
  | .bool false => ['f', 'a', 'l', 's', 'e']
  | .number literal => literal
  | .text s => renderText s
  | .brokenText => ['"', '\\', 'u', 'd', '8', '0', '0', '"']
  | .list [] => ['[', ']']
  | .list (v :: vs) => '[' :: render v ++ renderItems vs
  | .object [] => ['{', '}']
  | .object ((key, v) :: fs) =>
    '{' :: renderKey key ++ ':' :: render v ++ renderFields fs

def renderKey : Option String → List Char
  | some key => renderText key
  | none => ['"', '\\', 'u', 'd', '8', '0', '0', '"']

/-- The further items of a list, and its end. -/
def renderItems : List Json → List Char
  | [] => [']']
  | v :: vs => ',' :: render v ++ renderItems vs

def renderFields : List (Option String × Json) → List Char
  | [] => ['}']
  | (key, v) :: fs => ',' :: renderKey key ++ ':' :: render v ++ renderFields fs

end

def print (v : Json) : String :=
  String.ofList (render v)

/-- An object whose names all mean something. -/
def record (fields : List (String × Json)) : Json :=
  .object (fields.map fun f => (some f.1, f.2))

end Json

end ClientGen.Data
