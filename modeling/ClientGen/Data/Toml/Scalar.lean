import ClientGen.Data.Decimal
import ClientGen.Text.Quoted

/-!
The scalars of TOML: texts in four kinds of quotation marks, numbers, truth values, and dates and
times. Each scan takes what it needs from the front of a text and says how many characters that was.
-/

namespace ClientGen.Data.Toml

def isSpace (c : Char) : Bool := c == ' ' || c == '\t'

/-- A character that texts and comments may hold. -/
def isPrintable (c : Char) : Bool :=
  c == '\t' || (0x20 ≤ c.toNat && c.toNat != 0x7f)

/-- How many characters the line break at the front has. -/
def lineBreak : List Char → Nat
  | '\n' :: _ => 1
  | '\r' :: '\n' :: _ => 2
  | _ => 0

/-! ### Texts -/

/-- The character with a number of hexadecimal digits, and how many characters spell it behind the
backslash. -/
def hexEscape? (digits : List Char) (count : Nat) : Option (Char × Nat) := do
  guard (digits.length == count)
  let values ← digits.mapM Text.hexValue?
  let n := values.foldl (fun n v => 16 * n + v) 0
  if (0xd800 ≤ n && n ≤ 0xdfff) || n > 0x10ffff then none else some (Char.ofNat n, count + 1)

/-- The character of an escape whose part behind the backslash is at the front, and the length of
that part. -/
def escaped? : List Char → Option (Char × Nat)
  | 'x' :: cs => hexEscape? (cs.take 2) 2
  | 'u' :: cs => hexEscape? (cs.take 4) 4
  | 'U' :: cs => hexEscape? (cs.take 8) 8
  | c :: _ =>
    ([('b', '\x08'), ('t', '\t'), ('n', '\n'), ('f', '\x0c'), ('r', '\r'), ('e', '\x1b'),
      ('"', '"'), ('\\', '\\')].lookup c).map fun d => (d, 1)
  | [] => none

/-- How many blanks and line breaks are at the front. -/
def blankLength : List Char → Nat
  | '\r' :: '\n' :: cs => blankLength cs + 2
  | c :: cs => if isSpace c || c == '\n' then blankLength cs + 1 else 0
  | [] => 0

/-- How many characters an escaped line break takes behind the backslash, with all blanks behind
it. -/
def escapedBreak? (cs : List Char) : Option Nat :=
  let blanks := (cs.takeWhile isSpace).length
  if lineBreak (cs.drop blanks) == 0 then none else some (blankLength cs)

/-- What one character of a text does. -/
inductive TextStep where
  /-- Ends the text with more characters of it, and takes `more` characters along. -/
  | close (last : List Char) (more : Nat)
  /-- Adds characters, and takes `more` characters along. -/
  | add (cs : List Char) (more : Nat)

/-- Quotation marks in a text of several lines: the last three of at least three end it. -/
def marksStep (mark : Char) (cs : List Char) : TextStep :=
  let count := min ((cs.takeWhile (· == mark)).length + 1) 5
  if count < 3 then .add (List.replicate count mark) (count - 1)
  else .close (List.replicate (count - 3) mark) (count - 1)

/-- What the character `c` of a text does before `cs`. -/
def textStep? (mark : Char) (isLong : Bool) (c : Char) (cs : List Char) : Option TextStep :=
  if c == mark then some (if isLong then marksStep mark cs else .close [] 0)
  else if c == '\\' && mark == '"' then
    match if isLong then escapedBreak? cs else none with
    | some length => some (.add [] length)
    | none => (escaped? cs).map fun e => .add [e.1] e.2
  else if c == '\n' then if isLong then some (.add ['\n'] 0) else none
  else if c == '\r' then if isLong && cs.head? == some '\n' then some (.add ['\r'] 0) else none
  else if isPrintable c then some (.add [c] 0)
  else none

/-- Scans a text behind its first mark. The last step also took the first `skip` characters. -/
def textFrom (mark : Char) (isLong : Bool) (done : List Char) (taken skip : Nat) :
    List Char → Option (List Char × Nat)
  | [] => none
  | c :: cs =>
    match skip with
    | k + 1 => textFrom mark isLong done (taken + 1) k cs
    | 0 =>
      match textStep? mark isLong c cs with
      | none => none
      | some (.close last more) => some (done.reverse ++ last, taken + 1 + more)
      | some (.add ds more) => textFrom mark isLong (ds.reverse ++ done) (taken + 1) more cs

def shortText? : List Char → Option (List Char × Nat)
  | '"' :: cs => textFrom '"' false [] 1 0 cs
  | '\'' :: cs => textFrom '\'' false [] 1 0 cs
  | _ => none

/-- A text of one line or of several, and its length. A line break at the front of several lines
does not count. -/
def text? : List Char → Option (List Char × Nat)
  | '"' :: '"' :: '"' :: cs =>
    textFrom '"' true [] (3 + lineBreak cs) 0 (cs.drop (lineBreak cs))
  | '\'' :: '\'' :: '\'' :: cs =>
    textFrom '\'' true [] (3 + lineBreak cs) 0 (cs.drop (lineBreak cs))
  | cs => shortText? cs

/-! ### Numbers -/

/-- Digits of a base, with single underscores between them. -/
def digits? (base : Nat) : List Char → Option (List Nat)
  | [] => none
  | [c] => (Text.hexValue? c).bind fun v => if v < base then some [v] else none
  | c :: '_' :: cs => do
    let v ← Text.hexValue? c
    guard (v < base)
    return v :: (← digits? base cs)
  | c :: cs => do
    let v ← Text.hexValue? c
    guard (v < base)
    return v :: (← digits? base cs)

def numberOf (base : Nat) (digits : List Nat) : Nat :=
  digits.foldl (fun n v => base * n + v) 0

/-- Digits of a decimal number before a point: no zero stands before another digit. -/
def decimal? (cs : List Char) : Option (List Nat) :=
  (digits? 10 cs).bind fun ds =>
    match ds with
    | 0 :: _ :: _ => none
    | ds => some ds

/-- The sign of a word, which says whether it is negative, and what follows it. -/
def signOf : List Char → Bool × List Char
  | '-' :: cs => (true, cs)
  | '+' :: cs => (false, cs)
  | cs => (false, cs)

def whole? : List Char → Option (Bool × Nat)
  | '0' :: 'x' :: cs => (digits? 16 cs).map fun ds => (false, numberOf 16 ds)
  | '0' :: 'o' :: cs => (digits? 8 cs).map fun ds => (false, numberOf 8 ds)
  | '0' :: 'b' :: cs => (digits? 2 cs).map fun ds => (false, numberOf 2 ds)
  | cs => (decimal? (signOf cs).2).map fun ds => ((signOf cs).1, numberOf 10 ds)

/-- A number with a point, an exponent or both. -/
def isFraction (word : List Char) : Bool :=
  let unsigned := (signOf word).2
  if unsigned == ['i', 'n', 'f'] || unsigned == ['n', 'a', 'n'] then true
  else
    let mantissa := unsigned.takeWhile fun c => c != 'e' && c != 'E'
    let exponent := match unsigned.drop mantissa.length with
      | [] => some 0
      | _ :: cs => (digits? 10 (signOf cs).2).map fun ds =>
        if (signOf cs).1 then -(numberOf 10 ds : Int) else (numberOf 10 ds : Int)
    let head := mantissa.takeWhile (· != '.')
    let fraction := match mantissa.drop head.length with
      | [] => some []
      | _ :: cs => digits? 10 cs
    match decimal? head, fraction, exponent with
    | some ds, some fs, some e =>
      mantissa.length + head.length < 2 * unsigned.length
        && Decimal.isFinite (numberOf 10 (ds ++ fs)) (e - fs.length)
    | _, _, _ => false

/-! ### Dates and times -/

/-- The number of exactly `count` digits at the front, and what follows them. -/
def fixed? (count : Nat) (cs : List Char) : Option (Nat × List Char) :=
  let digits := cs.take count
  if digits.length == count && digits.all Char.isDigit then
    some (digits.foldl (fun n c => 10 * n + (c.toNat - 48)) 0, cs.drop count)
  else none

/-- What follows a character at the front. -/
def behind? (c : Char) : List Char → Option (List Char)
  | d :: cs => if c == d then some cs else none
  | [] => none

def daysIn (year month : Nat) : Nat :=
  if month == 2 then
    if year % 4 == 0 && (year % 100 != 0 || year % 400 == 0) then 29 else 28
  else if month == 4 || month == 6 || month == 9 || month == 11 then 30
  else 31

def date? (cs : List Char) : Option (List Char) := do
  let (year, cs) ← fixed? 4 cs
  let (month, cs) ← fixed? 2 (← behind? '-' cs)
  let (day, cs) ← fixed? 2 (← behind? '-' cs)
  guard (1 ≤ month && month ≤ 12 && 1 ≤ day && day ≤ daysIn year month)
  return cs

/-- What follows an hour and a minute at the front. -/
def hourMinute? (cs : List Char) : Option (List Char) := do
  let (hour, cs) ← fixed? 2 cs
  let (minute, cs) ← fixed? 2 (← behind? ':' cs)
  guard (hour ≤ 23 && minute ≤ 59)
  return cs

/-- What follows a time of day at the front. Seconds may be left out. -/
def time? (cs : List Char) : Option (List Char) := do
  let cs ← hourMinute? cs
  match cs with
  | ':' :: cs =>
    let (second, cs) ← fixed? 2 cs
    guard (second ≤ 60)
    match cs with
    | '.' :: cs =>
      let digits := cs.takeWhile Char.isDigit
      guard (!digits.isEmpty)
      return cs.drop digits.length
    | cs => return cs
  | cs => return cs

def isOffset : List Char → Bool
  | [] => true
  | ['Z'] => true
  | ['z'] => true
  | '+' :: cs => hourMinute? cs == some []
  | '-' :: cs => hourMinute? cs == some []
  | _ => false

def isMoment (word : List Char) : Bool :=
  match date? word with
  | some [] => true
  | some (c :: cs) =>
    (c == 'T' || c == 't' || c == ' ') && ((time? cs).map isOffset).getD false
  | none => time? word == some []

/-- A character of numbers, truth values, dates and times. -/
def isWordChar (c : Char) : Bool :=
  c.isAlphanum || c == '+' || c == '-' || c == '_' || c == '.' || c == ':'

/-- The word at the front. A date and a time may have a space between them. -/
def wordOf (cs : List Char) : List Char :=
  let word := cs.takeWhile isWordChar
  match cs.drop word.length with
  | ' ' :: c :: rest =>
    if c.isDigit && date? word == some [] then word ++ ' ' :: (c :: rest).takeWhile isWordChar
    else word
  | _ => word

end ClientGen.Data.Toml
