import ClientGen.Data.Decimal.Conversion
import ClientGen.Tool.Exchange

/-!
Printing arguments: on one line, or in the places of a format. Programs differ in what they take a
backslash for, and in how they complain.
-/

namespace ClientGen.Tool

open Data.Decimal (Conversion)

/-- The complaint about an argument that is no number at all. -/
def noNumber (m : Manner) (text : String) : String :=
  m.about "printf" ++ match m with
    | .plain _ => text ++ ": expected numeric value"
    | .rich _ => text ++ ": invalid number"
    | .alone => "'" ++ text ++ "': expected a numeric value"

/-- The complaint about an argument behind whose number there is more. -/
def moreThanNumber (m : Manner) (text : String) : String :=
  m.about "printf" ++ match m with
    | .plain _ => text ++ ": not completely converted"
    | .rich _ => text ++ ": invalid number"
    | .alone => "'" ++ text ++ "': value not completely converted"

/-- The complaint about an argument that is out of range. -/
def outOfRange (m : Manner) (text : String) : String :=
  match m with
  | .plain _ => m.about "printf" ++ text ++ ": Numerical result out of range"
  | .rich name => name ++ ": printf: warning: " ++ text ++ ": Numerical result out of range"
  | .alone => m.about "printf" ++ "'" ++ text ++ "': Numerical result out of range"

/-- The bytes of the character with a number. Where it is no single byte, its number is written. -/
def bytesOfNumber (n : Nat) : List Char :=
  if n < 128 then [Char.ofNat n]
  else
    let digits := (Nat.toDigits 16 n).map Char.toUpper
    let width := if n < 65536 then 4 else 8
    '\\' :: (if n < 65536 then 'u' else 'U') :: List.replicate (width - digits.length) '0' ++ digits

/-- The bytes that are written behind a backslash, and what is behind them. -/
def escapeAtFront? (isPlain : Bool) : List Char → Option (List Char × List Char)
  | [] => none
  | c :: cs =>
    match escaped? c with
    | some e => some ([e], cs)
    | none =>
      if c == 'e' || (c == 'E' && !isPlain) then some (['\x1b'], cs)
      else if isPlain then none
      else if c == 'x' then
        (Pattern.digitsAtFront 16 2 cs).map fun r => ([Char.ofNat r.1], r.2)
      else if c == 'u' || c == 'U' then
        (Pattern.digitsAtFront 16 (if c == 'u' then 4 else 8) cs).map fun r =>
          (bytesOfNumber r.1, r.2)
      else none

/-- Up to so many octal digits at the front as a byte, and what is behind them. -/
def octalByte (most : Nat) (cs : List Char) : Char × List Char :=
  let digits := (cs.take most).takeWhile isOctal
  let n := digits.foldl (fun n c => n * 8 + (c.toNat - 48)) 0
  (Char.ofNat (n % 256), cs.drop digits.length)

/-- The bytes of a text in which backslashes are interpreted, and whether a mark to stop was met.
Octal digits come behind a zero, or without one if that is allowed. The first argument bounds the
number of steps. -/
def interpretFrom (isPlain bareOctal : Bool) : Nat → List Char → List Char × Bool
  | 0, _ => ([], false)
  | _ + 1, [] => ([], false)
  | n + 1, '\\' :: c :: cs =>
    let goOn (bytes rest : List Char) : List Char × Bool :=
      let (more, stops) := interpretFrom isPlain bareOctal n rest
      (bytes ++ more, stops)
    if c == 'c' then ([], true)
    else if c == '0' then
      let (e, rest) := octalByte 3 cs
      goOn [e] rest
    else if bareOctal && isOctal c then
      let (e, rest) := octalByte 3 (c :: cs)
      goOn [e] rest
    else
      match escapeAtFront? isPlain (c :: cs) with
      | some (bytes, rest) => goOn bytes rest
      | none => goOn ['\\', c] cs
  | n + 1, c :: cs =>
    let (more, stops) := interpretFrom isPlain bareOctal n cs
    (c :: more, stops)

/-- The bytes of a text in which backslashes are interpreted, and whether a mark to stop was met. -/
def interpret (isPlain bareOctal : Bool) (s : String) : List Char × Bool :=
  interpretFrom isPlain bareOctal (s.length + 1) s.toList

/-! ### Lines -/

/-- Prints arguments on a line. Backslashes may be interpreted, and one that stops drops the end of
the line, too. -/
def printLine (isPlain bareOctal interprets endsLine : Bool) (arguments : List String) :
    Work ExitStatus := do
  let line := " ".intercalate arguments
  let (bytes, stops) :=
    if interprets then interpret isPlain bareOctal line else (line.toList, false)
  Work.print (bytes ++ if endsLine && !stops then ['\n'] else [])
  return .code 0

/-- Prints its arguments on a line, with backslashes interpreted. -/
def plainEcho : Tool
  | "-n" :: arguments => printLine true true true false arguments
  | arguments => printLine true true true true arguments

/-- Prints its arguments on a line. Options tell whether backslashes are interpreted, and octal
digits may come without a zero before them. -/
def echo (bareOctal : Bool) : Tool := fun arguments =>
  let isOption (s : String) : Bool := match s.toList with
    | '-' :: c :: cs => (c :: cs).all ['n', 'e', 'E'].contains
    | _ => false
  let letters := (arguments.takeWhile isOption).flatMap fun s => s.toList.drop 1
  let interprets := (letters.reverse.find? (· != 'n')) == some 'e'
  printLine false bareOctal interprets (!letters.contains 'n') (arguments.dropWhile isOption)

/-! ### Formats -/

/-- The whole number at the front of a text, and what is behind it. -/
def wholeAtFront? (text : List Char) : Option (Int × List Char) :=
  let text := text.dropWhile Char.isWhitespace
  let (isNegative, digits) := Data.Decimal.signed text
  let found? := match digits with
    | '0' :: x :: cs =>
      if x.toLower == 'x' then
        (Pattern.digitsAtFront 16 cs.length cs).or (some (0, x :: cs))
      else (Pattern.digitsAtFront 8 digits.length digits)
    | cs => Pattern.digitsAtFront 10 cs.length cs
  found?.map fun (n, rest) => (if isNegative then -(n : Int) else n, rest)

/-- What is printed in a format, with the arguments that are left. -/
structure Printing where
  /-- The pieces, last one first. -/
  done : List (List Char) := []
  arguments : List String
  complaints : List String := []
  /-- Nothing more is printed. -/
  stops : Bool := false
  code : Nat := 0

namespace Printing

def put (cs : List Char) (p : Printing) : Printing := { p with done := cs :: p.done }

/-- Takes an argument. One that is missing is empty. -/
def take (p : Printing) : String × Printing :=
  (p.arguments.headD "", { p with arguments := p.arguments.tail })

def complain (text : String) (p : Printing) : Printing :=
  { p with complaints := p.complaints ++ [text], code := 1 }

def refuse (code : Nat) (text : String) (p : Printing) : Printing :=
  { p with complaints := p.complaints ++ [text], code, stops := true }

variable (m : Manner)

/-- Takes an argument that is a whole number between bounds. -/
def takeWhole (least most : Int) (p : Printing) : Int × Printing :=
  let isMissing := p.arguments.isEmpty
  let (text, p) := p.take
  match text.toList with
  | '\'' :: c :: _ | '"' :: c :: _ => (c.toNat, p)
  | cs =>
    if isMissing then (0, p)
    else if cs.isEmpty then (0, if m matches .alone then p.complain (noNumber m text) else p)
    else
      match wholeAtFront? cs with
      | none => (0, p.complain (noNumber m text))
      | some (n, rest) =>
        let p := if rest.isEmpty then p else p.complain (moreThanNumber m text)
        if n < least then (least, p.complain (outOfRange m text))
        else if most < n then (most, p.complain (outOfRange m text))
        else (n, p)

def takeFloat (p : Printing) : Float × Printing :=
  let (text, p) := p.take
  match text.toList with
  | '\'' :: c :: _ | '"' :: c :: _ => (Float.ofNat c.toNat, p)
  | [] => (0.0, p)
  | cs =>
    match Data.Decimal.float? text with
    | some x => (x, p)
    | none =>
      let front := cs.takeWhile fun c => c.isDigit || c == '.' || c == '-' || c == '+'
      match Data.Decimal.float? (String.ofList front) with
      | some x => (x, p.complain (moreThanNumber m text))
      | none => (0.0, p.complain (noNumber m text))

end Printing

/-- The largest number of sixty-four bits, half of them for negative ones. -/
def largestWhole : Int := 9223372036854775807

/-- A text so that a shell takes it for itself. -/
def shellQuoted (m : Manner) (cs : List Char) : List Char :=
  let isSafe (c : Char) : Bool := c.isAlphanum || "_@%+=:,./-".toList.contains c
  if cs.isEmpty then ['\'', '\'']
  else if !(m matches .alone) then cs.flatMap fun c => if isSafe c then [c] else ['\\', c]
  else if cs.all isSafe then cs
  else '\'' :: cs.flatMap (fun c => if c == '\'' then "'\\''".toList else [c]) ++ ['\'']

def printPlace (m : Manner) (c : Conversion) (written : List Char) (p : Printing) :
    Printing :=
  let cut (cs : List Char) : List Char := match c.precision? with
    | some n => cs.take n
    | none => cs
  let whole (n : Int) : List Char :=
    let upper (cs : List Char) : List Char := if c.letter == 'X' then cs.map Char.toUpper else cs
    let (base, start) := match c.letter.toLower with
      | 'x' => (16, if n == 0 then [] else ['0', 'x'])
      | 'o' => (8, ['0'])
      | _ => (10, [])
    if n == 0 && c.precision? == some 0 then c.pad false (c.sign false)
    else upper (c.integer base start n)
  let letter := c.letter
  if letter == 's' then
    let (text, p) := p.take
    p.put (c.pad false (cut text.toList))
  else if letter == 'b' then
    let (text, p) := p.take
    let (bytes, stops) := interpret m.isPlain true text
    { p.put (c.pad false (cut bytes)) with stops }
  else if letter == 'q' && !m.isPlain then
    let (text, p) := p.take
    p.put (c.pad false (shellQuoted m text.toList))
  else if letter == 'c' then
    let isMissing := p.arguments.isEmpty
    let (text, p) := p.take
    p.put (c.pad false (if text.isEmpty && !isMissing then ['\x00'] else text.toList.take 1))
  else if letter == 'd' || letter == 'i' then
    let (n, p) := p.takeWhole m (-largestWhole - 1) largestWhole
    p.put (whole n)
  else if ['o', 'u', 'x', 'X'].contains letter then
    let (n, p) := p.takeWhole m (-largestWhole - 1) (2 * largestWhole + 1)
    p.put (whole (if n < 0 then n + 2 * largestWhole + 2 else n))
  else if ['e', 'E', 'f', 'F', 'g', 'G'].contains letter then
    let (x, p) := p.takeFloat m
    p.put (c.float x)
  else
    let directive := String.ofList written
    match m with
    | .plain _ => p.refuse 2 (m.about "printf" ++ directive ++ ": invalid directive")
    | .rich _ =>
      p.refuse 1 (m.about "printf" ++ "\x60" ++ letter.toString ++ "': invalid format character")
    | .alone => p.refuse 1 (m.about "printf" ++ directive ++ ": invalid conversion specification")

/-- A number in a place: it is written, or the next argument. -/
def placeNumber (m : Manner) (cs : List Char) (p : Printing) : Int × List Char × Printing :=
  match cs with
  | '*' :: rest =>
    let (n, p) := p.takeWhole m (-largestWhole) largestWhole
    (n, rest, p)
  | cs =>
    let digits := cs.takeWhile Char.isDigit
    (((String.ofList digits).toNat?).getD 0, cs.drop digits.length, p)

/-- Prints a format once. The first argument bounds the number of steps. -/
def printOnce (m : Manner) : Nat → List Char → Printing → Printing
  | 0, _, p => p
  | _ + 1, [], p => p
  | n + 1, c :: cs, p =>
    if p.stops then p
    else
      match c, cs with
      | '\\', 'c' :: rest =>
        if m.isPlain then printOnce m n rest (p.put ['\\', 'c']) else { p with stops := true }
      | '\\', '"' :: rest => printOnce m n rest (p.put ['"'])
      | '\\', e :: rest =>
        if isOctal e then
          let (byte, behind) := octalByte 3 (e :: rest)
          printOnce m n behind (p.put [byte])
        else
          match escapeAtFront? m.isPlain (e :: rest) with
          | some (bytes, behind) => printOnce m n behind (p.put bytes)
          | none => printOnce m n rest (p.put ['\\', e])
      | '%', '%' :: rest => printOnce m n rest (p.put ['%'])
      | '%', cs =>
        let flags := cs.takeWhile ['#', '-', '+', ' ', '0'].contains
        let (width, rest, p) := placeNumber m (cs.drop flags.length) p
        let (precision?, rest, p) := match rest with
          | '.' :: rest =>
            let (precision, rest, p) := placeNumber m rest p
            (if precision < 0 then none else some precision.toNat, rest, p)
          | rest => (none, rest, p)
        let rest := if m.isPlain then rest
          else rest.dropWhile ['h', 'l', 'L', 'j', 'z', 't'].contains
        match rest with
        | [] =>
          match m with
          | .plain _ => p.refuse 2 (m.about "printf" ++ "missing format character")
          | .rich _ => p.refuse 1 (m.about "printf" ++ "\x60" ++ String.ofList ('%' :: cs)
              ++ "': missing format character")
          | .alone => p.refuse 1 (m.about "printf" ++ String.ofList ('%' :: cs)
              ++ ": invalid conversion specification")
        | letter :: rest =>
          let conversion : Conversion :=
            { isLeft := flags.contains '-' || width < 0
              showsPlus := flags.contains '+'
              leavesBlank := flags.contains ' '
              padsZeros := flags.contains '0'
              isAlternate := flags.contains '#'
              width := width.natAbs
              precision?, letter }
          let written := '%' :: cs.take (cs.length - rest.length)
          printOnce m n rest (printPlace m conversion written p)
      | c, cs => printOnce m n cs (p.put [c])

/-- Prints a format again and again until no arguments are left. The first argument bounds the
number of rounds. -/
def printAll (m : Manner) (format : List Char) : Nat → Printing → Printing
  | 0, p => p
  | n + 1, p =>
    let q := printOnce m (format.length + 1) format p
    if q.stops || q.arguments.isEmpty then q
    else if q.arguments.length == p.arguments.length then
      match m with
      | .alone =>
        { q with complaints := q.complaints ++ [m.about "printf"
            ++ "warning: ignoring excess arguments, starting with '" ++ q.arguments.headD ""
            ++ "'"] }
      | _ => q
    else printAll m format n q

def printFormat (m : Manner) : Tool := fun arguments => do
  let hasMark := arguments.head? == some "--"
  match if hasMark then arguments.tail else arguments with
  | [] =>
    match m with
    | .plain _ => Work.fail 2 (m.about "printf" ++ "usage: printf format [arg ...]")
    | .rich _ => Work.fail 2 "printf: usage: printf [-v var] format [arguments]"
    | .alone =>
      Work.fail 1 "printf: missing operand\nTry 'printf --help' for more information."
  | format :: arguments =>
    if let (.plain _, '-' :: c :: _) := (m, format.toList) then
      if !hasMark then return ← Work.fail 2 (m.about "printf" ++ "Illegal option -" ++ c.toString)
    let p := printAll m format.toList (arguments.length + 1) { arguments := arguments }
    Work.print p.done.reverse.flatten
    for complaint in p.complaints do
      Work.complain complaint
    return .code p.code

end ClientGen.Tool
