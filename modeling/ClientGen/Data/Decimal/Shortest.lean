/-!
Decimal texts of floating point numbers: the number that a text spells, and the shortest decimal
that means a number. A finite number of sixty-four bits is
`m · 2 ^ q`; every real between the middles to its two neighbours rounds to it. Of the decimals
there, the shortest ones are wanted, and of these the nearest one.
-/

namespace ClientGen.Data.Decimal

/-- Decimal digits and where the point stands: as many digits are before it, and when there are
none, as many zeros are behind it as the number is below zero. -/
structure Digits where
  digits : List Char
  point : Int
  deriving DecidableEq

/-- A number that is `value / scale`, and the bounds between which reals round to it. -/
structure Interval where
  scale : Nat
  low : Nat
  value : Nat
  high : Nat
  /-- The bounds round to it as well. -/
  isClosed : Bool

/-- The interval of a positive finite number with these bits. Below a power of two the neighbour is
half as far away as above. -/
def Interval.ofBits (bits : Nat) : Interval :=
  let stored := bits / Nat.pow 2 52 % 2048
  let fraction := bits % Nat.pow 2 52
  let m := if stored == 0 then fraction else fraction + Nat.pow 2 52
  -- in quarters of the last place
  let q : Int := (if stored == 0 then -1074 else (stored : Int) - 1075) - 2
  let below := if fraction == 0 && stored > 1 then 1 else 2
  let up := Nat.pow 2 q.toNat
  { scale := Nat.pow 2 (-q).toNat
    low := (4 * m - below) * up
    value := 4 * m * up
    high := (4 * m + 2) * up
    isClosed := m % 2 == 0 }

def Interval.inUnits (i : Interval) (power : Int) : Interval :=
  let by10 := Nat.pow 10 (-power).toNat
  { i with
    scale := i.scale * Nat.pow 10 power.toNat
    low := i.low * by10
    value := i.value * by10
    high := i.high * by10 }

def Interval.contains (i : Interval) (n : Nat) : Bool :=
  let x := n * i.scale
  (i.low < x && x < i.high) || (i.isClosed && (x == i.low || x == i.high))

def digitCount (n : Nat) : Nat := (Nat.toDigits 10 n).length

/-- How many digits of a positive number are before the point, or, less than one, how many zeros
are behind it, below zero. -/
def Interval.point (i : Interval) : Int :=
  if i.value ≥ i.scale then digitCount (i.value / i.scale)
  else 1 - digitCount ((i.scale - 1) / i.value)

/-- The nearest whole number in the interval, if one of the two around its number is there. -/
def Interval.nearest? (i : Interval) : Option Nat :=
  let below := i.value / i.scale
  let rest := i.value % i.scale
  match i.contains below, i.contains (below + 1) with
  | true, true =>
    some (if 2 * rest < i.scale || (2 * rest == i.scale && below % 2 == 0) then below
      else below + 1)
  | true, false => some below
  | false, true => some (below + 1)
  | false, false => none

/-- The shortest decimal of a positive finite number with these bits. Seventeen digits always
suffice. -/
def shortest (bits : Nat) : Digits :=
  let i := Interval.ofBits bits
  let found := (List.range 17).findSome? fun more =>
    let power := i.point - (more + 1 : Nat)
    (i.inUnits power).nearest?.map fun n => (n, power)
  match found with
  | none => ⟨[], 0⟩
  | some (n, power) =>
    let digits := Nat.toDigits 10 n
    ⟨(digits.reverse.dropWhile (· == '0')).reverse, power + digits.length⟩

/-- The digits with a point where it belongs. Without digits behind it, it is left out. -/
def Digits.positional (d : Digits) : List Char :=
  let n := d.digits.length
  if d.point ≤ 0 then '0' :: '.' :: List.replicate (-d.point).toNat '0' ++ d.digits
  else if d.point.toNat ≥ n then d.digits ++ List.replicate (d.point.toNat - n) '0'
  else d.digits.take d.point.toNat ++ '.' :: d.digits.drop d.point.toNat

/-- The digits with a point behind the first one and an exponent. -/
def Digits.scientific (d : Digits) : List Char :=
  let mantissa := match d.digits with
    | [] => ['0']
    | [c] => [c]
    | c :: cs => c :: '.' :: cs
  mantissa ++ 'e' :: (toString (d.point - 1)).toList

/-- The number that digits and a power of ten spell. Those out of range are infinite or zero. -/
def toFloat (significand : Nat) (power : Int) : Float :=
  let size := power + digitCount significand
  if significand == 0 || size < -400 then 0.0
  else if size > 400 then 1.0 / 0.0
  else Float.ofScientific significand (power < 0) power.natAbs

def digits? (cs : List Char) : Option Nat :=
  if !cs.isEmpty && cs.all Char.isDigit then
    some (cs.foldl (fun n c => 10 * n + (c.toNat - 48)) 0)
  else none

/-- A sign at the front, which may be missing: whether it is a minus, and what is behind it. -/
def signed : List Char → Bool × List Char
  | '-' :: cs => (true, cs)
  | '+' :: cs => (false, cs)
  | cs => (false, cs)

def integer? (s : String) : Option Int :=
  let (negative, cs) := signed s.toList
  (digits? cs).map fun n => if negative then -n else n

/-- The power of ten behind the digits of a number. -/
def power? : List Char → Option Int
  | [] => some 0
  | c :: cs =>
    if c == 'e' || c == 'E' then
      let (negative, cs) := signed cs
      (digits? cs).map fun n => if negative then -n else n
    else none

/-- The floating point number that a text spells: with a point or an exponent or without, or a word
for one without digits. -/
def float? (s : String) : Option Float := do
  let (negative, cs) := signed s.toList
  let size : Float ←
    match String.ofList (cs.map Char.toLower) with
    | "inf" | "infinity" => some (1.0 / 0.0)
    | "nan" => some (0.0 / 0.0)
    | _ =>
      let whole := cs.takeWhile Char.isDigit
      let behind := cs.dropWhile Char.isDigit
      let (part, rest) := match behind with
        | '.' :: r => (r.takeWhile Char.isDigit, r.dropWhile Char.isDigit)
        | r => ([], r)
      match digits? (whole ++ part), power? rest with
      | some n, some e => some (toFloat n (e - part.length))
      | _, _ => none
  return if negative then -size else size

def floatText (x : Float) : String :=
  if x.isNaN then "NaN"
  else
    let bits := x.toBits.toNat
    let sign := if bits ≥ Nat.pow 2 63 then "-" else ""
    let size := bits % Nat.pow 2 63
    if x.isInf then sign ++ "inf"
    else if size == 0 then sign ++ "0"
    else sign ++ String.ofList (shortest size).positional

/-- The text of a positive finite floating point number, with an exponent. -/
def exponentText (x : Float) : String :=
  String.ofList (shortest x.toBits.toNat).scientific

end ClientGen.Data.Decimal
