import ClientGen.Data.Decimal.Shortest

/-!
Numbers in places of a text, such as `%05d` or `%.2f`: how wide the place is, how it is filled, and
how many digits of a number are shown.
-/

namespace ClientGen.Data.Decimal

/-- A finite floating point number without its sign, as a whole number times a power of two. -/
def binary (x : Float) : Nat × Int :=
  let bits := x.abs.toBits.toNat
  let stored := bits / Nat.pow 2 52
  let fraction := bits % Nat.pow 2 52
  if stored == 0 then (fraction, -1074) else (fraction + Nat.pow 2 52, (stored : Int) - 1075)

/-- How a value is put into a text: what its place asks for. -/
structure Conversion where
  /-- The name of the argument, if it has one. -/
  name? : Option String := none
  isLeft : Bool := false
  showsPlus : Bool := false
  leavesBlank : Bool := false
  padsZeros : Bool := false
  isAlternate : Bool := false
  width : Nat := 0
  precision? : Option Nat := none
  letter : Char := 's'

/-- A text filled up to a width. Zeros go behind the sign. -/
def Conversion.pad (c : Conversion) (zeros : Bool) (cs : List Char) : List Char :=
  let missing := c.width - cs.length
  if c.isLeft then cs ++ List.replicate missing ' '
  else if zeros then
    let sign := cs.takeWhile fun d => d == '-' || d == '+' || d == ' '
    sign ++ List.replicate missing '0' ++ cs.drop sign.length
  else List.replicate missing ' ' ++ cs

def Conversion.sign (c : Conversion) (negative : Bool) : List Char :=
  if negative then ['-'] else if c.showsPlus then ['+'] else if c.leavesBlank then [' '] else []

def Conversion.integer (c : Conversion) (base : Nat) (start : List Char) (n : Int) : List Char :=
  let digits := Nat.toDigits base n.natAbs
  let digits := List.replicate ((c.precision?.getD 0) - digits.length) '0' ++ digits
  c.pad (c.padsZeros && c.precision?.isNone)
    (c.sign (n < 0) ++ (if c.isAlternate then start else []) ++ digits)

/-- The digits of a floating point number with a number of places behind the point. A half goes to
the even neighbour. -/
def fixed (places : Nat) (x : Float) : List Char :=
  let (m, power) := binary x
  let num := m * Nat.pow 2 power.toNat * Nat.pow 10 places
  let den := Nat.pow 2 (-power).toNat
  let floor := num / den
  let rest := 2 * (num % den)
  let n := if rest > den || (rest == den && floor % 2 == 1) then floor + 1 else floor
  let digits := Nat.toDigits 10 n
  let digits := List.replicate (places + 1 - digits.length) '0' ++ digits
  let whole := digits.take (digits.length - places)
  if places == 0 then whole else whole ++ '.' :: digits.drop (digits.length - places)

def withExponent (places : Nat) (x : Float) : List Char :=
  if x == 0.0 then fixed places 0.0 ++ ['e', '+', '0', '0']
  else
    let point := (Interval.ofBits x.abs.toBits.toNat).point
    let (m, power) := binary x
    let unit : Int := point - 1 - places
    let num := m * Nat.pow 2 power.toNat * Nat.pow 10 (-unit).toNat
    let den := Nat.pow 2 (-power).toNat * Nat.pow 10 unit.toNat
    let floor := num / den
    let rest := 2 * (num % den)
    let n := if rest > den || (rest == den && floor % 2 == 1) then floor + 1 else floor
    let digits := Nat.toDigits 10 n
    let exponent := if digits.length > places + 1 then point else point - 1
    let shown := digits.take (places + 1)
    let mantissa := if places == 0 then shown else shown.take 1 ++ '.' :: shown.drop 1
    let size := toString exponent.natAbs
    mantissa ++ ['e', if exponent < 0 then '-' else '+']
      ++ (if size.length < 2 then "0" ++ size else size).toList

def Conversion.float (c : Conversion) (x : Float) : List Char :=
  let negative := x < 0.0 || (x == 0.0 && x.toBits.toNat != 0)
  let digits :=
    if x.isNaN then ['n', 'a', 'n']
    else if x.isInf then ['i', 'n', 'f']
    else
      let places := c.precision?.getD 6
      if c.letter.toLower == 'f' then fixed places x.abs
      else if c.letter.toLower == 'e' then withExponent places x.abs
      else
        -- as many digits as asked for, without zeros at the end
        let places := max places 1
        let point := if x == 0.0 then 1 else (Interval.ofBits x.abs.toBits.toNat).point
        let trim (cs : List Char) : List Char :=
          if cs.contains '.' then
            ((cs.reverse.dropWhile (· == '0')).dropWhile (· == '.')).reverse
          else cs
        if -4 < point && point ≤ places then trim (fixed ((places : Int) - point).toNat x.abs)
        else
          let cs := withExponent (places - 1) x.abs
          trim (cs.takeWhile (· != 'e')) ++ cs.dropWhile (· != 'e')
  let digits := if c.letter.isUpper then digits.map Char.toUpper else digits
  c.pad c.padsZeros (c.sign negative ++ digits)

end ClientGen.Data.Decimal
