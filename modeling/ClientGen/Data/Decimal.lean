/-!
Decimal numbers and the range of floating point.
-/

namespace ClientGen.Data.Decimal

/-- A number times a power of ten is less than what rounds to infinity in floating point of
sixty-four bits. Powers that are clearly small or large are not computed. -/
def isFinite (significand : Nat) (power : Int) : Bool :=
  let size := power + (toString significand).length
  let limit := Nat.pow 2 1024 - Nat.pow 2 970
  if significand == 0 || size < 300 then true
  else if size > 310 then false
  else if power < 0 then significand < limit * Nat.pow 10 (-power).toNat
  else significand * Nat.pow 10 power.toNat < limit

end ClientGen.Data.Decimal
