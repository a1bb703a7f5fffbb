import ClientGen.Text.AlphanumericTable
import ClientGen.Text.Case

/-!
Letters and digits of all scripts.
-/

namespace ClientGen.Text

def isAlphanumeric (c : Char) : Bool :=
  c.isAlphanum || inRanges AlphanumericTable.ranges c.toNat

def isAlphabetic (c : Char) : Bool :=
  isAlphanumeric c && !c.isDigit && !inRanges AlphanumericTable.numbers c.toNat

end ClientGen.Text
