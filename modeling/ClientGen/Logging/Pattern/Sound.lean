import ClientGen.Logging.Pattern.Read

/-!
Patterns that make sense. Main definition: `isSound`.

A pattern is nested only so deep, names categories that there are, and does not ask for boundaries
of words, unless words are made of ASCII characters. Where characters are bytes, nothing in it
stands for a byte that is no ASCII character. All those bytes are alike for any set, so that it is
enough to know of a set whether they are in it.
-/

namespace ClientGen.Logging.Pattern

def isCategory (letter : Char) : Bool :=
  ['c', 'l', 'm', 'n', 'p', 's', 'z'].contains letter.toLower

mutual

/-- The item makes sense where characters are those of Unicode. -/
def SetItem.isSound : SetItem → Bool
  | .category letter => isCategory letter
  | .nested _ s => s.isSound
  | .union items => areSound items
  | _ => true

def CharSet.isSound : CharSet → Bool
  | .item i => i.isSound
  | .join _ s t => s.isSound && t.isSound

def areSound : List SetItem → Bool
  | [] => true
  | i :: items => i.isSound && areSound items

end

def Literal.isAscii (l : Literal) : Bool := l.char.toNat < 128

/-- Bytes beyond ASCII are in what an operator makes of two sets. -/
def SetOperator.keeps : SetOperator → Bool → Bool → Bool
  | .intersection, a, b => a && b
  | .difference, a, b => a && !b
  | .symmetricDifference, a, b => a != b

mutual

/-- Whether bytes beyond ASCII are in an item, if it makes sense where characters are bytes. -/
def SetItem.high? : SetItem → Option Bool
  | .literal l => if l.isAscii then some false else none
  | .range a b => if a.isAscii && b.isAscii then some false else none
  | .ascii isNegated => some isNegated
  | .sort isNegated => if isNegated then none else some false
  | .category _ => none
  | .nested isNegated s => do
    let high ← s.high?
    if high != isNegated then none else some false
  | .union items => high? items

/-- Whether bytes beyond ASCII are in a set, if it makes sense where characters are bytes. -/
def CharSet.high? : CharSet → Option Bool
  | .item i => i.high?
  | .join op s t => do return op.keeps (← s.high?) (← t.high?)

/-- Whether bytes beyond ASCII are in some item, if all make sense where characters are bytes. -/
def high? : List SetItem → Option Bool
  | [] => some false
  | i :: items => do
    let first ← i.high?
    let others ← high? items
    return first || others

end

mutual

/-- Whether characters are those of Unicode behind a pattern, if it makes sense where they are or
are not before it. -/
def Node.after? (unicode : Bool) : Node → Option Bool
  | .empty => some unicode
  | .flags fs => some ((fs.lookup .unicode).getD unicode)
  | .literal l => if unicode || !l.isByte || l.isAscii then some unicode else none
  | .any => if unicode then some unicode else none
  | .place => some unicode
  | .wordPlace => if unicode then none else some unicode
  | .sort isNegated => if unicode || !isNegated then some unicode else none
  | .category letter => if unicode && isCategory letter then some unicode else none
  | .set isNegated s =>
    if unicode then if s.isSound then some unicode else none
    else do
      let high ← s.high?
      if high != isNegated then none else some unicode
  | .repeated n => n.after? unicode
  | .group fs n => (n.after? ((fs.lookup .unicode).getD unicode)).map fun _ => unicode
  | .choice ns => after? unicode ns
  | .sequence ns => after? unicode ns

/-- The same behind patterns one behind the other. -/
def after? (unicode : Bool) : List Node → Option Bool
  | [] => some unicode
  | n :: ns => do
    let unicode ← n.after? unicode
    after? unicode ns

end

def depthLimit : Nat := 250

def isSound (s : String) : Bool :=
  match Node.ofText? s with
  | some n => n.depth ≤ depthLimit && (n.after? true).isSome
  | none => false

end ClientGen.Logging.Pattern
