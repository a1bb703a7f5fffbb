/-!
Patterns for the values of fields, as they are written: regular expressions with flags, groups,
alternatives, repetitions and sets of characters. Main definition: how deep a pattern is nested.
-/

namespace ClientGen.Logging.Pattern

/-- What a pattern may switch on or off for what follows. -/
inductive Flag where
  | ignoresCase
  | manyLines
  | dotTakesAll
  | swapsGreed
  /-- Characters are those of Unicode, and not bytes. -/
  | unicode
  | carriageReturns
  /-- Blanks and comments in the pattern mean nothing. -/
  | skipsBlanks
  deriving DecidableEq

abbrev Flags := List (Flag × Bool)

/-- A character by itself. -/
structure Literal where
  char : Char
  /-- It is written by two hexadecimal digits, and can stand for a byte. -/
  isByte : Bool := false

/-- How the items of two sets are put together. -/
inductive SetOperator where
  | intersection
  | difference
  | symmetricDifference
  deriving DecidableEq

mutual

inductive SetItem where
  | literal (l : Literal)
  | range (first last : Literal)
  /-- A set of ASCII characters, or all others. -/
  | ascii (isNegated : Bool)
  /-- Digits, blanks or characters of words, or all others. -/
  | sort (isNegated : Bool)
  /-- The characters of a category that one letter names. -/
  | category (letter : Char)
  /-- A set in brackets of its own. -/
  | nested (isNegated : Bool) (inner : CharSet)
  /-- Not exactly one item. -/
  | union (items : List SetItem)

inductive CharSet where
  | item (i : SetItem)
  | join (op : SetOperator) (left right : CharSet)

end

inductive Node where
  | empty
  /-- Flags for what follows in the same group. -/
  | flags (fs : Flags)
  | literal (l : Literal)
  | any
  /-- A place in the text. -/
  | place
  /-- A boundary of a word, or a place that is none. -/
  | wordPlace
  | sort (isNegated : Bool)
  | category (letter : Char)
  | set (isNegated : Bool) (inner : CharSet)
  | repeated (n : Node)
  /-- A part in brackets, for which flags hold. -/
  | group (fs : Flags) (n : Node)
  /-- At least two alternatives. -/
  | choice (ns : List Node)
  /-- At least two parts. -/
  | sequence (ns : List Node)

def Node.ofParts : List Node → Node
  | [] => .empty
  | [n] => n
  | ns => .sequence ns

def SetItem.ofItems : List SetItem → SetItem
  | [i] => i
  | items => .union items

def Node.isRepeatable : Node → Bool
  | .empty => false
  | .flags _ => false
  | _ => true

/-! ### Nesting -/

mutual

def SetItem.depth : SetItem → Nat
  | .nested _ s => s.depth + 1
  | .union items => itemsDepth items + 1
  | _ => 0

def CharSet.depth : CharSet → Nat
  | .item i => i.depth
  | .join _ s t => max s.depth t.depth + 1

def itemsDepth : List SetItem → Nat
  | [] => 0
  | i :: items => max i.depth (itemsDepth items)

end

mutual

def Node.depth : Node → Nat
  | .set _ s => s.depth + 1
  | .repeated n => n.depth + 1
  | .group _ n => n.depth + 1
  | .choice ns => nodesDepth ns + 1
  | .sequence ns => nodesDepth ns + 1
  | _ => 0

def nodesDepth : List Node → Nat
  | [] => 0
  | n :: ns => max n.depth (nodesDepth ns)

end

end ClientGen.Logging.Pattern
