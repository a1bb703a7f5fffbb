/-!
Patterns over characters, each of which stands for a byte.
-/

namespace ClientGen

/-- A place between two characters. -/
inductive Edge where
  /-- The beginning of the text, or of a line if lines count. -/
  | lineStart
  | lineStop
  | textStart
  | textStop
  /-- The beginning or end of a word. -/
  | word
  | notWord
  | wordStart
  | wordStop
  /-- No character of a word is before this place. -/
  | noWordBefore
  | noWordBehind
  deriving DecidableEq

inductive Pattern where
  | nothing
  | any
  /-- A character in one of the ranges, or in none of them. -/
  | among (ranges : List (Char × Char)) (isNegated : Bool)
  | edge (e : Edge)
  | sequence (p q : Pattern)
  | choice (p q : Pattern)
  /-- What is found for it can be asked for by number. -/
  | group (n : Nat) (p : Pattern)
  /-- What was found for a group. -/
  | again (n : Nat)
  | repeated (p : Pattern) (least : Nat) (most? : Option Nat)

namespace Pattern

def char (c : Char) : Pattern := .among [(c, c)] false

def exactly (cs : List Char) : Pattern :=
  cs.foldr (fun c p => .sequence (char c) p) .nothing

/-- Something in the pattern depends on what was found for a group. -/
def hasAgain : Pattern → Bool
  | .again _ => true
  | .sequence p q => p.hasAgain || q.hasAgain
  | .choice p q => p.hasAgain || q.hasAgain
  | .group _ p => p.hasAgain
  | .repeated p _ _ => p.hasAgain
  | _ => false

def groupCount : Pattern → Nat
  | .sequence p q => p.groupCount + q.groupCount
  | .choice p q => p.groupCount + q.groupCount
  | .group _ p => p.groupCount + 1
  | .repeated p _ _ => p.groupCount
  | _ => 0

end Pattern

/-- The ranges of a class that has a name. -/
def namedClass? (name : String) : Option (List (Char × Char)) :=
  let digit := ('0', '9')
  let lower := ('a', 'z')
  let upper := ('A', 'Z')
  [("digit", [digit]), ("lower", [lower]), ("upper", [upper]), ("alpha", [upper, lower]),
    ("alnum", [digit, upper, lower]), ("space", [('\t', '\r'), (' ', ' ')]),
    ("blank", [('\t', '\t'), (' ', ' ')]),
    ("punct", [('!', '/'), (':', '@'), ('[', '\x60'), ('\x7b', '~')]),
    ("xdigit", [digit, ('A', 'F'), ('a', 'f')]), ("print", [(' ', '~')]), ("graph", [('!', '~')]),
    ("cntrl", [('\x00', '\x1f'), ('\x7f', '\x7f')])].lookup name

def inRange (c : Char) (range : Char × Char) : Bool :=
  range.1.toNat ≤ c.toNat && c.toNat ≤ range.2.toNat

def isWordChar (c : Char) : Bool := c.isAlphanum || c == '_'

end ClientGen
