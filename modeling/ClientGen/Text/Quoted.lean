import ClientGen.Text.Case
import ClientGen.Text.PrintTable

/-!
Quoted literals. `quote` writes a text between double quotes on one line, with an escape for each
character that would not show as itself; `unquote?` reads literals, also those with escapes that
`quote` does not write.
-/

namespace ClientGen.Text

/-- A character that a literal never shows as itself. -/
def isHidden (c : Char) : Bool :=
  if c.toNat < 128 then c.toNat < 32 || c.toNat == 127
  else inRanges PrintTable.hidden c.toNat

def hexDigit (n : Nat) : Char :=
  Char.ofNat (if n < 10 then 48 + n else 87 + n)

def hexValue? (c : Char) : Option Nat :=
  let n := c.toNat
  if 48 ≤ n && n ≤ 57 then some (n - 48)
  else if 97 ≤ n && n ≤ 102 then some (n - 87)
  else if 65 ≤ n && n ≤ 70 then some (n - 55)
  else none

/-- The hexadecimal digits of a number, most significant first, without leading zeros. -/
def hexDigits (n : Nat) : List Char :=
  if n < 16 then [hexDigit n] else hexDigits (n / 16) ++ [hexDigit (n % 16)]

def escape (c : Char) : List Char :=
  if c == '\x00' then ['\\', '0']
  else if c == '\t' then ['\\', 't']
  else if c == '\r' then ['\\', 'r']
  else if c == '\n' then ['\\', 'n']
  else if c == '"' then ['\\', '"']
  else if c == '\\' then ['\\', '\\']
  else if isHidden c then ['\\', 'u', '{'] ++ hexDigits c.toNat ++ ['}']
  else [c]

def quote (s : String) : String :=
  String.ofList ('"' :: s.toList.flatMap escape ++ ['"'])

/-- Where a reader stands inside a literal. -/
inductive LiteralState where
  /-- Among plain characters. Behind a line break that is left out, blanks are skipped. -/
  | plain (skips : Bool)
  /-- Behind a backslash. -/
  | escaped
  /-- Before the two digits of an ASCII character. -/
  | byte
  /-- Before the second one of them. -/
  | lastDigit (first : Nat)
  /-- Before the brace of a code point. -/
  | opening
  /-- Among the digits of a code point, of which there are at most six. -/
  | digits (count value : Nat)

/-- A character that is skipped behind a line break that is left out. -/
def isMargin (c : Char) : Bool :=
  c == ' ' || c == '\t' || c == '\n' || c == '\r'

def meantBy? (c : Char) : Option Char :=
  [('0', '\x00'), ('t', '\t'), ('r', '\r'), ('n', '\n'), ('"', '"'), ('\'', '\''),
    ('\\', '\\')].lookup c

/-- Reads the inside of a literal up to the closing quote, which must be the last character. -/
def readBody? : LiteralState → List Char → Option (List Char)
  | _, [] => none
  | .plain skips, c :: cs =>
    if skips && isMargin c then readBody? (.plain true) cs
    else if c == '"' then if cs.isEmpty then some [] else none
    else if c == '\\' then readBody? .escaped cs
    else if c == '\r' then none
    else (readBody? (.plain false) cs).map (c :: ·)
  | .escaped, c :: cs =>
    if c == 'u' then readBody? .opening cs
    else if c == 'x' then readBody? .byte cs
    else if c == '\n' then readBody? (.plain true) cs
    else match meantBy? c with
      | some meant => (readBody? (.plain false) cs).map (meant :: ·)
      | none => none
  | .byte, c :: cs =>
    match hexValue? c with
    | some v => if v < 8 then readBody? (.lastDigit v) cs else none
    | none => none
  | .lastDigit first, c :: cs =>
    match hexValue? c with
    | some v => (readBody? (.plain false) cs).map (Char.ofNat (16 * first + v) :: ·)
    | none => none
  | .opening, c :: cs => if c == '{' then readBody? (.digits 0 0) cs else none
  | .digits count value, c :: cs =>
    if c == '}' then
      if 0 < count && value.isValidChar then
        (readBody? (.plain false) cs).map (Char.ofNat value :: ·)
      else none
    else if c == '_' then if 0 < count then readBody? (.digits count value) cs else none
    else match hexValue? c with
      | some v => if count < 6 then readBody? (.digits (count + 1) (16 * value + v)) cs else none
      | none => none

def unquote? (s : String) : Option String :=
  match s.toList with
  | [] => none
  | c :: cs => if c == '"' then (readBody? (.plain false) cs).map String.ofList else none

end ClientGen.Text
