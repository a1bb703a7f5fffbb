import ClientGen.Data.Decimal.Conversion
import ClientGen.Template.Argument

/-!
Texts with places for values, such as `%s` or `%05.2f`, and values spelled over several lines.
-/

namespace ClientGen.Template

open Data.Decimal (Conversion)

/-! ### Places for values -/

/-- The text of a number with a sign and at least two digits behind its exponent mark. -/
def signedExponent (cs : List Char) : List Char :=
  let exponent := (cs.dropWhile (· != 'e')).drop 1
  if exponent.isEmpty then cs
  else
    let (sign, digits) := match exponent with
      | '-' :: digits => ('-', digits)
      | digits => ('+', digits)
    cs.takeWhile (· != 'e') ++ ['e', sign]
      ++ (if digits.length < 2 then '0' :: digits else digits)

def textInPlace : Value → List Char
  | .float x =>
    if x.isNaN then ['n', 'a', 'n'] else signedExponent (Value.innerFloatText x).toList
  | v => v.toText.toList

/-- A text filled up to a width, of which each of its bytes counts. -/
def padBytes (c : Conversion) (cs : List Char) : List Char :=
  let blanks := List.replicate (c.width - (String.ofList cs).utf8ByteSize) ' '
  if c.isLeft then cs ++ blanks else blanks ++ cs

def spell (c : Conversion) (v : Value) : Except TemplateError (List Char) := do
  let cut (cs : List Char) : List Char := match c.precision? with
    | some n => cs.take n
    | none => cs
  let whole (base : Nat) (mark : List Char) : Except TemplateError (List Char) :=
    match v.int?.filter Value.isUsable with
    | some n => .ok ({ c with precision? := none }.integer base mark n)
    | none => .error .invalidOperation
  match c.letter with
  | 's' => return padBytes c (cut (textInPlace v))
  | 'r' => return padBytes c (cut v.inner.toList)
  | 'd' | 'i' => whole 10 []
  | 'x' => whole 16 ['0', 'x']
  | 'X' => return (← whole 16 ['0', 'x']).map Char.toUpper
  | 'o' => whole 8 ['0', 'o']
  | 'c' =>
    match v.text?, v.int? with
    | some s, _ => if s.length == 1 then return padBytes c s.toList else throw .invalidOperation
    | none, some n =>
      if 0 ≤ n && n.toNat.isValidChar then return padBytes c [Char.ofNat n.toNat]
      else throw .invalidOperation
    | _, _ => throw .invalidOperation
  | 'e' | 'E' | 'f' | 'F' | 'g' | 'G' =>
    match v.float? with
    | some x => return c.float x
    | none => throw .invalidOperation
  | _ => throw .invalidOperation

/-- What part of a place is being read. -/
inductive PlacePart where
  | text
  /-- The character behind the mark of a place. -/
  | opening
  | name (done : List Char)
  | flags
  | width
  | precision
  /-- Letters for the size of a number, which change nothing. -/
  | size

/-- A text with places as far as it is filled. -/
structure Filling where
  part : PlacePart := .text
  conversion : Conversion := {}
  /-- The text so far, last first. -/
  done : List Char := []
  /-- The values for the places that come. -/
  values : List Value

def digitMore (n : Nat) (c : Char) : Nat := 10 * n + (c.toNat - 48)

/-- The letter that ends a place. -/
def Filling.letter (named : List (Value × Value)) (f : Filling) (c : Char) :
    Except TemplateError Filling := do
  let (v, rest) ← match f.conversion.name?, f.values with
    | some name, values =>
      match Value.lookup (.text name) named with
      | some v => pure (v, values)
      | none => throw .invalidOperation
    | none, v :: vs => pure (v, vs)
    | none, [] => throw .invalidOperation
  let put ← spell { f.conversion with letter := c } v
  return { part := .text, done := put.reverse ++ f.done, values := rest }

/-- What flags, a width or a precision may be followed by: letters for the size of a number, and
the letter that ends the place. -/
def Filling.ending (named : List (Value × Value)) (f : Filling) (c : Char) :
    Except TemplateError Filling :=
  if c == 'h' || c == 'l' || c == 'L' then .ok { f with part := .size } else f.letter named c

/-- A point, behind which a precision comes, or what else may be there. -/
def Filling.point (named : List (Value × Value)) (f : Filling) (c : Char) :
    Except TemplateError Filling :=
  if c == '.' then
    .ok { f with part := .precision, conversion := { f.conversion with precision? := some 0 } }
  else f.ending named c

/-- A flag, or the first digit of a width, or what else may be there. -/
def Filling.flag (named : List (Value × Value)) (f : Filling) (c : Char) :
    Except TemplateError Filling :=
  let o := f.conversion
  let f := { f with part := .flags }
  if c == '-' then .ok { f with conversion := { o with isLeft := true } }
  else if c == '+' then .ok { f with conversion := { o with showsPlus := true } }
  else if c == ' ' then .ok { f with conversion := { o with leavesBlank := true } }
  else if c == '0' then .ok { f with conversion := { o with padsZeros := true } }
  else if c == '#' then .ok { f with conversion := { o with isAlternate := true } }
  else if c.isDigit then
    .ok { f with part := .width, conversion := { o with width := digitMore 0 c } }
  else f.point named c

def Filling.step (named : List (Value × Value)) (f : Filling) (c : Char) :
    Except TemplateError Filling :=
  let o := f.conversion
  match f.part with
  | .text =>
    .ok (if c == '%' then { f with part := .opening, conversion := {} }
      else { f with done := c :: f.done })
  | .opening =>
    if c == '%' then .ok { f with part := .text, done := c :: f.done }
    else if c == '(' then .ok { f with part := .name [] }
    else f.flag named c
  | .name done =>
    .ok (if c == ')' then
        { f with
          part := .flags
          conversion := { o with name? := some (String.ofList done.reverse) } }
      else { f with part := .name (c :: done) })
  | .flags => f.flag named c
  | .width =>
    if c.isDigit then .ok { f with conversion := { o with width := digitMore o.width c } }
    else f.point named c
  | .precision =>
    if c.isDigit then
      .ok { f with conversion :=
        { o with precision? := some (digitMore (o.precision?.getD 0) c) } }
    else f.ending named c
  | .size => f.ending named c

/-- A text with values in its places, either all by place or all by name. Every value without a name
must have a place. -/
def fill (s : String) (values : List Value) (named : List (Value × Value)) :
    Except TemplateError String := do
  if !values.isEmpty && !named.isEmpty then throw .invalidOperation
  let f ← s.toList.foldlM (Filling.step named) { values := values }
  match f.part, f.values with
  | .text, [] => return String.ofList f.done.reverse
  | _, _ => throw .invalidOperation

/-! ### Values over several lines -/

/-- Lines between brackets, deeper than these. -/
def nested (start stop : String) (lines : List String) : String :=
  if lines.isEmpty then start ++ stop
  else
    let deeper (line : String) : String :=
      "\n".intercalate ((line.splitOn "\n").map fun l => if l.isEmpty then l else "    " ++ l)
    start ++ "\n" ++ String.join (lines.map fun line => deeper line ++ ",\n") ++ stop

mutual

/-- A value with a line for each of its parts. -/
def spelled : Value → String
  | .list items => nested "[" "]" (spelledItems items)
  | .series items sized => if sized then nested "[" "]" (spelledItems items) else "<iterator>"
  | .group key items => nested "[" "]" [spelled key, nested "[" "]" (spelledItems items)]
  | .map fields => nested "\x7b" "\x7d" (spelledFields fields)
  | .named fields => nested "\x7b" "\x7d" (spelledFields fields)
  | v => v.inner

def spelledItems : List Value → List String
  | [] => []
  | v :: vs => spelled v :: spelledItems vs

def spelledFields : List (Value × Value) → List String
  | [] => []
  | (k, v) :: fs => (spelled k ++ ": " ++ spelled v) :: spelledFields fs

end

end ClientGen.Template
