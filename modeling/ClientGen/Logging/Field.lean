import ClientGen.Data.Decimal.Shortest
import ClientGen.Logging.Pattern.Sound
import ClientGen.Text.Order

/-!
The fields that a directive asks for: their names, and what their values must be.
-/

namespace ClientGen.Logging

open Data

/-- What the value of a field must be. -/
inductive FieldValue where
  | truth (b : Bool)
  /-- A floating point number, as its bits. -/
  | fraction (bits : UInt64)
  | notANumber
  | natural (n : Nat)
  | integer (i : Int)
  | pattern (s : String)
  deriving DecidableEq

namespace FieldValue

/-- A natural number of sixty-four bits. -/
def natural? (s : String) : Option FieldValue :=
  match Decimal.signed s.toList with
  | (false, cs) => (Decimal.digits? cs).bind fun n =>
    if n < Nat.pow 2 64 then some (.natural n) else none
  | (true, _) => none

/-- A whole number of sixty-four bits with a sign. -/
def integer? (s : String) : Option FieldValue :=
  match Decimal.signed s.toList with
  | (true, cs) => (Decimal.digits? cs).bind fun n =>
    if n ≤ Nat.pow 2 63 then some (.integer (-n)) else none
  | (false, _) => none

/-- A number with a point or an exponent, or one of the words for those without digits. -/
def fraction? (s : String) : Option FieldValue :=
  (Decimal.float? s).map fun x => if x.isNaN then .notANumber else .fraction x.toBits

/-- What a text asks of a value. -/
def parse? (s : String) : Option FieldValue :=
  if s == "true" then some (.truth true)
  else if s == "false" then some (.truth false)
  else (natural? s).or <| (integer? s).or <| (fraction? s).or <|
    if Pattern.isSound s then some (.pattern s) else none

def text : FieldValue → String
  | .truth b => if b then "true" else "false"
  | .fraction bits => Decimal.floatText (Float.ofBits bits)
  | .notANumber => "NaN"
  | .natural n => toString n
  | .integer i => toString i
  | .pattern s => s

def rank : FieldValue → Nat
  | .truth _ => 0
  | .fraction _ => 1
  | .notANumber => 2
  | .natural _ => 3
  | .integer _ => 4
  | .pattern _ => 5

def order : FieldValue → FieldValue → Ordering
  | .truth a, .truth b => compare a.toNat b.toNat
  | .fraction a, .fraction b =>
    let (x, y) := (Float.ofBits a, Float.ofBits b)
    if x < y then .lt else if x == y then .eq else .gt
  | .natural a, .natural b => compare a b
  | .integer a, .integer b => compare a b
  | .pattern a, .pattern b => Text.order a b
  | v, w => compare v.rank w.rank

end FieldValue

/-- A field that a directive asks for. -/
structure Field where
  name : String
  value? : Option FieldValue := none
  deriving DecidableEq

namespace Field

/-- A name, perhaps with a value behind an equals sign. Nothing behind a second one counts. -/
def parse? (s : String) : Option Field :=
  match s.splitOn "=" with
  | [] => none
  | [name] => some { name := name }
  | name :: value :: _ => (FieldValue.parse? value).map fun v => { name, value? := some v }

def text (f : Field) : String :=
  match f.value? with
  | some v => f.name ++ "=" ++ v.text
  | none => f.name

/-- How two fields are ordered: one with a value behind one without. -/
def order (f g : Field) : Ordering :=
  (compare f.value?.isSome.toNat g.value?.isSome.toNat).then <|
    (Text.order f.name g.name).then <|
      match f.value?, g.value? with
      | some v, some w => v.order w
      | _, _ => .eq

end Field

end ClientGen.Logging
