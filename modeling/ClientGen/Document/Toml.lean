import ClientGen.Data.Toml.Value
import ClientGen.Document.Record

/-!
Documents in TOML. A whole number must be in the range of sixty-four bits where it is read in full,
and in that of a hundred and twenty-eight bits where it is passed over.
-/

namespace ClientGen

open Data Data.Toml

/-- A whole number in the range of `bits` bits, with or without sign. -/
def fitsBits (bits : Nat) (isNegative : Bool) (n : Nat) : Bool :=
  if isNegative then n ≤ Nat.pow 2 (bits - 1) else n < Nat.pow 2 bits

mutual

/-- Every whole number is in the range of `bits` bits. -/
def numbersFit (bits : Nat) : Value → Bool
  | .whole isNegative n => fitsBits bits isNegative n
  | .list items => allFit bits items
  | .tables elements => elementsFit bits elements
  | .table _ fields => fieldsFit bits fields
  | _ => true

def allFit (bits : Nat) : List Value → Bool
  | [] => true
  | v :: vs => numbersFit bits v && allFit bits vs

def elementsFit (bits : Nat) : List (List (String × Value)) → Bool
  | [] => true
  | fs :: rest => fieldsFit bits fs && elementsFit bits rest

def fieldsFit (bits : Nat) : List (String × Value) → Bool
  | [] => true
  | (_, v) :: fs => numbersFit bits v && fieldsFit bits fs

end

mutual

/-- A TOML value as data. A date or a time counts as a record of one field that has no name. -/
def Datum.ofToml : Value → Datum
  | .text s => .text s
  | .whole _ _ => .other
  | .fraction => .other
  | .truth _ => .other
  | .moment => .map [(.name "", .other)]
  | .list items => .list (ofTomlItems items)
  | .tables elements => .list (ofTomlTables elements).reverse
  | .table _ fields => .map (ofTomlFields fields)

def Datum.ofTomlItems : List Value → List Datum
  | [] => []
  | v :: vs => ofToml v :: ofTomlItems vs

def Datum.ofTomlTables : List (List (String × Value)) → List Datum
  | [] => []
  | fs :: rest => .map (ofTomlFields fs) :: ofTomlTables rest

def Datum.ofTomlFields : List (String × Value) → List (FieldKey × Datum)
  | [] => []
  | (name, v) :: fs => (.name name, ofToml v) :: ofTomlFields fs

end

/-- TOML gives records as tables or lists, and a case without a value goes with an empty table or
list. -/
def Dialect.toml : Dialect where
  positional := true
  isUnit := fun
    | .map [] => true
    | .list [] => true
    | _ => false

def Document.ofToml? (fields : Fields) : Option Document := do
  guard (fields.all fun f => numbersFit (if f.1 == "resources" then 128 else 64) f.2)
  let named ← (Datum.map (Datum.ofTomlFields fields)).record? .toml []
  Document.ofFields? .toml .toml named

def Document.parseToml? (content : String) : Option Document :=
  (Toml.parse? content).bind Document.ofToml?

end ClientGen
