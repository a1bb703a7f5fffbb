import ClientGen.Document.Record

/-!
Documents in JSON. Everything but the resources is read in full, also what no field asks for; inside
a resource, values that no field asks for are passed over.
-/

namespace ClientGen

open Data

mutual

def Datum.ofJson : Json → Datum
  | .null => .null
  | .bool _ => .other
  | .number _ => .other
  | .text s => .text s
  | .brokenText => .other
  | .list items => .list (ofJsonItems items)
  | .object fields => .map (ofJsonFields fields)

def Datum.ofJsonItems : List Json → List Datum
  | [] => []
  | v :: vs => ofJson v :: ofJsonItems vs

def Datum.ofJsonFields : List (Option String × Json) → List (FieldKey × Datum)
  | [] => []
  | (some key, v) :: fs => (.name key, ofJson v) :: ofJsonFields fs
  | (none, v) :: fs => (.none, ofJson v) :: ofJsonFields fs

end

/-- JSON gives records as objects or lists, and a case without a value goes with null. -/
def Dialect.json : Dialect where
  positional := true
  isUnit := fun
    | .null => true
    | _ => false

/-- How deep a document may be nested below its own object. -/
def jsonDepth : Nat := 126

def Document.ofJson? : Json → Option Document
  | .object fields => do
    let sound := fields.all fun f =>
      f.1.isSome && (f.1 == some "resources" || f.2.isSound jsonDepth)
    guard sound
    let named ← (Datum.map (Datum.ofJsonFields fields)).record? .json []
    Document.ofFields? .json .json named
  | _ => none

def Document.parseJson? (content : String) : Option Document :=
  (Json.parse? content).bind Document.ofJson?

def resourcesOfJson? (v : Json) : Option (List Spec.Resource) :=
  resourcesOfDatum? .json (Datum.ofJson v)

def Settings.ofJson? (v : Json) : Option Settings :=
  ((Datum.ofJson v).record? .json Settings.fieldNames).bind (Settings.ofFields? .json)

end ClientGen
