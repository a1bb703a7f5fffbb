import ClientGen.Data.Decimal
import ClientGen.Data.Yaml.Node
import ClientGen.Document.Record

/-!
Documents in YAML. Settings are typed before they are used: an unquoted word may be a number, a
truth value or nothing, and then it is no text. Fields of resources take every scalar as its text.
-/

namespace ClientGen

open Data Data.Yaml

/-! ### Unquoted words -/

def isNullWord (s : String) : Bool :=
  s == "" || s == "null" || s == "Null" || s == "NULL" || s == "~"

def isTruthWord (s : String) : Bool :=
  ["true", "True", "TRUE", "false", "False", "FALSE"].contains s

def digitsIn? (base : Nat) (cs : List Char) : Option Nat :=
  if cs.isEmpty then none
  else (cs.mapM Text.hexValue?).bind fun values =>
    if values.all (· < base) then some (values.foldl (fun n v => base * n + v) 0) else none

/-- The base that a word without sign begins with. -/
def baseOf? : List Char → Option (Nat × List Char)
  | '0' :: 'x' :: cs => some (16, cs)
  | '0' :: 'o' :: cs => some (8, cs)
  | '0' :: 'b' :: cs => some (2, cs)
  | _ => none

/-- Digits after a leading zero, which are no number. -/
def isPaddedDigits : List Char → Bool
  | '0' :: cs => !cs.isEmpty && cs.all Char.isDigit
  | _ => false

/-- The whole number that a word without sign spells. -/
def magnitude? (cs : List Char) : Option Nat :=
  match baseOf? cs with
  | some (base, digits) => digitsIn? base digits
  | none => if isPaddedDigits cs then none else digitsIn? 10 cs

/-- The whole number that a word spells, with its sign, which says whether it is negative. -/
def wholeNumber? : List Char → Option (Bool × Nat)
  | '-' :: cs => (magnitude? cs).map (true, ·)
  | '+' :: cs => (magnitude? cs).map (false, ·)
  | cs => (magnitude? cs).map (false, ·)

/-- An exponent, which may be missing. -/
def exponent? : List Char → Option Int
  | [] => some 0
  | c :: cs =>
    if c != 'e' && c != 'E' then none
    else
      let (negative, digits) := match cs with
        | '-' :: r => (true, r)
        | '+' :: r => (false, r)
        | r => (false, r)
      if digits.all Char.isDigit then
        (digitsIn? 10 digits).map fun n => if negative then -(n : Int) else (n : Int)
      else none

/-- A word without sign is a decimal number in the range of floating point. -/
def isDecimal (cs : List Char) : Bool :=
  let whole := cs.takeWhile Char.isDigit
  let behind := cs.drop whole.length
  let fraction := match behind with
    | '.' :: r => r.takeWhile Char.isDigit
    | _ => []
  let rest := match behind with
    | '.' :: r => r.drop fraction.length
    | r => r
  match exponent? rest with
  | some e =>
    !(whole.isEmpty && fraction.isEmpty)
      && Decimal.isFinite ((digitsIn? 10 (whole ++ fraction)).getD 0) (e - fraction.length)
  | none => false

/-- A word is a number in digits, or stands for infinity or for no number. -/
def isFloat (s : String) : Bool :=
  let unsigned := match s.toList with
    | '+' :: r => r
    | '-' :: r => r
    | r => r
  [".inf", ".Inf", ".INF"].contains (String.ofList unsigned)
    || [".nan", ".NaN", ".NAN"].contains s
    || isDecimal unsigned

/-- A word is a number without being asked for one: zeros before other digits make it a text. -/
def isFraction (s : String) : Bool :=
  let unsigned := match s.toList with
    | '+' :: r => r
    | '-' :: r => r
    | r => r
  !isPaddedDigits unsigned && isFloat s

/-- What an unquoted word is. Whole numbers of more than sixty-four bits, but not of more than a
hundred and twenty-eight, cannot be used. -/
inductive Word where
  | null
  | other
  /-- A whole number that can name a field by its place. -/
  | place (n : Nat)
  | text
  | unusable
  deriving DecidableEq

def Word.ofNumber? : Bool × Nat → Option Word
  | (false, n) =>
    if n < Nat.pow 2 64 then some (.place n) else if n < Nat.pow 2 128 then some .unusable else none
  | (true, n) =>
    if n ≤ Nat.pow 2 63 then some .other else if n ≤ Nat.pow 2 127 then some .unusable else none

def Word.of (s : String) : Word :=
  if isNullWord s then .null
  else if isTruthWord s then .other
  else match (wholeNumber? s.toList).bind Word.ofNumber? with
    | some w => w
    | none => if isFraction s then .other else .text

/-! ### Settings -/

/-- What the tags of the usual types begin with. -/
def usualTag (name : String) : String := "tag:yaml.org,2002:" ++ name

/-- What a scalar is as a word, unless it does not fit its tag. -/
def scalarWord? (s : String) (isPlain : Bool) (tag? : Option String) : Option Word :=
  match tag? with
  | none => some (if isPlain then Word.of s else .text)
  | some tag =>
    let word := Word.of s
    if tag.toList.head? == some '!' then none
    else if tag == usualTag "bool" then if isTruthWord s then some .other else none
    else if tag == usualTag "int" then
      ((wholeNumber? s.toList).bind Word.ofNumber?).filter (· != .unusable)
    else if tag == usualTag "float" then
      if isFloat s then some .other else none
    else if tag == usualTag "null" then if word = .null && s != "" then some .null else none
    else some .text

/-- A value whose words are typed. Nothing is nested deeper than `depth`. -/
def Datum.ofWord? (s : String) : Word → Option Datum
  | .null => some .null
  | .other => some .other
  | .place _ => some .other
  | .text => some (.text s)
  | .unusable => none

def FieldKey.ofWord? (s : String) : Word → Option FieldKey
  | .place n => some (.place n)
  | .text => some (.name s)
  | .unusable => none
  | _ => some .none

/-- A list or a map has no mark of its own. -/
def isUnmarked : Option String → Bool
  | some tag => tag.toList.head? != some '!'
  | none => true

/-- Reading follows aliases. The state is how many more it may follow. -/
abbrev Following := StateT Nat Option

/-- The value itself, or the one that an alias stands for. -/
def Data.Yaml.Graph.follow (g : Graph) : Node → Following Node
  | .repeated number => do
    let left ← get
    guard (left > 0)
    set (left - 1)
    (g.anchored.lookup number : Option Node)
  | n => return n

/-- A value whose words are typed, with lists and maps at most `depth` deep. -/
def Datum.ofTyped (g : Graph) (depth : Nat) (n : Node) : Following Datum := do
  match ← g.follow n, depth with
  | .scalar s isPlain tag?, _ => ((scalarWord? s isPlain tag?).bind (ofWord? s) : Option Datum)
  | .list items tag?, d + 1 =>
    guard (isUnmarked tag?)
    return .list (← items.mapM (ofTyped g d))
  | .map fields tag?, d + 1 =>
    guard (isUnmarked tag?)
    return .map (← fields.mapM fun (key, value) => do
      let name ← match ← g.follow key with
        | .scalar s isPlain tag? =>
          ((scalarWord? s isPlain tag?).bind (FieldKey.ofWord? s) : Option FieldKey)
        | key => do
          let _ ← ofTyped g d key
          pure .none
      return (name, ← ofTyped g d value))
  | _, _ => failure

/-! ### Resources -/

/-- A word that says that there is nothing. -/
def saysNothing (s : String) : Bool := s != "" && isNullWord s

/-- A scalar whose words are texts. Quoted ones are never absent or empty. -/
def UntypedScalar.ofScalar (s : String) (isPlain : Bool) (tag? : Option String) :
    UntypedScalar where
  text := s
  optional? :=
    if !isPlain then some (some s)
    else match tag? with
      | some tag =>
        if tag == usualTag "null" then if saysNothing s then some none else none
        else some (some s)
      | none => some (if isNullWord s then none else some s)
  isEmpty := isPlain && s == ""
  case? := match tag?.map String.toList with
    | some ('!' :: name) => if isPlain && isNullWord s then some (String.ofList name) else none
    | _ => some s

def Data.Yaml.Graph.fieldName (g : Graph) (key : Node) : Following String := do
  match ← g.follow key with
  | .scalar s _ _ => return s
  | _ => failure

/-- A value whose words are texts. It may be a list of records, whose fields have the first of the
names, and then lists of records in these. Other fields are not looked into. -/
def Datum.ofNode (g : Graph) (names : List (List String)) (n : Node) : Following Datum := do
  match ← g.follow n, names with
  | .scalar s isPlain tag?, _ => return .scalar (.ofScalar s isPlain tag?)
  | .list items _, known :: deeper =>
    return .list (← items.mapM fun item => do
      match ← g.follow item with
      | .scalar s isPlain tag? => return .scalar (.ofScalar s isPlain tag?)
      | .map fields _ =>
        return .map (← fields.mapM fun (key, value) => do
          let name ← g.fieldName key
          return (.name name, ← if known.contains name then ofNode g deeper value else pure .other))
      | _ => return .other)
  | _, _ => return .other

/-- Settings may give records as lists. -/
def Dialect.yamlSettings : Dialect where
  positional := true
  isUnit := fun _ => false

/-- Resources give records as maps only. -/
def Dialect.yamlResources : Dialect where
  positional := false
  isUnit := fun _ => false

/-- How deep a document may be nested below its own map. -/
def yamlDepth : Nat := 127

/-- The names of the fields of resources, and of references in these. -/
def resourceNames : List (List String) :=
  [Spec.Resource.fieldNames, Spec.Reference.fieldNames]

def topField (g : Graph) : Node × Node → Following (String × Datum)
  | (key, value) => do
    let name ← g.fieldName key
    let d ← if name == "resources" then Datum.ofNode g resourceNames value
      else Datum.ofTyped g yamlDepth value
    return (name, d)

/-- The document that a value is. For each of its marks a hundred aliases may be followed. -/
def Document.ofGraph? (g : Graph) : Option Document :=
  match g.root with
  | .scalar "" true _ => some default
  | .map fields _ => do
    let (named, _) ← (fields.mapM (topField g)).run (100 * g.root.weight)
    Document.ofFields? .yamlSettings .yamlResources named
  | _ => none

def Document.parseYaml? (content : String) : Option Document :=
  (Yaml.parse? content).bind fun graph? => (graph?.map ofGraph?).getD (some default)

end ClientGen
