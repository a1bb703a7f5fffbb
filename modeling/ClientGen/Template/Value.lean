import ClientGen.Data.Decimal.Conversion
import ClientGen.Template.Basic
import ClientGen.Text.Order
import ClientGen.Text.Quoted

/-!
The values that templates compute with: what they print, when they count as true, what they hold,
and how they compare.
-/

namespace ClientGen.Template

inductive Value where
  /-- What a name that means nothing stands for. -/
  | undefined
  /-- What is left out on purpose, and prints as nothing. -/
  | absent
  | none
  | bool (b : Bool)
  | int (n : Int)
  | float (x : Float)
  | text (s : String)
  /-- A text that is not escaped again. -/
  | safe (s : String)
  | list (items : List Value)
  /-- Items that are computed one by one. Of some it is not known before how many there are. -/
  | series (items : List Value) (sized : Bool)
  /-- Items that have a value in common, which is the first of two items. -/
  | group (key : Value) (items : List Value)
  /-- Values under keys, of which the first one with a key counts. -/
  | map (fields : List (Value × Value))
  /-- The named arguments of a call. -/
  | named (fields : List (Value × Value))
  /-- A function that every template knows. -/
  | function (name : String)
  /-- A routine with the cell of the names that it can see. -/
  | routine (r : Routine) (callsBack : Bool) (cell : Nat)
  /-- Names whose values change, in a cell. -/
  | names (cell : Nat)
  /-- A loop that is running, in a cell. -/
  | running (cell : Nat)
  /-- Fields of something that has a print of its own. -/
  | object (print : String) (fields : List (Value × Value))
  /-- An element that could not be had. -/
  | invalid (reason : String)
  deriving Inhabited

namespace Value

def isUndefined : Value → Bool
  | .undefined => true
  | .absent => true
  | _ => false

def ofList {α : Type} (f : α → Value) (as : List α) : Value :=
  .list (as.map f)

def ofOption {α : Type} (f : α → Value) : Option α → Value
  | some a => f a
  | Option.none => .none

def record (fields : List (String × Value)) : Value :=
  .map (fields.map fun f => (.text f.1, f.2))

def text? : Value → Option String
  | .text s => some s
  | .safe s => some s
  | _ => Option.none

def ofRoutine (r : Routine) (callsBack : Bool) : List (Value × Value) :=
  [(.text "name", .text r.name), (.text "arguments", .list (r.params.map fun p => .text p.1)),
    (.text "caller", .bool callsBack)]

def items? : Value → Option (List Value)
  | .list items => some items
  | .series items _ => some items
  | .group key items => some [key, .series items true]
  | _ => Option.none

def fields? : Value → Option (List (Value × Value))
  | .map fields => some fields
  | .named fields => some fields
  | .object _ fields => some fields
  | .routine r callsBack _ => some (ofRoutine r callsBack)
  | _ => Option.none

/-- The value holds others, or is something that can be called. -/
def isObject (v : Value) : Bool :=
  v.items?.isSome || v.fields?.isSome ||
    match v with
    | .function _ | .names _ | .running _ => true
    | _ => false

def sort : Value → String
  | .undefined | .absent => "undefined"
  | .none => "none"
  | .bool _ => "bool"
  | .int _ | .float _ => "number"
  | .text _ | .safe _ => "string"
  | .list _ | .group _ _ => "sequence"
  | .series _ _ => "iterable"
  | .function _ => "plain object"
  | .invalid _ => "invalid value"
  | _ => "map"

def isTrue : Value → Bool
  | .undefined | .absent | .none => false
  | .bool b => b
  | .int n => n != 0
  | .float x => x != 0.0
  | .text s => !s.isEmpty
  | .safe s => !s.isEmpty
  | .list items => !items.isEmpty
  | .series items sized => !sized || !items.isEmpty
  | .map fields => !fields.isEmpty
  | .named fields => !fields.isEmpty
  | .object _ fields => !fields.isEmpty
  | _ => true

/-- How many items, fields or characters the value has. -/
def length? : Value → Option Nat
  | .text s => some s.length
  | .safe s => some s.length
  | .list items => some items.length
  | .series items sized => if sized then some items.length else Option.none
  | .group _ _ => some 2
  | v => v.fields?.map List.length

def ofChars (s : String) : List Value :=
  s.toList.map fun c => .text (String.ofList [c])

/-- What a loop over the value runs through: items, keys or characters. -/
def elements? : Value → Option (List Value)
  | .undefined | .absent | .none => some []
  | .text s => some (ofChars s)
  | .safe s => some (ofChars s)
  | v => v.items? <|> v.fields?.map fun fields => fields.map Prod.fst

/-- A loop over the value knows how many elements there are. -/
def isCounted : Value → Bool
  | .text _ | .safe _ => false
  | .series _ sized => sized
  | _ => true

/-! ### Numbers -/

/-- The whole number that a truth value or a whole number stands for. -/
def int? : Value → Option Int
  | .bool b => some (if b then 1 else 0)
  | .int n => some n
  | _ => Option.none

/-- The floating point number that a value stands for. -/
def float? : Value → Option Float
  | .float x => some x
  | v => v.int?.map Float.ofInt

/-- The floating point number that a value stands for without loss. -/
def exactFloat? : Value → Option Float
  | .float x => some x
  | v => v.int?.bind fun n =>
    let bits := n.natAbs
    -- what is left of the number without its trailing zeros fits
    if bits < Nat.pow 2 53 || bits % Nat.pow 2 (bits.log2 - 52) == 0 then some (Float.ofInt n)
    else Option.none

/-- How two floating point numbers are ordered. Those that are no number come at the ends. -/
def floatOrder (x y : Float) : Ordering :=
  let place (z : Float) : Int :=
    let bits : Int := z.toBits.toNat
    if bits ≥ Nat.pow 2 63 then Nat.pow 2 63 - 1 - bits else bits
  if x == y then .eq else compare (place x) (place y)

/-- How a whole number and a floating point number are ordered. -/
def mixedOrder (n : Int) (x : Float) : Ordering :=
  if x.isNaN || x.isInf then floatOrder 0.0 x
  else
    let (m, power) := Data.Decimal.binary x
    let size : Int := m * Nat.pow 2 power.toNat
    compare (n * Nat.pow 2 (-power).toNat) (if x < 0.0 then -size else size)

def numberOrder? (v w : Value) : Option Ordering :=
  match v, w with
  | .float x, .float y => some (floatOrder x y)
  | .float x, w => w.int?.map fun n => (mixedOrder n x).swap
  | v, .float y => v.int?.map fun n => mixedOrder n y
  | v, w => do return compare (← v.int?) (← w.int?)

/-- Two numbers of one sort. -/
inductive Numbers where
  | ints (m n : Int)
  | floats (x y : Float)

/-- The whole number that a value stands for without loss. -/
def whole? : Value → Option Int
  | .float x =>
    let n := x.toInt64
    if n.toFloat == x then some n.toInt else Option.none
  | v => v.int?

/-- The least and the greatest whole number that operations can use. -/
def isUsable (n : Int) : Bool :=
  -(Nat.pow 2 127 : Int) ≤ n && n < (Nat.pow 2 127 : Int)

/-- Two values as numbers of one sort. Two whole numbers of more than sixty-four bits lose what does
not fit into a hundred and twenty-eight with a sign. -/
def numbers? (toFloat? : Value → Option Float) (v w : Value) : Option Numbers :=
  match v, w with
  | .float _, _ | _, .float _ => do return .floats (← toFloat? v) (← toFloat? w)
  | _, _ => do
    let m ← v.int?
    let n ← w.int?
    let wide : Int := Nat.pow 2 64
    if wide ≤ m && wide ≤ n then return .ints (m.bmod (Nat.pow 2 128)) (n.bmod (Nat.pow 2 128))
    guard (isUsable m && isUsable n)
    return .ints m n

/-! ### Printing -/

def floatText (x : Float) : String :=
  let s := Data.Decimal.floatText x
  if s.toList.contains '.' || x.isNaN || x.isInf then s else s ++ ".0"

/-- The print of a floating point number inside another value: very large and very small ones have
an exponent. -/
def innerFloatText (x : Float) : String :=
  let size := x.abs
  if x.isNaN || x.isInf || (1e-4 ≤ size && size < 1e16) || size == 0.0 then floatText x
  else (if x < 0.0 then "-" else "") ++ Data.Decimal.exponentText size

/-- The print of a value that holds no others. A text inside another value is quoted. -/
def plainText (inside : Bool) : Value → String
  | .undefined | .absent => if inside then "undefined" else ""
  | .none => "None"
  | .bool true => "True"
  | .bool false => "False"
  | .int n => toString n
  | .float x => if inside then innerFloatText x else floatText x
  | .text s => if inside then Text.quote s else s
  | .safe s => if inside then Text.quote s else s
  | .function name => "minijinja::functions::builtins::" ++ name
  | .routine r _ _ => "<macro " ++ r.name ++ ">"
  | .object print _ => print
  | .invalid reason => "<invalid value: " ++ reason ++ ">"
  | _ => ""

def bracketed (start stop : String) (prints : List String) : String :=
  start ++ ", ".intercalate prints ++ stop

mutual

/-- The print of a value inside another one. -/
def inner : Value → String
  | .list items => bracketed "[" "]" (innerItems items)
  | .series items sized =>
    if sized then bracketed "[" "]" (innerItems items) else "<iterator>"
  | .group key items => bracketed "[" "]" [inner key, bracketed "[" "]" (innerItems items)]
  | .map fields => bracketed "\x7b" "\x7d" (innerFields fields)
  | .named fields => bracketed "\x7b" "\x7d" (innerFields fields)
  | v => plainText true v

def innerItems : List Value → List String
  | [] => []
  | v :: vs => inner v :: innerItems vs

def innerFields : List (Value × Value) → List String
  | [] => []
  | (k, v) :: fs => (inner k ++ ": " ++ inner v) :: innerFields fs

end

def toText : Value → String
  | .list items => inner (.list items)
  | .series items sized => inner (.series items sized)
  | .group key items => inner (.group key items)
  | .map fields => inner (.map fields)
  | .named fields => inner (.named fields)
  | v => plainText false v

/-! ### Comparing -/

def rank : Value → Nat
  | .undefined | .absent => 0
  | .none => 1
  | .bool _ => 2
  | .int _ | .float _ => 3
  | .text _ | .safe _ => 4
  | .list _ | .group _ _ => 5
  | .map _ | .named _ | .object _ _ | .routine _ _ _ | .names _ | .running _ => 6
  | .series _ _ => 7
  | .function _ => 8
  | .invalid _ => 9

/-- How two values without items are ordered. -/
def plainOrder (v w : Value) : Ordering :=
  (compare v.rank w.rank).then <|
    match v.text?, w.text? with
    | some s, some t => Text.order s t
    | _, _ => (numberOrder? v w).getD (Text.order (plainText false v) (plainText false w))

mutual

/-- How two values are ordered: by sort, then by number, text, items or fields. -/
def order (v w : Value) : Ordering :=
  match v with
  | .list xs => itemsOrder (.list xs) xs w
  | .series xs sized => itemsOrder (.series xs sized) xs w
  | .group key xs =>
    (compare 5 w.rank).then <|
      match w.items? with
      | some [k, l] => (order key k).then (listOrder xs (l.items?.getD []))
      | _ => .lt
  | .map fs => fieldsOrder (.map fs) fs w
  | .named fs => fieldsOrder (.named fs) fs w
  | .object print fs => fieldsOrder (.object print fs) fs w
  | v => plainOrder v w

def itemsOrder (v : Value) (xs : List Value) (w : Value) : Ordering :=
  match compare v.rank w.rank with
  | .eq => listOrder xs (w.items?.getD [])
  | other => other

def fieldsOrder (v : Value) (fs : List (Value × Value)) (w : Value) : Ordering :=
  match compare v.rank w.rank with
  | .eq => pairsOrder fs (w.fields?.getD [])
  | other => other

/-- How two lists are ordered, item by item. -/
def listOrder : List Value → List Value → Ordering
  | [], [] => .eq
  | [], _ :: _ => .lt
  | _ :: _, [] => .gt
  | v :: vs, w :: ws => (order v w).then (listOrder vs ws)

def pairsOrder : List (Value × Value) → List (Value × Value) → Ordering
  | [], [] => .eq
  | [], _ :: _ => .lt
  | _ :: _, [] => .gt
  | (k, v) :: fs, (l, w) :: gs => (order k l).then <| (order v w).then (pairsOrder fs gs)

end

def lookup (key : Value) : List (Value × Value) → Option Value
  | [] => Option.none
  | (k, v) :: fs => if k.order key == .eq then some v else lookup key fs

/-- Two values without items are equal. A truth value equals the number that it stands for. -/
def plainSame (v w : Value) : Bool :=
  match v.text?, w.text? with
  | some s, some t => s == t
  | some _, Option.none | Option.none, some _ => false
  | _, _ =>
    match v, w with
    | .float x, .float y => x == y
    | _, _ =>
      match numberOrder? v w with
      | some order => order == .eq
      | Option.none => v.rank == w.rank && plainText false v == plainText false w

mutual

/-- Two values are equal: as numbers, texts, item by item or key by key. -/
def same (v w : Value) : Bool :=
  match v with
  | .list xs => sameList xs w.items?
  | .series xs _ => sameList xs w.items?
  | .group key xs =>
    match w.items? with
    | some [k, l] => same key k && sameList xs l.items?
    | _ => false
  | .map fs => sameMap fs w.fields?
  | .named fs => sameMap fs w.fields?
  | .object _ fs => sameMap fs w.fields?
  | v => plainSame v w

def sameList (vs : List Value) (ws? : Option (List Value)) : Bool :=
  match vs, ws? with
  | [], some [] => true
  | v :: vs, some (w :: ws) => same v w && sameList vs (some ws)
  | _, _ => false

/-- Fields equal those of a value, in any order. -/
def sameMap (fs : List (Value × Value)) (gs? : Option (List (Value × Value))) : Bool :=
  match gs? with
  | some gs => fs.length == gs.length && sameFields fs gs
  | Option.none => false

/-- Every field is among others. -/
def sameFields (fs gs : List (Value × Value)) : Bool :=
  match fs with
  | [] => true
  | (k, v) :: fs =>
    (match lookup k gs with
      | some w => same v w
      | Option.none => false) && sameFields fs gs

end

/-! ### Looking into values -/

/-- A place among `length` items, as a number from their front. Negative ones count from the end. -/
def placeAmong? (length : Option Nat) (index : Value) : Option Nat :=
  index.whole?.bind fun n =>
    if 0 ≤ n then some n.toNat
    else length.bind fun length => if length + n < 0 then Option.none else some (length + n).toNat

/-- The value under a key or at a place. -/
def item? (v index : Value) : Option Value :=
  match v with
  | .text s => (placeAmong? s.length index).bind fun n => (ofChars s)[n]?
  | .safe s => (placeAmong? s.length index).bind fun n => (ofChars s)[n]?
  | .list items => (placeAmong? items.length index).bind fun n => items[n]?
  | .series items sized =>
    (placeAmong? (if sized then some items.length else Option.none) index).bind fun n => items[n]?
  | .group key items =>
    match index.text? with
    | some "grouper" => some key
    | some "list" => some (.series items true)
    | _ => (placeAmong? (some 2) index).bind fun n => [key, Value.series items true][n]?
  | v => v.fields?.bind (lookup index)

/-- The value under a name. Texts have none. -/
def field? (v : Value) (name : String) : Option Value :=
  match v with
  | .text _ | .safe _ => Option.none
  | v => v.item? (.text name)

/-- Fields in the order of their keys. Of those with one key, the last value and the first key
count. -/
def sortFields (fields : List (Value × Value)) : List (Value × Value) :=
  fields.foldl (fun done f => insert f done) []
where
  /-- Puts a field in its place. -/
  insert (f : Value × Value) : List (Value × Value) → List (Value × Value)
    | [] => [f]
    | g :: gs =>
      match f.1.order g.1 with
      | .lt => f :: g :: gs
      | .eq => (g.1, f.2) :: gs
      | .gt => g :: insert f gs

end Value

end ClientGen.Template
