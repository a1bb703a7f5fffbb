import ClientGen.Data.Decimal.Conversion
import ClientGen.Failure
import ClientGen.Template.Value

/-!
What operators make of values. None of them takes a value that is undefined.
-/

namespace ClientGen.Template

open Data.Decimal (binary)

abbrev Result := Except TemplateError Value

/-- A whole number that an operation gives, which must not be too large. -/
def intResult (n : Int) : Result :=
  if Value.isUsable n then .ok (.int n) else .error .invalidOperation

def arithmetic (ints : Int → Int → Result) (floats : Float → Float → Float) (v w : Value) :
    Result :=
  match Value.numbers? Value.float? v w with
  | some (.ints m n) => ints m n
  | some (.floats x y) => .ok (.float (floats x y))
  | none => .error .invalidOperation

/-- The sum of two numbers, or texts or items one behind the other. -/
def plus (v w : Value) : Result :=
  match v.text?, w.text?, v.items?, w.items? with
  | some s, some t, _, _ => .ok (.text (s ++ t))
  | _, _, some xs, some ys => .ok (.series (xs ++ ys) (v.isCounted && w.isCounted))
  | _, _, _, _ => arithmetic (fun m n => intResult (m + n)) (· + ·) v w

def times? : Value → Option Nat
  | v => v.whole?.bind fun n => if n < 0 then none else some n.toNat

/-- The product of two numbers, or a text or items repeated. -/
def product (v w : Value) : Result :=
  let repeated (times : Value) (make : Nat → Value) : Result :=
    match times? times with
    | some n => .ok (make n)
    | none => .error .invalidOperation
  let text (s : String) (n : Nat) : Value := .text (String.join (List.replicate n s))
  let series (xs : List Value) (n : Nat) : Value :=
    .series (List.replicate n xs).flatten true
  match v.text?, w.text?, v.items?, w.items? with
  | some s, _, _, _ => repeated w (text s)
  | _, some s, _, _ => repeated v (text s)
  | _, _, some xs, _ => if v.isCounted then repeated w (series xs) else .error .invalidOperation
  | _, _, _, some xs => if w.isCounted then repeated v (series xs) else .error .invalidOperation
  | _, _, _, _ => arithmetic (fun m n => intResult (m * n)) (· * ·) v w

/-- What is left of a floating point number by whole division. It has the sign of the number. -/
def floatRest (x y : Float) : Float :=
  if x.isNaN || y.isNaN || x.isInf || y == 0.0 then 0.0 / 0.0
  else if y.isInf then x
  else
    let (m, p) := binary x
    let (n, q) := binary y
    let power := min p q
    let rest := (m * Nat.pow 2 (p - power).toNat) % (n * Nat.pow 2 (q - power).toNat)
    let size := (Float.ofNat rest).scaleB power
    if x < 0.0 then -size else size

/-- Whole division of floating point numbers whose rest is not negative. -/
def floatInto (x y : Float) : Float :=
  let q := x / y
  let whole := if q < 0.0 then q.ceil else q.floor
  if floatRest x y < 0.0 then if y > 0.0 then whole - 1.0 else whole + 1.0 else whole

/-- A power of a whole number, unless it is too large. -/
def intPower (m n : Int) : Result :=
  if n < 0 || n ≥ 4294967296 then .error .invalidOperation
  else if m == 0 || m == 1 then .ok (.int (if n == 0 then 1 else m))
  else if m == -1 then .ok (.int (if n % 2 == 0 then 1 else -1))
  else if n > 128 then .error .invalidOperation
  else intResult (m.natAbs |> fun b =>
    let size : Int := Nat.pow b n.toNat
    if m < 0 && n % 2 == 1 then -size else size)

def Operator.apply (op : Operator) (v w : Value) : Result :=
  match op with
  | .plus => Template.plus v w
  | .minus => arithmetic (fun m n => intResult (m - n)) (· - ·) v w
  | .times => product v w
  | .over =>
    match v.float?, w.float? with
    | some x, some y => .ok (.float (x / y))
    | _, _ => .error .invalidOperation
  | .into =>
    arithmetic (fun m n => if n == 0 then .error .invalidOperation else intResult (m / n))
      floatInto v w
  | .modulo =>
    arithmetic (fun m n => if n == 0 then .error .invalidOperation else intResult (m % n))
      floatRest v w
  | .power => arithmetic intPower Float.pow v w
  | .join => .ok (.text (v.toText ++ w.toText))
  | .and | .or => .ok w

/-- The number with the other sign. The size of the least whole number is taken for that number. -/
def opposite : Value → Result
  | .int n =>
    if n == Nat.pow 2 127 then .ok (.int n)
    else if Value.isUsable n then intResult (-n)
    else .error .invalidOperation
  | .float x => .ok (.float (-x))
  | _ => .error .invalidOperation

/-- A text, list or map holds a value: as a part, an item or a key. What is called holds nothing. -/
def holds (v : Value) (container : Value) : Except TemplateError Bool :=
  match container.text?, container.items?, container.fields? with
  | some s, _, _ => .ok ((s.splitOn v.toText).length > 1 || v.toText.isEmpty)
  | _, some items, _ => .ok (items.any fun item => item.same v)
  | _, _, some fields => .ok (Value.lookup v fields).isSome
  | _, _, _ =>
    if container.isUndefined || container.isObject then .ok false else .error .invalidOperation

def Relation.holds (r : Relation) (v w : Value) : Except TemplateError Bool :=
  match r with
  | .equal => .ok (v.same w)
  | .unequal => .ok (!v.same w)
  | .less => .ok (v.order w == .lt)
  | .atMost => .ok (v.order w != .gt)
  | .greater => .ok (v.order w == .gt)
  | .atLeast => .ok (v.order w != .lt)
  | .within => Template.holds v w
  | .notWithin => (Template.holds v w).map (!·)

/-! ### Slices -/

def bound? : Value → Option (Option Int)
  | .absent | .none => some none
  | v => v.whole?.map some

/-- The places from `start` on in steps, as long as they are among `length` ones and before `stop`.
At most `n` of them. -/
def places (length start step stop : Int) : Nat → List Nat
  | 0 => []
  | n + 1 =>
    if 0 ≤ start && start < length && (if step > 0 then start < stop else start > stop) then
      start.toNat :: places length (start + step) step stop n
    else []

/-- A bound up to another one. Negative ones count from the end, and are at least zero. -/
def clamp (length high n : Int) : Int :=
  max 0 (min high (if n < 0 then n + length else n))

/-- The places of a slice among `length` ones. A slice that goes back to the front takes the first
one along. -/
def slicePlaces (length : Nat) (start? stop? : Option Int) (step : Int) : List Nat :=
  let length' : Int := length
  if step > 0 then
    places length' ((start?.map (clamp length' length')).getD 0) step
      ((stop?.map (clamp length' length')).getD length') length
  else
    let last := length' - 1
    let stop := clamp length' length' (stop?.getD 0)
    places length' (clamp length' last (start?.getD last)) step
      (if stop == 0 then -1 else stop) length

def slice (v start stop step : Value) : Result := do
  let some start? := bound? start | throw .invalidOperation
  let some stop? := bound? stop | throw .invalidOperation
  let some step? := bound? step | throw .invalidOperation
  let step := step?.getD 1
  if step == 0 then throw .invalidOperation
  match v.text?, v.items?, v with
  | some s, _, _ =>
    let cs := s.toList
    return .text (String.ofList ((slicePlaces cs.length start? stop? step).filterMap (cs[·]?)))
  | _, some items, _ =>
    return .series ((slicePlaces items.length start? stop? step).filterMap (items[·]?)) v.isCounted
  | _, _, .none | _, _, .absent => return .list []
  | _, _, _ => throw .invalidOperation

/-! ### Escaping -/

def escapeMarkup (c : Char) : List Char :=
  match [('<', "&lt;"), ('>', "&gt;"), ('&', "&amp;"), ('"', "&quot;"), ('\'', "&#x27;"),
    ('/', "&#x2f;")].lookup c with
  | some s => s.toList
  | none => [c]

/-- The text of a value with escapes for markup, unless it needs none. -/
def escapedText : Value → String
  | .safe s => s
  | v => String.ofList (v.toText.toList.flatMap escapeMarkup)

def outputText (escaping : Bool) (v : Value) : String :=
  if escaping then escapedText v else v.toText

/-- A text that an output made. -/
def captured (escaping : Bool) (s : String) : Value :=
  if escaping then .safe s else .text s

end ClientGen.Template
