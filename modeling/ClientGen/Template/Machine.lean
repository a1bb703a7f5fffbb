import ClientGen.Template.FreeNames
import ClientGen.Template.Operation

/-!
What is known in the middle of rendering: the values of names, the loops that run, the blocks.

Names and loops that change while others hold on to them live in cells, and values refer to a cell
by its number.
-/

namespace ClientGen.Template

/-- A loop at one of its elements. -/
structure LoopState where
  /-- The place of the element, once there is one. -/
  place? : Option Nat := none
  length? : Option Nat
  /-- How many loops of which this one is a repetition are around it. -/
  depth : Nat
  previous? : Option Value := none
  next? : Option Value := none
  /-- The values that were last asked about. -/
  seen? : Option (List Value) := none
  /-- The loop, if it can be repeated for other elements. -/
  again? : Option Loop := none

/-- A part of the memory that several values refer to. -/
inductive Cell where
  | names (fields : List (String × Value))
  | loop (l : LoopState)

/-- Names with values that are seen together. -/
structure Frame where
  locals : List (String × Value) := []
  /-- The cell of the loop that runs here. -/
  loop? : Option Nat := none
  /-- The loop has a name here. -/
  namesLoop : Bool := true
  /-- The cell of the names that routines defined here can see. -/
  shared? : Option Nat := none
  /-- The cell of the names that the routine that runs here can see. -/
  outer? : Option Nat := none
  /-- The values that the template is rendered for. -/
  base : List (String × Value) := []

/-- The bodies of a block, that of the most special template first. -/
structure BlockBodies where
  bodies : List (List Node)
  /-- How many of them are being replaced. -/
  level : Nat := 0

/-- What is known in the middle of rendering. -/
structure Machine where
  /-- The frames, the innermost one first. -/
  frames : List Frame
  /-- How deep the call of the routine that runs is. -/
  outside : Nat := 0
  cells : Array Cell := #[]
  blocks : List (String × BlockBodies) := []
  /-- The block that is being rendered. -/
  block? : Option String := none
  /-- The templates that this one extends, and itself. -/
  extended : List String := []
  /-- The template that is rendered in the place of this one. -/
  parent? : Option (List Node) := none
  /-- What is printed goes nowhere. -/
  isMuted : Bool := false
  escaping : Bool := false
  /-- The text of the body that belongs to the tag that is being rendered. -/
  captured : Value := .absent

abbrev Run := StateT Machine (Except TemplateError)

namespace Machine

/-- How deep calls and bodies may be inside each other. -/
def depthLimit : Nat := 500

def depth (m : Machine) : Nat := m.outside + m.frames.length

def namesIn (m : Machine) (cell : Nat) : List (String × Value) :=
  match m.cells[cell]? with
  | some (.names fields) => fields
  | _ => []

def loopIn? (m : Machine) (cell : Nat) : Option LoopState :=
  match m.cells[cell]? with
  | some (.loop l) => some l
  | _ => none

/-- The functions that every template knows. -/
def functions : List String := ["range", "dict", "namespace", "debug"]

def inFrame? (m : Machine) (name : String) (f : Frame) : Option Value :=
  match f.locals.lookup name, f.loop?, f.outer? with
  | some v, _, _ => some v
  | none, some cell, outer? =>
    if f.namesLoop && name == "loop" then some (.running cell)
    else (outer?.bind fun cell => (m.namesIn cell).lookup name) <|> f.base.lookup name
  | none, none, some cell => (m.namesIn cell).lookup name
  | none, none, none => f.base.lookup name

def lookup? (m : Machine) (name : String) : Option Value :=
  m.frames.findSome? (m.inFrame? name) <|>
    if functions.contains name then some (.function name) else none

/-- A field in a list, in the place of one with its name. -/
def put (name : String) (v : Value) (fields : List (String × Value)) : List (String × Value) :=
  (name, v) :: fields.filter fun f => f.1 != name

def modifyNames (m : Machine) (cell : Nat)
    (change : List (String × Value) → List (String × Value)) : Machine :=
  { m with cells := m.cells.setIfInBounds cell (.names (change (m.namesIn cell))) }

/-- Gives a value to a name in the innermost frame. -/
def store (m : Machine) (name : String) (v : Value) : Machine :=
  match m.frames with
  | [] => m
  | f :: fs =>
    let m := { m with frames := { f with locals := put name v f.locals } :: fs }
    match f.shared? with
    | some cell => m.modifyNames cell (put name v)
    | none => m

def loop? (m : Machine) : Option LoopState :=
  m.frames.findSome? fun f => do m.loopIn? (← f.loop?)

/-- What can be asked about a loop. -/
def loopFields (l : LoopState) : List (String × Value) :=
  let orUndefined (n? : Option Nat) : Value := match n? with
    | some n => .int n
    | none => .undefined
  match l.place? with
  | none => []
  | some place =>
    [("index0", .int place), ("index", .int (place + 1)), ("length", orUndefined l.length?),
      ("revindex", orUndefined (l.length?.map (· - place))),
      ("revindex0", orUndefined (l.length?.map (· - place - 1))),
      ("first", .bool (place == 0)), ("last", .bool l.next?.isNone),
      ("depth", .int (l.depth + 1)), ("depth0", .int l.depth),
      ("previtem", l.previous?.getD .undefined), ("nextitem", l.next?.getD .undefined)]

def loopText (l : LoopState) : String :=
  "<loop " ++ ((l.place?.map toString).getD "") ++ "/"
    ++ ((l.length?.map toString).getD "?") ++ ">"

/-- The value under a key or at a place in a value. -/
def item? (m : Machine) (v index : Value) : Option Value :=
  match v with
  | .names cell => index.text?.bind fun name => (m.namesIn cell).lookup name
  | .running cell => do List.lookup (← index.text?) (loopFields (← m.loopIn? cell))
  | v => v.item? index

def field? (m : Machine) (v : Value) (name : String) : Option Value :=
  match v with
  | .names cell => (m.namesIn cell).lookup name
  | .running cell => (m.loopIn? cell).bind fun l => (loopFields l).lookup name
  | v => v.field? name

mutual

/-- The value with what is in cells now, which are at most `fuel` deep. -/
def still (m : Machine) (fuel : Nat) (v : Value) : Value :=
  match fuel, v with
  | 0, v => v
  | fuel + 1, .names cell =>
    .map (Value.sortFields ((m.namesIn cell).map fun f => (.text f.1, still m fuel f.2)))
  | fuel + 1, .running cell =>
    match m.loopIn? cell with
    | some l =>
      .object (loopText l) (stillFields m fuel ((loopFields l).map fun f => (.text f.1, f.2)))
    | none => .object "" []
  | fuel + 1, .list items => .list (stillItems m (fuel + 1) items)
  | fuel + 1, .series items sized => .series (stillItems m (fuel + 1) items) sized
  | fuel + 1, .group key items => .group (still m (fuel + 1) key) (stillItems m (fuel + 1) items)
  | fuel + 1, .map fields => .map (stillFields m (fuel + 1) fields)
  | fuel + 1, .named fields => .named (stillFields m (fuel + 1) fields)
  | fuel + 1, .object print fields => .object print (stillFields m (fuel + 1) fields)
  | _, v => v
termination_by (fuel, sizeOf v)

/-- The items with what is in cells now. -/
def stillItems (m : Machine) (fuel : Nat) (vs : List Value) : List Value :=
  match vs with
  | [] => []
  | v :: vs => still m fuel v :: stillItems m fuel vs
termination_by (fuel, sizeOf vs)

def stillFields (m : Machine) (fuel : Nat) (fs : List (Value × Value)) : List (Value × Value) :=
  match fs with
  | [] => []
  | (k, v) :: fs => (k, still m fuel v) :: stillFields m fuel fs
termination_by (fuel, sizeOf fs)

end

end Machine

end ClientGen.Template
