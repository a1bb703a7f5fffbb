import ClientGen.Data.Yaml.Token

/-!
From tokens to the value that a YAML text spells. Lists and maps that are open are kept on a stack;
one token at a time ends what it cannot go on with and begins what it can. A text holds at most one
document. Aliases stay in the value: what they stand for is known when all of it has been read.
-/

namespace ClientGen.Data.Yaml

inductive Node where
  | scalar (text : String) (isPlain : Bool) (tag? : Option String)
  | list (items : List Node) (tag? : Option String)
  | map (fields : List (Node × Node)) (tag? : Option String)
  /-- The value of the anchor with a number again. -/
  | repeated (number : Nat)
  deriving Inhabited

def Node.nothing : Node := .scalar "" true none

mutual

/-- How many marks a value has: the two ends of each list and map, its scalars and its aliases. -/
def Node.weight : Node → Nat
  | .scalar _ _ _ => 1
  | .list items _ => 2 + weightOfItems items
  | .map fields _ => 2 + weightOfFields fields
  | .repeated _ => 1

def Node.weightOfItems : List Node → Nat
  | [] => 0
  | n :: ns => n.weight + weightOfItems ns

def Node.weightOfFields : List (Node × Node) → Nat
  | [] => 0
  | (k, n) :: fs => k.weight + n.weight + weightOfFields fs

end

/-- A value with the values of its anchors by number. Of two values with one number the first
counts. -/
structure Graph where
  root : Node
  anchored : List (Nat × Node)

/-- What stands before a value. -/
structure Properties where
  anchor? : Option (List Char) := none
  tag? : Option String := none

def Properties.isEmpty (p : Properties) : Bool := p.anchor?.isNone && p.tag?.isNone

/-- Where a map is between two fields or inside one. -/
inductive Stage where
  | between
  | inKey
  | afterKey (key : Node)
  | inValue (key : Node)
  /-- In a field that is nothing but a key. -/
  | inLoneKey

/-- A list or a map that is open. Items and fields stand last first. -/
inductive Frame where
  | blockList (items : List Node)
  /-- A list at the column of the map around it. -/
  | bareList (items : List Node)
  | blockMap (fields : List (Node × Node)) (stage : Stage)
  | flowList (items : List Node)
  | flowMap (fields : List (Node × Node)) (stage : Stage)
  /-- A single field as an item of a list in brackets. -/
  | pair (stage : Stage)

/-- An open list or map with its tag, and how many anchors came before its own. -/
structure Open where
  frame : Frame
  tag? : Option String := none
  anchor? : Option Nat := none

/-- Which values may begin somewhere. -/
inductive Kind where
  /-- Any value. -/
  | block
  /-- Any value, or a list at the column of the map around it. -/
  | field
  /-- A value in brackets. -/
  | flow
  deriving DecidableEq

/-- What is expected. -/
inductive Place where
  /-- A document. A version may have been given. -/
  | start (version tags : Bool)
  /-- What a document holds, behind the mark that begins it. -/
  | content
  | node (kind : Kind) (properties : Properties)
  /-- What follows an item or a field. -/
  | after
  /-- The first item or field in brackets, or their end. -/
  | first
  /-- A further item or field in brackets, or their end. -/
  | next
  /-- Nothing but the end. -/
  | done (root : Node)

/-- What is gathered so far. -/
structure Gathering where
  place : Place := .start false false
  stack : List Open := []
  /-- Anchors by name, each with its number. -/
  anchors : List (List Char × Nat) := []
  /-- The numbers of all anchors so far, the last one first. -/
  numbers : List Nat := []
  /-- The values of anchors that are complete, each with how many anchors came before its own. -/
  values : List (Nat × Node) := []
  /-- What the handles of tags stand for. -/
  handles : List (List Char × List Char) := []

namespace Gathering

/-! ### Values that end -/

def addField (n : Node) (fields : List (Node × Node)) : Stage → List (Node × Node) × Stage
  | .inKey => (fields, .afterKey n)
  | .inValue key => ((key, n) :: fields, .between)
  | .inLoneKey => ((n, .nothing) :: fields, .between)
  | stage => (fields, stage)

def addTo (n : Node) : Frame → Frame
  | .blockList items => .blockList (n :: items)
  | .bareList items => .bareList (n :: items)
  | .flowList items => .flowList (n :: items)
  | .blockMap fields stage =>
    let (fields, stage) := addField n fields stage
    .blockMap fields stage
  | .flowMap fields stage =>
    let (fields, stage) := addField n fields stage
    .flowMap fields stage
  | .pair .inKey => .pair (.afterKey n)
  | .pair stage => .pair stage

/-- Puts a complete value where it belongs. -/
def complete (g : Gathering) (n : Node) : Gathering :=
  match g.stack with
  | [] => { g with place := .done n }
  | ⟨.pair (.inValue key), _, _⟩ :: o :: os =>
    { g with
      stack := { o with frame := addTo (.map [(key, n)] none) o.frame } :: os, place := .after }
  | o :: os => { g with stack := { o with frame := addTo n o.frame } :: os, place := .after }

def Open.value (o : Open) : Node :=
  match o.frame with
  | .blockList items => .list items.reverse o.tag?
  | .bareList items => .list items.reverse o.tag?
  | .flowList items => .list items.reverse o.tag?
  | .blockMap fields _ => .map fields.reverse o.tag?
  | .flowMap fields _ => .map fields.reverse o.tag?
  | .pair _ => .nothing

def close (g : Gathering) : Gathering :=
  match g.stack with
  | [] => g
  | o :: os =>
    let n := Open.value o
    let values := match o.anchor? with
      | some place => (place, n) :: g.values
      | none => g.values
    { g with stack := os, values := values }.complete n

/-- Numbers an anchor, and gives how many came before it. Its number is how many names of anchors
were known; a name that is given again brings no number more. -/
def nameAnchor (g : Gathering) (p : Properties) : Gathering × Option Nat :=
  match p.anchor? with
  | none => (g, none)
  | some name =>
    let number := g.anchors.length
    ({ g with
      anchors := (name, number) :: g.anchors.filter (·.1 != name)
      numbers := number :: g.numbers }, some g.numbers.length)

def scalar (g : Gathering) (p : Properties) (text : List Char) (isPlain : Bool) : Gathering :=
  let n := Node.scalar (String.ofList text) isPlain p.tag?
  let (g, anchor?) := g.nameAnchor p
  match anchor? with
  | some place => { g with values := (place, n) :: g.values }.complete n
  | none => g.complete n

def enter (g : Gathering) (p : Properties) (f : Frame) (place : Place) : Gathering :=
  let (g, anchor?) := g.nameAnchor p
  { g with stack := ⟨f, p.tag?, anchor?⟩ :: g.stack, place := place }

/-! ### Tokens behind a value -/

/-- The innermost list or map in another state, where a value of this kind comes next. -/
def expect (g : Gathering) (f : Frame) (kind : Kind) : Gathering :=
  match g.stack with
  | [] => g
  | o :: os => { g with stack := { o with frame := f } :: os, place := .node kind {} }

/-- A token between two fields of a map without brackets. -/
def blockField? (g : Gathering) (fields : List (Node × Node)) (t : Token) : Option Gathering :=
  match t with
  | .key => some (g.expect (.blockMap fields .inKey) .field)
  | .blockEnd => some g.close
  | _ => none

/-- The innermost map without brackets with these fields. -/
def withFields (g : Gathering) (fields : List (Node × Node)) : Gathering :=
  match g.stack with
  | [] => g
  | o :: os => { g with stack := { o with frame := .blockMap fields .between } :: os }

/-- A token behind a key or a field of the innermost map without brackets. -/
def afterField? (g : Gathering) (t : Token) : Option Gathering :=
  match g.stack with
  | ⟨.blockMap fields (.afterKey key), _, _⟩ :: _ =>
    match t with
    | .value => some (g.expect (.blockMap fields (.inValue key)) .field)
    | _ => (g.withFields ((key, .nothing) :: fields)).blockField? ((key, .nothing) :: fields) t
  | ⟨.blockMap fields _, _, _⟩ :: _ => g.blockField? fields t
  | _ => none

/-- A token behind an item of a list in brackets. -/
def afterFlowItem? (g : Gathering) (t : Token) : Option Gathering :=
  match t with
  | .comma => some { g with place := .next }
  | .closeList => some g.close
  | _ => none

/-- A token behind a field of a map in brackets. -/
def afterFlowField? (g : Gathering) (t : Token) : Option Gathering :=
  match t with
  | .comma => some { g with place := .next }
  | .closeMap => some g.close
  | _ => none

/-- A token behind an item, a key or a field. -/
def after? (g : Gathering) (t : Token) : Option Gathering :=
  match g.stack with
  | [] => none
  | o :: os =>
    match o.frame, t with
    | .blockList items, .entry => some (g.expect (.blockList items) .block)
    | .blockList _, .blockEnd => some g.close
    | .blockList _, _ => none
    | .bareList items, .entry => some (g.expect (.bareList items) .block)
    | .bareList _, t => g.close.afterField? t
    | .blockMap _ _, t => g.afterField? t
    | .flowList _, t => g.afterFlowItem? t
    | .flowMap fields (.afterKey key), .value =>
      some (g.expect (.flowMap fields (.inValue key)) .flow)
    | .flowMap fields (.afterKey key), t =>
      { g with stack := { o with frame := .flowMap ((key, .nothing) :: fields) .between } :: os
        }.afterFlowField? t
    | .flowMap _ _, t => g.afterFlowField? t
    | .pair (.afterKey key), .value => some (g.expect (.pair (.inValue key)) .flow)
    | .pair (.afterKey key), t =>
      ({ g with stack := ⟨.pair (.inValue key), none, none⟩ :: os }.complete
        .nothing).afterFlowItem? t
    | .pair _, _ => none

/-- A token behind the document. -/
def ended? (g : Gathering) : Token → Option Gathering
  | .documentEnd => some g
  | _ => none

/-- A token that cannot be part of a value, behind one. -/
def resume? (g : Gathering) (t : Token) : Option Gathering :=
  match g.place with
  | .done _ => g.ended? t
  | _ => g.after? t

/-! ### Tokens that begin a value -/

/-- Where the value that is expected may be left out before a token. -/
def allowsNothing (stack : List Open) (t : Token) : Bool :=
  match stack with
  | [] => false
  | o :: _ =>
    match o.frame, t with
    | .blockList _, .entry => true
    | .blockList _, .blockEnd => true
    | .bareList _, .entry => true
    | .bareList _, .key => true
    | .bareList _, .value => true
    | .bareList _, .blockEnd => true
    | .blockMap _ _, .key => true
    | .blockMap _ _, .value => true
    | .blockMap _ _, .blockEnd => true
    | .flowMap _ .inKey, .value => true
    | .flowMap _ .inKey, .comma => true
    | .flowMap _ .inKey, .closeMap => true
    | .flowMap _ (.inValue _), .comma => true
    | .flowMap _ (.inValue _), .closeMap => true
    | .pair (.inValue _), .comma => true
    | .pair (.inValue _), .closeList => true
    | _, _ => false

/-- The token takes the place of the key of a single field. -/
def replacesKey (stack : List Open) (t : Token) : Bool :=
  match stack, t with
  | ⟨.pair .inKey, _, _⟩ :: _, .value => true
  | ⟨.pair .inKey, _, _⟩ :: _, .comma => true
  | ⟨.pair .inKey, _, _⟩ :: _, .closeList => true
  | _, _ => false

/-- A token that begins no value where one is expected. -/
def nothing? (g : Gathering) (p : Properties) (t : Token) : Option Gathering :=
  if p.isEmpty && replacesKey g.stack t then some (g.complete .nothing)
  else if !p.isEmpty || allowsNothing g.stack t then (g.scalar p [] true).resume? t
  else none

def tagText? (g : Gathering) (handle suffix : List Char) : Option String :=
  if handle.isEmpty then some (String.ofList suffix)
  else
    let usual := [(['!'], ['!']), (['!', '!'], "tag:yaml.org,2002:".toList)]
    ((g.handles ++ usual).lookup handle).map fun start => String.ofList (start ++ suffix)

/-- A token where a value is expected. -/
def node? (g : Gathering) (kind : Kind) (p : Properties) (t : Token) : Option Gathering :=
  match t with
  | .scalar text isPlain => some (g.scalar p text isPlain)
  | .repeated name =>
    if p.isEmpty then
      (g.anchors.lookup name).map fun number => g.complete (.repeated number)
    else g.nothing? p t
  | .anchor name =>
    if p.anchor?.isNone then some { g with place := .node kind { p with anchor? := some name } }
    else g.nothing? p t
  | .tag handle suffix =>
    if p.tag?.isNone then
      (g.tagText? handle suffix).map fun tag =>
        { g with place := .node kind { p with tag? := some tag } }
    else g.nothing? p t
  | .openList => some (g.enter p (.flowList []) .first)
  | .openMap => some (g.enter p (.flowMap [] .between) .first)
  | .blockList =>
    if kind = .flow then g.nothing? p t else some (g.enter p (.blockList []) .after)
  | .blockMap =>
    if kind = .flow then g.nothing? p t else some (g.enter p (.blockMap [] .between) .after)
  | .entry =>
    if kind = .field then some (g.enter p (.bareList []) (.node .block {})) else g.nothing? p t
  | t => g.nothing? p t

/-- A token where an item or a field in brackets may begin. -/
def flow? (g : Gathering) (t : Token) : Option Gathering :=
  match g.stack with
  | ⟨.flowList _, _, _⟩ :: _ =>
    match t with
    | .closeList => some g.close
    | .key => some (g.enter {} (.pair .inKey) (.node .flow {}))
    | t => g.node? .flow {} t
  | ⟨.flowMap fields _, _, _⟩ :: _ =>
    match t with
    | .closeMap => some g.close
    | .key => some (g.expect (.flowMap fields .inKey) .flow)
    | t => (g.expect (.flowMap fields .inLoneKey) .flow).node? .flow {} t
  | _ => none

/-- A token before the document. -/
def start? (g : Gathering) (version tags : Bool) (t : Token) : Option Gathering :=
  match t with
  | .version major minor =>
    if version || major != 1 || !(minor == 1 || minor == 2) then none
    else some { g with place := .start true tags }
  | .tagStart handle start =>
    if (g.handles.lookup handle).isSome then none
    else some { g with place := .start version true, handles := (handle, start) :: g.handles }
  | .documentStart => some { g with place := .content }
  | t => if version || tags then none else g.node? .block {} t

/-- A token behind the mark that begins the document. -/
def content? (g : Gathering) (t : Token) : Option Gathering :=
  match t with
  | .version _ _ | .tagStart _ _ | .documentStart | .documentEnd => (g.complete .nothing).resume? t
  | t => g.node? .block {} t

def step? (g : Gathering) (t : Token) : Option Gathering :=
  match g.place with
  | .start version tags => g.start? version tags t
  | .content => g.content? t
  | .node kind p => g.node? kind p t
  | .after => g.after? t
  | .first => g.flow? t
  | .next => g.flow? t
  | .done _ => g.ended? t

/-- The value at the end of the text. Without a document there is none. -/
def end? (g : Gathering) : Option (Option Node) :=
  match g.place, g.stack with
  | .start false false, _ => some none
  | .content, _ => some (some .nothing)
  | .node _ p, [] => if p.isEmpty then none else some (some (.scalar "" true p.tag?))
  | .done n, _ => some (some n)
  | _, _ => none

end Gathering

/-- The values of the anchors by number, the last one first. -/
def Gathering.anchored (g : Gathering) : List (Nat × Node) :=
  g.numbers.zipIdx.filterMap fun (number, behind) =>
    (g.values.lookup (g.numbers.length - 1 - behind)).map (number, ·)

def parse? (s : String) : Option (Option Graph) := do
  let tokens ← tokens? s
  let g ← tokens.foldlM Gathering.step? {}
  let root? ← g.end?
  return root?.map fun root => ⟨root, g.anchored⟩

end ClientGen.Data.Yaml
