import ClientGen.Template.Constant
import ClientGen.Template.Filter
import ClientGen.Template.Machine

/-!
Rendering: the value of an expression and the text of a template. An undefined value is never
printed, tested, compared, looked into or run through.

Expressions and nodes are gone through by their structure. Bodies that stand elsewhere, such as
those of routines, blocks and other templates, are rendered by functions that are handed down; each
of them is one level deeper than what asks for it, and the levels are limited.
-/

namespace ClientGen.Template

/-- What renders bodies that stand elsewhere. -/
structure Bodies where
  /-- All templates by name. -/
  templates : List (String × List Node)
  /-- Renders a body, or the template that it extends. -/
  render : List Node → Run String
  /-- Renders the body of a routine for values of its parameters. -/
  perform : Routine → List Value → Run String
  /-- Renders the body of a loop, at a depth, for the elements of a value. -/
  again : Loop → Nat → Value → Run String

/-! ### Values and frames -/

def stillNow (v : Value) : Run Value := do
  let m ← get
  return m.still (m.cells.size + 1) v

/-- The value as an operand, which is not undefined. -/
def operand : Value → Run Value
  | .undefined => throw .undefined
  | .invalid _ => throw .invalidOperation
  | v => stillNow v

/-- The value of what does not ask the machine. -/
def pureRun {α : Type} (r : Except TemplateError α) : Run α :=
  match r with
  | .ok a => return a
  | .error e => throw e

def truth (v : Value) : Run Bool := return (← operand v).isTrue

/-- A value inside another one, which is undefined if there is none. -/
def lookInto (v : Value) (found : Option Value) : Run Value :=
  match found with
  | some w => return w
  | none => if v.isUndefined then throw .undefined else return .undefined

def newCell (c : Cell) : Run Nat := do
  let m ← get
  set { m with cells := m.cells.push c }
  return m.cells.size

def setLoop (cell : Nat) (l : LoopState) : Run Unit :=
  modify fun m => { m with cells := m.cells.setIfInBounds cell (.loop l) }

/-- Goes as deep as this, if that is allowed. -/
def goDeep (depth : Nat) : Run Unit :=
  if depth > Machine.depthLimit then throw .invalidOperation else return

def inFrame {α : Type} (f : Frame) (run : Run α) : Run α := do
  goDeep (← get).depth
  modify fun m => { m with frames := f :: m.frames }
  let a ← run
  modify fun m => { m with frames := m.frames.tail }
  return a

/-- Renders to a place where the output is kept, or muted. -/
def elsewhere {α : Type} (muted : Bool) (run : Run α) : Run α := do
  let outer := (← get).isMuted
  modify fun m => { m with isMuted := muted }
  let a ← run
  modify fun m => { m with isMuted := outer }
  return a

def emit (v : Value) : Run String := do
  let v ← operand v
  let m ← get
  return if m.isMuted then "" else outputText m.escaping v

/-- A text as a value: one that does not need escapes again where outputs are escaped. -/
def asValue (s : String) : Run Value := return captured (← get).escaping s

/-! ### Functions -/

/-- Numbers from one up to another in steps. -/
def range (args : Arguments) : Result := do
  let first ← Arguments.asInt 64 (← args.known 0)
  let stop? ← args.optionalAs (Arguments.asInt 64) 1
  let step := (← args.optionalAs (Arguments.asInt 64) 2).getD 1
  args.noMore 3
  if step == 0 then throw .invalidOperation
  let start := if stop?.isSome then first else 0
  let stop := stop?.getD first
  let count := if step > 0 then (stop - start + step - 1) / step
    else (start - stop - step - 1) / (-step)
  if count > 100000 then throw .invalidOperation
  return .series ((List.range count.toNat).map fun (n : Nat) => .int (start + step * n)) true

/-- A map with fields of another one and more. -/
def dict (args : Arguments) : Result := do
  let (args, named) := args.split
  let fields ← match args.given 0 with
    | none => pure []
    | some v =>
      match v.fields? with
      | some fields => pure fields
      | none => throw .invalidOperation
  args.noMore 1
  return .map (Value.sortFields (fields ++ named))

/-- Names whose values may be changed. -/
def newNames (args : Arguments) : Run Value := do
  let fields ← pureRun <| do
    args.noMore 1
    match args.given 0 with
    | none => return []
    | some v =>
      match v.fields? with
      | some fields => return fields.filterMap fun f => f.1.text?.map fun name => (name, f.2)
      | none => throw .invalidOperation
  return .names (← newCell (.names fields))

def debug : Arguments → Value
  | [] => .text ""
  | [v] => .text (spelled v)
  | vs => .text (spelled (.list vs))

def callBuiltIn (name : String) (args : Arguments) : Run Value := do
  let args ← args.mapM stillNow
  match name with
  | "range" => pureRun (range args)
  | "dict" => pureRun (dict args)
  | "namespace" => newNames args
  | _ => return debug args

/-! ### Calls -/

def callRoutine (bodies : Bodies) (r : Routine) (callsBack : Bool) (cell : Nat)
    (args : Arguments) : Run Value := do
  let (args, named) := args.split
  if args.length > r.params.length then throw .tooManyArguments
  let values ← r.params.zipIdx.mapM fun (param, place) =>
    match args[place]?, Value.lookup (.text param.1) named with
    | some _, some _ => throw .tooManyArguments
    | some v, none | none, some v => return v
    | none, none => return .undefined
  let caller := if callsBack then ["caller"] else []
  pureRun (Arguments.onlyNamed named (r.params.map Prod.fst ++ caller))
  let m ← get
  goDeep (m.depth + 5)
  let locals := caller.map fun name => (name, (Value.lookup (.text name) named).getD .undefined)
  set { frames := [{ locals, outer? := some cell }], outside := m.depth + 4,
        cells := m.cells, escaping := m.escaping : Machine }
  let text ← bodies.perform r values
  modify fun inner => { m with cells := inner.cells }
  asValue text

/-- Repeats a loop for the elements of the argument. -/
def callAgain (bodies : Bodies) (l? : Option LoopState) (args : Arguments) : Run Value :=
  match args, l? with
  | [v], some l =>
    match l.again? with
    | some loop => do asValue (← elsewhere false (bodies.again loop (l.depth + 1) v))
    | none => throw .invalidOperation
  | _, _ => throw .invalidOperation

def callValue (bodies : Bodies) (v : Value) (args : Arguments) : Run Value := do
  match v with
  | .function name => callBuiltIn name args
  | .routine r callsBack cell => callRoutine bodies r callsBack cell args
  | .running cell => callAgain bodies ((← get).loopIn? cell) args
  | _ => throw .invalidOperation

/-- Asks a loop for one of several values in turn, or whether values are others than before. -/
def callLoop (cell : Nat) (name : String) (args : Arguments) : Run Value := do
  let some l := (← get).loopIn? cell | throw .unknownMethod
  match name with
  | "cycle" => return (args[l.place?.getD 0 % args.length]?).getD .undefined
  | "changed" =>
    let same := match l.seen? with
      | some seen => Value.same (.list seen) (.list args)
      | none => false
    setLoop cell { l with seen? := some args }
    return .bool (!same)
  | _ => throw .unknownMethod

/-- Calls what a value has under a name. -/
def callMethod (bodies : Bodies) (v : Value) (name : String) (args : Arguments) : Run Value := do
  match v with
  | .running cell => callLoop cell name args
  | v =>
    match (← get).field? v name with
    | some f => callValue bodies f args
    | none => throw .unknownMethod

/-- The text of a body of a block, at a level. -/
def renderBlock (bodies : Bodies) (name : String) (b : BlockBodies) : Run String := do
  let outer := (← get).block?
  let setBlock (level : Nat) (block? : Option String) : Run Unit := modify fun m =>
    { m with
      block?
      blocks := m.blocks.map fun c => if c.1 == name then (c.1, { c.2 with level }) else c }
  setBlock b.level (some name)
  let text ← inFrame {} (bodies.render (b.bodies[b.level]?.getD []))
  setBlock (b.level - 1) outer
  return text

/-- The text of a block, unless another template is rendered in the place of this one. -/
def callBlock (bodies : Bodies) (name : String) : Run String := do
  let m ← get
  if m.parent?.isSome || m.isMuted then return ""
  match m.blocks.lookup name with
  | some b => renderBlock bodies name b
  | none => throw .unknownBlock

/-- The text of the body that a block replaces. -/
def callSuper (bodies : Bodies) : Run String := do
  let m ← get
  match m.block?.bind fun name => (m.blocks.lookup name).map fun b => (name, b) with
  | none => throw .invalidOperation
  | some (name, b) =>
    if b.level + 1 ≥ b.bodies.length then throw .invalidOperation
    fun m =>
      (renderBlock bodies name { b with level := b.level + 1 } m).mapError fun _ => .badBlock

def callFunction (bodies : Bodies) (name : String) (args : Arguments) : Run Value := do
  let m ← get
  if name == "super" then
    if !args.isEmpty then throw .invalidOperation
    asValue (← elsewhere false (callSuper bodies))
  else if name == "loop" then callAgain bodies m.loop? args
  else
    match m.lookup? name with
    | some f => callValue bodies f args
    | none => throw .unknownFunction

/-! ### Expressions -/

/-- Two values that hold others are one, if they are found at the same place. -/
def isOneObject (e : Expr) (v : Value) (args : List Argument) (values : Arguments) : Bool :=
  match args, values with
  | [.plain f], [w] => v.isObject && w.isObject && e.isSamePlace f
  | _, _ => false

mutual

def Expr.eval (bodies : Bodies) : Expr → Run Value
  | .absent => return .absent
  | .body => return (← get).captured
  | .literal l => return l.value
  | .name s => return ((← get).lookup? s).getD .undefined
  | .field e name => do
    let v ← e.eval bodies
    lookInto v ((← get).field? v name)
  | .item e index => do
    let v ← e.eval bodies
    let i ← index.eval bodies
    lookInto v ((← get).item? v i)
  | .slice e start stop step => do
    let v ← e.eval bodies
    let start ← start.eval bodies
    let stop ← stop.eval bodies
    let step ← step.eval bodies
    if v.isUndefined then throw .undefined
    pureRun (slice v start stop step)
  | .filter e name args => do
    let v ← e.eval bodies
    let args ← (v :: (← evalArguments bodies args)).mapM stillNow
    pureRun (applyFilter (← get).escaping name args (args.length + 1))
  | .test e name args => do
    let v ← e.eval bodies
    let values ← evalArguments bodies args
    let still ← (v :: values).mapM stillNow
    match test? isFilter name with
    | some test =>
      let holds ← pureRun (test still)
      return .bool (holds || (name == "sameas" && isOneObject e v args values))
    | none => throw .unknownTest
  | .negation e => do return .bool (!(← truth (← e.eval bodies)))
  | .opposite e => do pureRun (opposite (← e.eval bodies))
  | .binary op left right => do
    if let some v := (Expr.binary op left right).constant? then return v
    let v ← left.eval bodies
    match op with
    | .and => if ← truth v then right.eval bodies else return v
    | .or => if ← truth v then return v else right.eval bodies
    | op =>
      let w ← right.eval bodies
      pureRun (op.apply (← operand v) (← operand w))
  | .comparison first rest => do
    let v ← first.eval bodies
    return .bool (← evalComparisons bodies v rest)
  | .choice condition yes no => do
    if ← truth (← condition.eval bodies) then yes.eval bodies else no.eval bodies
  | .list items => return .list (← evalAll bodies items)
  | .map fields => return .map (Value.sortFields (← evalFields bodies fields))
  | .call callee args => callee.call bodies (evalArguments bodies args)

def Callee.call (bodies : Bodies) : Callee → Run Arguments → Run Value
  | .function name, args => do callFunction bodies name (← args)
  | .block name, _ => do asValue (← elsewhere (← get).isMuted (callBlock bodies name))
  | .method e name, args => do
    let v ← e.eval bodies
    callMethod bodies v name (← args)
  | .value e, args => do
    let v ← e.eval bodies
    callValue bodies v (← args)

/-- Whether all comparisons hold, each with the value before it. Behind one that does not hold
nothing is evaluated. -/
def evalComparisons (bodies : Bodies) (v : Value) : List Comparison → Run Bool
  | [] => return true
  | .mk relation right :: rest => do
    let w ← right.eval bodies
    if ← pureRun (relation.holds (← operand v) (← operand w)) then evalComparisons bodies w rest
    else return false

def evalAll (bodies : Bodies) : List Expr → Run (List Value)
  | [] => return []
  | e :: es => do
    let v ← e.eval bodies
    return v :: (← evalAll bodies es)

def evalFields (bodies : Bodies) : List (Expr × Expr) → Run (List (Value × Value))
  | [] => return []
  | (k, e) :: fs => do
    let key ← k.eval bodies
    let v ← e.eval bodies
    return (key, v) :: (← evalFields bodies fs)

def evalArguments (bodies : Bodies) (args : List Argument) : Run Arguments := do
  let plain ← evalPlain bodies args
  let named ← evalNamed bodies args
  return if hasNamed args then plain ++ [.named (Value.sortFields named)] else plain

def evalPlain (bodies : Bodies) : List Argument → Run Arguments
  | [] => return []
  | .plain e :: args => do
    let v ← e.eval bodies
    return v :: (← evalPlain bodies args)
  | .items e :: args => do
    let v ← stillNow (← e.eval bodies)
    let vs ← pureRun (Arguments.elementsOf v .undefined)
    return vs ++ (← evalPlain bodies args)
  | .named _ _ :: args | .fields _ :: args => evalPlain bodies args

def evalNamed (bodies : Bodies) : List Argument → Run (List (Value × Value))
  | [] => return []
  | .named name e :: args => do
    let v ← e.eval bodies
    return (.text name, v) :: (← evalNamed bodies args)
  | .fields e :: args => do
    let v ← operand (← e.eval bodies)
    match v.fields? with
    | some fields => return fields ++ (← evalNamed bodies args)
    | none => throw .invalidOperation
  | .plain _ :: args | .items _ :: args => evalNamed bodies args

end

/-! ### Names and routines -/

mutual

def Target.assign (bodies : Bodies) : Target → Value → Run Unit
  | .name s, v => modify fun m => m.store s v
  | .field e name, v => do
    match ← e.eval bodies with
    | .names cell => modify fun m => m.modifyNames cell (Machine.put name v)
    | _ => throw .invalidOperation
  | .list targets, v => do
    match v.text?, (← stillNow v).elements? with
    | none, some vs =>
      if v.isUndefined || v matches .none || vs.length != targets.length then throw .cannotUnpack
      assignAll bodies targets vs
    | _, _ => throw .cannotUnpack

def assignAll (bodies : Bodies) : List Target → List Value → Run Unit
  | t :: ts, v :: vs => do
    t.assign bodies v
    assignAll bodies ts vs
  | _, _ => return

end

/-- Gives values to parameters, from the last one to the first one. An undefined one becomes the
default. -/
def assignParams (bodies : Bodies) : List (String × Expr) → List Value → Run Unit
  | (name, default) :: params, v :: vs => do
    assignParams bodies params vs
    let v ← match v, default with
      | v, .absent => pure v
      | v, default => if v.isUndefined then default.eval bodies else pure v
    modify fun m => m.store name v
  | _, _ => return

/-- Lets routines that are defined in the innermost frame see names as they are now, and later on
if they change there. -/
def share (names : List String) : Run Nat := do
  let m ← get
  match m.frames with
  | [] => newCell (.names [])
  | f :: fs =>
    let cell ← match f.shared? with
      | some cell => pure cell
      | none => newCell (.names [])
    if names.isEmpty then return cell
    let frames := { f with shared? := some cell } :: fs
    modify fun inner => { inner with frames }
    names.forM fun name => modify fun inner =>
      if ((inner.namesIn cell).lookup name).isSome then inner
      else inner.modifyNames cell (Machine.put name ((m.lookup? name).getD .undefined))
    return cell

def Routine.value (r : Routine) : Run Value := do
  let free := r.freeNames
  return .routine r (free.contains "caller") (← share (free.filter (· != "caller")))

/-! ### Other templates -/

def ownBlocks (nodes : List Node) : List (String × BlockBodies) :=
  (nodesBlocks nodes).map fun b => (b.1, { bodies := [b.2] })

/-- The blocks with those of a template that is more general. -/
def moreBlocks (blocks : List (String × BlockBodies)) (nodes : List Node) :
    List (String × BlockBodies) :=
  (nodesBlocks nodes).foldl (fun blocks (name, body) =>
    if blocks.any (·.1 == name) then
      blocks.map fun b =>
        if b.1 == name then (b.1, { b.2 with bodies := b.2.bodies ++ [body] }) else b
    else (name, { bodies := [body] }) :: blocks) blocks

def renderOther (bodies : Bodies) (nodes : List Node) : Run String := do
  let m ← get
  goDeep (m.depth + 10)
  let share (shared? : Option Nat) (frames : List Frame) : List Frame := match frames with
    | [] => []
    | f :: fs => { f with shared? } :: fs
  set { m with
    outside := m.outside + 10
    escaping := false
    blocks := ownBlocks nodes
    frames := share none m.frames }
  let text ← fun inner => (bodies.render nodes inner).mapError fun _ => .badInclude
  modify fun inner =>
    { inner with
      outside := m.outside
      escaping := m.escaping
      blocks := m.blocks
      extended := m.extended
      frames := share (m.frames.head?.bind Frame.shared?) inner.frames }
  return text

/-- Renders the first of several templates that there is. -/
def renderFirst (bodies : Bodies) (optional : Bool) (tried : Bool) : List Value → Run String
  | [] => if tried && !optional then throw .templateNotFound else return ""
  | v :: vs =>
    match v.text? with
    | none => throw .invalidOperation
    | some name =>
      match bodies.templates.lookup name with
      | some nodes => renderOther bodies nodes
      | none => renderFirst bodies optional true vs

/-- Renders the template of a name, or of the first of several names. -/
def renderNamed (bodies : Bodies) (optional : Bool) (v : Value) : Run String := do
  let v ← stillNow v
  renderFirst bodies optional false (if v.isObject then v.elements?.getD [] else [v])

/-- Renders another template aside, and gives its text and what a function finds. -/
def withNames {α : Type} (name : Run Value) (bodies : Bodies) (find : Machine → α) :
    Run (String × α) :=
  elsewhere false <| inFrame {} do
    let text ← renderNamed bodies false (← name)
    return (text, find (← get))

/-- Lets a template take the place of this one. -/
def extendWith (bodies : Bodies) (v : Value) : Run Unit := do
  let m ← get
  if m.parent?.isSome then throw .invalidOperation
  let some name := v.text? | throw .invalidOperation
  if m.extended.contains name then throw .invalidOperation
  let some nodes := bodies.templates.lookup name | throw .templateNotFound
  set { m with
    parent? := some nodes
    extended := name :: m.extended
    blocks := moreBlocks m.blocks nodes
    isMuted := true }

/-! ### Nodes -/

def renderElements (cell : Nat) (l : LoopState) (body : Value → Run String) :
    Nat → Option Value → List Value → Run String
  | _, _, [] => return ""
  | place, previous?, v :: vs => do
    let seen? := ((← get).loopIn? cell).bind LoopState.seen?
    setLoop cell { l with place? := some place, previous?, next? := vs.head?, seen? }
    if v matches .invalid _ then throw .invalidOperation
    let first ← body v
    return first ++ (← renderElements cell l body (place + 1) (some v) vs)

/-- The elements of a value that a loop runs through, and whether it is known how many there are. -/
def loopElements (v : Value) : Run (List Value × Bool) := do
  let v ← match v with
    | .names _ | .running _ => stillNow v
    | v => pure v
  return (← pureRun (Arguments.elementsOf v .undefined), v.isCounted)

/-- Renders a loop for the elements of a value. Without any it is another body. -/
def renderLoop (again? : Option Loop) (depth : Nat) (body : Value → Run String)
    (empty : Run String) (v : Value) : Run String := do
  let (vs, counted) ← loopElements v
  let l : LoopState := { depth, length? := if counted then some vs.length else none, again? }
  let cell ← newCell (.loop l)
  let text ← inFrame { loop? := some cell } (renderElements cell l body 0 none vs)
  if vs.isEmpty then empty else return text

/-- How deep a loop is that begins here: inside of one that can be repeated it is one of its
repetitions. -/
def nextDepth : Run Nat := do
  match (← get).loop? with
  | some l => return if l.again?.isSome then l.depth + 1 else 0
  | none => return 0

def elementsWhere (assign : Value → Run Unit) (condition : Run Value) (v : Value) : Run Value := do
  let (vs, _) ← loopElements v
  let cell ← newCell (.loop { depth := 0, length? := none })
  let kept ← inFrame { loop? := some cell, namesLoop := false } <| vs.filterM fun v => do
    assign v
    truth (← condition)
  return .list kept

def escapingFor (v : Value) : Except TemplateError Bool :=
  match v.text? with
  | some "html" => .ok true
  | some "none" => .ok false
  | some _ => .error .invalidOperation
  | none => .ok (v.same (.bool true))

mutual

def Node.render (bodies : Bodies) : Node → Run String
  | .text s => return if (← get).isMuted then "" else s
  | .output e => do emit (← e.eval bodies)
  | .choice condition yes no => do
    if ← truth (← condition.eval bodies) then renderAll bodies yes else renderAll bodies no
  | .loop (.mk target elements condition recursive body empty) => do
    let v ← elements.eval bodies
    let v ← match condition with
      | .absent => pure v
      | condition => elementsWhere (target.assign bodies) (condition.eval bodies) v
    let again? :=
      if recursive then some (Loop.mk target elements condition recursive body empty) else none
    renderLoop again? (← nextDepth)
      (fun v => do
        target.assign bodies v
        renderAll bodies body)
      (renderAll bodies empty) v
  | .assign target e => do
    target.assign bodies (← e.eval bodies)
    return ""
  | .assignBody target filters body => do
    let text ← elsewhere false (renderAll bodies body)
    target.assign bodies (← filtered bodies filters text)
    return ""
  | .scope values body =>
    inFrame {} do
      values.forM fun (target, e) => do target.assign bodies (← e.eval bodies)
      renderAll bodies body
  | .filterBody filters body => do
    let text ← elsewhere false (renderAll bodies body)
    emit (← filtered bodies filters text)
  | .escaping e body => do
    let outer := (← get).escaping
    let escaping ← pureRun (escapingFor (← e.eval bodies))
    modify fun m => { m with escaping }
    let text ← renderAll bodies body
    modify fun m => { m with escaping := outer }
    return text
  | .block name _ => callBlock bodies name
  | .demand => throw .invalidOperation
  | .extend e => do
    extendWith bodies (← e.eval bodies)
    return ""
  | .insert e optional => do renderNamed bodies optional (← e.eval bodies)
  | .load e target => do
    let (text, locals) ← withNames (e.eval bodies) bodies fun m =>
      (m.frames.head?.map Frame.locals).getD []
    target.assign bodies
      (.object text (Value.sortFields (locals.map fun f => (.text f.1, f.2))))
    return ""
  | .loadNames e names => do
    let (_, values) ← withNames (e.eval bodies) bodies fun m =>
      names.map fun name => (m.lookup? name.1).getD .undefined
    (names.zip values).reverse.forM fun (name, v) => modify fun m => m.store name.2 v
    return ""
  | .define r => do
    let v ← r.value
    modify fun m => m.store r.name v
    return ""
  | .callWith callee args r => do
    emit (← callee.call bodies do
      let plain ← evalPlain bodies args
      let named ← evalNamed bodies args
      return plain ++ [.named (Value.sortFields (named ++ [(.text "caller", ← r.value)]))])
  | .perform callee args => do
    discard <| callee.call bodies (evalArguments bodies args)
    return ""
where
  /-- The text of a body through filters. -/
  filtered (bodies : Bodies) (filters : Expr) (text : String) : Run Value := do
    let captured ← asValue text
    modify fun m => { m with captured }
    filters.eval bodies

def renderAll (bodies : Bodies) : List Node → Run String
  | [] => return ""
  | n :: ns => do
    let first ← n.render bodies
    return first ++ (← renderAll bodies ns)

end

/-! ### Levels -/

/-- How many levels of bodies there may be. Every level is at least one frame deeper, or renders a
template that is extended. -/
def levelLimit : Nat := 2 * Machine.depthLimit

/-- Renders a body, and behind it the template that takes its place. -/
def renderBody (bodies : Bodies) (nodes : List Node) : Run String := do
  let outer ← get
  set { outer with parent? := none }
  let text ← renderAll bodies nodes
  let inner ← get
  match inner.parent? with
  | none =>
    set { inner with parent? := outer.parent? }
    return text
  | some parent =>
    set { inner with parent? := none, isMuted := outer.isMuted }
    let rest ← bodies.render parent
    modify fun m => { m with parent? := outer.parent? }
    return text ++ rest

/-- What renders bodies, at most some levels deep. -/
def bodiesWithin (templates : List (String × List Node)) : Nat → Bodies
  | 0 => ⟨templates, fun _ => throw .invalidOperation, fun _ _ => throw .invalidOperation,
      fun _ _ _ => throw .invalidOperation⟩
  | level + 1 =>
    { templates
      render := fun nodes m => renderBody (bodiesWithin templates level) nodes m
      perform := fun r values m =>
        (do
          assignParams (bodiesWithin templates level) r.params values
          renderBody (bodiesWithin templates level) r.body : Run String) m
      again := fun l depth v m =>
        match l with
        | .mk target _ _ _ body _ =>
          let bodies := bodiesWithin templates level
          renderLoop (some l) depth
            (fun v => do
              target.assign bodies v
              renderAll bodies body)
            (return "") v m }

def renderTemplate (templates : List (String × List Node)) (name : String)
    (values : List (String × Value)) : Except TemplateError String :=
  match templates.lookup name with
  | none => .error .templateNotFound
  | some nodes =>
    let m : Machine :=
      { frames := [{ base := values }], blocks := ownBlocks nodes, extended := [name] }
    ((bodiesWithin templates levelLimit).render nodes m).map Prod.fst

end ClientGen.Template
