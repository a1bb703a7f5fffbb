import ClientGen.Template.Expression
import ClientGen.Text.Cut

/-!
From tokens to nodes. A tag that opens a body reads on up to the tag that closes it.
-/

namespace ClientGen.Template

/-- A name that a template may give to a value. -/
def isAssignable (name : String) : Bool :=
  !(["true", "True", "false", "False", "none", "None", "loop", "self"].contains name)

def readName : Read String := do
  let name ← Read.word
  if isAssignable name then return name else throw .badSyntax

def readTargetFields (target : Target) (e : Expr) : Nat → Read Target
  | 0 => throw .badSyntax
  | n + 1 => do
    if ← Read.takeMark .dot then
      let name ← Read.word
      readTargetFields (.field e name) (.field e name) n
    else return target

/-- A target that ends before this token has no further part. -/
def endsTarget : Token → Bool
  | .mark .closeParen | .mark .assign | .closeOutput | .closeTag => true
  | .word s => s == "in"
  | _ => false

/-- Reads a name for a value, perhaps with names of fields behind it. -/
def readPlainTarget (mayBeField : Bool) (fuel : Nat) : Read Target := do
  let name ← readName
  if mayBeField then readTargetFields (.name name) (.name name) fuel else return .name name

/-- Reads targets between commas, behind those that are done, last first. Several are a list, as is
one with a comma behind it. -/
def readTargets (mayBeField : Bool) : Nat → List Target → Read Target
  | 0, _ => throw .badSyntax
  | n + 1, done => do
    if !done.isEmpty then Read.needMark .comma
    if ((← Read.peek?).map endsTarget).getD false then return .list done.reverse
    let target ← if ← Read.takeMark .openParen then do
        let inner ← readTargets mayBeField n []
        Read.needMark .closeParen
        pure inner
      else readPlainTarget mayBeField n
    if ← Read.isMark .comma then readTargets mayBeField n (target :: done)
    else if done.isEmpty then return target
    else return .list (target :: done).reverse

def readTarget (fuel : Nat) : Read Target := do
  if ← Read.takeMark .openParen then
    let target ← readTargets false fuel []
    Read.needMark .closeParen
    return target
  else return .name (← readName)

/-- Reads the values of a body up to the end of the tag. -/
def readValues (fuel : Nat) (isFirst : Bool) : Nat → Read (List (Target × Expr))
  | 0 => throw .badSyntax
  | n + 1 => do
    if ← Read.isTagEnd then return []
    if !isFirst then Read.needMark .comma
    let target ← readTarget fuel
    Read.needMark .assign
    let e ← readExpr fuel
    return (target, e) :: (← readValues fuel false n)

/-- Reads parameters up to the closing bracket. Behind one with a default all have one. -/
def readParams (fuel : Nat) (isFirst hasDefault : Bool) : Nat → Read (List (String × Expr))
  | 0 => throw .badSyntax
  | n + 1 => do
    if ← Read.takeMark .closeParen then return []
    if !isFirst then
      Read.needMark .comma
      if ← Read.takeMark .closeParen then return []
    let name ← readName
    if ← Read.takeMark .assign then
      let e ← readExpr fuel
      return (name, e) :: (← readParams fuel false true n)
    else if hasDefault then throw .badSyntax
    else return (name, .absent) :: (← readParams fuel false false n)

/-- Reads what may be said about the names that another template sees, which changes nothing. -/
def readContextWords : Read Unit := do
  if ← Read.takeWord ["without", "with"] then Read.needWord "context"

/-- Names to load end here. -/
def endsLoads : Read Bool := do
  return (← Read.isTagEnd) || (← Read.isWord ["without", "with"])

/-- Reads names to load, each with the name that it gets here. -/
def readLoads (isFirst : Bool) : Nat → Read (List (String × String))
  | 0 => throw .badSyntax
  | n + 1 => do
    if ← endsLoads then return []
    if !isFirst then
      Read.needMark .comma
      if ← endsLoads then return []
    let name ← readName
    let here ← if ← Read.takeWord ["as"] then readName else pure name
    return (name, here) :: (← readLoads false n)

/-- Reads what is behind the expression of an insertion. -/
def readInsertion (e : Expr) : Read Node := do
  readContextWords
  if ← Read.takeWord ["ignore"] then
    Read.needWord "missing"
    readContextWords
    return .insert e true
  else return .insert e false

def readCall (fuel : Nat) : Read (Callee × List Argument) := do
  match ← readExpr fuel with
  | .call callee args => return (callee, args)
  | _ => throw .badSyntax

/-- Begins a block, whose name must be new. -/
def beginBlock (name : String) : Read Unit := do
  let r ← get
  if r.inRoutine || r.blocks.contains name then throw .badSyntax
  set { r with blocks := name :: r.blocks }

/-- A node prints nothing but blanks. -/
def Node.isBlank : Node → Bool
  | .text s => Text.isBlankText s
  | _ => false

/-- Reads the name of a block behind its end, where it may be given again. -/
def endBlock (name : String) : Read Unit := do
  if !(← Read.isTagEnd) then Read.needWord name

/-- Reads a body with the given reader where blocks cannot be. -/
def asRoutine {α : Type} (read : Read α) : Read α := do
  let outer := (← get).inRoutine
  modify fun r => { r with inRoutine := true }
  let a ← read
  modify fun r => { r with inRoutine := outer }
  return a

mutual

/-- Reads nodes up to a tag with one of some words, or to the end. The word stays. -/
def readNodes : Nat → List String → Read (List Node)
  | 0, _ => throw .badSyntax
  | fuel + 1, ends => do
    match ← Read.peek? with
    | none => return []
    | some (.text s) =>
      Read.skip
      return .text s :: (← readNodes fuel ends)
    | some .openOutput =>
      Read.skip
      let e ← readExpr fuel
      match ← Read.next with
      | .closeOutput => return .output e :: (← readNodes fuel ends)
      | _ => throw .badSyntax
    | some .openTag =>
      Read.skip
      if ← Read.isWord ends then return []
      let n ← Read.inner (readTag fuel)
      Read.tagEnd
      return n :: (← readNodes fuel ends)
    | some _ => throw .badSyntax

/-- Reads a body behind the end of its tag, up to a word, which is taken. -/
def readBody : Nat → String → Read (List Node)
  | 0, _ => throw .badSyntax
  | fuel + 1, last => do
    Read.tagEnd
    let body ← readNodes fuel [last]
    Read.needWord last
    return body

def readTag : Nat → Read Node
  | 0 => throw .badSyntax
  | fuel + 1 => do
    match ← Read.word with
    | "if" => readIf fuel
    | "for" => return .loop (← readFor fuel)
    | "set" => readSet fuel
    | "with" =>
      let values ← readValues fuel true fuel
      return .scope values (← readBody fuel "endwith")
    | "filter" =>
      let filters ← readFilterChain fuel .body true fuel
      return .filterBody filters (← readBody fuel "endfilter")
    | "autoescape" =>
      let e ← readExpr fuel
      return .escaping e (← readBody fuel "endautoescape")
    | "block" =>
      let name ← Read.word
      beginBlock name
      discard <| Read.takeWord ["scoped"]
      let isRequired ← Read.takeWord ["required"]
      let body ← readBody fuel "endblock"
      endBlock name
      if !isRequired then return .block name body
      if !body.all Node.isBlank then throw .badSyntax
      return .block name [.demand]
    | "extends" => return .extend (← readExpr fuel)
    | "include" => readInsertion (← readExpr fuel)
    | "import" =>
      let e ← readExpr fuel
      Read.needWord "as"
      let name ← Read.word
      readContextWords
      return .load e (.name name)
    | "from" =>
      let e ← readExpr fuel
      Read.needWord "import"
      let names ← readLoads true fuel
      readContextWords
      return .loadNames e names
    | "macro" =>
      let name ← Read.word
      Read.needMark .openParen
      let params ← readParams fuel true false fuel
      return .define (.mk name params (← asRoutine (readBody fuel "endmacro")))
    | "call" =>
      let params ← if ← Read.takeMark .openParen then readParams fuel true false fuel else pure []
      let (callee, args) ← readCall fuel
      return .callWith callee args (.mk "caller" params (← asRoutine (readBody fuel "endcall")))
    | "do" =>
      let (callee, args) ← readCall fuel
      return .perform callee args
    | _ => throw .badSyntax

def readIf : Nat → Read Node
  | 0 => throw .badSyntax
  | fuel + 1 => do
    let condition ← readLevel fuel 1
    Read.tagEnd
    let yes ← readNodes fuel ["endif", "else", "elif"]
    match ← Read.word with
    | "endif" => return .choice condition yes []
    | "elif" => return .choice condition yes [← readIf fuel]
    | _ => return .choice condition yes (← readBody fuel "endif")

def readFor : Nat → Read Loop
  | 0 => throw .badSyntax
  | fuel + 1 => do
    let target ← readTargets false fuel []
    Read.needWord "in"
    let elements ← readLevel fuel 1
    let condition ← if ← Read.takeWord ["if"] then readExpr fuel else pure .absent
    let recursive ← Read.takeWord ["recursive"]
    Read.tagEnd
    let body ← readNodes fuel ["endfor", "else"]
    let empty ← match ← Read.word with
      | "else" => readBody fuel "endfor"
      | _ => pure []
    return .mk target elements condition recursive body empty

/-- Reads an assignment of a value or of the text of a body. -/
def readSet : Nat → Read Node
  | 0 => throw .badSyntax
  | fuel + 1 => do
    if ← Read.isTagEnd then throw .badSyntax
    let target ← readTargets true fuel []
    if (← Read.isTagEnd) || (← Read.isMark .pipe) then
      let filters ← if ← Read.takeMark .pipe then readFilterChain fuel .body true fuel
        else pure .body
      return .assignBody target filters (← readBody fuel "endset")
    Read.needMark .assign
    return .assign target (← readTuple fuel [] fuel)

end

/-- Fuel that suffices for these tokens. -/
def fuelFor (tokens : List Token) : Nat := 20 * tokens.length + 40

def parse (source : String) : Except TemplateError (List Node) :=
  let ts := tokens source
  ((readNodes (fuelFor ts) []).run { tokens := ts }).map Prod.fst

end ClientGen.Template
