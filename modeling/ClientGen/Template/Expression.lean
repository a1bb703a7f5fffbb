import ClientGen.Template.Basic
import ClientGen.Template.Token

/-!
Reading expressions from tokens. Every reader takes what it needs from the front of the tokens.
Operators of one level group to the left. Fields, items and calls belong to the name, literal or
bracket before them, with a minus sign that stands before it; filters and tests belong to all that,
so that they bind closer than any operator.

The readers call each other with ever less fuel. Between two tokens only a bounded number of calls
can follow each other, so fuel in proportion to the tokens is never used up.
-/

namespace ClientGen.Template

/-- What a reader of tokens knows. -/
structure Reader where
  tokens : List Token
  /-- How many expressions and tags are being read, one inside the other. -/
  depth : Nat := 0
  /-- The blocks so far. -/
  blocks : List String := []
  /-- Inside of a body with parameters. -/
  inRoutine : Bool := false

abbrev Read := StateT Reader (Except TemplateError)

namespace Read

/-- The token at the front, if there is one. -/
def peek? : Read (Option Token) := do
  match (← get).tokens with
  | [] => return none
  | .bad e :: _ => throw e
  | t :: _ => return some t

def skip : Read Unit :=
  modify fun r => { r with tokens := r.tokens.tail }

/-- Takes the token at the front, which must be there. -/
def next : Read Token := do
  match ← peek? with
  | none => throw .badSyntax
  | some t =>
    skip
    return t

def isMark (m : Mark) : Read Bool := do
  match ← peek? with
  | some (.mark n) => return m == n
  | _ => return false

/-- The token at the front is one of these words. -/
def isWord (words : List String) : Read Bool := do
  match ← peek? with
  | some (.word s) => return words.contains s
  | _ => return false

def isTagEnd : Read Bool := do
  match ← peek? with
  | some .closeTag => return true
  | _ => return false

/-- Takes a mark, if it is at the front. -/
def takeMark (m : Mark) : Read Bool := do
  if ← isMark m then
    skip
    return true
  else return false

def takeWord (words : List String) : Read Bool := do
  if ← isWord words then
    skip
    return true
  else return false

def needMark (m : Mark) : Read Unit := do
  if !(← takeMark m) then throw .badSyntax

def needWord (word : String) : Read Unit := do
  if !(← takeWord [word]) then throw .badSyntax

/-- Takes any word, which must be at the front. -/
def word : Read String := do
  match ← next with
  | .word s => return s
  | _ => throw .badSyntax

/-- Takes the end of a tag, which must be at the front. -/
def tagEnd : Read Unit := do
  match ← next with
  | .closeTag => return
  | _ => throw .badSyntax

/-- How many expressions and tags may be inside each other. -/
def depthLimit : Nat := 150

/-- Takes the texts in quotes at the front and puts them behind another one. What is no token there
ends what can be read. -/
def quotedMore (s : String) : Nat → Read String
  | 0 => return s
  | n + 1 => do
    match (← get).tokens with
    | .quoted t :: rest =>
      modify fun r => { r with tokens := rest }
      quotedMore (s ++ t) n
    | .bad _ :: _ =>
      modify fun r => { r with tokens := [] }
      return s
    | _ => return s

/-- Takes words between points, which must be at the front. -/
def path (s : String) : Nat → Read String
  | 0 => return s
  | n + 1 => do
    if ← takeMark .dot then path (s ++ "." ++ (← word)) n else return s

/-- Takes the name of a filter or a test: words between points. -/
def qualified (fuel : Nat) : Read String := do path (← word) fuel

/-- Reads something inside what is being read. -/
def inner {α : Type} (read : Read α) : Read α := do
  let depth := (← get).depth + 1
  if depth > depthLimit then throw .badSyntax
  modify fun r => { r with depth }
  let a ← read
  modify fun r => { r with depth := depth - 1 }
  return a

end Read

/-! ### Operators -/

/-- The operators that bind at a level, from the loosest one to the tightest one. -/
def operatorAt? (level : Nat) : Token → Option Operator
  | .word s =>
    if level == 1 && s == "or" then some .or
    else if level == 2 && s == "and" then some .and
    else none
  | .mark m =>
    match level, m with
    | 5, .plus => some .plus
    | 5, .minus => some .minus
    | 6, .tilde => some .join
    | 7, .times => some .times
    | 7, .over => some .over
    | 7, .into => some .into
    | 7, .modulo => some .modulo
    | 8, .power => some .power
    | _, _ => none
  | _ => none

/-- The level of negations, which is between that of `and` and that of comparisons. -/
def negationLevel : Nat := 3

def comparisonLevel : Nat := 4

/-- The level of signs, fields, calls and filters. -/
def unaryLevel : Nat := 9

/-- The relation at the front, which is taken. -/
def relation? : Read (Option Relation) := do
  let found ← match ← Read.peek? with
    | some (.mark m) =>
      pure ([(Mark.equal, Relation.equal), (.unequal, .unequal), (.less, .less),
        (.atMost, .atMost), (.greater, .greater), (.atLeast, .atLeast)].lookup m)
    | some (.word "in") => pure (some .within)
    | some (.word "not") => pure (some .notWithin)
    | _ => pure none
  if found.isSome then Read.skip
  if found == some .notWithin then Read.needWord "in"
  return found

/-- The expression that a word is by itself. -/
def wordExpr (word : String) : Expr :=
  if word == "true" || word == "True" then .literal (.bool true)
  else if word == "false" || word == "False" then .literal (.bool false)
  else if word == "none" || word == "None" then .literal .none
  else .name word

/-- What is called if arguments stand behind an expression. -/
def calleeOf : Expr → Callee
  | .name s => .function s
  | .field (.name s) name => if s == "self" then .block name else .method (.name s) name
  | .field e name => .method e name
  | e => .value e

/-- An argument of a test without brackets may begin here. -/
def beginsArgument : Token → Bool
  | .word s => !(["and", "or", "else", "is"].contains s)
  | .quoted _ | .int _ | .float _ => true
  | .mark m => m == .minus || m == .openBracket || m == .openBrace
  | _ => false

/-- The argument that an expression is behind others, last first. A name before an equals sign gives
`value?` the name of the argument. -/
def argumentOf (done : List Argument) (e : Expr) (value : Read Expr) : Read Argument := do
  match e with
  | .name s =>
    if ← Read.takeMark .assign then return .named s (← value)
  | _ => pure ()
  if hasNamed done then throw .badSyntax
  return .plain e

mutual

def readExpr : Nat → Read Expr
  | 0 => throw .badSyntax
  | fuel + 1 => Read.inner do readChoices fuel (← readLevel fuel 1)

def readChoices : Nat → Expr → Read Expr
  | 0, _ => throw .badSyntax
  | fuel + 1, e => do
    if ← Read.takeWord ["if"] then
      let condition ← readLevel fuel 1
      let no ← if ← Read.takeWord ["else"] then readExpr fuel else pure .absent
      readChoices fuel (.choice condition e no)
    else return e

/-- Reads an expression whose operators bind at least as tightly as a level. -/
def readLevel : Nat → Nat → Read Expr
  | 0, _ => throw .badSyntax
  | fuel + 1, level => do
    if level == negationLevel then
      if ← Read.takeWord ["not"] then return .negation (← readLevel fuel level)
      else readLevel fuel (level + 1)
    else if level == comparisonLevel then
      let first ← readLevel fuel (level + 1)
      match ← readComparisons fuel with
      | [] => return first
      | rest => return .comparison first rest
    else if level == unaryLevel then
      let e ← readSigned fuel
      readFilters fuel (← readFields fuel e)
    else readOperators fuel level (← readLevel fuel (level + 1))

/-- Reads the operators of a level behind an expression. -/
def readOperators : Nat → Nat → Expr → Read Expr
  | 0, _, _ => throw .badSyntax
  | fuel + 1, level, left => do
    match (← Read.peek?).bind (operatorAt? level) with
    | none => return left
    | some op =>
      Read.skip
      let right ← readLevel fuel (level + 1)
      readOperators fuel level (.binary op left right)

def readComparisons : Nat → Read (List Comparison)
  | 0 => throw .badSyntax
  | fuel + 1 => do
    match ← relation? with
    | none => return []
    | some relation =>
      let right ← readLevel fuel (comparisonLevel + 1)
      return .mk relation right :: (← readComparisons fuel)

/-- Reads a name, a literal or an expression in brackets, behind minus signs. -/
def readSigned : Nat → Read Expr
  | 0 => throw .badSyntax
  | fuel + 1 => do
    if ← Read.takeMark .minus then return .opposite (← readSigned fuel)
    else Read.inner (readPrimary fuel)

/-- Reads a name, a literal or an expression in brackets. -/
def readPrimary : Nat → Read Expr
  | 0 => throw .badSyntax
  | fuel + 1 => do
    match ← Read.next with
    | .word s => return wordExpr s
    | .quoted s => return .literal (.text (← Read.quotedMore s fuel))
    | .int n => return .literal (.int n)
    | .float x => return .literal (.float x)
    | .mark .openBracket => return .list (← readItems fuel .closeBracket true)
    | .mark .openBrace => return .map (← readMap fuel true)
    | .mark .openParen =>
      if ← Read.takeMark .closeParen then return .list []
      let e ← readExpr fuel
      if ← Read.isMark .comma then return .list (e :: (← readItems fuel .closeParen false))
      Read.needMark .closeParen
      return e
    | _ => throw .badSyntax

/-- Reads items up to a closing mark. Before all but the first one there is a comma, and one may
stand behind the last one. -/
def readItems : Nat → Mark → Bool → Read (List Expr)
  | 0, _, _ => throw .badSyntax
  | fuel + 1, close, isFirst => do
    if ← Read.takeMark close then return []
    if !isFirst then
      Read.needMark .comma
      if ← Read.takeMark close then return []
    let e ← readExpr fuel
    return e :: (← readItems fuel close false)

def readMap : Nat → Bool → Read (List (Expr × Expr))
  | 0, _ => throw .badSyntax
  | fuel + 1, isFirst => do
    if ← Read.takeMark .closeBrace then return []
    if !isFirst then
      Read.needMark .comma
      if ← Read.takeMark .closeBrace then return []
    let key ← readExpr fuel
    Read.needMark .colon
    let value ← readExpr fuel
    return (key, value) :: (← readMap fuel false)

/-- Reads the fields, items and calls behind an expression. -/
def readFields : Nat → Expr → Read Expr
  | 0, _ => throw .badSyntax
  | fuel + 1, e => do
    match ← Read.peek? with
    | some (.mark .dot) =>
      Read.skip
      match ← Read.next with
      | .word s => readFields fuel (.field e s)
      | .int n => readFields fuel (.item e (.literal (.int n)))
      | _ => throw .badSyntax
    | some (.mark .openBracket) =>
      Read.skip
      let start ← if ← Read.isMark .colon then pure .absent else readExpr fuel
      if ← Read.takeMark .colon then
        let stop ← readBound fuel
        let step ← if ← Read.takeMark .colon then readBound fuel else pure .absent
        Read.needMark .closeBracket
        readFields fuel (.slice e start stop step)
      else
        Read.needMark .closeBracket
        readFields fuel (.item e start)
    | some (.mark .openParen) =>
      Read.skip
      let args ← readArguments fuel []
      readFields fuel (.call (calleeOf e) args)
    | _ => return e

/-- Reads a bound of a slice, which may be left out. -/
def readBound : Nat → Read Expr
  | 0 => throw .badSyntax
  | fuel + 1 => do
    if (← Read.isMark .colon) || (← Read.isMark .closeBracket) then return .absent
    readExpr fuel

/-- Reads arguments behind those that are done, last first, up to the closing bracket. -/
def readArguments : Nat → List Argument → Read (List Argument)
  | 0, _ => throw .badSyntax
  | fuel + 1, done => do
    if ← Read.takeMark .closeParen then return done.reverse
    if !done.isEmpty then
      Read.needMark .comma
      if ← Read.takeMark .closeParen then return done.reverse
    if ← Read.takeMark .power then
      let e ← readExpr fuel
      readArguments fuel (.fields e :: done)
    else if ← Read.takeMark .times then
      let e ← readExpr fuel
      readArguments fuel (.items e :: done)
    else
      let e ← readExpr fuel
      let arg ← argumentOf done e (readExpr fuel)
      readArguments fuel (arg :: done)

def readFilters : Nat → Expr → Read Expr
  | 0, _ => throw .badSyntax
  | fuel + 1, e => do
    if ← Read.takeMark .pipe then
      let name ← Read.qualified fuel
      let args ← if ← Read.takeMark .openParen then readArguments fuel [] else pure []
      readFilters fuel (.filter e name args)
    else if ← Read.takeWord ["is"] then
      let negated ← Read.takeWord ["not"]
      let name ← Read.qualified fuel
      let args ← if ← Read.takeMark .openParen then readArguments fuel []
        else if ((← Read.peek?).map beginsArgument).getD false then do
          let arg ← readSigned fuel
          pure [.plain (← readFields fuel arg)]
        else pure []
      let test := Expr.test e name args
      readFilters fuel (if negated then .negation test else test)
    else return e

end

/-- Reads filters up to the end of a tag. The first one is applied to `e`. -/
def readFilterChain (fuel : Nat) (e : Expr) (isFirst : Bool) : Nat → Read Expr
  | 0 => throw .badSyntax
  | n + 1 => do
    if (← Read.isTagEnd) && !isFirst then return e
    if !isFirst then Read.needMark .pipe
    let name ← Read.qualified fuel
    let args ← if ← Read.takeMark .openParen then readArguments fuel [] else pure []
    readFilterChain fuel (.filter e name args) false n

/-- Reads expressions between commas up to the end of a tag, behind those that are read, last first.
Several are a list, as is one with a comma behind it. -/
def readTuple (fuel : Nat) (done : List Expr) : Nat → Read Expr
  | 0 => throw .badSyntax
  | n + 1 => do
    if (← Read.isTagEnd) && !done.isEmpty then return .list done.reverse
    let e ← readExpr fuel
    if ← Read.takeMark .comma then readTuple fuel (e :: done) n
    else if done.isEmpty then return e
    else return .list (e :: done).reverse

end ClientGen.Template
