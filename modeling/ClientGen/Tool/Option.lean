import ClientGen.Tool.Job

/-!
The options of programs. An option is a letter behind a dash, or a word behind two dashes of which
the beginning is enough, and it may have a value. Shells do some things by themselves that others
leave to programs, and each of them takes arguments and complains in its own manner.
-/

namespace ClientGen

/-- What stands behind an option. -/
inductive OptionValue where
  | none
  | needed
  /-- A value directly behind the option. -/
  | optional
  deriving DecidableEq

/-- The options that a program knows. -/
structure OptionTable where
  /-- What the program is called. -/
  name : String
  letters : List (Char × OptionValue)
  /-- The words, each with the letter or word that means the same. -/
  words : List (String × String × OptionValue)
  /-- Options may stand behind operands. -/
  mixes : Bool := true

/-- Options with their values, and operands. -/
structure Options where
  options : List (String × Option String) := []
  operands : List String := []

namespace Options

def has (o : Options) (name : String) : Bool := o.options.any (·.1 == name)

def value? (o : Options) (name : String) : Option String :=
  (o.options.reverse.lookup name).bind id

def values (o : Options) (name : String) : List String :=
  o.options.filterMap fun p => if p.1 == name then p.2 else none

def give (o : Options) (name : String) (value? : Option String) : Options :=
  { o with options := (name, value?) :: o.options }

end Options

namespace OptionTable

variable (t : OptionTable)

/-- The words that begin like a text. The whole word is meant even if others begin with it. -/
def wordsLike (text : String) : List (String × String × OptionValue) :=
  match t.words.filter fun w => w.1 == text with
  | [] => t.words.filter fun w => text.toList.isPrefixOf w.1.toList
  | exact => exact

def readWord (text : List Char) (more : List String) :
    Except String (String × Option String × List String) :=
  let word := String.ofList (text.takeWhile (· != '='))
  let value? := if text.contains '=' then some (String.ofList ((text.dropWhile (· != '=')).drop 1))
    else none
  match t.wordsLike word with
  | [] => .error ("unrecognized option '--" ++ String.ofList text ++ "'")
  | (full, name, needs) :: others =>
    if others.any fun w => w.2.1 != name then
      .error ("option '--" ++ String.ofList text ++ "' is ambiguous; possibilities:"
        ++ String.join (((full, name, needs) :: others).map fun w => " '--" ++ w.1 ++ "'"))
    else
      match needs, value?, more with
      | .none, some _, _ => .error ("option '--" ++ full ++ "' doesn't allow an argument")
      | .needed, none, value :: more => .ok (name, some value, more)
      | .needed, none, [] => .error ("option '--" ++ full ++ "' requires an argument")
      | _, value?, more => .ok (name, value?, more)

def readLetters (more : List String) :
    List Char → Except String (List (String × Option String) × List String)
  | [] => .ok ([], more)
  | c :: cs =>
    let name := c.toString
    match t.letters.lookup c, cs, more with
    | none, _, _ => .error ("invalid option -- '" ++ name ++ "'")
    | some .none, cs, more =>
      (readLetters more cs).map fun r => ((name, none) :: r.1, r.2)
    | some .optional, [], more => .ok ([(name, none)], more)
    | some .needed, [], value :: more => .ok ([(name, some value)], more)
    | some .needed, [], [] => .error ("option requires an argument -- '" ++ name ++ "'")
    | some _, cs, more => .ok ([(name, some (String.ofList cs))], more)

/-- Reads arguments. Behind two dashes there are operands only. The first argument bounds their
number. -/
def readWithin : Nat → List String → Except String Options
  | 0, _ => .ok {}
  | _, [] => .ok {}
  | n + 1, argument :: more =>
    match argument.toList with
    | ['-', '-'] => .ok { operands := more }
    | '-' :: '-' :: word => do
      let (name, value?, more) ← t.readWord word more
      return (← readWithin n more).give name value?
    | '-' :: c :: cs => do
      let (found, more) ← t.readLetters more (c :: cs)
      return found.foldr (fun f o => o.give f.1 f.2) (← readWithin n more)
    | _ =>
      if t.mixes then (readWithin n more).map fun o => { o with operands := argument :: o.operands }
      else .ok { operands := argument :: more }

def read (arguments : List String) : Except String Options :=
  t.readWithin (arguments.length + 1) arguments

def remark (what : String) : String := t.name ++ ": " ++ what

def complaint (what : String) : String :=
  t.remark what ++ "\nTry '" ++ t.name ++ " --help' for more information."

/-- A program with these options, which ends badly if it is asked for others. -/
def program (code : Nat) (run : Options → Work ExitStatus) : Tool := fun arguments =>
  match t.read arguments with
  | .ok o => run o
  | .error what => Work.fail code (t.complaint what)

end OptionTable

namespace Work

/-- Reads operands one after the other, or the input if there are none, and complains about those
that cannot be read. -/
def readOperands (about : String → String) (operands : List String) :
    Work (List (String × List Char) × Bool) := do
  let mut found := []
  let mut complete := true
  for operand in if operands.isEmpty then ["-"] else operands do
    match ← readOperand operand with
    | .ok cs => found := (operand, cs) :: found
    | .error e =>
      complain (about operand ++ ": " ++ saying e)
      complete := false
  return (found.reverse, complete)

def overEachOperand (about : String → String) (operands : List String)
    (f : List Char → List Char) : Work ExitStatus := do
  let (found, complete) ← readOperands about operands
  print (found.flatMap fun operand => f operand.2)
  return .code (if complete then 0 else 1)

/-- Prints what a function makes of all operands one behind the other. -/
def overOperands (about : String → String) (operands : List String)
    (f : List Char → List Char) : Work ExitStatus := do
  let (found, complete) ← readOperands about operands
  print (f (found.map Prod.snd).flatten)
  return .code (if complete then 0 else 1)

end Work

/-- The manner of a program that does something. -/
inductive Manner where
  /-- A plain shell does it. Its complaints begin with the text. -/
  | plain (name : String)
  /-- A richer shell does it. -/
  | rich (name : String)
  /-- It is a program of its own. -/
  | alone

namespace Manner

/-- What stands before the complaint of a tool. -/
def about (m : Manner) (tool : String) : String :=
  match m with
  | plain name | rich name => name ++ ": " ++ tool ++ ": "
  | alone => tool ++ ": "

/-- A plain shell does it. -/
def isPlain : Manner → Bool
  | plain _ => true
  | _ => false

end Manner

end ClientGen
