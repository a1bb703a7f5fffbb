import ClientGen.Tool.Shell.Command
import ClientGen.Tool.Shell.Signal
import ClientGen.Tool.Start

/-!
A shell at work: its variables, what it knows of its script, and the job that it does. An action of
a shell changes all that, and may leave what is around it.
-/

namespace ClientGen

namespace Shell

/-- A variable. -/
structure Binding where
  value? : Option String
  /-- Programs can see it. -/
  isExported : Bool := false
  isFixed : Bool := false

/-- Why a shell does not go on with the next command. -/
inductive Flow where
  /-- So many loops are left, or the last of them goes on with its next round. -/
  | leave (count : Nat) (goesOn : Bool)
  | back (code : Nat)
  /-- The shell ends. -/
  | done (status : ExitStatus) (isReplaced : Bool)
  /-- A signal ends the outermost shell. -/
  | killed (signal : Nat)

end Shell

open Shell in
structure Shell where
  job : Job
  isRich : Bool
  /-- What it is called. -/
  name : String
  /-- The number of its process. -/
  number : Nat
  /-- The line of the command that it is at. -/
  line : Nat := 1
  /-- The command of its own that it is at. -/
  builtin? : Option String := none
  parameters : List String := []
  bindings : List (String × Binding) := []
  functions : List (String × Command) := []
  /-- The texts below commands, by number. -/
  texts : List (Nat × List Piece) := []
  nextText : Nat := 0
  /-- How the last command ended. -/
  status : Nat := 0
  /-- How the last script ended that stood for what it prints. -/
  outputStatus : Nat := 0
  options : List Char := []
  /-- A pipeline fails if any of its commands does. -/
  minds : Bool := false
  /-- What is done about signals. -/
  traps : List (Nat × String) := []
  /-- What variables were before they became those of a function, one list for each function. -/
  hidden : List (List (String × Option Binding)) := []
  loops : Nat := 0
  /-- It decides about something how the command ends. -/
  isTested : Bool := false
  /-- Nothing comes behind the command. -/
  isLast : Bool := false
  /-- It is a part of another shell. -/
  isApart : Bool := false
  /-- How commands ended that ran beside others, last one first. -/
  besides : List Nat := []

abbrev Act := ExceptT Shell.Flow (StateM Shell)

namespace Shell

def has (s : Shell) (option : Char) : Bool := s.options.contains option

def optionLetters (s : Shell) : String :=
  String.ofList (if s.isRich then
      "abefhkmnptuvxBCEHPTc".toList.filter fun c => s.has c || ['h', 'B', 'c'].contains c
    else "ubaCEVvxsnmiIfe".toList.filter s.has)

def value? (s : Shell) (name : String) : Option String := (s.bindings.lookup name).bind (·.value?)

/-- The variables that programs can see. -/
def environment (s : Shell) : List (String × String) :=
  s.bindings.filterMap fun b => if b.2.isExported then b.2.value?.map (b.1, ·) else none

def bind (s : Shell) (name : String) (binding : Binding) : Shell :=
  if s.bindings.any (·.1 == name) then
    { s with bindings := s.bindings.map fun b => if b.1 == name then (name, binding) else b }
  else { s with bindings := s.bindings ++ [(name, binding)] }

def title (s : Shell) : String :=
  s.name ++ ": " ++ (if s.isRich then "line " else "") ++ toString s.line

/-- The manner in which it does what there are programs for. -/
def manner (s : Shell) : Manner := if s.isRich then .rich s.title else .plain s.title

end Shell

namespace Act

open Shell

def work {α : Type} (w : Work α) : Act α := do
  let s ← get
  let (a, job) := w s.job
  set { s with job }
  return a

def complain (text : String) : Act Unit := do
  let s ← get
  let about := match s.builtin? with
    | some name => ": " ++ name
    | none => ""
  work (Work.complain (s.title ++ about ++ ": " ++ text))

/-- Complains about a command of the shell, which fails. -/
def fail (code : Nat) (text : String) : Act Nat := do
  complain text
  return code

def finish {α : Type} (code : Nat) : Act α := throw (.done (.code (code % 256)) false)

def die {α : Type} (plainCode richCode : Nat) (text : String) : Act α := do
  complain text
  finish (if (← get).isRich then richCode else plainCode)

/-- Does something, and whatever comes of it, mends the state afterwards. The function is given the
state before. -/
def mending {α : Type} (mend : Shell → Shell → Shell) (act : Act α) : Act α := fun s =>
  let (a, after) := act s
  (a, mend s after)

/-- Does something that decides about what is done next. -/
def tested {α : Type} (act : Act α) : Act α := do
  mending (fun before after => { after with isTested := before.isTested }) do
    modify fun s => { s with isTested := true, isLast := false }
    act

/-- Does something behind which there is more to do. -/
def amid {α : Type} (act : Act α) : Act α :=
  mending (fun before after => { after with isLast := before.isLast }) do
    modify fun s => { s with isLast := false }
    act

def assign (name value : String) : Act Unit := do
  let s ← get
  let old := (s.bindings.lookup name).getD { value? := none }
  if old.isFixed then
    if s.isRich then die 1 1 (name ++ ": readonly variable") else die 2 2 (name ++ ": is read only")
  let isExported := old.isExported || s.has 'a'
  set (s.bind name { old with value? := some value, isExported })

/-- A shell of its own does something, and how it ended is told. A signal to the outermost shell is
one to all. Changes of the disk and of what is read and written stay. -/
def inOwnShell (act : Act Unit) : Act ExitStatus := do
  let before ← get
  set { before with
    isApart := true
    isLast := false
    traps := before.traps.filter (·.2.isEmpty)
    loops := 0 }
  let ended : Except Flow Unit ← observing act
  let after ← get
  set { before with
    job := { after.job with
      disk := { after.job.disk with current := before.job.disk.current }
      channels := before.job.channels
      environment := before.job.environment }
    nextText := after.nextText
    texts := after.texts }
  match ended with
  | .ok () => return .code after.status
  | .error (.killed n) => throw (.killed n)
  | .error (.done status _) => return status
  | .error (.back code) => return .code code
  | .error (.leave ..) => return .code after.status
where
  /-- Does something, and tells what would have been left. -/
  observing (act : Act Unit) : Act (Except Flow Unit) := fun s =>
    let (a, after) := act s
    (.ok a, after)

/-- The code for how a program ended. A plain shell says so if a signal ended it. -/
def codeOf (status : ExitStatus) : Act Nat := do
  match status with
  | .code n => return n
  | .signal n =>
    if !(← get).isRich && n != 2 && n != 13 then work (Work.complain (signalDescription n))
    return 128 + n

end Act

end ClientGen
