import ClientGen.Arguments
import ClientGen.Document.Load
import ClientGen.Generator

/-!
Doing what the command line asks for: what is printed, what is told, and what is on the disk then.
What the programs that may format are is an argument here.
-/

namespace ClientGen

open Spec

/-- Why a command failed. -/
inductive Complaint where
  /-- A failure, and what was being done. -/
  | failure (context? : Option String) (cause : Failure)
  /-- Issues that were printed already. -/
  | invalid (issues : Nat)
  | unresolved (references : Nat)
  deriving DecidableEq

/-- What is said about a complaint that is not the wording of its cause. -/
def Complaint.context? : Complaint → Option String
  | .failure context? _ => context?
  | .invalid issues => some (toString issues ++ " validation issue(s) in resource specs")
  | .unresolved references => some (toString references ++ " unresolved sub-resource reference(s)")

def Complaint.cause? : Complaint → Option Failure
  | .failure _ cause => some cause
  | _ => none

def Complaint.message (c : Complaint) : String :=
  match c.context?, c.cause? with
  | some context, some cause => context ++ ": " ++ cause.message
  | some context, none => context
  | none, some cause => cause.message
  | none, none => ""

/-- What a command leaves. -/
structure Execution where
  complaint? : Option Complaint
  /-- The lines that are printed. -/
  output : List String
  /-- The lines that are printed for the attention of people. -/
  notes : List String
  disk : Disk
  events : List Event

def issueNotes (issues : List Issue) : List String :=
  ["", "❌ Resource spec validation failed. " ++ toString issues.length ++ " issue(s) found:", ""]
    ++ issues.map Issue.label ++ [""]

def Tree.Dropped.note (d : Tree.Dropped) : String :=
  "⚠️  " ++ d.location.label ++ ": " ++ d.owner.label ++ " references unknown resource "
    ++ d.reference.label

def PlannedFile.line (file : PlannedFile) : String :=
  file.role.template ++ "\t" ++ file.destination

def refuseSpecs (d : Disk) (events : List Event) : Failure → Execution
  | .invalidSpec issues => ⟨some (.invalid issues.length), [], issueNotes issues, d, events⟩
  | e => ⟨some (.failure none e), [], [], d, events ++ [.refused e.message]⟩

def withTree (config : Configuration) (document : Document) (d : Disk)
    (goOn : Tree → Execution) : Execution :=
  let built := config.build document.resources
  match built.result with
  | .error e => refuseSpecs d built.events e
  | .ok t =>
    let execution := goOn t
    { execution with
      events := built.events ++ .loaded t.entries.length t.branches.length :: execution.events }

/-- Prints the planned files, once the templates are known to be good. -/
def printPlan (config : Configuration) (d : Disk) (t : Tree) : Execution :=
  match config.templateSet d >>= TemplateSet.compile with
  | .error e => ⟨some (.failure none e), [], [], d, []⟩
  | .ok _ => ⟨none, t.plan.map PlannedFile.line, [], d, []⟩

/-- Makes the files of a tree and tells how many there are. -/
def generateFiles (launch : Program → Formatter) (faults : Faults) (config : Configuration)
    (d : Disk) (t : Tree) : Execution :=
  match config.generator launch faults d with
  | .error e => ⟨some (.failure none e), [], [], d, []⟩
  | .ok g =>
    let outcome := g.generate t d
    match outcome.result with
    | .error e =>
      ⟨some (.failure (some ("generation into " ++ t.location ++ " failed")) e), [], [],
        outcome.disk, outcome.events⟩
    | .ok report =>
      ⟨none, ["✅ Generated " ++ toString report.written.length ++ " file(s) under " ++ t.location],
        report.dropped.map Tree.Dropped.note, outcome.disk, outcome.events⟩

def validateSpecs (strict : Bool) (d : Disk) (t : Tree) : Execution :=
  let notes := t.dropped.map Tree.Dropped.note
  if strict && !t.dropped.isEmpty then
    ⟨some (.unresolved t.dropped.length), [], notes, d, []⟩
  else
    ⟨none, ["✅ " ++ toString t.entries.length ++ " resource(s) in " ++ toString t.branches.length
      ++ " group-version(s) are valid"], notes, d, []⟩

def Command.configuration (environment : String → Option String) (command : Command)
    (document : Document) : Configuration :=
  Configuration.resolve document.settings command.overrides environment

def Command.executeWith (launch : Program → Formatter) (faults : Faults)
    (environment : String → Option String) (command : Command) (d : Disk) : Execution :=
  match Document.load d command.spec with
  | .error e => ⟨some (.failure none e), [], [], d, []⟩
  | .ok document =>
    let config := command.configuration environment document
    withTree config document d
      (match command with
      | .generate _ _ true => printPlan config d
      | .plan _ _ => printPlan config d
      | .generate _ _ false => generateFiles launch faults config d
      | .validate _ strict => validateSpecs strict d)

/-- The paths of the templates that a command reads, once its document is on the disk. -/
def Command.templatePaths (environment : String → Option String) (command : Command) (d : Disk) :
    List String :=
  match Document.load d command.spec with
  | .error _ => []
  | .ok document =>
    match (command.configuration environment document).templates? with
    | some directory => Role.all.map fun role => Path.join directory role.template
    | none => []

end ClientGen
