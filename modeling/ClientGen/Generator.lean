import ClientGen.Configuration
import ClientGen.Disk.Write
import ClientGen.Event
import ClientGen.Formatter
import ClientGen.Plan
import ClientGen.Template.Set
import ClientGen.Tree.Build

/-!
From a tree to files on a disk. Every planned file is rendered, formatted and written, either one
after the other or in two passes, of which the second one writes. The first failure ends a run; what
is on the disk then depends on the strategy.
-/

namespace ClientGen

/-- What a run leaves: its result, the disk, and the events on the way. -/
structure Outcome (α : Type) where
  result : Except Failure α
  disk : Disk
  events : List Event

/-- An outcome whose events come behind others. -/
def Outcome.behind {α : Type} (events : List Event) (o : Outcome α) : Outcome α :=
  { o with events := events ++ o.events }

/-- The files written, in order, and the references left out. -/
structure Report where
  written : List String
  dropped : List Tree.Dropped
  deriving DecidableEq

/-- Everything that turns a tree into files. -/
structure Generator where
  templates : TemplateSet
  formatter : Formatter
  mode : WriteMode
  strategy : Strategy
  faults : Faults

namespace Generator

variable (g : Generator)

/-- The final form of the text of a planned file. -/
def format (file : PlannedFile) (text : String) : EStateM Failure Disk String := fun d =>
  match g.formatter.format text d with
  | .ok text d => .ok text d
  | .error e d => .error (.format g.formatter.name file.destination e) d

/-- The final text of a planned file. -/
def produce (c : Compiled) (file : PlannedFile) : EStateM Failure Disk String :=
  match c.render file.role file.context.fields file.destination with
  | .ok text => g.format file text
  | .error e => throw e

def write (file : PlannedFile) (text : String) : EStateM Failure Disk Unit :=
  g.faults.writeFile g.mode file.destination text.toUTF8

/-- What is told before a file is produced. -/
def announcement (file : PlannedFile) : Event :=
  .generating file.role.template file.destination

/-- Writes each file as soon as it is produced. -/
def stream (c : Compiled) : List PlannedFile → Disk → Outcome Unit
  | [], d => ⟨.ok (), d, []⟩
  | file :: rest, d =>
    Outcome.behind [announcement file]
      (match g.produce c file d with
      | .error e d => ⟨.error e, d, []⟩
      | .ok text d =>
        match g.write file text d with
        | .error e d => ⟨.error e, d, []⟩
        | .ok () d => stream c rest d)

/-- Produces every file and writes none. -/
def produceAll (c : Compiled) : List PlannedFile → Disk → Outcome (List String)
  | [], d => ⟨.ok [], d, []⟩
  | file :: rest, d =>
    Outcome.behind [announcement file]
      (match g.produce c file d with
      | .error e d => ⟨.error e, d, []⟩
      | .ok text d =>
        let more := produceAll c rest d
        { more with result := more.result.map (text :: ·) })

def writeAll : List (PlannedFile × String) → EStateM Failure Disk Unit
  | [] => pure ()
  | (file, text) :: rest => do
    g.write file text
    writeAll rest

/-- Writes the files when all of them are produced. -/
def stage (c : Compiled) (files : List PlannedFile) (d : Disk) : Outcome Unit :=
  let produced := g.produceAll c files d
  match produced.result with
  | .error e => ⟨.error e, produced.disk, produced.events⟩
  | .ok texts =>
    let events := produced.events ++ [.rendered files.length]
    match g.writeAll (files.zip texts) produced.disk with
    | .error e d => ⟨.error e, d, events⟩
    | .ok () d => ⟨.ok (), d, events⟩

def emit (files : List PlannedFile) (d : Disk) : Outcome (List String) :=
  match g.templates.compile with
  | .error e => ⟨.error e, d, []⟩
  | .ok c =>
    let outcome := match g.strategy with
      | .streaming => g.stream c files d
      | .staged => g.stage c files d
    { outcome with result := outcome.result.map fun _ => files.map (·.destination) }

def generate (t : Tree) (d : Disk) : Outcome Report :=
  let emitted := g.emit t.plan d
  match emitted.result with
  | .error e => ⟨.error e, emitted.disk, emitted.events⟩
  | .ok written =>
    ⟨.ok ⟨written, t.dropped⟩, emitted.disk,
      emitted.events ++ [.completed written.length t.location]⟩

end Generator

namespace Configuration

variable (launch : Program → Formatter) (config : Configuration)

def templateSet (d : Disk) : Except Failure TemplateSet :=
  match config.templates? with
  | some directory => TemplateSet.load d.readText directory
  | none => .ok .standard

/-- The generator that the settings ask for, where `launch` says what programs are as formatters. -/
def generator (faults : Faults) (d : Disk) : Except Failure Generator :=
  (config.templateSet d).map fun templates =>
    ⟨templates, launch config.formatter, config.mode, config.strategy, faults⟩

def build (specs : List Spec.Resource) : Told (Except Failure Tree) :=
  Tree.buildWith config.strict config.layout specs

/-- Makes the files of some specs. The tree is built and the templates are read before anything is
written. -/
def generateWith (faults : Faults) (specs : List Spec.Resource) (d : Disk) : Outcome Report :=
  let built := config.build specs
  match built.result with
  | .error e => ⟨.error e, d, built.events⟩
  | .ok t =>
    match config.generator launch faults d with
    | .error e => ⟨.error e, d, built.events⟩
    | .ok g => (g.generate t d).behind built.events

end Configuration

end ClientGen
