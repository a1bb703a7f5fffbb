import ClientGen.Execution.Basic
import ClientGen.Tool.Named

/-!
Runs in which the formatter is one of the programs that this library brings along. They stand for
the programs of a system, of which there may be others. Nothing rests on what they do: what is said
about runs is said of any programs.
-/

namespace ClientGen

/-- How many bytes a program can be given that it does not read. -/
def pipeCapacity : Nat := 65536

/-- The variables that a formatter can see. -/
def formatterVariables : List (String × String) :=
  [("PATH", Work.programPath), ("HOME", "/root")]

namespace Program

def find (d : Disk) (command : String) : Except DiskError Tool :=
  if !command.toList.contains '/' && Disk.longestName < command.utf8ByteSize then
    .error .nameTooLong
  else
    let name := String.ofList (encode command)
    (Work.findProgram Tool.named name (Job.start d formatterVariables .empty)).1

/-- Runs a program of this library. One that ends is expected to have read its input, as far as that
does not fit into a pipe. -/
def run : Runner := fun p input d =>
  match find d p.command with
  | .error e => .error e d
  | .ok tool =>
    let arguments := p.args.map fun a => String.ofList (encode a)
    let (status, job) := tool arguments (Job.start d formatterVariables input)
    let ended : Ended :=
      { status
        output := job.written 1
        complaints := job.written 2
        refusal? := if pipeCapacity < job.unread 0 then some .brokenPipe else none }
    .ok ended { job.disk with current := d.current }

def formatter : Program → Formatter := formatterBy run

end Program

def Configuration.generate (config : Configuration) (faults : Faults) :
    List Spec.Resource → Disk → Outcome Report :=
  config.generateWith Program.formatter faults

def Command.execute (faults : Faults) (environment : String → Option String) (command : Command) :
    Disk → Execution :=
  command.executeWith Program.formatter faults environment

end ClientGen
