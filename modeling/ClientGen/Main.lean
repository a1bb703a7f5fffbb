import ClientGen.Disk.Furnish
import ClientGen.Execution
import ClientGen.Logging.Line

/-!
The program. It puts the files that a command reads on a disk of the library, has the command done
there, and then writes down what has changed. A formatter is one of the programs of this library.
-/

namespace ClientGen

/-- The disk with a file of the system, if there is one. -/
def fetch (d : Disk) (path : String) : IO Disk := do
  try
    return d.putFile path (← IO.FS.readBinFile path)
  catch
    | .inappropriateType .. => return d.putDirectory path
    | _ => return d

/-- The values of the variables of the system that have a name of the list. -/
def fetchVariables (names : List String) : IO (String → Option String) := do
  let values ← names.mapM fun name => return (name, ← IO.getEnv name)
  return fun name => (values.lookup name).join

/-- Writes down what is at a place. -/
def store (place : Place) : Option Disk.Node → IO Unit
  | some .directory => IO.FS.createDirAll (path place)
  | some (.file content) => do
    try IO.FS.removeFile (path place) catch _ => pure ()
    IO.FS.writeBinFile (path place) content
  | _ => pure ()
where
  /-- The path of a place. -/
  path (place : Place) : String := "/" ++ "/".intercalate place.reverse

/-- What is said about arguments that give no command. -/
def usage (e : UsageError) : String :=
  e.name ++ "\nusage: kubegen (generate | plan | validate) --spec PATH [options]"

/-- Does a command on the files of the system. -/
def perform (command : Command) : IO UInt32 := do
  let environment ← fetchVariables
    [formatterVariable, templatesVariable, "KUBEGEN_LOG_LEVEL", "KUBEGEN_LOG_FORMAT",
      "KUBEGEN_LOG_TARGET_FILTER", "RUST_LOG"]
  let start := Disk.ofSystem (Path.names (toString (← IO.currentDir))).reverse Tool.names
  let d ← fetch start command.spec
  let d ← (command.templatePaths environment d).foldlM fetch d
  let execution := command.execute .never environment d
  let logging := Logging.Settings.ofEnvironment environment
  let (filter, complaints) := logging.filter environment
  for line in complaints ++ Event.lines filter logging.format execution.events ++ execution.notes do
    IO.eprintln line
  for change in (Disk.changes d execution.disk).reverse do
    store change.1 change.2
  for line in execution.output do
    IO.println line
  match execution.complaint? with
  | some complaint =>
    IO.eprintln ("Error: " ++ complaint.message)
    return 1
  | none => return 0

end ClientGen

open ClientGen in
def main (arguments : List String) : IO UInt32 := do
  match Command.ofArguments arguments with
  | .ok command => perform command
  | .error e =>
    (if e.exitCode == 0 then IO.println else IO.eprintln) (usage e)
    return e.exitCode.toUInt32
