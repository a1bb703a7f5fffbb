import ClientGen.Tool.Option

/-!
Starting programs: a command is the path of a program, or a name that is looked up in the
directories of programs. Some programs start others.
-/

namespace ClientGen

abbrev ToolTable := String → Option Tool

namespace Work

/-- The directories of programs, if no variable names others. -/
def programPath : String :=
  "/usr/local/cargo/bin:/usr/local/sbin:/usr/local/bin:/usr/sbin:/usr/bin:/sbin:/bin"

def programAt (d : Disk) (tools : ToolTable) (path : String) : Except DiskError Tool :=
  match d.resolve path with
  | .error e => .error e
  | .ok (_, .program name) =>
    match tools name with
    | some tool => .ok tool
    | none => .error .noEntry
  | .ok _ => .error .denied

/-- The paths at which a command may be found. -/
def candidates (environment : List (String × String)) (command : String) : List String :=
  if command.toList.contains '/' then [command]
  else
    let directories := (environment.lookup "PATH").getD programPath
    (Text.cut (· == ':') directories.toList).map fun directory =>
      let directory := String.ofList directory
      if directory.isEmpty then command else Path.join directory command

/-- The program of a command, which learns by which command it was started. -/
def findProgram (tools : ToolTable) (command : String) : Work (Except DiskError Tool) := do
  let j ← get
  let found := (candidates j.environment command).map fun path =>
    programAt j.disk tools (decodeText path)
  if command.isEmpty then return .error .noEntry
  match found.findSome? fun f => f.toOption with
  | some tool =>
    return .ok fun arguments => do
      modify fun j => { j with command }
      tool arguments
  | none =>
    let denied := found.any fun f => match f with
      | .error .denied => true
      | _ => false
    match found with
    | [f] => return f
    | _ => return .error (if denied then .denied else .noEntry)

end Work

namespace Tool

/-- How a program ends that could not start another one. -/
def startFailure (name command : String) (e : DiskError) : Work ExitStatus :=
  Work.fail (if e == .noEntry then 127 else 126)
    (name ++ ": '" ++ command ++ "': " ++ Work.saying e)

def start (tools : ToolTable) (name command : String) : Tool := fun arguments => do
  match ← Work.findProgram tools command with
  | .ok tool => Work.apart (tool arguments)
  | .error e => startFailure name command e

def surroundOptions : OptionTable where
  name := "env"
  letters := [('i', .none), ('u', .needed), ('0', .none), ('v', .none), ('C', .needed),
    ('S', .needed)]
  words := [("ignore-environment", "i", .none), ("unset", "u", .needed), ("null", "0", .none),
    ("chdir", "C", .needed)]
  mixes := false

/-- Starts a command with other variables, or prints them. -/
def surround (tools : ToolTable) : Tool := surroundOptions.program 125 fun o => do
  let isAssignment (s : String) : Bool := s.toList.contains '='
  let (ignores, operands) := match o.operands with
    | "-" :: rest => (true, rest)
    | operands => (o.has "i", operands)
  let assignments := operands.takeWhile isAssignment
  let command := operands.drop assignments.length
  let pair (s : String) : String × String :=
    (String.ofList (s.toList.takeWhile (· != '=')),
      String.ofList ((s.toList.dropWhile (· != '=')).drop 1))
  modify fun j =>
    let old := if ignores then [] else j.environment.filter fun v => !(o.values "u").contains v.1
    { j with
      environment := assignments.foldl (fun vs s =>
        vs.filter (fun v => v.1 != (pair s).1) ++ [pair s]) old }
  match command with
  | [] =>
    for (name, value) in (← get).environment do
      Work.print ((name ++ "=" ++ value).toList ++ [if o.has "0" then '\x00' else '\n'])
    return .code 0
  | command :: arguments => start tools "env" command arguments

def printVariables : Tool := fun arguments => do
  let environment := (← get).environment
  match arguments with
  | [] =>
    for (name, value) in environment do
      Work.print ((name ++ "=" ++ value).toList ++ ['\n'])
    return .code 0
  | names =>
    let mut code := 0
    for name in names do
      match environment.lookup name with
      | some value => Work.print (value.toList ++ ['\n'])
      | none => code := 1
    return .code code

/-- Starts a command behind some options and so many operands. -/
def startBehind (tools : ToolTable) (table : OptionTable) (skipped : Nat) : Tool :=
  table.program 125 fun o => do
    match o.operands.drop skipped with
    | [] => Work.fail 125 (table.complaint "missing operand")
    | command :: arguments => start tools table.name command arguments

/-- The words of an input: blanks part them, and within marks or behind a backslash blanks are
characters of a word. -/
def inputWords : List Char → Option Char → Option (List Char) → List String
  | [], _, word? => word?.toList.map fun w => String.ofList w.reverse
  | '\\' :: c :: cs, none, word? => inputWords cs none (some (c :: word?.getD []))
  | c :: cs, some mark, word? =>
    if c == mark then inputWords cs none word?
    else inputWords cs (some mark) (some (c :: word?.getD []))
  | c :: cs, none, word? =>
    if c == '\'' || c == '"' then inputWords cs (some c) (some (word?.getD []))
    else if c.isWhitespace then
      match word? with
      | some w => String.ofList w.reverse :: inputWords cs none none
      | none => inputWords cs none none
    else inputWords cs none (some (c :: word?.getD []))

/-- Parts of a list, each with so many items. The first argument bounds their number. -/
def chunks {α : Type} (size : Nat) : Nat → List α → List (List α)
  | 0, _ => []
  | n + 1, xs => if xs.isEmpty then [] else xs.take size :: chunks size n (xs.drop size)

/-- The options for starting a command with words of the input. -/
def applyOptions : OptionTable where
  name := "xargs"
  letters := [('0', .none), ('n', .needed), ('I', .needed), ('r', .none), ('t', .none),
    ('L', .needed), ('d', .needed), ('P', .needed), ('s', .needed), ('x', .none)]
  words := [("null", "0", .none), ("max-args", "n", .needed), ("no-run-if-empty", "r", .none),
    ("replace", "I", .optional), ("delimiter", "d", .needed)]
  mixes := false

/-- A text with another one in the place of a third one. -/
def replaceIn (old new : List Char) : Nat → List Char → List Char
  | 0, cs => cs
  | n + 1, cs =>
    match cs with
    | [] => []
    | c :: rest =>
      if !old.isEmpty && old.isPrefixOf cs then new ++ replaceIn old new n (cs.drop old.length)
      else c :: replaceIn old new n rest

def applyToInput (tools : ToolTable) : Tool := applyOptions.program 1 fun o => do
  let input ← Work.readAll 0
  let delimiter? := if o.has "0" then some '\x00' else match (o.value? "d").map String.toList with
    | some ['\\', 'n'] => some '\n'
    | some (c :: _) => some c
    | _ => none
  let words := match delimiter?, o.value? "I" with
    | some c, _ => (bareLines c input).map String.ofList
    | none, some _ => ((bareLines '\n' input).filterMap fun line =>
        let line := line.dropWhile fun c => c == ' ' || c == '\t'
        if line.isEmpty then none else some (String.ofList line))
    | none, none => inputWords input none none
  let (command, fixed) := match o.operands with
    | [] => ("echo", [])
    | command :: fixed => (command, fixed)
  let calls := match o.value? "I" with
    | some mark => words.map fun w => fixed.map fun s =>
      String.ofList (replaceIn mark.toList w.toList (s.length + 1) s.toList)
    | none =>
      match ((o.value? "n").or (o.value? "L")).bind String.toNat? with
      | some size => (chunks (max 1 size) (words.length + 1) words).map (fixed ++ ·)
      | none => if words.isEmpty && o.has "r" then [] else [fixed ++ words]
  let calls := if calls.isEmpty && !o.has "r" && (o.value? "I").isNone then [fixed] else calls
  let mut code := 0
  for arguments in calls do
    match ← Work.findProgram tools command with
    | .error e =>
      let failing := if e == .noEntry then 127 else 126
      return ← Work.fail failing ("xargs: " ++ command ++ ": " ++ Work.saying e)
    | .ok tool =>
      match ← Work.apart (tool arguments) with
      | .code 0 => pure ()
      | .code 255 => return .code 124
      | .code _ => code := 123
      | .signal _ => return .code 125
  return .code code

def idle (code : Nat) : Tool := fun _ => return .code code

/-- Waits for some time, which takes none here. -/
def sleep : Tool := fun arguments => do
  let isTime (s : String) : Bool :=
    let cs := s.toList.takeWhile fun c => c.isDigit || c == '.'
    !cs.isEmpty && ["", "s", "m", "h", "d"].contains (String.ofList (s.toList.drop cs.length))
  let about := "\nTry 'sleep --help' for more information."
  if arguments.isEmpty then return ← Work.fail 1 ("sleep: missing operand" ++ about)
  match arguments.find? fun s => !isTime s with
  | some word => Work.fail 1 ("sleep: invalid time interval '" ++ word ++ "'" ++ about)
  | none => return .code 0

end Tool

end ClientGen
