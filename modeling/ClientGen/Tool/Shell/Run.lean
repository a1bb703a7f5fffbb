import ClientGen.Tool.Pattern.Find
import ClientGen.Tool.Shell.Builtin

/-!
Running shell scripts, command by command. What runs a command is given how to run the commands in
it.
-/

namespace ClientGen.Shell

/-- What is needed to run a command. -/
structure Engine where
  /-- Runs a command within it. -/
  run : Command → Act Unit
  /-- The programs that can be started. -/
  tools : ToolTable

/-- How many rounds a loop has at most, and how many lines a script. -/
def mostRounds : Nat := 10000000

def setStatus (code : Nat) : Act Unit := modify fun s => { s with status := code }

/-- Ends the shell if a command failed and that is asked for. -/
def checkStatus : Act Unit := do
  let s ← get
  if s.has 'e' && s.status != 0 && !s.isTested then throw (.done (.code s.status) false)

/-- Catches the end of a function. -/
def catchingReturn (act : Act Unit) : Act Unit := fun s =>
  match act s with
  | (.error (.back code), after) => (.ok (), { after with status := code })
  | ended => ended

/-- Catches what leaves a loop or goes on with its next round. It is told whether there is to be
one. -/
def catchingLeave (act : Act Bool) : Act Bool := fun s =>
  match act s with
  | (.error (.leave 0 goesOn), after) => (.ok goesOn, { after with status := 0 })
  | (.error (.leave (n + 1) goesOn), after) => (.error (.leave n goesOn), after)
  | ended => ended

/-! ### Wording of faults -/

/-- The wording of what is wrong with a script for a plain shell. -/
def plainWording : SyntaxFault → String
  | .unexpected t expected? =>
    t.title ++ " unexpected" ++ match expected? with
      | some expected => " (expecting " ++ expected ++ ")"
      | none => ""
  | .unclosed "\x7d" => "Missing '\x7d'"
  | .unclosed "))" => "Missing '))'"
  | .unclosed "\x60" => "EOF in backquote substitution"
  | .unclosed _ => "Unterminated quoted string"
  | .other text => text

/-- The lines about what is wrong with a script for a richer shell. -/
def richWording (about : String) (script : List Char) (line : Nat) (fault : SyntaxFault) :
    List String :=
  let lines := Text.cut (· == '\n') script
  let located (n : Nat) : String := about ++ "line " ++ toString n ++ ": "
  match fault with
  | .unexpected .stop _ =>
    [located (bareLines '\n' script).length.succ ++ "syntax error: unexpected end of file"]
  | .unexpected t _ =>
    let n := match t with
      | .newline => line - 1
      | _ => line
    let n := max n 1
    [located n ++ "syntax error near unexpected token \x60" ++ t.written ++ "'",
      located n ++ "\x60" ++ String.ofList (lines.getD (n - 1) []) ++ "'"]
  | .unclosed mark =>
    let line := if mark == ")" then line + 1 else line
    let mark := if mark == "))" then ")" else mark
    [located line ++ "unexpected EOF while looking for matching \x60" ++ mark ++ "'"]
  | .other text => [located line ++ text]

section

variable (e : Engine)

/-! ### Scripts -/

/-- Runs the lines of a script, and tells how the last command ended. The title tells a richer shell
where the script comes from. The first number bounds that of the lines; the second one is what is
told if there are none. -/
def runLines (title : String) (script : List Char) : Nat → Nat → Reader → Act Nat
  | 0, code, _ => return code
  | n + 1, code, r => do
    let s ← get
    let (found, r) := (Read.line.run).run { r with nextText := s.nextText, texts := [] }
    modify fun s => { s with nextText := r.nextText, texts := r.texts ++ s.texts }
    match found with
    | .ok none => return code
    | .ok (some command) =>
      let isOver := (r.chars.dropWhile Char.isWhitespace).isEmpty
      if isOver then e.run command else Act.amid (e.run command)
      let status := (← get).status
      let code := match command with
        | .nothing => code
        | _ => status
      runLines title script n code r
    | .error fault =>
      if s.isRich then
        let about := s.name ++ ": " ++ title
        for line in richWording about script r.line fault do
          Act.work (Work.complain line)
        return 2
      else
        modify fun s => { s with line := r.line }
        Act.die 2 2 ("Syntax error: " ++ plainWording fault)

/-- Runs a script, and tells how its last command ended. -/
def runText (title : String) (script : List Char) : Act Nat := do
  let s ← get
  if s.isRich then set { s with builtin? := none }
  runLines e title script (script.length + 2) 0
    { chars := script, isRich := s.isRich, nextText := s.nextText }

/-- Runs a script that is to be done before the shell goes on, which keeps what it was about. -/
def runAside (script : List Char) : Act Unit := do
  let before ← get
  let _ ← Act.amid (runText e "" script)
  modify fun s => { s with status := before.status, line := before.line }

/-- Does something, and what is to be done at the end of the shell. Only signals to the outermost
shell go through. -/
def concluding (act : Act Unit) : Act ExitStatus := fun s =>
  let (ended, after) := act s
  let atEnd (status : ExitStatus) : Act ExitStatus := do
    let s ← get
    match s.traps.lookup 0 with
    | none => return status
    | some action =>
      let code := match status with
        | .code n => n
        | .signal n => 128 + n
      set { s with
        traps := s.traps.filter (·.1 != 0)
        status := code
        builtin? := none
        isTested := false
        isLast := false
        options := s.options.filter (· != 'e') }
      fun s =>
        match runAside e action.toList s with
        | (.error (.done status _), after) => (.ok status, after)
        | (.error (.killed n), after) => (.error (.killed n), after)
        | (_, after) => (.ok status, after)
  match ended with
  | .ok () => atEnd (.code after.status) after
  | .error (.done status true) => (.ok status, after)
  | .error (.done status false) => atEnd status after
  | .error (.back code) => atEnd (.code code) after
  | .error (.leave ..) => atEnd (.code after.status) after
  | .error (.killed n) =>
    if after.isRich && n != 9 && !after.isApart then
      match atEnd (.signal n) after with
      | (_, after) => (.error (.killed n), after)
    else (.error (.killed n), after)

/-- Runs a command in a shell of its own. -/
def runApart (act : Act Unit) : Act ExitStatus := do
  Act.inOwnShell do
    let status ← concluding e act
    throw (.done status true)

def substitute (script : Command) : Act (List Char) := do
  let n ← newStream (.buffer .empty 0)
  let status ← runApart e do
    lead 1 n
    modify fun s =>
      { s with
        isTested := false
        options := if s.isRich then s.options.filter (· != 'e') else s.options }
    e.run script
  let code ← Act.codeOf status
  modify fun s => { s with outputStatus := code, status := code }
  return ofBytes ((← get).job.written n)

/-! ### Commands for control -/

def codeArgument (arguments : List String) : Act Nat := do
  match arguments with
  | [] => return (← get).status
  | argument :: _ =>
    let s ← get
    match argument.toInt? with
    | some n => if s.isRich then return (n % 256).toNat else wholeArgument argument
    | none => wholeArgument argument

/-- Leaves loops, or goes on with their next round. -/
def leaveLoops (goesOn : Bool) : Builtin := fun arguments => do
  let n ← match arguments with
    | [] => pure 1
    | argument :: _ =>
      if argument == "0" && !(← get).isRich then Act.die 2 2 "Illegal number: 0"
      else wholeArgument argument
  let s ← get
  if s.loops == 0 then
    if s.isRich then
      Act.fail 0 "only meaningful in a \x60for', \x60while', or \x60until' loop"
    else return 0
  else throw (.leave (min n s.loops - 1) goesOn)

def runFile : Builtin := fun arguments => do
  let s ← get
  match arguments.filter (· != "--") with
  | [] =>
    if s.isRich then Act.fail 2 "filename argument required" else Act.die 2 2 "not found"
  | path :: parameters =>
    let environment := [("PATH", (s.value? "PATH").getD "")]
    let paths := Work.candidates environment path ++ if s.isRich then [path] else []
    match paths.findSome? fun p => (s.job.disk.read (decodeText p)).toOption with
    | some content =>
      Act.mending (fun before after =>
          { after with
            name := before.name
            parameters := if before.isRich then before.parameters else after.parameters
            hidden := before.hidden }) do
        if s.isRich then
          modify fun s => { s with name := path, hidden := [] :: s.hidden }
          if !parameters.isEmpty then modify fun s => { s with parameters }
        else modify fun s => { s with builtin? := some path }
        catchingReturn do
          let code ← runText e "" (ofBytes content)
          setStatus code
        return (← get).status
    | none =>
      if s.isRich then
        modify fun s => { s with builtin? := none }
        Act.fail 1 (path ++ ": No such file or directory")
      else if path.toList.contains '/' then Act.die 2 2 ("cannot open " ++ path ++ ": No such file")
      else
        Act.die 2 2 (path ++ ": not found")

def setTraps : Builtin := fun arguments => do
  let s ← get
  let arguments := arguments.filter fun a => a != "--" && !(s.isRich && a == "-p")
  let title (n : Nat) : String := if s.isRich && n != 0 then "SIG" ++ signalName n else signalName n
  let number? := signalNumber? s.isRich
  match arguments with
  | [] =>
    for n in List.range (lastSignal + 1) do
      if let some action := s.traps.lookup n then
        printLine ("trap -- " ++ quotedValue action ++ " " ++ title n)
    return 0
  | first :: rest =>
    let (action?, names) := if rest.isEmpty || (number? first).isSome then (none, arguments)
      else (if first == "-" then none else some first, rest)
    for name in names do
      match number? name with
      | none =>
        if s.isRich then return ← Act.fail 1 (name ++ ": invalid signal specification")
        else
          Act.work (Work.complain ("trap: " ++ name ++ ": bad trap"))
          return 1
      | some n =>
        modify fun s =>
          { s with traps := (action?.map (n, ·)).toList ++ s.traps.filter (·.1 != n) }
    return 0

def receive (n : Nat) : Act Unit := do
  let s ← get
  match if n == 9 || n == 19 || s.isApart then none else s.traps.lookup n with
  | some action => if !action.isEmpty then runAside e action.toList
  | none => if !isIgnored n then throw (.killed n)

/-- Sends a signal to processes, of which there is none but the shell. -/
def sendTo (signal : Nat) : Builtin :=
  overArguments fun text => do
    let s ← get
    let isShell := text == toString s.number || text == "0"
    if isShell then
      receive e signal
      return 0
    else if text.toInt?.isNone then
      if s.isRich then Act.fail 1 (text ++ ": arguments must be process or job IDs")
      else Act.fail 2 ("Illegal number: " ++ text)
    else if s.isRich then Act.fail 1 ("(" ++ text ++ ") - No such process")
    else Act.fail 1 "No such process\n"

/-- Sends a signal, or lists what signals there are. -/
def kill : Builtin := fun arguments => do
  let s ← get
  let usage : Act Nat := do
    if s.isRich then
      Act.work (Work.complain ("kill: usage: kill [-s sigspec | -n signum | -sigspec] pid | jobspec"
        ++ " ... or kill -l [sigspec]"))
      return 2
    else Act.fail 2 ("Usage: kill [-s sigspec | -signum | -sigspec] [pid | job]... or\n"
      ++ "kill -l [exitstatus]")
  let send (signal : Nat) (targets : List String) : Act Nat :=
    if targets.isEmpty then usage else sendTo e signal targets
  match arguments with
  | [] => usage
  | "-l" :: rest =>
    match rest with
    | [] =>
      if !s.isRich then
        for n in List.range (lastSignal + 1) do
          printLine (if n == 0 then "0" else signalName n)
      return 0
    | text :: _ =>
      match text.toNat? with
      | some n =>
        printLine (signalName (if n > 128 then n - 128 else n))
        return 0
      | none => return 0
  | "-s" :: name :: targets | "-n" :: name :: targets =>
    match signalNumber? s.isRich name with
    | some n => send n targets
    | none =>
      if s.isRich then Act.fail 1 (name ++ ": invalid signal specification")
      else Act.fail 2 ("invalid signal number or name: " ++ name)
  | "--" :: targets => send 15 targets
  | first :: rest =>
    match first.toList with
    | '-' :: c :: cs =>
      match signalNumber? s.isRich (String.ofList (c :: cs)) with
      | some n => send n rest
      | none =>
        if s.isRich then Act.fail 1 (String.ofList (c :: cs) ++ ": invalid signal specification")
        else Act.fail 2 ("Illegal option -" ++ c.toString)
    | _ => send 15 (first :: rest)

/-! ### Simple commands -/

/-- Gives variables values for good. -/
def assignAll (assignments : List (String × List Piece)) : Act Unit := do
  for (name, word) in assignments do
    let text ← wordText (substitute e) word
    Act.assign name text

/-- Gives variables values that programs can see while something is done. -/
def assigning (assignments : List (String × List Piece)) (act : Act Unit) : Act Unit := do
  if assignments.isEmpty then act
  else
    Act.mending (fun before after =>
        assignments.foldl (fun s a =>
          match before.bindings.lookup a.1 with
          | some b => s.bind a.1 b
          | none => { s with bindings := s.bindings.filter (·.1 != a.1) }) after) do
      for (name, word) in assignments do
        let text ← wordText (substitute e) word
        Act.assign name text
        modify fun s =>
          s.bind name { ((s.bindings.lookup name).getD { value? := none }) with isExported := true }
      act

def runFunction (arguments : List String) (body : Command) : Act Unit :=
  Act.mending (fun before after =>
      let own := after.hidden.headD []
      let mended := own.foldl (fun s v =>
        match v.2 with
        | some b => s.bind v.1 b
        | none => { s with bindings := s.bindings.filter (·.1 != v.1) }) after
      { mended with
        parameters := before.parameters
        hidden := before.hidden
        loops := before.loops }) do
    modify fun s => { s with parameters := arguments, hidden := [] :: s.hidden, loops := 0 }
    catchingReturn (Act.amid (e.run body))

/-- What is said about a command that there is not, and how it ends. -/
def missing (isRich : Bool) (d : Disk) (command : String) (error : DiskError) : String × Nat :=
  let isMissing := error == .noEntry || error == .notDirectory
  let hasSlash := command.toList.contains '/'
  let isDirectory := hasSlash && d.isDirectory (decodeText command)
  if command.isEmpty then
    if isRich then (": command not found", 127) else (": Permission denied", 127)
  else if isRich then
    if isDirectory then (command ++ ": Is a directory", 126)
    else if isMissing && !hasSlash then (command ++ ": command not found", 127)
    else (command ++ ": " ++ Work.saying error, if isMissing then 127 else 126)
  else if isMissing then (command ++ ": not found", 127)
  else (command ++ ": " ++ Work.saying error, if hasSlash then 126 else 127)

def findTool (command : String) : Act (Except DiskError Tool) := do
  let s ← get
  Act.work do
    let outer := (← get).environment
    modify fun j => { j with environment := [("PATH", (s.value? "PATH").getD "")] }
    let found ← Work.findProgram e.tools command
    modify fun j => { j with environment := outer }
    return found

def runTool (tool : Tool) (arguments : List String) : Act ExitStatus := do
  let environment := (← get).environment
  Act.work (Work.apart do
    modify fun j => { j with environment := environment }
    tool arguments)

def startTool (command : String) (arguments : List String) : Act Unit := do
  match ← findTool e command with
  | .ok tool =>
    let status ← runTool tool arguments
    let s ← get
    if s.isRich && s.isLast && s.traps.isEmpty then throw (.done status true)
    setStatus (← Act.codeOf status)
  | .error error =>
    let s ← get
    let (text, code) := missing s.isRich s.job.disk command error
    Act.complain text
    setStatus code

/-- Lets a program take the place of the shell. -/
def replaceShell : Builtin
  | [] => return 0
  | command :: arguments => do
    match ← findTool e command with
    | .ok tool =>
      let status ← runTool tool arguments
      throw (.done status true)
    | .error error =>
      let s ← get
      let (text, code) := missing s.isRich s.job.disk command error
      let text :=
        if text == command ++ ": command not found" then command ++ ": not found" else text
      Act.complain text
      throw (.done (.code code) false)

/-- The commands of the shell that need to run others. -/
def control? (isRich : Bool) (name : String) : Option Builtin :=
  match name with
  | "eval" => some fun arguments => do
    let text := (" ".intercalate arguments).toList
    if text.all Char.isWhitespace then return 0 else runText e "eval: " text
  | "exit" => some fun arguments => do
    Act.finish (← codeArgument arguments)
  | "return" => some fun arguments => do
    let s ← get
    if isRich && s.hidden.isEmpty then
      Act.fail 2 "can only \x60return' from a function or sourced script"
    else throw (.back (← codeArgument arguments))
  | "break" => some (leaveLoops false)
  | "continue" => some (leaveLoops true)
  | "." => some (runFile e)
  | "source" => if isRich then some (runFile e) else none
  | "trap" => some setTraps
  | "kill" => some (kill e)
  | "exec" => some (replaceShell e)
  | _ => none

def shellCommand? (s : Shell) (name : String) : Option Builtin :=
  (control? e s.isRich name).or (ownCommand? e.tools s name)

def runBuiltin (name : String) (builtin : Builtin) (arguments : List String) : Act Unit :=
  Act.mending (fun before after => { after with builtin? := before.builtin? }) do
    modify fun s => { s with builtin? := some name }
    setStatus (← builtin arguments)

/-- Runs a command that is no function. -/
def runPlain (command : String) (arguments : List String) : Act Unit := do
  match shellCommand? e (← get) command with
  | some builtin => runBuiltin command builtin arguments
  | none => startTool e command arguments

/-- Runs a command behind a word that says that it is no function, or tells about it. -/
def runNoFunction : List String → Act Unit
  | "-v" :: names => do
    let isRich := (← get).isRich
    setStatus (← describe e.tools false (if isRich then names else names.take 1))
  | "-V" :: names => do
    let isRich := (← get).isRich
    setStatus (← describe e.tools true (if isRich then names else names.take 1))
  | "-p" :: command :: arguments => runPlain e command arguments
  | "--" :: command :: arguments => runPlain e command arguments
  | command :: arguments => runPlain e command arguments
  | [] => setStatus 0

/-- The fields of a command. Behind some names, an assignment is one field. -/
def commandFields : List (List Piece) → Act (List String)
  | [] => return []
  | word :: rest => do
    let first ← wordFields (substitute e) word
    let isRich := (← get).isRich
    let declaring :=
      ["export", "readonly", "local"] ++ if isRich then ["declare", "typeset"] else []
    match first with
    | [] => commandFields rest
    | [name] =>
      if declaring.contains name then
        let mut fields := [name]
        for word in rest do
          match assignment? word with
          | some (target, value) =>
            let text ← wordText (substitute e) value
            fields := fields ++ [target ++ "=" ++ text]
          | none => fields := fields ++ (← wordFields (substitute e) word)
        return fields
      else return first ++ (← wordsFields (substitute e) rest)
    | first => return first ++ (← wordsFields (substitute e) rest)

/-- Shows a command before it runs, if that is asked for. What it assigns is known already, and
where complaints went before its redirections. -/
def trace (errors? : Option Nat) (assignments : List (String × List Piece)) (fields : List String) :
    Act Unit := do
  let s ← get
  if s.has 'x' then
    let shown (text : String) : String :=
      let isSafe (c : Char) : Bool := c.isAlphanum || "_@%+=:,./-".toList.contains c
      if s.isRich && (text.isEmpty || !text.toList.all isSafe) then quotedValue text else text
    let before := (s.value? "PS4").getD "+ "
    let assigned := assignments.map fun a => a.1 ++ "=" ++ shown ((s.value? a.1).getD "")
    let called := fields.map shown
    let lines := if s.isRich then assigned.map ([·]) ++ if called.isEmpty then [] else [called]
      else [assigned ++ called]
    Act.mending (fun before after =>
        { after with job := { after.job with channels := before.job.channels } }) do
      if let some n := errors? then lead 2 n
      for texts in lines do
        Act.work (Work.complain (before ++ " ".intercalate texts))

def runSimple (line : Nat) (assignments : List (String × List Piece)) (words : List (List Piece))
    (rs : List Redirection) : Act Unit := do
  modify fun s => { s with line, outputStatus := 0 }
  let isRich := (← get).isRich
  let errors? := (← get).job.channels.lookup 2
  let failed (isSpecial : Bool) : Act Unit := do
    if isSpecial && !isRich then throw (.done (.code 2) false)
    setStatus (if isRich then 1 else 2)
  match ← commandFields e words with
  | [] =>
    redirecting (substitute e) rs (do
      assignAll e assignments
      trace errors? assignments []
      setStatus (← get).outputStatus) (failed false)
  | command :: arguments =>
    let s ← get
    let temporarily (act : Act Unit) : Act Unit :=
      redirecting (substitute e) rs (assigning e assignments do
        trace errors? assignments (command :: arguments)
        act) (failed false)
    let isSpecial := !isRich && Read.specialCommands.contains command
    match s.functions.lookup command with
    | some body => temporarily (runFunction e arguments body)
    | none =>
      if command == "exec" && arguments.isEmpty then
        trace errors? [] [command]
        match ← redirectAll (substitute e) rs with
        | none =>
          assignAll e assignments
          setStatus 0
        | some complaint =>
          Act.complain complaint
          failed true
      else if command == "command" || (isRich && command == "builtin") then
        temporarily (runNoFunction e arguments)
      else if isSpecial then
        redirecting (substitute e) rs (do
          assignAll e assignments
          trace errors? assignments (command :: arguments)
          runPlain e command arguments) (failed true)
      else temporarily (runPlain e command arguments)
  checkStatus

/-! ### Compound commands -/

/-- Runs commands of which each reads what the one before it writes. -/
def runPiped : (input? : Option Nat) → List Command → Act (List ExitStatus)
  | _, [] => return []
  | input?, command :: rest => do
    let output? ← if rest.isEmpty then pure none else do
        let n ← newStream (.buffer .empty 0)
        pure (some n)
    let status ← runApart e do
      if let some n := input? then lead 0 n
      if let some n := output? then lead 1 n
      e.run command
    return status :: (← runPiped output? rest)

def runPipeline (commands : List Command) : Act Unit := do
  let ended ← runPiped e none commands
  let codes ← ended.mapM Act.codeOf
  let last := codes.getLastD 0
  let failing := (codes.reverse.find? (· != 0)).getD 0
  setStatus (if (← get).minds then failing else last)
  checkStatus

def looping (act : Act Unit) : Act Unit :=
  Act.mending (fun before after => { after with loops := before.loops }) do
    modify fun s => { s with loops := s.loops + 1 }
    Act.amid act

/-- Runs a loop as long as its test says so. The code is that of the last round. -/
def runLoop (test : Act Bool) (body : Act Unit) : Nat → Nat → Act Nat
  | 0, code => return code
  | n + 1, code => do
    let goesOn ← catchingLeave do
      if ← test then
        body
        return true
      else
        setStatus code
        return false
    if goesOn then runLoop test body n (← get).status else return (← get).status

/-- Runs the body of a loop for each word. -/
def runEach (name : String) (body : Command) : List String → Act Unit
  | [] => return ()
  | word :: rest => do
    Act.assign name word
    let goesOn ← catchingLeave do
      e.run body
      return true
    if goesOn then runEach name body rest

def holds (test : Command) : Act Bool := do
  Act.tested (e.run test)
  return (← get).status == 0

def findBranch (subject : List Char) : List Branch → Act (Option Command)
  | [] => return none
  | .mk patterns body :: rest => do
    for pattern in patterns do
      let wildcard ← wordWildcard (substitute e) (withHome (← get) pattern)
      if fits wildcard subject then return some body
    findBranch subject rest

def conditionHolds : Condition → Act Bool
  | .negation c => return !(← conditionHolds c)
  | .both c d => do if ← conditionHolds c then conditionHolds d else return false
  | .either c d => do if ← conditionHolds c then return true else conditionHolds d
  | .one operator operand => do
    let text ← wordText (substitute e) operand
    let s ← get
    let (ended, _) := Tool.test s.manner false [operator, text] s.job
    return ended == .code 0
  | .two left operator right => do
    let text ← wordText (substitute e) left
    if operator == "=" || operator == "==" || operator == "!=" then
      let wildcard ← wordWildcard (substitute e) right
      return fits wildcard text.toList != (operator == "!=")
    else
      let other ← wordText (substitute e) right
      if operator == "=~" then
        match Pattern.read ⟨true, false⟩ other.toList with
        | .ok p => return (Pattern.find? { chars := text.toList.toArray } p 0).isSome
        | .error _ => return false
      else
        let s ← get
        let (ended, _) := Tool.test s.manner false [text, operator, other] s.job
        return ended == .code 0

/-- Runs a command, given how to run those in it. -/
def runWithin : Command → Act Unit
  | .nothing => return ()
  | .simple line assignments words rs => runSimple e line assignments words rs
  | .sequence first second => do
    Act.amid (e.run first)
    e.run second
  | .beside command => do
    let n ← newStream .device
    let status ← runApart e do
      lead 0 n
      e.run command
    let code ← Act.codeOf status
    modify fun s => { s with besides := code :: s.besides, status := 0 }
  | .both first second => do
    if ← holds e first then e.run second
  | .either first second => do
    if !(← holds e first) then e.run second
  | .negation command => do
    let isSo ← holds e command
    setStatus (if isSo then 1 else 0)
  | .pipeline commands => Act.amid (runPipeline e commands)
  | .conditional test yes no => do
    let isSo ← holds e test
    match isSo, no with
    | false, .nothing => setStatus 0
    | isSo, no => Act.amid (e.run (if isSo then yes else no))
  | .loop isUntil test body => looping do
    let code ← runLoop (do return (← holds e test) != isUntil) (e.run body) mostRounds 0
    setStatus code
  | .each line name words body => do
    modify fun s => { s with line }
    let fields ← wordsFields (substitute e) words
    if fields.isEmpty then setStatus 0 else looping (runEach e name body fields)
  | .count first test step body => looping do
    let calculate (expression : List Piece) : Act Int := do
      let cs ← quotedText (substitute e) expression
      if cs.all Char.isWhitespace then return 1 else calculated cs
    let _ ← calculate first
    let code ← runLoop (return (← calculate test) != 0) (do
      let goesOn ← catchingLeave do
        e.run body
        return true
      if goesOn then let _ ← calculate step
      else throw (.leave 0 false)) mostRounds 0
    setStatus code
  | .choice line subject branches => do
    modify fun s => { s with line }
    let text ← wordText (substitute e) subject
    match ← findBranch e text.toList branches with
    | none | some .nothing => setStatus 0
    | some body => e.run body
  | .apart body => do
    let status ← runApart e (e.run body)
    setStatus (← Act.codeOf status)
    checkStatus
  | .led line body rs => do
    modify fun s => { s with line }
    let isRich := (← get).isRich
    redirecting (substitute e) rs (Act.amid (e.run body)) (setStatus (if isRich then 1 else 2))
  | .function name body => modify fun s =>
    { s with functions := (name, body) :: s.functions.filter (·.1 != name), status := 0 }
  | .condition c => do
    let isSo ← conditionHolds e c
    setStatus (if isSo then 0 else 1)
    checkStatus
  | .calculation line expression => do
    modify fun s => { s with line }
    let cs ← quotedText (substitute e) expression
    let n ← calculated cs
    setStatus (if n == 0 then 1 else 0)
    checkStatus

end

/-- How deep commands may be within each other. -/
def deepestCommand : Nat := 4000

/-- Runs a command. The first argument bounds how deep commands are within each other. -/
def run (tools : ToolTable) : Nat → Command → Act Unit
  | 0, _ => return ()
  | n + 1, command => do
    if !(← get).has 'n' then runWithin { run := run tools n, tools } command

def engine (tools : ToolTable) : Engine := ⟨run tools deepestCommand, tools⟩

end ClientGen.Shell
