import ClientGen.Tool.Shell.Redirect
import ClientGen.Tool.Test

/-!
The commands of a shell that change the shell itself, and those that tell about it. Each gives the
code with which it ends.
-/

namespace ClientGen.Shell

/-- A command of the shell: what it does with its arguments. -/
abbrev Builtin := List String → Act Nat

/-- An argument that has to be a number. A plain shell ends if it is none. -/
def wholeArgument (text : String) : Act Nat := do
  match text.toNat? with
  | some n => return n
  | none =>
    if (← get).isRich then Act.die 2 2 (text ++ ": numeric argument required")
    else Act.die 2 2 ("Illegal number: " ++ text)

/-- A text between quotes, as a shell reads it. -/
def quotedValue (s : String) : String :=
  "'" ++ String.ofList (s.toList.flatMap fun c => if c == '\'' then "'\\''".toList else [c]) ++ "'"

def printLine (s : String) : Act Unit := Act.work (Work.print (s.toList ++ ['\n']))

/-- The name and the value of an argument that may be an assignment. -/
def assigned (argument : String) : String × Option String :=
  let name := argument.toList.takeWhile (· != '=')
  (String.ofList name,
    match argument.toList.drop name.length with
    | _ :: value => some (String.ofList value)
    | [] => none)

/-- Complains about what is no name of a variable. -/
def refuseName (name : String) : Act Nat := do
  if (← get).isRich then Act.fail 1 ("\x60" ++ name ++ "': not a valid identifier")
  else Act.die 2 1 (name ++ ": bad variable name")

/-- Does something with each argument. The worst code is that of all. -/
def overArguments (f : String → Act Nat) : Builtin
  | [] => return 0
  | argument :: rest => do
    let code ← f argument
    let others ← overArguments f rest
    return max code others

/-! ### Variables -/

/-- Marks variables, which may get values, or lists those that are marked. -/
def declare (word : String) (isMarked : Binding → Bool) (mark : Binding → Binding) : Builtin :=
    fun arguments => do
  match arguments.filter (· != "--") with
  | [] | ["-p"] =>
    for (name, binding) in (← get).bindings do
      if isMarked binding then
        printLine (word ++ " " ++ name ++ match binding.value? with
          | some value => "=" ++ quotedValue value
          | none => "")
    return 0
  | arguments =>
    overArguments (fun argument => do
      let (name, value?) := assigned argument
      if !isName name then refuseName name
      else
        if let some value := value? then Act.assign name value
        let s ← get
        set (s.bind name (mark ((s.bindings.lookup name).getD { value? := none })))
        return 0) arguments

def exportNames : Builtin :=
  declare "export" (·.isExported) fun b => { b with isExported := true }

def fixNames : Builtin := declare "readonly" (·.isFixed) fun b => { b with isFixed := true }

def makeLocal : Builtin := fun arguments => do
  if (← get).hidden.isEmpty then
    if (← get).isRich then Act.fail 1 "can only be used in a function"
    else Act.die 2 1 "not in a function"
  else
    overArguments (fun argument => do
      let (name, value?) := assigned argument
      if !isName name then refuseName name
      else
        let s ← get
        match s.hidden with
        | own :: others =>
          let own := if own.any (·.1 == name) then own else (name, s.bindings.lookup name) :: own
          set { s with hidden := own :: others }
        | [] => pure ()
        if let some value := value? then Act.assign name value
        else if (← get).isRich then
          modify fun s => s.bind name { value? := none }
        return 0) (arguments.filter fun a => !a.startsWith "-")

def forget : Builtin := fun arguments => do
  let (areFunctions, names) := match arguments with
    | "-f" :: names => (true, names)
    | "-v" :: names => (false, names)
    | names => (false, names)
  overArguments (fun name => do
    let s ← get
    if areFunctions then
      set { s with functions := s.functions.filter (·.1 != name) }
      return 0
    else if !isName name then if s.isRich then return 0 else refuseName name
    else if ((s.bindings.lookup name).map (·.isFixed)).getD false then
      if s.isRich then Act.fail 1 (name ++ ": cannot unset: readonly variable")
      else Act.die 2 1 (name ++ ": is read only")
    else
      set { s with bindings := s.bindings.filter (·.1 != name) }
      return 0) names

/-! ### Options and parameters -/

def optionNames : List (String × Char) :=
  [("errexit", 'e'), ("noglob", 'f'), ("nounset", 'u'), ("xtrace", 'x'), ("verbose", 'v'),
    ("noexec", 'n'), ("allexport", 'a'), ("noclobber", 'C'), ("monitor", 'm'), ("notify", 'b')]

def setOption (isOn : Bool) (letter : Char) : Act Unit :=
  modify fun s =>
    let others := s.options.filter (· != letter)
    { s with options := if isOn then letter :: others else others }

/-- Sets or clears an option that has a name. -/
def setNamedOption (isOn : Bool) (name : String) : Act Nat := do
  let isRich := (← get).isRich
  match optionNames.lookup name with
  | some letter =>
    setOption isOn letter
    return 0
  | none =>
    if isRich && name == "pipefail" then
      modify fun s => { s with minds := isOn }
      return 0
    else if isRich then
      if ["posix", "errtrace", "functrace", "hashall", "history", "braceexpand", "vi",
          "emacs"].contains name
      then return 0
      else Act.fail 2 (name ++ ": invalid option name")
    else Act.die 2 1 ("Illegal option " ++ (if isOn then "-" else "+") ++ "o " ++ name)

/-- Sets options, and gives the arguments behind them if they are to be the parameters. -/
def setOptions : List String → Act (Except Nat (Option (List String)))
  | [] => return .ok none
  | "--" :: rest => return .ok (some rest)
  | "-" :: rest => return .ok (if rest.isEmpty then none else some rest)
  | "-o" :: name :: rest => do
    match ← setNamedOption true name with
    | 0 => setOptions rest
    | code => return .error code
  | "+o" :: name :: rest => do
    match ← setNamedOption false name with
    | 0 => setOptions rest
    | code => return .error code
  | argument :: rest => do
    let isRich := (← get).isRich
    let known := (if isRich then "abefhkmnptuvxBCEHPT" else "efIimnsxvVECabu").toList
    match argument.toList with
    | sign :: letters =>
      if (sign == '-' || sign == '+') && !letters.isEmpty then
        match letters.find? fun c => !known.contains c && !(c == 'o' && !rest.isEmpty) with
        | some c =>
          if isRich then
            Act.complain (sign.toString ++ c.toString ++ ": invalid option")
            Act.work (Work.complain
              "set: usage: set [-abefhkmnptuvxBCEHPT] [-o option-name] [--] [-] [arg ...]")
            return .error 2
          else Act.die 2 2 ("Illegal option " ++ sign.toString ++ c.toString)
        | none =>
          for c in letters do
            setOption (sign == '-') c
          if letters.contains 'o' then
            match rest with
            | name :: rest =>
              match ← setNamedOption (sign == '-') name with
              | 0 => setOptions rest
              | code => return .error code
            | [] => return .ok none
          else setOptions rest
      else return .ok (some (argument :: rest))
    | [] => return .ok (some (argument :: rest))

def setAll : Builtin := fun arguments => do
  match arguments with
  | [] =>
    let bindings := (← get).bindings.mergeSort fun a b => !Text.before b.1 a.1
    for (name, binding) in bindings do
      if let some value := binding.value? then printLine (name ++ "=" ++ quotedValue value)
    return 0
  | arguments =>
    match ← setOptions arguments with
    | .error code => return code
    | .ok none => return 0
    | .ok (some parameters) =>
      modify fun s => { s with parameters }
      return 0

def shiftParameters : Builtin := fun arguments => do
  let n ← match arguments with
    | [] => pure 1
    | argument :: _ => wholeArgument argument
  let s ← get
  if s.parameters.length < n then
    if s.isRich then return 1 else Act.die 2 1 "can't shift that many"
  else
    set { s with parameters := s.parameters.drop n }
    return 0

/-! ### Directories -/

/-- A path without dots, in text. -/
def plainPath (path : String) : String :=
  let names := (Text.cut (· == '/') path.toList).foldl (fun (names : List (List Char)) name =>
    if name.isEmpty || name == ['.'] then names
    else if name == ['.', '.'] then names.tail
    else name :: names) []
  "/" ++ "/".intercalate (names.reverse.map String.ofList)

def currentPath (s : Shell) : String :=
  (s.value? "PWD").getD
    ("/" ++ "/".intercalate
      (s.job.disk.current.reverse.map fun name => String.ofList (encode name)))

def changeDirectory : Builtin := fun arguments => do
  let s ← get
  let isOption (a : String) : Bool := a == "-L" || a == "-P" || a == "--"
  let operand := ((arguments.dropWhile isOption).head?).getD ((s.value? "HOME").getD "")
  let target := if operand == "-" then (s.value? "OLDPWD").getD "" else operand
  if target.isEmpty then return 0
  let path := if target.startsWith "/" then target else currentPath s ++ "/" ++ target
  let refuse (e : DiskError) : Act Nat :=
    if s.isRich then Act.fail 1 (target ++ ": " ++ Work.saying e)
    else Act.fail 2 ("can't cd to " ++ target)
  match s.job.disk.resolve (decodeText target) with
  | .ok (place, .directory) =>
    let old := currentPath s
    modify fun s => { s with job := { s.job with disk := { s.job.disk with current := place } } }
    let isExported (name : String) : Bool :=
      ((s.bindings.lookup name).map (·.isExported)).getD false
    modify fun s => s.bind "OLDPWD" { value? := some old, isExported := isExported "OLDPWD" }
    modify fun s => s.bind "PWD" { value? := some (plainPath path), isExported := isExported "PWD" }
    if operand == "-" then printLine (plainPath path)
    return 0
  | .ok _ => refuse .notDirectory
  | .error e => refuse e

def printDirectory : Builtin := fun arguments => do
  let s ← get
  printLine (if arguments.contains "-P" then
      "/" ++ "/".intercalate
        (s.job.disk.current.reverse.map fun name => String.ofList (encode name))
    else currentPath s)
  return 0

/-! ### Reading -/

/-- The characters of a line from a place on, how far it goes, and whether it has an end. Unless the
line is raw, a backslash quotes what is behind it. The first argument bounds the number of
characters. -/
def lineFrom (isRaw : Bool) (bytes : ByteArray) :
    Nat → Nat → List (Char × Bool) → List (Char × Bool) × Nat × Bool
  | 0, i, cs => (cs.reverse, i, false)
  | n + 1, i, cs =>
    match bytes.data[i]? with
    | none => (cs.reverse, i, false)
    | some b =>
      let c := Char.ofNat b.toNat
      if c == '\n' then (cs.reverse, i + 1, true)
      else if c == '\x00' then lineFrom isRaw bytes n (i + 1) cs
      else if c == '\\' && !isRaw then
        match bytes.data[i + 1]? with
        | none => (cs.reverse, i + 1, false)
        | some b =>
          let d := Char.ofNat b.toNat
          lineFrom isRaw bytes n (i + 2) (if d == '\n' then cs else (d, true) :: cs)
      else lineFrom isRaw bytes n (i + 1) ((c, false) :: cs)

/-- Deals a line out to so many names. The last one gets all the rest. -/
def deal (separators : List Char) : Nat → List (Char × Bool) → List String
  | 0, _ => []
  | n + 1, cs =>
    let separates (c : Char × Bool) : Bool := !c.2 && separators.contains c.1
    let isBlank (c : Char × Bool) : Bool := separates c && [' ', '\t', '\n'].contains c.1
    let cs := cs.dropWhile isBlank
    let field := cs.takeWhile fun c => !separates c
    let behind := (cs.drop field.length).dropWhile isBlank
    let behind := match behind with
      | c :: rest =>
        if separates c then rest.dropWhile isBlank else behind
      | [] => []
    if n == 0 && !behind.isEmpty then
      let text := (cs.reverse.dropWhile isBlank).reverse
      [String.ofList (text.map Prod.fst)]
    else String.ofList (field.map Prod.fst) :: deal separators n behind

def readNames : Builtin := fun arguments => do
  let s ← get
  let isRaw := arguments.any fun a => a.startsWith "-" && a.toList.contains 'r'
  let names := arguments.filter fun a => !a.startsWith "-"
  if names.isEmpty && !s.isRich then Act.fail 2 "arg count"
  else
    let bytes := s.job.waiting 0
    let (cs, size, isWhole) := lineFrom isRaw bytes (bytes.size + 1) 0 []
    set { s with job := s.job.skip 0 size }
    if names.isEmpty then Act.assign "REPLY" (String.ofList (cs.map Prod.fst))
    else
      let texts := deal (separators s) names.length cs
      for (name, k) in names.zipIdx do
        Act.assign name (texts.getD k "")
    return if isWhole then 0 else 1

/-! ### Commands -/

/-- The commands of a shell, but for those that have a meaning for control. -/
def builtinNames (isRich : Bool) : List String :=
  Read.specialCommands ++ ["[", "alias", "bg", "cd", "command", "echo", "false", "fg", "getopts",
    "hash", "jobs", "kill", "local", "printf", "pwd", "read", "test", "true", "type", "ulimit",
    "umask", "unalias", "wait"]
    ++ if isRich then
        ["source", "declare", "typeset", "let", "shopt", "builtin", "enable", "mapfile"]
      else ["chdir"]

def pathOf? (tools : ToolTable) (s : Shell) (command : String) : Option String :=
  let environment := [("PATH", (s.value? "PATH").getD "")]
  (Work.candidates environment command).find? fun path =>
    (Work.programAt s.job.disk tools (decodeText path)).toOption.isSome

/-- Tells what a command is, by its name or at length. -/
def describe (tools : ToolTable) (isLong : Bool) : Builtin :=
  overArguments fun name => do
    let s ← get
    let found (long short : String) : Act Nat := do
      printLine (if isLong then name ++ " is " ++ long else short)
      return 0
    if (Read.keywords s.isRich).contains name then found "a shell keyword" name
    else if (s.functions.lookup name).isSome then
      found (if s.isRich then "a function" else "a shell function") name
    else if (builtinNames s.isRich).contains name then
      let isSpecial := !s.isRich && Read.specialCommands.contains name
      found (if isSpecial then "a special shell builtin" else "a shell builtin") name
    else
      match pathOf? tools s name with
      | some path => found path path
      | none =>
        if isLong then
          if s.isRich then Act.complain (name ++ ": not found")
          else printLine (name ++ ": not found")
        return if s.isRich then 1 else 127

/-- Tells about other names of commands, of which there are none. -/
def showNames : Builtin := fun arguments => do
  if arguments.isEmpty then return 0
  else
    overArguments (fun argument => do
      if argument.toList.contains '=' then return 0
      else if (← get).isRich then Act.fail 1 (argument ++ ": not found")
      else
        Act.work (Work.complain ("alias: " ++ argument ++ " not found"))
        return 1) arguments

def waitFor : Builtin := fun arguments => do
  let s ← get
  match arguments.getLast? with
  | none => return 0
  | some text =>
    match text.toNat? with
    | some n =>
      let k := n - s.number
      return if n ≤ s.number || s.besides.length < k then 127
        else s.besides.getD (s.besides.length - k) 127
    | none => return 2

def calculateAll : Builtin := fun arguments => do
  let mut last : Int := 0
  for argument in arguments do
    last ← calculated argument.toList
  return if last == 0 then 1 else 0

/-- The commands of the shell that need nothing but the shell. -/
def ownCommand? (tools : ToolTable) (s : Shell) (name : String) : Option Builtin :=
  let ofTool (tool : Tool) : Builtin := fun arguments => do
    match ← Act.work (tool arguments) with
    | .code n => return n
    | .signal n => return 128 + n
  let always (code : Nat) : Builtin := fun _ => return code
  let isRich := s.isRich
  match name with
  | ":" | "true" => some (always 0)
  | "false" => some (always 1)
  | "echo" => some (ofTool (if isRich then Tool.echo false else Tool.plainEcho))
  | "printf" => some (ofTool (Tool.printFormat s.manner))
  | "test" => some (ofTool (Tool.test s.manner false))
  | "[" => some (ofTool (Tool.test s.manner true))
  | "export" => some exportNames
  | "readonly" => some fixNames
  | "local" => some makeLocal
  | "unset" => some forget
  | "set" => some setAll
  | "shift" => some shiftParameters
  | "cd" | "chdir" => some changeDirectory
  | "pwd" => some printDirectory
  | "read" => some readNames
  | "type" => some (describe tools true)
  | "alias" => some showNames
  | "wait" => some waitFor
  | "umask" => some fun arguments => do
    if arguments.isEmpty then printLine "0022"
    return 0
  | "times" => some fun _ => do
    printLine "0m0.000000s 0m0.000000s"
    printLine "0m0.000000s 0m0.000000s"
    return 0
  | "hash" | "jobs" | "unalias" | "ulimit" => some (always 0)
  | "fg" | "bg" => some fun _ => Act.fail 2 "No current job"
  | "let" => if isRich then some calculateAll else none
  | "shopt" | "enable" => if isRich then some (always 0) else none
  | "declare" | "typeset" =>
    if isRich then
      some fun arguments =>
        let names := arguments.filter fun a => !a.startsWith "-"
        if s.hidden.isEmpty then declare "declare" (fun _ => false) id names else makeLocal names
    else none
  | _ => none

end ClientGen.Shell
