import ClientGen.Tool.Shell.Run

/-!
Shells as programs: what their arguments ask for, and how they end.
-/

namespace ClientGen.Shell

/-- What the arguments of a shell ask for. -/
structure Request where
  /-- A script is an argument. -/
  isCommand : Bool := false
  /-- The script is what is read. -/
  isInput : Bool := false
  operands : List String := []

def readArguments : List String → Request → Act Request
  | [], r => return r
  | argument :: rest, r => do
    let isRich := (← get).isRich
    match argument.toList with
    | '-' :: '-' :: c :: _ =>
      if isRich then readArguments rest r
      else Act.die 2 2 ("Illegal option --" ++ if c == '-' then "" else "")
    | ['-', '-'] | ['-'] => return { r with operands := rest }
    | sign :: letters =>
      if !(sign == '-' || sign == '+') || letters.isEmpty then
        return { r with operands := argument :: rest }
      else
        let known := ['c', 's', 'l', 'o']
          ++ (if isRich then "abefhkmnptuvxBCEHPTirD" else "efIimnsxvVECabu").toList
        match letters.find? fun c => !known.contains c with
        | some c =>
          if isRich then
            let s ← get
            Act.work (Work.complain (s.name ++ ": " ++ argument ++ ": invalid option"))
            Act.finish 2
          else Act.die 2 2 ("Illegal option " ++ sign.toString ++ c.toString)
        | none =>
          for c in letters do
            if !(['c', 's', 'l', 'o'].contains c) then setOption (sign == '-') c
          let r := { r with
            isCommand := r.isCommand || letters.contains 'c'
            isInput := r.isInput || letters.contains 's' }
          if letters.contains 'o' then
            match rest with
            | name :: rest =>
              let _ ← setNamedOption (sign == '-') name
              readArguments rest r
            | [] => return r
          else readArguments rest r
    | [] => return { r with operands := argument :: rest }

/-- The shell with which a program begins. -/
def initial (isRich : Bool) (j : Job) : Shell where
  job := j
  isRich := isRich
  name := if j.command.isEmpty then if isRich then "bash" else "sh" else j.command
  number := 4000 + j.streams.size
  line := 0
  bindings :=
    let inherited := j.environment.map fun v =>
      (v.1, ({ value? := some v.2, isExported := true } : Binding))
    let standard := [("IFS", " \t\n"), ("OPTIND", "1"), ("PS4", "+ "), ("PPID", "1"),
      ("PWD", "/" ++ "/".intercalate
        (j.disk.current.reverse.map fun n => String.ofList (encode n)))]
      ++ if isRich then [("BASH", "/bin/bash"), ("BASH_VERSION", "5.2.15(1)-release")] else []
    inherited ++ (standard.filter fun v => (j.environment.lookup v.1).isNone).map fun v =>
      (v.1, { value? := some v.2 })

def obey (tools : ToolTable) (arguments : List String) : Act Unit := do
  let r ← readArguments arguments {}
  let s ← get
  let run (title : String) (script : List Char) : Act Unit := do
    modify fun s => { s with line := 1, isLast := true }
    let code ← runText (engine tools) title script
    setStatus code
  match r.isCommand, r.operands with
  | true, [] =>
    if s.isRich then
      Act.work (Work.complain (s.name ++ ": -c: option requires an argument"))
      Act.finish 2
    else Act.die 2 2 "-c requires an argument"
  | true, script :: operands =>
    match operands with
    | [] => pure ()
    | name :: parameters => modify fun s => { s with name, parameters }
    run "-c: " script.toList
  | false, operands =>
    match if r.isInput then [] else operands with
    | [] =>
      modify fun s => { s with parameters := operands }
      let script ← Act.work (Work.readAll 0)
      run "" script
    | path :: parameters =>
      match (← get).job.disk.read (decodeText path) with
      | .ok content =>
        modify fun s => { s with name := path, parameters }
        run "" (ofBytes content)
      | .error e =>
        if s.isRich then
          Act.work (Work.complain (s.name ++ ": " ++ path ++ ": " ++ Work.saying e))
          Act.finish 127
        else Act.die 2 2 (openComplaint false path .read e)

end ClientGen.Shell

namespace ClientGen

def Tool.shell (tools : ToolTable) (isRich : Bool) : Tool := fun arguments j =>
  let act := Shell.concluding (Shell.engine tools) (Shell.obey tools arguments)
  match act (Shell.initial isRich j) with
  | (.ok status, s) => (status, s.job)
  | (.error (.killed n), s) => (.signal n, s.job)
  | (.error _, s) => (.code s.status, s.job)

end ClientGen
