import ClientGen.Configuration

/-!
The command line. Arguments are read from left to right, and the first one that cannot be used is
reported. The value of an option that comes as an argument of its own is looked at only when the
next option or the end is reached.
-/

namespace ClientGen

/-- What the program is asked to do. -/
inductive Command where
  | generate (spec : String) (overrides : Overrides) (dryRun : Bool)
  | plan (spec : String) (overrides : Overrides)
  | validate (spec : String) (strict : Bool)
  deriving DecidableEq

def Command.spec : Command → String
  | .generate spec _ _ => spec
  | .plan spec _ => spec
  | .validate spec _ => spec

def Command.overrides : Command → Overrides
  | .generate _ overrides _ => overrides
  | .plan _ overrides => overrides
  | .validate _ _ => {}

/-- Why arguments give no command. -/
inductive UsageError where
  | help
  | version
  | nothingGiven
  | missingArgument
  | unknownCommand
  | unknownArgument
  | badValue
  | repeated
  | unneededValue
  deriving DecidableEq

namespace UsageError

def name : UsageError → String
  | .help => "DisplayHelp"
  | .version => "DisplayVersion"
  | .nothingGiven => "DisplayHelpOnMissingArgumentOrSubcommand"
  | .missingArgument => "MissingRequiredArgument"
  | .unknownCommand => "InvalidSubcommand"
  | .unknownArgument => "UnknownArgument"
  | .badValue => "InvalidValue"
  | .repeated => "ArgumentConflict"
  | .unneededValue => "TooManyValues"

def exitCode : UsageError → Nat
  | .help => 0
  | .version => 0
  | _ => 2

end UsageError

namespace Arguments

/-- An option with a value. -/
inductive Setting where
  | spec
  | output
  | package
  | templates
  | formatter
  deriving DecidableEq

/-- The value is a path, which must not be empty. -/
def Setting.isPath : Setting → Bool
  | .spec | .output | .templates => true
  | .package | .formatter => false

/-- An option without a value. -/
inductive Switch where
  | dryRun
  | atomic
  | staged
  | strictReferences
  | strict
  | help
  deriving DecidableEq

/-- An option. -/
inductive Flag where
  | setting (s : Setting)
  | switch (s : Switch)
  deriving DecidableEq

/-- The first word of a command line. -/
inductive Verb where
  | generate
  | plan
  | validate
  deriving DecidableEq

def Verb.ofName? (name : String) : Option Verb :=
  [("generate", Verb.generate), ("plan", .plan), ("validate", .validate)].lookup name

def Verb.long : Verb → List (String × Flag)
  | .generate =>
    [("spec", .setting .spec), ("output", .setting .output), ("package", .setting .package),
      ("templates", .setting .templates), ("formatter", .setting .formatter),
      ("dry-run", .switch .dryRun), ("atomic", .switch .atomic), ("staged", .switch .staged),
      ("strict-references", .switch .strictReferences), ("help", .switch .help)]
  | .plan =>
    [("spec", .setting .spec), ("output", .setting .output), ("package", .setting .package),
      ("help", .switch .help)]
  | .validate =>
    [("spec", .setting .spec), ("strict", .switch .strict), ("help", .switch .help)]

def Verb.short : Verb → List (Char × Flag)
  | .validate => [('s', .setting .spec), ('h', .switch .help)]
  | _ =>
    [('s', .setting .spec), ('o', .setting .output), ('p', .setting .package),
      ('h', .switch .help)]

/-- What is read so far. -/
structure Parsed where
  settings : List (Setting × String) := []
  switches : List Switch := []
  /-- The option that came last, and its value if that is there already. -/
  open? : Option (Setting × Option String) := none
  /-- Behind two hyphens, where no argument is an option. -/
  trailing : Bool := false

def Parsed.set (p : Parsed) (s : Setting) (value : String) : Except UsageError Parsed :=
  if (p.settings.lookup s).isSome then .error .repeated
  else if s.isPath && value.isEmpty then .error .badValue
  else .ok { p with settings := p.settings ++ [(s, value)] }

/-- Completes the option that came last. -/
def Parsed.settle (p : Parsed) : Except UsageError Parsed :=
  match p.open? with
  | none => .ok p
  | some (_, none) => .error .badValue
  | some (s, some value) => { p with open? := none }.set s value

def Parsed.turnOn (p : Parsed) (s : Switch) : Except UsageError Parsed :=
  if s = .help then .error .help
  else if p.switches.contains s then .error .repeated
  else .ok { p with switches := p.switches ++ [s] }

/-- An option, with the value that is attached to it if there is one. -/
def Parsed.option (p : Parsed) (o : Flag) (value? : Option String) :
    Except UsageError Parsed :=
  match o, value? with
  | .setting s, some value => p.settle >>= fun p => p.set s value
  | .setting s, none => p.settle.map fun p => { p with open? := some (s, none) }
  | .switch _, some _ => .error .unneededValue
  | .switch s, none => p.settle >>= fun p => p.turnOn s

/-- An option by its long name, which ends before an equals sign. -/
def Parsed.long (p : Parsed) (v : Verb) (cs : List Char) : Except UsageError Parsed :=
  let name := String.ofList (cs.takeWhile (· != '='))
  let value? := match cs.dropWhile (· != '=') with
    | [] => none
    | _ :: value => some (String.ofList value)
  match v.long.lookup name with
  | some o => p.option o value?
  | none => .error .unknownArgument

/-- Options by their short names, the last of which may have its value attached. -/
def Parsed.shorts (p : Parsed) (v : Verb) : List Char → Except UsageError Parsed
  | [] => .ok p
  | c :: cs =>
    match v.short.lookup c with
    | none => .error .unknownArgument
    | some (.switch s) => p.option (.switch s) none >>= fun p => p.shorts v cs
    | some (.setting s) =>
      match cs with
      | [] => p.option (.setting s) none
      | d :: ds =>
        p.option (.setting s) (some (String.ofList (if d == '=' then ds else d :: ds)))

/-- An argument that is no option: the value of the option before it. -/
def Parsed.value (p : Parsed) (argument : String) : Except UsageError Parsed :=
  match p.open? with
  | some (s, none) => .ok { p with open? := some (s, some argument) }
  | _ => .error .unknownArgument

def Parsed.step (v : Verb) (p : Parsed) (argument : String) : Except UsageError Parsed :=
  if p.trailing then .error .unknownArgument
  else
    match argument.toList with
    | ['-', '-'] => .ok { p with trailing := true }
    | '-' :: '-' :: cs => p.long v cs
    | '-' :: c :: cs => p.shorts v (c :: cs)
    | _ => p.value argument

def Parsed.overrides (p : Parsed) : Overrides where
  rootPath? := p.settings.lookup .output
  rootPackage? := p.settings.lookup .package
  templates? := p.settings.lookup .templates
  formatter? := p.settings.lookup .formatter
  mode? := if p.switches.contains .atomic then some .atomic else none
  strategy? := if p.switches.contains .staged then some .staged else none
  strict := p.switches.contains .strictReferences

def Parsed.command (p : Parsed) (v : Verb) : Except UsageError Command :=
  match p.settings.lookup .spec with
  | none => .error .missingArgument
  | some spec =>
    match v with
    | .generate => .ok (.generate spec p.overrides (p.switches.contains .dryRun))
    | .plan => .ok (.plan spec p.overrides)
    | .validate => .ok (.validate spec (p.switches.contains .strict))

def readVerb (v : Verb) (arguments : List String) : Except UsageError Command := do
  let p ← arguments.foldlM (Parsed.step v) {}
  let p ← p.settle
  p.command v

def readHelp : List String → UsageError
  | [] => .help
  | [name] =>
    if name == "help" || (Verb.ofName? name).isSome then .help else .unknownCommand
  | _ => .unknownCommand

def readEarlyOption (cs : List Char) : UsageError :=
  match cs with
  | '-' :: cs =>
    if cs == "help".toList then .help
    else if cs == "version".toList then .version
    else if "help=".toList.isPrefixOf cs || "version=".toList.isPrefixOf cs then .unneededValue
    else .unknownArgument
  | 'h' :: _ => .help
  | 'V' :: _ => .version
  | _ => .unknownArgument

end Arguments

open Arguments in
def Command.ofArguments : List String → Except UsageError Command
  | [] => .error .nothingGiven
  | first :: rest =>
    match Verb.ofName? first with
    | some v => readVerb v rest
    | none =>
      if first == "help" then .error (readHelp rest)
      else
        match first.toList with
        | ['-', '-'] =>
          match rest with
          | [] => .error .nothingGiven
          | next :: _ =>
            if next == "help" || (Verb.ofName? next).isSome then .error .unknownArgument
            else .error .unknownCommand
        | '-' :: c :: cs => .error (readEarlyOption (c :: cs))
        | _ => .error .unknownCommand

end ClientGen
