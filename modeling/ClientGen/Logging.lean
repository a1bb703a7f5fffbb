import ClientGen.Logging.Directive
import ClientGen.Text.Case

/-!
What is logged, and in which form: the settings, and the filter that they make.
-/

namespace ClientGen.Logging

/-- The form of log lines. -/
inductive Format where
  | pretty
  | json
  deriving DecidableEq

def Format.name : Format → String
  | .pretty => "pretty"
  | .json => "json"

/-- The form of a text. Any text but one asks for pretty lines. -/
def Format.ofText (s : String) : Format :=
  if Text.lower s == "json" then .json else .pretty

/-- The settings of logging. -/
structure Settings where
  /-- The verbosity as it is asked for. -/
  level : String := "info"
  format : Format := .pretty
  /-- More filter directives, between commas. -/
  directives? : Option String := none
  /-- Lines tell the place in the source. -/
  hasLocation : Bool := false
  deriving DecidableEq

def Settings.ofEnvironment (environment : String → Option String) : Settings where
  level := (environment "KUBEGEN_LOG_LEVEL").getD "info"
  format := Format.ofText ((environment "KUBEGEN_LOG_FORMAT").getD "")
  directives? :=
    (environment "KUBEGEN_LOG_TARGET_FILTER").filter fun s => !Text.isBlankText s

/-- The verbosity that is asked for. A text that names none asks for the usual one, and none can
ask for silence. -/
def Settings.verbosity (settings : Settings) : Verbosity :=
  let lowered := Text.lower settings.level
  ([Verbosity.error, .warn, .debug, .trace].find? fun v => v.name == lowered).getD .info

/-! ### Filters -/

/-- A filter: its directives, the most specific ones first. Those that ask for a span, or for fields
of one, stand by themselves. -/
structure Filter where
  directives : List Directive := []
  spans : List Directive := []
  deriving DecidableEq

/-- A list of directives with one more, which takes the place of one that is as specific. -/
def Directive.insert (d : Directive) : List Directive → List Directive
  | [] => [d]
  | e :: es =>
    match d.order e with
    | .eq => d :: es
    | .gt => d :: e :: es
    | .lt => e :: insert d es

def Filter.add (f : Filter) (d : Directive) : Filter :=
  if d.isStatic then { f with directives := d.insert f.directives }
  else { f with spans := d.insert f.spans }

/-- The filter of these directives. One that asks for fields only counts both ways. -/
def Filter.ofDirectives (ds : List Directive) : Filter where
  directives := ((ds.filter (!·.isDynamic)) ++ ds.filter fun d => d.isDynamic && d.isStatic).foldl
    (fun es d => d.insert es) []
  spans := (ds.filter (·.isDynamic)).foldl (fun es d => d.insert es) []

def Filter.text (f : Filter) : String :=
  ",".intercalate ((f.directives ++ f.spans).map Directive.text)

/-- The filter that a text gives, if every directive in it makes sense. A text without directives
lets only errors pass. -/
def Filter.parse? (s : String) : Option Filter := do
  let directives ← ((s.splitOn ",").filter fun part => !part.isEmpty).mapM Directive.parse?
  match directives with
  | [] => some { directives := [{ verbosity := .error }] }
  | ds => some (.ofDirectives ds)

def Filter.addText (f : Filter × List String) (part : String) : Filter × List String :=
  match Directive.parse? part with
  | some d => (f.1.add d, f.2)
  | none => (f.1, f.2 ++ ["Warning: Invalid log filter directive: " ++ part])

/-- The filter that settings make, and complaints about directives that make no sense. A filter of
the environment takes the place of the verbosity. -/
def Settings.filter (settings : Settings) (environment : String → Option String) :
    Filter × List String :=
  let base := ((environment "RUST_LOG").bind Filter.parse?).getD
    { directives := [{ verbosity := settings.verbosity }] }
  let parts := ((settings.directives?.getD "").splitOn ",").map Text.trim
  (parts.filter fun part => !part.isEmpty).foldl Filter.addText (base, [])

end ClientGen.Logging
