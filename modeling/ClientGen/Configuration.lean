import ClientGen.Document.Basic
import ClientGen.Mode
import ClientGen.Text.Cut
import ClientGen.Tree.Basic

/-!
The settings of a run, from four layers: the command line counts before the environment, the
environment before the document, and the document before the defaults.
-/

namespace ClientGen

/-- Settings that the command line gives. -/
structure Overrides where
  rootPath? : Option String := none
  rootPackage? : Option String := none
  templates? : Option String := none
  /-- The program that formats, without arguments. -/
  formatter? : Option String := none
  mode? : Option WriteMode := none
  strategy? : Option Strategy := none
  strict : Bool := false
  deriving DecidableEq, Inhabited

/-- The settings of a run. -/
structure Configuration where
  layout : Layout
  /-- The directory of the templates, unless they are the standard ones. -/
  templates? : Option String
  formatter : Program
  mode : WriteMode
  strategy : Strategy
  /-- References to unknown resources are failures. -/
  strict : Bool
  deriving DecidableEq

/-- The formatter that is used unless another one is asked for. -/
def Program.standard : Program where
  command := "rustfmt"
  args := ["--edition", "2021"]

def formatterVariable : String := "KUBEGEN_FORMATTER"

def templatesVariable : String := "KUBEGEN_TEMPLATES"

/-- The value of a variable, unless it is blank. -/
def stated? (environment : String → Option String) (name : String) : Option String :=
  (environment name).filter fun value => !Text.isBlankText value

/-- The formatter: a command of an outer layer keeps the arguments of the document's formatter, but
not those of the standard one. -/
def chooseFormatter (command? : Option String) (settings : Settings) : Program :=
  match settings.formatter?, command? with
  | some formatter, some command => { formatter with command := command }
  | some formatter, none => formatter
  | none, some command => ⟨command, []⟩
  | none, none => .standard

def Configuration.resolve (settings : Settings) (overrides : Overrides)
    (environment : String → Option String) : Configuration :=
  let standard : Layout := {}
  { layout :=
      { rootPath := (overrides.rootPath?.or settings.rootPath?).getD standard.rootPath
        rootPackage := (overrides.rootPackage?.or settings.rootPackage?).getD standard.rootPackage
        ecosystemRoot := settings.ecosystemRoot?.getD standard.ecosystemRoot }
    templates? :=
      (overrides.templates?.or (stated? environment templatesVariable)).or settings.templates?
    formatter :=
      chooseFormatter (overrides.formatter?.or (stated? environment formatterVariable)) settings
    mode := overrides.mode?.getD .replace
    strategy := overrides.strategy?.getD .streaming
    strict := overrides.strict }

end ClientGen
