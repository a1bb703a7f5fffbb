/-!
How much is logged.
-/

namespace ClientGen.Logging

/-- How much is logged. -/
inductive Verbosity where
  | off
  | error
  | warn
  | info
  | debug
  | trace
  deriving DecidableEq

namespace Verbosity

def all : List Verbosity := [.off, .error, .warn, .info, .debug, .trace]

def name : Verbosity → String
  | .off => "off"
  | .error => "error"
  | .warn => "warn"
  | .info => "info"
  | .debug => "debug"
  | .trace => "trace"

def ofDigits? (cs : List Char) : Option Verbosity :=
  let digits := match cs with
    | '+' :: r => r
    | _ => cs
  if !digits.isEmpty && digits.all Char.isDigit then
    all[digits.foldl (fun n c => 10 * n + (c.toNat - 48)) 0]?
  else none

/-- The verbosity of a text: a name in any case of letters, or a number. -/
def ofText? (s : String) : Option Verbosity :=
  if s.isEmpty then some .error
  else
    let lowered := String.ofList (s.toList.map Char.toLower)
    (ofDigits? s.toList).or (all.find? fun v => v.name == lowered)

end Verbosity

end ClientGen.Logging
