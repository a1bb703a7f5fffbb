import ClientGen.Data.Json
import ClientGen.Event
import ClientGen.Logging

/-!
Log lines: which events pass a filter, and how they are written.
-/

namespace ClientGen

open Data

namespace Logging

/-- What events are logged for. -/
def eventTarget : String := "kubegen"

/-- The verbosity that a filter has for an event with these fields: that of its first directive for
the target and for some of the fields. -/
def Filter.verbosityFor (f : Filter) (target : String) (fields : List String) : Verbosity :=
  match f.directives.find? fun d =>
    (d.target?.getD "").toList.isPrefixOf target.toList
      && d.fields.all fun field => fields.contains field.name with
  | some d => d.verbosity
  | none => .off

/-- A filter lets an event pass that has a verbosity and these fields. -/
def Filter.allows (f : Filter) (v : Verbosity) (fields : List String) : Bool :=
  Verbosity.all.idxOf v ≤ Verbosity.all.idxOf (f.verbosityFor eventTarget fields)

end Logging

namespace Event

open Logging

/-- The verbosity at which events of a level are logged. -/
def Level.verbosity : Level → Verbosity
  | .debug => .debug
  | .info => .info
  | .warn => .warn

def Datum.print : Datum → String
  | .text s => s
  | .count n => toString n

def Datum.toJson : Datum → Json
  | .text s => .text s
  | .count n => .number (toString n).toList

def line (e : Event) : Format → String
  | .pretty =>
    e.level.name ++ " " ++ e.message
      ++ String.join (e.data.map fun d => " " ++ d.1 ++ "=" ++ d.2.print)
  | .json =>
    (Json.record [("level", .text e.level.name),
      ("fields", Json.record (("message", .text e.message)
        :: e.data.map fun d => (d.1, d.2.toJson))),
      ("target", .text eventTarget)]).print

def lines (f : Logging.Filter) (format : Format) (events : List Event) : List String :=
  let passes (e : Event) := f.allows e.level.verbosity ("message" :: e.data.map Prod.fst)
  (events.filter passes).map fun e => e.line format

end Event

end ClientGen
