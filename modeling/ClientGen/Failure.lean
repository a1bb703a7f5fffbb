import ClientGen.Disk.Error
import ClientGen.Spec.Issue
import ClientGen.Text.Utf8

/-!
Failures: everything that can end a run, by cause, and the wording of each.
-/

namespace ClientGen

open Spec

/-- What is wrong with a template, or with what it asks for. -/
inductive TemplateError where
  | badSyntax
  /-- An escape in a quoted text means no character. -/
  | badEscape
  | undefined
  | unknownFilter
  | unknownTest
  | unknownFunction
  | unknownMethod
  | unknownBlock
  | templateNotFound
  | invalidOperation
  /-- A template that is inserted into another one failed. -/
  | badInclude
  /-- The block that a block replaces failed. -/
  | badBlock
  | missingArgument
  | tooManyArguments
  /-- A value does not have one item for each target. -/
  | cannotUnpack
  deriving DecidableEq

def TemplateError.name : TemplateError → String
  | .badSyntax => "SyntaxError"
  | .badEscape => "BadEscape"
  | .undefined => "UndefinedError"
  | .unknownFilter => "UnknownFilter"
  | .unknownTest => "UnknownTest"
  | .unknownFunction => "UnknownFunction"
  | .unknownMethod => "UnknownMethod"
  | .unknownBlock => "UnknownBlock"
  | .templateNotFound => "TemplateNotFound"
  | .invalidOperation => "InvalidOperation"
  | .badInclude => "BadInclude"
  | .badBlock => "EvalBlock"
  | .missingArgument => "MissingArgument"
  | .tooManyArguments => "TooManyArguments"
  | .cannotUnpack => "CannotUnpack"

/-- How a program ended. -/
inductive ExitStatus where
  | code (n : Nat)
  | signal (n : Nat)
  deriving DecidableEq

def ExitStatus.isSuccess : ExitStatus → Bool
  | .code 0 => true
  | _ => false

def signalName? (n : Nat) : Option String :=
  [(1, "SIGHUP"), (2, "SIGINT"), (3, "SIGQUIT"), (4, "SIGILL"), (5, "SIGTRAP"), (6, "SIGABRT"),
    (7, "SIGBUS"), (8, "SIGFPE"), (9, "SIGKILL"), (10, "SIGUSR1"), (11, "SIGSEGV"),
    (12, "SIGUSR2"), (13, "SIGPIPE"), (14, "SIGALRM"), (15, "SIGTERM"), (16, "SIGSTKFLT"),
    (17, "SIGCHLD"), (18, "SIGCONT"), (19, "SIGSTOP"), (20, "SIGTSTP"), (21, "SIGTTIN"),
    (22, "SIGTTOU"), (23, "SIGURG"), (24, "SIGXCPU"), (25, "SIGXFSZ"), (26, "SIGVTALRM"),
    (27, "SIGPROF"), (28, "SIGWINCH"), (29, "SIGIO"), (30, "SIGPWR"), (31, "SIGSYS")].lookup n

def ExitStatus.message : ExitStatus → String
  | .code n => "exit status: " ++ toString n
  | .signal n =>
    "signal: " ++ toString n ++ match signalName? n with
      | some name => " (" ++ name ++ ")"
      | none => ""

/-- Why a formatter gave no text. -/
inductive FormatFault where
  | start (error : DiskError)
  /-- Its name or an argument holds the character that ends them. -/
  | zeroInCommand
  /-- It ended badly, and said something on its error stream. -/
  | exit (status : ExitStatus) (said : String)
  | write (error : DiskError)
  | notText (fault : Text.Utf8Fault)
  deriving DecidableEq

def FormatFault.message : FormatFault → String
  | .start error => "failed to start: " ++ error.message
  | .zeroInCommand => "failed to start: nul byte found in provided data"
  | .exit status said =>
    let said := Text.trim said
    "exited with " ++ status.message ++ if said.isEmpty then "" else ": " ++ said
  | .write error => "failed to write source: " ++ error.message
  | .notText fault => "output is not UTF-8: " ++ fault.message

/-- What can end a run. -/
inductive Failure where
  /-- The specs have these issues. -/
  | invalidSpec (issues : List Issue)
  /-- Strict checking met a reference to a resource that is not in the tree. -/
  | unresolved (owner reference : Identity)
  | missingTemplate (file directory : String)
  /-- A template failed; `path` is where it comes from, or what it was rendered for. -/
  | template (file path : String) (error : TemplateError)
  | format (program path : String) (fault : FormatFault)
  | disk (path : String) (error : DiskError)
  | unreadable (path : String) (error : ReadError)
  /-- A document cannot be read. -/
  | load (path : String) (error : ReadError)
  /-- A document is read, but means nothing. -/
  | parse (path : String)
  deriving DecidableEq

def summary : List Issue → String
  | [] => "no details"
  | [only] => only.label
  | first :: rest => first.label ++ " (and " ++ toString rest.length ++ " more)"

def Failure.message : Failure → String
  | .invalidSpec issues => "invalid resource spec: " ++ summary issues
  | .unresolved owner reference =>
    "sub-resource " ++ reference.label ++ " declared by " ++ owner.label
      ++ " is not a registered resource"
  | .missingTemplate file directory =>
    "required template '" ++ file ++ "' not found in " ++ directory
  | .template file path error =>
    "template '" ++ file ++ "' failed while rendering " ++ path ++ ": " ++ error.name
  | .format program path fault =>
    "formatter `" ++ program ++ "` failed for " ++ path ++ ": " ++ fault.message
  | .disk path error => "i/o error at " ++ path ++ ": " ++ error.message
  | .unreadable path error => "i/o error at " ++ path ++ ": " ++ error.message
  | .load path error => "failed to load spec document " ++ path ++ ": " ++ error.message
  | .parse path => "failed to load spec document " ++ path

end ClientGen
