import ClientGen.Tool.Shell.Start
import ClientGen.Tool.Calculate
import ClientGen.Tool.Column
import ClientGen.Tool.Count
import ClientGen.Tool.Edit
import ClientGen.Tool.File
import ClientGen.Tool.Order
import ClientGen.Tool.Part
import ClientGen.Tool.Search

/-!
The programs that this library brings along, to stand for those of a system where it is run on its
own. Some of them start others, so they are known with how often that may happen. No result depends
on what they do, nor on which of them there are.
-/

namespace ClientGen.Tool

/-- A program that starts no other one. -/
def plain? (name : String) : Option Tool :=
  match name with
  | "cat" => some concatenate
  | "tr" => some exchange
  | "head" => some head
  | "tail" => some tail
  | "grep" => some grep
  | "sed" => some sed
  | "wc" => some count
  | "nl" => some number
  | "tac" => some reverseLines
  | "sort" => some sort
  | "uniq" => some unique
  | "rev" => some reverseEach
  | "cut" => some cut
  | "paste" => some paste
  | "fold" => some fold
  | "expand" => some expand
  | "unexpand" => some unexpand
  | "mkdir" => some makeDirectory
  | "rmdir" => some removeDirectory
  | "rm" => some remove
  | "touch" => some touch
  | "mv" => some move
  | "cp" => some copy
  | "ln" => some link
  | "readlink" => some readLink
  | "ls" => some list
  | "basename" => some baseName
  | "dirname" => some directoryName
  | "pwd" => some printCurrent
  | "tee" => some branch
  | "expr" => some expression
  | "seq" => some sequence
  | "yes" => some repeatLine
  | "echo" => some (echo true)
  | "printf" => some (printFormat .alone)
  | "test" => some (test .alone false)
  | "[" => some (test .alone true)
  | "printenv" => some printVariables
  | "true" | "sync" => some (idle 0)
  | "false" => some (idle 1)
  | "sleep" => some sleep
  | _ => none

/-- The options of programs that start another one and do nothing else that matters here. -/
def startingOptions : List (String × Nat × OptionTable) :=
  [("nice", 0, { name := "nice", letters := [('n', .needed)], words := [], mixes := false }),
    ("nohup", 0, { name := "nohup", letters := [], words := [], mixes := false }),
    ("timeout", 1, {
      name := "timeout"
      letters := [('s', .needed), ('k', .needed), ('v', .none)]
      words := [("signal", "s", .needed), ("kill-after", "k", .needed),
        ("preserve-status", "p", .none), ("foreground", "f", .none)]
      mixes := false })]

/-- The programs by name. The first argument bounds how often programs start others. -/
def named? : Nat → ToolTable
  | 0, _ => none
  | n + 1, name =>
    let inner := named? n
    match name with
    | "sh" | "dash" => some (shell inner false)
    | "bash" => some (shell inner true)
    | "env" => some (surround inner)
    | "xargs" => some (applyToInput inner)
    | name =>
      match startingOptions.lookup name with
      | some (skipped, table) => some (startBehind inner table skipped)
      | none => plain? name

def names : List String :=
  ["sh", "dash", "bash", "env", "xargs", "nice", "nohup", "timeout", "cat", "tr", "head", "tail",
    "grep", "sed", "wc", "nl", "tac", "sort", "uniq", "rev", "cut", "paste", "fold", "expand",
    "unexpand", "mkdir", "rmdir", "rm", "touch", "mv", "cp", "ln", "readlink", "ls", "basename",
    "dirname", "pwd", "tee", "expr", "seq", "yes", "echo", "printf", "test", "[", "printenv",
    "true", "sync", "false", "sleep"]

/-- How often programs may start others, each within the one before. -/
def mostStarts : Nat := 64

def named (name : String) : Option Tool := named? mostStarts name

end ClientGen.Tool
