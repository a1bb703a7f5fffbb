import ClientGen.Failure

/-!
Signals as shells know them: by number or name, with what they do to a shell that does not expect
them.
-/

namespace ClientGen.Shell

def lastSignal : Nat := 64

/-- The name of a signal without its beginning. Not all of them have one. -/
def signalName (n : Nat) : String :=
  if n == 0 then "EXIT"
  else if n == 16 then "16"
  else
    match signalName? n with
    | some name => String.ofList (name.toList.drop 3)
    | none =>
      if n == 34 then "RTMIN"
      else if n == 64 then "RTMAX"
      else if 34 < n && n < 50 then "RTMIN+" ++ toString (n - 34)
      else if 50 ≤ n && n < 64 then "RTMAX-" ++ toString (64 - n)
      else toString n

/-- The number of a signal that is written as a number or a name. -/
def signalNumber? (isRich : Bool) (text : String) : Option Nat :=
  match text.toNat? with
  | some n => if n ≤ lastSignal then some n else none
  | none =>
    let name := String.ofList (text.toList.map Char.toUpper)
    let name := if isRich && "SIG".toList.isPrefixOf name.toList then
        String.ofList (name.toList.drop 3) else name
    (List.range (lastSignal + 1)).find? fun n => signalName n == name

/-- What is said about a program that was ended by a signal. -/
def signalDescription (n : Nat) : String :=
  (["Signal 0", "Hangup", "Interrupt", "Quit", "Illegal instruction", "Trace/breakpoint trap",
    "Aborted", "Bus error", "Floating point exception", "Killed", "User defined signal 1",
    "Segmentation fault", "User defined signal 2", "Broken pipe", "Alarm clock", "Terminated",
    "Stack fault", "Child exited", "Continued", "Stopped (signal)", "Stopped",
    "Stopped (tty input)", "Stopped (tty output)", "Urgent I/O condition",
    "CPU time limit exceeded", "File size limit exceeded", "Virtual timer expired",
    "Profiling timer expired", "Window changed", "I/O possible", "Power failure",
    "Bad system call"][n]?).getD
      (if 34 ≤ n then "Real-time signal " ++ toString (n - 34) else "Unknown signal " ++ toString n)

/-- A signal that does nothing unless it is expected. -/
def isIgnored (n : Nat) : Bool := [0, 17, 18, 19, 20, 21, 22, 23, 28].contains n

end ClientGen.Shell
