import ClientGen.Tool.Edit.Read
import ClientGen.Tool.Edit.Run

/-!
The program that edits line by line: its options, the script that they give, and the files that it
reads and writes.
-/

namespace ClientGen.Tool

def editOptions : OptionTable where
  name := "sed"
  letters := ("nErsuzb".toList.map fun c => (c, OptionValue.none))
    ++ [('e', .needed), ('f', .needed), ('l', .needed), ('i', .optional)]
  words := [("quiet", "n", .none), ("silent", "n", .none), ("expression", "e", .needed),
    ("file", "f", .needed), ("regexp-extended", "E", .none), ("in-place", "i", .optional),
    ("line-length", "l", .needed), ("separate", "s", .none), ("unbuffered", "u", .none),
    ("null-data", "z", .none), ("zero-terminated", "z", .none), ("binary", "b", .none),
    ("posix", "posix", .none), ("debug", "debug", .none), ("sandbox", "sandbox", .none),
    ("follow-symlinks", "follow-symlinks", .none)]

/-- The script that options give, or else the first operand, with the other operands. -/
def editScript (o : Options) : Work (Except EditComplaint (EditScript × List String)) := do
  let isExtended := o.has "E" || o.has "r"
  let given := o.options.filter fun p => p.1 == "e" || p.1 == "f"
  let (parts, operands) := match given, o.operands with
    | [], script :: operands => ([("e", some script)], operands)
    | given, operands => (given, operands)
  if parts.isEmpty then return .error (1, "sed: no script specified")
  let mut reading : Except EditComplaint ReadingEdit :=
    .ok { source := "", isFile := false, isExtended, chars := [] }
  let mut count := 0
  for (option, value?) in parts do
    let value := value?.getD ""
    if option == "e" then
      count := count + 1
      let source := "-e expression #" ++ toString count
      reading := reading.bind fun r => readEditText r source false value.toList
    else
      match ← Work.readOperand value with
      | .ok cs => reading := reading.bind fun r => readEditText r value true cs
      | .error e =>
        reading := reading.bind fun _ =>
          .error (4, "sed: couldn't open file " ++ value ++ ": " ++ Work.saying e)
  return (reading.bind ReadingEdit.finish).map fun script => (script, operands)

def editedLines (lineEnd : Char) (isSeparate : Bool) (source : String) (cs : List Char) :
    List EditedLine :=
  let lines := linesEnding lineEnd cs
  lines.zipIdx.map fun (line, k) =>
    { text := withoutEnd lineEnd line
      isEnded := line.getLast? == some lineEnd
      source
      isFirst := isSeparate && k == 0
      isLast := isSeparate && k + 1 == lines.length }

def soughtIn (c : EditCommand) : List Sought :=
  let ofMark (mark? : Option LineMark) : List Sought := match mark? with
    | some (.fits sought) => [sought]
    | _ => []
  ofMark c.address.first?
    ++ (match c.address.stop? with
      | some (.mark mark) => ofMark (some mark)
      | _ => [])
    ++ match c.action with
      | .substitute sub => [sub.sought]
      | _ => []

/-- A script looks for what was looked for last, but never looked for anything before. -/
def looksForNothing (script : EditScript) : Bool :=
  let all := script.commands.toList.flatMap soughtIn
  !all.isEmpty && all.all fun sought => sought.pattern?.isNone

def editBlock : Nat := 4096

/-- How many bytes of the input are read when the editor leaves lines behind. -/
def editedBytes (isUnbuffered : Bool) (size : Nat) (left : List EditedLine) : Nat :=
  let behind := left.filter (·.source == "-")
  let used := size - behind.foldl (fun n l => n + l.text.length + if l.isEnded then 1 else 0) 0
  if behind.isEmpty then size
  else if isUnbuffered then used
  else min size ((used + editBlock) / editBlock * editBlock)

def sed : Tool := fun arguments => do
  match editOptions.read arguments with
  | .error what => Work.fail 1 (editOptions.remark what)
  | .ok o =>
    match ← editScript o with
    | .error (code, complaint) => Work.fail code complaint
    | .ok (script, operands) =>
      let inPlace := o.has "i"
      let isSeparate := inPlace || o.has "s"
      let lineEnd := if o.has "z" then '\x00' else '\n'
      let input := ofBytes ((← get).waiting 0)
      -- the files that it writes are made first
      for path in script.paths do
        if let .error e ← Work.writePath path [] false then
          return ← Work.fail 4 ("sed: couldn't open file " ++ path ++ ": " ++ Work.saying e)
      let mut lines : List EditedLine := []
      let mut code := 0
      for operand in if operands.isEmpty then ["-"] else operands do
        let found ← if operand == "-" then pure (.ok input) else Work.readPath operand
        match found with
        | .ok cs => lines := lines ++ editedLines lineEnd isSeparate operand cs
        | .error .isDirectory =>
          if inPlace then
            Work.complain ("sed: couldn't edit " ++ operand ++ ": not a regular file")
            code := 4
          else return ← Work.fail 4 ("sed: read error on " ++ operand ++ ": Is a directory")
        | .error e =>
          Work.complain ("sed: can't read " ++ operand ++ ": " ++ Work.saying e)
          code := 2
      if !isSeparate then
        lines := lines.dropLast ++ (lines.getLast?.toList.map fun l => { l with isLast := true })
      if looksForNothing script && !lines.isEmpty then
        return ← Work.fail 1 "sed: -e expression #1, char 0: no previous regular expression"
      let files ← get
      let settings : EditSettings :=
        { script, lineEnd, inPlace
          isQuiet := o.has "n" || script.isQuiet
          width := ((o.value? "l").bind String.toNat?).getD 70
          read := fun path =>
            if path == "/dev/stdin" then some []
            else (files.disk.read (decodeText path)).toOption.map ofBytes }
      let (quit, e) := Editor.edit settings lines
      let e := if inPlace then operands.foldl (fun e path => e.collect path id) e else e
      if inPlace then
        if let some suffix := o.value? "i" then
          for path in operands do
            if let .ok cs ← Work.readPath path then
              let _ ← Work.writePath (path ++ suffix) cs false
      for sink in e.sinks do
        let _ ← Work.writePath sink.path sink.pieces.reverse.flatten false
      if operands.isEmpty || operands.contains "-" then
        modify fun j => j.skip 0 (editedBytes (o.has "u") input.length e.lines)
      return .code (if quit == 0 then code else quit)

end ClientGen.Tool
