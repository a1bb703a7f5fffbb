import ClientGen.Tool.Edit.Basic
import ClientGen.Tool.Job

/-!
Editing line by line. An editor holds a line on which the commands of a script work, and keeps
another text beside it. What it prints and writes to files is collected until it has ended.
-/

namespace ClientGen.Tool

/-- A line that an editor reads. -/
structure EditedLine where
  text : List Char
  /-- The line has an end. -/
  isEnded : Bool
  /-- The file that it comes from. -/
  source : String
  /-- It is the first line of a file that is edited on its own. -/
  isFirst : Bool
  isLast : Bool

/-- Where a command is in its range of lines. -/
inductive RangeState where
  | outside
  | inside (stop? : Option Nat)
  /-- The range does not come again. -/
  | over
  deriving DecidableEq

/-- What is printed behind a line. -/
inductive Behind where
  | text (cs : List Char)
  | file (path : String)
  | line (path : String)

/-- What is collected for a file. -/
structure Sink where
  path : String
  /-- The pieces, last one first. -/
  pieces : List (List Char) := []
  /-- The last line lacks its end. -/
  isOpen : Bool := false

/-- An editor in the middle of its work. -/
structure Editor where
  line : List Char := []
  isEnded : Bool := true
  kept : List Char := []
  keptEnded : Bool := true
  /-- Something was replaced since the last line was read. -/
  hasReplaced : Bool := false
  behind : List Behind := []
  sinks : List Sink := []
  /-- Where it prints. -/
  output : String := "/dev/stdout"
  ranges : Array RangeState := #[]
  lines : List EditedLine := []
  number : Nat := 0
  source : String := "-"
  isLast : Bool := false
  lastSought? : Option Sought := none
  /-- How many lines of a file were printed one by one. -/
  linesRead : List (String × Nat) := []

/-- How an editor edits. -/
structure EditSettings where
  script : EditScript
  isQuiet : Bool
  lineEnd : Char := '\n'
  width : Nat := 70
  /-- Each file is edited on its own, and what is printed for it takes its place. -/
  inPlace : Bool := false
  /-- The text of a file, if there is one. -/
  read : String → Option (List Char)

namespace Editor

variable (s : EditSettings)

/-! ### Printing -/

def collect (path : String) (f : Sink → Sink) (e : Editor) : Editor :=
  let sinks := if e.sinks.any (·.path == path) then e.sinks else e.sinks ++ [{ path := path }]
  { e with sinks := sinks.map fun sink => if sink.path == path then f sink else sink }

/-- Adds to what is collected for a path. The end of a line that lacks it comes first. -/
def emitTo (path : String) (cs : List Char) (leavesOpen : Bool) (e : Editor) : Editor :=
  e.collect path fun sink =>
    let pieces := if sink.isOpen then [s.lineEnd] :: sink.pieces else sink.pieces
    { sink with pieces := cs :: pieces, isOpen := leavesOpen }

def emit (cs : List Char) (e : Editor) : Editor := e.emitTo s e.output cs false

/-- Writes a line to a file. If that is where lines are printed, a printed line that lacks its end
does not get it. -/
def writeLine (path : String) (line : List Char) (isEnded : Bool) (e : Editor) : Editor :=
  let cs := if isEnded then line ++ [s.lineEnd] else line
  if path == e.output then e.collect path fun sink => { sink with pieces := cs :: sink.pieces }
  else e.emitTo s path cs (!isEnded)

def printLine (e : Editor) : Editor :=
  e.emitTo s e.output (if e.isEnded then e.line ++ [s.lineEnd] else e.line) (!e.isEnded)

def firstLine (e : Editor) : List Char := e.line.takeWhile (· != s.lineEnd)

/-- Prints what was put behind the line. -/
def emitBehind (e : Editor) : Editor :=
  e.behind.foldl (fun e b =>
    match b with
    | .text cs => e.emit s cs
    | .file path => e.emit s ((s.read path).getD [])
    | .line path =>
      let n := (e.linesRead.lookup path).getD 0
      match (linesEnding s.lineEnd ((s.read path).getD []))[n]? with
      | none => e
      | some line =>
        let e := { e with linesRead := (path, n + 1) :: e.linesRead }
        e.emit s line) { e with behind := [] }

def displayed (c : Char) : List Char :=
  match [('\\', "\\\\"), ('\x07', "\\a"), ('\x08', "\\b"), ('\x0c', "\\f"), ('\n', "\\n"),
      ('\r', "\\r"), ('\t', "\\t"), ('\x0b', "\\v")].lookup c with
  | some text => text.toList
  | none =>
    if 32 ≤ c.toNat && c.toNat < 127 then [c]
    else
      let digit (n : Nat) : Char := Char.ofNat (48 + c.toNat / n % 8)
      ['\\', digit 64, digit 8, digit 1]

/-- A display of a line that is broken where it gets too long. -/
def displayLine (width : Nat) (line : List Char) : List Char :=
  let (shown, _) := line.foldl (fun (state : List Char × Nat) c =>
    let (shown, used) := state
    let piece := displayed c
    if 0 < width && width - 1 < used + piece.length then
      (shown ++ ['\\', '\n'] ++ piece, piece.length)
    else (shown ++ piece, used + piece.length)) ([], 0)
  shown ++ ['$', '\n']

/-! ### Reading -/

/-- Reads the next line, and adds it to the one that is held or takes its place. -/
def fetchLine (isMore : Bool) (e : Editor) : Option Editor :=
  match e.lines with
  | [] => none
  | next :: rest =>
    let e := { e.emitBehind s with hasReplaced := false }
    let e := if next.isFirst then
        { e with
          number := 0
          ranges := e.ranges.map fun r => if r == .over then .outside else r }
      else e
    some
      { e with
        line := if isMore then e.line ++ s.lineEnd :: next.text else next.text
        isEnded := next.isEnded
        lines := rest
        number := e.number + 1
        source := next.source
        output := if s.inPlace then next.source else e.output
        isLast := next.isLast }

/-! ### Addresses -/

/-- What is looked for, if anything was ever looked for. -/
def soughtNow? (sought : Sought) (e : Editor) : Option Sought :=
  match sought.pattern? with
  | some _ => some sought
  | none => e.lastSought?

def subjectOf (sought : Sought) (line : List Char) : Pattern.Subject where
  chars := line.toArray
  ignoresCase := sought.ignoresCase
  byLine := sought.byLine

def isNamedBy (mark : LineMark) (e : Editor) : Bool × Editor :=
  match mark with
  | .number n => (e.number == n, e)
  | .every first step => (first ≤ e.number && (e.number - first) % step == 0, e)
  | .final => (e.isLast, e)
  | .fits sought =>
    match e.soughtNow? sought with
    | none => (false, e)
    | some sought =>
      let found := match sought.pattern? with
        | some p => (p.find? (subjectOf sought e.line) 0).isSome
        | none => false
      (found, { e with lastSought? := some sought })

/-- The line begins a range, or is the only line that an address names. -/
def startsRange (n : Nat) (first : LineMark) (stop? : Option RangeStop) (e : Editor) :
    Bool × Editor :=
  let (isNamed, e) := e.isNamedBy first
  if !isNamed then (false, e)
  else
    let within (stop? : Option Nat) : Editor :=
      { e with ranges := e.ranges.setIfInBounds n (.inside stop?) }
    let upTo (last : Nat) : Editor := if e.number < last then within (some last) else e
    match stop? with
    | none => (true, e)
    | some (.mark (.number last)) => (true, upTo last)
    | some (.mark _) => (true, within none)
    | some (.behind k) => (true, upTo (e.number + k))
    | some (.multiple k) => (true, if k == 0 then e else upTo ((e.number / k + 1) * k))

def isNamed (n : Nat) (a : Address) (e : Editor) : Bool × Editor :=
  match a.first? with
  | none => (true, e)
  | some first =>
    let leave (e : Editor) : Editor :=
      { e with
        ranges := e.ranges.setIfInBounds n (match first with
          | .number _ => .over
          | _ => .outside) }
    match (e.ranges[n]?).getD .outside with
    | .over => (false, e)
    | .outside => e.startsRange n first a.stop?
    | .inside (some last) =>
      if e.number < last then (true, e)
      else if e.number == last then (true, leave e)
      else (leave e).startsRange n first a.stop?
    | .inside none =>
      match a.stop? with
      | some (.mark mark) =>
        let (isStop, e) := e.isNamedBy mark
        (true, if isStop then leave e else e)
      | _ => (true, e)

/-! ### Replacing -/

def changed (change : LetterChange) (c : Char) : Char :=
  match change with
  | .keep => c
  | .raise => c.toUpper
  | .lower => c.toLower

def replaced (fit : Pattern.Fit) (subject : Pattern.Subject) (parts : List ReplacementPart) :
    List Char :=
  let put (state : List Char × LetterChange × Option LetterChange) (cs : List Char) :
      List Char × LetterChange × Option LetterChange :=
    match cs with
    | [] => state
    | c :: cs =>
      let (done, change, next?) := state
      (done ++ changed (next?.getD change) c :: cs.map (changed change), change, none)
  (parts.foldl (fun state part =>
    match part with
    | .char c => put state [c]
    | .group n => put state (fit.group subject n)
    | .change change => (state.1, change, state.2.2)
    | .changeNext change => (state.1, state.2.1, some change))
    ([], LetterChange.keep, none)).1

/-- Replaces fits from a place on, of which `count` were met before. An empty fit directly behind
another one does not count. The result tells whether anything was replaced. The first argument
bounds the number of fits. -/
def replaceFrom (subject : Pattern.Subject) (p : Pattern) (sub : Substitution) :
    Nat → (start count : Nat) → (lastStop? : Option Nat) → List Char × Bool
  | 0, start, _, _ => ((subject.chars.extract start subject.chars.size).toList, false)
  | n + 1, start, count, lastStop? =>
    let rest (i : Nat) : List Char := (subject.chars.extract i subject.chars.size).toList
    let between (i j : Nat) : List Char := (subject.chars.extract i j).toList
    match if start ≤ subject.chars.size then p.find? subject start else none with
    | none => (rest start, false)
    | some fit =>
      let before := between start fit.start
      let isEmpty := fit.stop == fit.start
      -- behind an empty fit one character is passed over
      let next := if isEmpty then fit.stop + 1 else fit.stop
      let passed := if isEmpty then between fit.stop next else []
      if isEmpty && lastStop? == some fit.start then
        let (more, found) := replaceFrom subject p sub n next count none
        (before ++ passed ++ more, found)
      else if count + 1 < sub.nth then
        let (more, found) := replaceFrom subject p sub n next (count + 1) (some fit.stop)
        (before ++ between fit.start fit.stop ++ passed ++ more, found)
      else
        let text := replaced fit subject sub.replacement
        if sub.isGlobal then
          let (more, _) := replaceFrom subject p sub n next (count + 1) (some fit.stop)
          (before ++ text ++ passed ++ more, true)
        else (before ++ text ++ rest fit.stop, true)

def substitute (sub : Substitution) (e : Editor) : Editor :=
  match e.soughtNow? sub.sought with
  | none => e
  | some sought =>
    let e := { e with lastSought? := some sought }
    match sought.pattern? with
    | none => e
    | some p =>
      let (line, found) :=
        replaceFrom (subjectOf sought e.line) p sub (e.line.length + 2) 0 0 none
      if !found then e
      else
        let e := { e with line, hasReplaced := true }
        let e := if sub.prints then e.printLine s else e
        match sub.path? with
        | some path => e.writeLine s path e.line e.isEnded
        | none => e

/-! ### Commands -/

/-- How it goes on behind a command. -/
inductive Step where
  /-- With the command of this number. -/
  | at (n : Nat)
  /-- With the next line. -/
  | done (prints : Bool)
  /-- With what is left of the line. -/
  | again
  | quit (code : Nat) (prints : Bool)
  /-- There is no next line. -/
  | stop

/-- The number of the command behind a label. -/
def target (label : String) : Nat :=
  if label.isEmpty then s.script.commands.size
  else (s.script.labels.lookup label).getD s.script.commands.size

def act (n : Nat) (a : Address) (action : EditAction) (e : Editor) : Step × Editor :=
  let go (e : Editor) : Step × Editor := (.at (n + 1), e)
  match action with
  | .nothing | .block _ => go e
  | .print => go (e.printLine s)
  | .printFirst =>
    let isEnded := e.isEnded || e.line.contains s.lineEnd
    go (if isEnded then e.emit s (e.firstLine s ++ [s.lineEnd]) else e.printLine s)
  | .delete => (.done false, e)
  | .deleteFirst =>
    if e.line.contains s.lineEnd then
      (.again, { e with line := e.line.drop ((e.firstLine s).length + 1) })
    else (.done false, e)
  | .fetch => go { e with line := e.kept, isEnded := e.keptEnded }
  | .fetchMore => go { e with line := e.line ++ s.lineEnd :: e.kept, isEnded := e.keptEnded }
  | .keep => go { e with kept := e.line, keptEnded := e.isEnded }
  | .keepMore => go { e with kept := e.kept ++ s.lineEnd :: e.line, keptEnded := e.isEnded }
  | .exchange =>
    go { e with line := e.kept, isEnded := e.keptEnded, kept := e.line, keptEnded := e.isEnded }
  | .next =>
    match (if e.lines.isEmpty || s.isQuiet then e else e.printLine s).fetchLine s false with
    | some e => go e
    | none => (.stop, e)
  | .nextMore =>
    match e.fetchLine s true with
    | some e => go e
    | none => (.stop, e)
  | .number => go (e.emit s ((toString e.number).toList ++ ['\n']))
  | .fileName => go (e.emit s (e.source.toList ++ ['\n']))
  | .display width? => go (e.emit s (displayLine (width?.getD s.width) e.line))
  | .clear => go { e with line := [] }
  | .quit code prints => (.quit code prints, e)
  | .place text .before => go (e.emit s text)
  | .place text .behind => go { e with behind := e.behind ++ [.text text] }
  | .place text .instead =>
    let isInside := match (e.ranges[n]?).getD .outside with
      | .inside _ => !a.isInverted
      | _ => false
    (.done false, if isInside then e else e.emit s text)
  | .readFile path => go { e with behind := e.behind ++ [.file path] }
  | .readLine path => go { e with behind := e.behind ++ [.line path] }
  | .writeLine path => go (e.writeLine s path e.line e.isEnded)
  | .writeFirst path => 
    go (e.writeLine s path (e.firstLine s) (e.isEnded || e.line.contains s.lineEnd))
  | .jump label .always => (.at (target s label), e)
  | .jump label .ifReplaced =>
    if e.hasReplaced then (.at (target s label), { e with hasReplaced := false }) else go e
  | .jump label .unlessReplaced =>
    if e.hasReplaced then go { e with hasReplaced := false } else (.at (target s label), e)
  | .substitute sub => go (e.substitute s sub)
  | .transliterate table => go { e with line := e.line.map fun c => (table.lookup c).getD c }

/-- Does the commands from a number on. The first argument bounds how many. -/
def runFrom : Nat → Nat → Editor → Step × Editor
  | 0, _, e => (.stop, e)
  | fuel + 1, n, e =>
    match s.script.commands[n]? with
    | none => (.done true, e)
    | some c =>
      let (isNamed, e) := e.isNamed n c.address
      if isNamed != c.address.isInverted then
        match e.act s n c.address c.action with
        | (.at m, e) => runFrom fuel m e
        | last => last
      else
        match c.action with
        | .block behind => runFrom fuel behind e
        | _ => runFrom fuel (n + 1) e

/-- How many commands may be done to a line. -/
def mostCommands : Nat := 1000000

/-- What comes when the commands were done to a line. -/
def finishLine (prints : Bool) (e : Editor) : Editor :=
  (if prints && !s.isQuiet then e.printLine s else e).emitBehind s

/-- Edits all lines that are left, and tells with which code it ends. The first argument bounds
their number. -/
def editAll : Nat → (fetches : Bool) → Editor → Nat × Editor
  | 0, _, e => (0, e)
  | fuel + 1, fetches, e =>
    match if fetches then e.fetchLine s false else some e with
    | none => (0, e)
    | some e =>
      match e.runFrom s mostCommands 0 with
      | (.done prints, e) => editAll fuel true (e.finishLine s prints)
      | (.again, e) => editAll fuel false (e.finishLine s false)
      | (.quit code prints, e) => (code, if prints then (e.finishLine s true).emit s [] else e)
      | (.stop, e) => (0, e.finishLine s true)
      | (.at _, e) => (0, e)

/-- The state in which a command begins: a range that begins before the first line is open. -/
def startOf (c : EditCommand) : RangeState :=
  match c.address.first? with
  | some (.number 0) => .inside none
  | _ => .outside

/-- Edits lines, and tells with which code it ends. -/
def edit (lines : List EditedLine) : Nat × Editor :=
  let size := lines.foldl (fun n l => n + l.text.length + 2) 0
  ({ lines, ranges := s.script.commands.map startOf } : Editor).editAll s (size + 2) true

end Editor

end ClientGen.Tool
