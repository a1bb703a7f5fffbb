import ClientGen.Tool.Pattern.Read
import ClientGen.Tool.Edit.Basic
import ClientGen.Tool.Option

/-!
Reading scripts for editing. A complaint tells how many characters were read when it came up, or in
which line of a file.
-/

namespace ClientGen.Tool

/-- What is wrong with a script. -/
inductive EditFault where
  | manyBangs
  | strayComma
  | relativeFirst
  | openBlock
  | strayClose
  | junk
  | noText
  | labelAddress
  | commentAddress
  | noCommand
  | oneAddress
  | openAddress
  | openSubstitution
  | openTransliteration
  | badFlag
  | manyFlags (flag : String)
  | zeroFlag
  | lengths
  | tooNew
  | lineZero
  | unknown (c : Char)
  | noLabel
  | noPath
  | noGroup (n : Nat)
  | noPattern
  | flaggedNothing
  | pattern (e : PatternError)

def EditFault.message : EditFault → String
  | .manyBangs => "multiple \x60!'s"
  | .strayComma => "unexpected \x60,'"
  | .relativeFirst => "invalid usage of +N or ~N as first address"
  | .openBlock => "unmatched \x60\x7b'"
  | .strayClose => "unexpected \x60\x7d'"
  | .junk => "extra characters after command"
  | .noText => "expected \\ after \x60a', \x60c' or \x60i'"
  | .labelAddress => ": doesn't want any addresses"
  | .commentAddress => "comments don't accept any addresses"
  | .noCommand => "missing command"
  | .oneAddress => "command only uses one address"
  | .openAddress => "unterminated address regex"
  | .openSubstitution => "unterminated \x60s' command"
  | .openTransliteration => "unterminated \x60y' command"
  | .badFlag => "unknown option to \x60s'"
  | .manyFlags flag => "multiple " ++ flag ++ " options to \x60s' command"
  | .zeroFlag => "number option to \x60s' command may not be zero"
  | .lengths => "strings for \x60y' command are different lengths"
  | .tooNew => "expected newer version of sed"
  | .lineZero => "invalid usage of line address 0"
  | .unknown c => "unknown command: \x60" ++ c.toString ++ "'"
  | .noLabel => "\":\" lacks a label"
  | .noPath => "missing filename in r/R/w/W commands"
  | .noGroup n => "invalid reference \\" ++ toString n ++ " on \x60s' command's RHS"
  | .noPattern => "no previous regular expression"
  | .flaggedNothing => "cannot specify modifiers on empty regexp"
  | .pattern e => e.message

/-- A complaint of an editor, and the code with which it ends. -/
abbrev EditComplaint := Nat × String

/-- A script while it is read. -/
structure ReadingEdit where
  /-- What the text is called. -/
  source : String
  /-- The text comes from a file, in which lines are counted. -/
  isFile : Bool
  isExtended : Bool
  chars : List Char
  position : Nat := 0
  line : Nat := 1
  commands : Array EditCommand := #[]
  /-- The blocks that are open, each with its place in complaints. -/
  blocks : List (Nat × String) := []
  labels : List (String × Nat) := []
  paths : List String := []
  isQuiet : Bool := false
  /-- The text of the last command is still to come. -/
  awaitsText : Bool := false

abbrev ReadEdit := StateT ReadingEdit (Except EditComplaint)

namespace ReadingEdit

def placeAt (r : ReadingEdit) (position : Nat) : String :=
  if r.isFile then "file " ++ r.source ++ " line " ++ toString r.line
  else r.source ++ ", char " ++ toString position

end ReadingEdit

namespace ReadEdit

def refuse {α : Type} (fault : EditFault) : ReadEdit α := do
  let r ← get
  match fault with
  | .pattern .bareClass => throw (4, "sed: " ++ fault.message)
  | _ => throw (1, "sed: " ++ r.placeAt r.position ++ ": " ++ fault.message)

def next? : ReadEdit (Option Char) := do
  let r ← get
  match r.chars with
  | [] => return none
  | c :: cs =>
    let line := if c == '\n' then r.line + 1 else r.line
    set { r with chars := cs, position := r.position + 1, line }
    return some c

def back (c? : Option Char) : ReadEdit Unit :=
  match c? with
  | none => pure ()
  | some c => modify fun r =>
    { r with
      chars := c :: r.chars
      position := r.position - 1
      line := if c == '\n' then r.line - 1 else r.line }

def taking (p : Char → Bool) : ReadEdit (List Char) := do
  let r ← get
  let taken := r.chars.takeWhile p
  set { r with
    chars := r.chars.drop taken.length
    position := r.position + taken.length
    line := r.line + taken.count '\n' }
  return taken

def nextBehindBlanks? : ReadEdit (Option Char) := do
  let _ ← taking fun c => c == ' ' || c == '\t'
  next?

/-- Takes a number whose first digit may be taken already. -/
def number (c? : Option Char) : ReadEdit Nat := do
  back c?
  let digits ← taking Char.isDigit
  return ((String.ofList digits).toNat?).getD 0

def stop : ReadEdit Unit := do
  match ← nextBehindBlanks? with
  | none | some '\n' | some ';' => pure ()
  | some c => if c == '\x7d' || c == '#' then back (some c) else refuse .junk

def label : ReadEdit String := do
  let _ ← taking fun c => c == ' ' || c == '\t'
  let cs ← taking fun c =>
    !(c == '\n' || c == ';' || c == '\x7d' || (c.isWhitespace || c == '\x0b'))
  return String.ofList cs

def path : ReadEdit String := do
  let _ ← taking fun c => c == ' ' || c == '\t'
  let cs ← taking (· != '\n')
  let _ ← next?
  if cs.isEmpty then refuse .noPath
  return String.ofList cs

/-- Takes the name of a file that is written. -/
def writtenPath : ReadEdit String := do
  let p ← path
  modify fun r => { r with paths := if r.paths.contains p then r.paths else r.paths ++ [p] }
  return p

/-! ### Patterns and replacements -/

/-- What is left of a set behind its opening bracket: the set up to the closing one, and what is
behind that. -/
def setAtFront? (cs : List Char) : Option (List Char × List Char) :=
  let start := match cs with
    | '^' :: ']' :: _ => 2
    | '^' :: _ => 1
    | ']' :: _ => 1
    | _ => 0
  (goOn (cs.length + 1) (cs.drop start)).map fun r => (cs.take start ++ r.1, r.2)
where
  /-- Goes on up to the closing bracket. The first argument bounds the number of steps. -/
  goOn : Nat → List Char → Option (List Char × List Char)
    | 0, _ => none
    | _, [] => none
    | _, '\n' :: _ => none
    | _, ']' :: cs => some ([']'], cs)
    | n + 1, '[' :: mark :: cs =>
      if mark == ':' || mark == '.' || mark == '=' then
        match Pattern.namedAtFront? mark cs with
        | some (name, rest) =>
          (goOn n rest).map fun r => ('[' :: mark :: name.toList ++ mark :: ']' :: r.1, r.2)
        | none => (goOn n (mark :: cs)).map fun r => ('[' :: r.1, r.2)
      else (goOn n (mark :: cs)).map fun r => ('[' :: r.1, r.2)
    | n + 1, '\\' :: 'n' :: cs => (goOn n cs).map fun r => ('\n' :: r.1, r.2)
    | n + 1, c :: cs => (goOn n cs).map fun r => (c :: r.1, r.2)

/-- Takes what comes before a delimiter. The backslash before a delimiter is dropped. The first
argument bounds the number of steps. -/
def upTo? (delimiter : Char) (isPattern : Bool) : Nat → List Char → Option (List Char × List Char)
  | 0, _ => none
  | _, [] => none
  | _, ['\\'] => none
  | n + 1, '\\' :: c :: cs =>
    let kept := if c == delimiter then if !isPattern && c == '&' then ['\\', c] else [c]
      else if c == '\n' then if isPattern then [c] else ['\\', c]
      else if c == 'n' && isPattern then ['\n']
      else ['\\', c]
    (upTo? delimiter isPattern n cs).map fun r => (kept ++ r.1, r.2)
  | _, '\n' :: _ => none
  | n + 1, c :: cs =>
    if c == delimiter then some ([], cs)
    else if isPattern && c == '[' then do
      let (set, rest) ← setAtFront? cs
      (upTo? delimiter isPattern n rest).map fun r => (c :: set ++ r.1, r.2)
    else (upTo? delimiter isPattern n cs).map fun r => (c :: r.1, r.2)

/-- Takes what comes before a delimiter, and the delimiter. Without one everything is taken up to
the end of the line. -/
def delimited (delimiter? : Option Char) (isPattern : Bool) (fault : EditFault) :
    ReadEdit (List Char) := do
  let r ← get
  let found? := delimiter?.bind fun d =>
    if d == '\n' || d == '\\' then none else upTo? d isPattern (r.chars.length + 1) r.chars
  match found? with
  | some (cs, rest) =>
    let taken := r.chars.length - rest.length
    set { r with
      chars := rest
      position := r.position + taken
      line := r.line + (r.chars.take taken).count '\n' }
    return cs
  | none =>
    let _ ← taking (· != '\n')
    refuse fault

/-- A pattern in which the characters that are written by their numbers stand for themselves. -/
def numbersResolved : List Char → List Char
  | '\\' :: c :: cs =>
    match if ['c', 'd', 'o', 'x'].contains c then Pattern.escapedAtFront? (c :: cs) else none with
    | some ('\\', rest) => '\\' :: '\\' :: (numbersResolved cs).drop (cs.length - rest.length)
    | some (e, rest) => e :: (numbersResolved cs).drop (cs.length - rest.length)
    | none => '\\' :: c :: numbersResolved cs
  | c :: cs => c :: numbersResolved cs
  | [] => []

def sought (cs : List Char) (ignoresCase byLine : Bool) : ReadEdit Sought := do
  if cs.isEmpty then
    if ignoresCase || byLine then refuse .flaggedNothing
    return ⟨none, false, false⟩
  match Pattern.read ⟨(← get).isExtended, true⟩ (numbersResolved cs) with
  | .ok p => return ⟨some p, ignoresCase, byLine⟩
  | .error e => refuse (.pattern e)

def replacement : List Char → List ReplacementPart
  | [] => []
  | '&' :: cs => .group 0 :: replacement cs
  | ['\\'] => [.char '\\']
  | '\\' :: c :: cs =>
    if c.isDigit then .group (c.toNat - 48) :: replacement cs
    else
      match c with
      | 'L' => .change .lower :: replacement cs
      | 'U' => .change .raise :: replacement cs
      | 'E' => .change .keep :: replacement cs
      | 'l' => .changeNext .lower :: replacement cs
      | 'u' => .changeNext .raise :: replacement cs
      | c =>
        match Pattern.escapedAtFront? (c :: cs) with
        | some (e, rest) => .char e :: (replacement cs).drop (cs.length - rest.length)
        | none => .char c :: replacement cs
  | c :: cs => .char c :: replacement cs

/-- The largest number of a group that a replacement asks for. -/
def lastGroup (parts : List ReplacementPart) : Nat :=
  parts.foldl (fun n part =>
    match part with
    | .group k => max n k
    | _ => n) 0

/-- Takes the flags of a substitution. The first argument bounds their number. -/
def flags : Nat → Substitution → (ignoresCase byLine hasNumber : Bool) →
    ReadEdit (Substitution × Bool × Bool)
  | 0, s, ignoresCase, byLine, _ => return (s, ignoresCase, byLine)
  | n + 1, s, ignoresCase, byLine, hasNumber => do
    match ← next? with
    | none | some '\n' | some ';' => return (s, ignoresCase, byLine)
    | some c =>
      match c with
      | 'i' | 'I' => flags n s true byLine hasNumber
      | 'm' | 'M' => flags n s ignoresCase true hasNumber
      | 'p' =>
        if s.prints then refuse (.manyFlags "\x60p'")
        flags n { s with prints := true } ignoresCase byLine hasNumber
      | 'g' =>
        if s.isGlobal then refuse (.manyFlags "\x60g'")
        flags n { s with isGlobal := true } ignoresCase byLine hasNumber
      | 'w' =>
        let p ← writtenPath
        return ({ s with path? := some p }, ignoresCase, byLine)
      | ' ' => flags n s ignoresCase byLine hasNumber
      | c =>
        if c == '\x7d' || c == '#' then
          back (some c)
          return (s, ignoresCase, byLine)
        else if c.isDigit then
          if hasNumber then refuse (.manyFlags "number")
          let nth ← number (some c)
          if nth == 0 then refuse .zeroFlag
          flags n { s with nth } ignoresCase byLine true
        else refuse .badFlag

def substitution : ReadEdit EditAction := do
  let delimiter? ← next?
  let written ← delimited delimiter? true .openSubstitution
  let parts := replacement (← delimited delimiter? false .openSubstitution)
  let (s, ignoresCase, byLine) ← flags ((← get).chars.length + 1)
    { sought := ⟨none, false, false⟩, replacement := parts } false false false
  let found ← sought written ignoresCase byLine
  if let some p := found.pattern? then
    if p.groupCount < lastGroup parts then refuse (.noGroup (lastGroup parts))
  return .substitute { s with sought := found }

/-- The characters of one side of an exchange. -/
def exchanged : List Char → List Char
  | [] => []
  | ['\\'] => ['\\']
  | '\\' :: '\\' :: cs => '\\' :: exchanged cs
  | '\\' :: c :: cs =>
    match Pattern.escapedAtFront? (c :: cs) with
    | some (e, rest) => e :: (exchanged cs).drop (cs.length - rest.length)
    | none => c :: exchanged cs
  | c :: cs => c :: exchanged cs

def transliteration : ReadEdit EditAction := do
  let delimiter? ← next?
  let sources := exchanged (← delimited delimiter? false .openTransliteration)
  let targets := exchanged (← delimited delimiter? false .openTransliteration)
  if sources.length != targets.length then refuse .lengths
  stop
  return .transliterate (sources.zip targets)

/-! ### Texts -/

/-- A text up to the end of its line, and what is behind that. A backslash joins lines, and makes
the next character a part of the text. -/
def textLine : List Char → List Char × List Char
  | [] => ([], [])
  | '\n' :: cs => ([], cs)
  | ['\\'] => ([], [])
  | '\\' :: c :: cs =>
    let (text, rest) := textLine cs
    match Pattern.escapedAtFront? (c :: cs) with
    | some (e, behind) => (e :: text.drop (cs.length - behind.length), rest)
    | none => (c :: text, rest)
  | c :: cs =>
    let (text, rest) := textLine cs
    (c :: text, rest)

def text : ReadEdit (List Char) := do
  let r ← get
  let (cs, rest) := textLine r.chars
  let taken := r.chars.length - rest.length
  set { r with
    chars := rest
    position := r.position + taken
    line := r.line + (r.chars.take taken).count '\n'
    awaitsText := false }
  return cs ++ ['\n']

/-- Takes the text of a command that places one. It begins behind blanks, or behind a backslash and
possibly the end of the line. If nothing is behind that, it may come later. -/
def placed (placement : Placement) : ReadEdit EditAction := do
  match ← nextBehindBlanks? with
  | none => refuse .noText
  | some '\\' =>
    let c? ← next?
    match c? with
    | none =>
      modify fun r => { r with awaitsText := true }
      return .place [] placement
    | some '\n' => return .place (← text) placement
    | c? =>
      back c?
      return .place (← text) placement
  | c? =>
    back c?
    return .place (← text) placement

/-! ### Addresses -/

/-- Takes the flags of a pattern that names lines. The first argument bounds their number. -/
def markFlags : Nat → Bool → Bool → ReadEdit (Bool × Bool)
  | 0, ignoresCase, byLine => return (ignoresCase, byLine)
  | n + 1, ignoresCase, byLine => do
    match ← nextBehindBlanks? with
    | some 'I' => markFlags n true byLine
    | some 'M' => markFlags n ignoresCase true
    | c? =>
      back c?
      return (ignoresCase, byLine)

/-- Takes a half of an address that begins with a character. -/
def mark? (c? : Option Char) : ReadEdit (Option RangeStop) := do
  match c? with
  | none => return none
  | some c =>
    if c == '/' || c == '\\' then
      let delimiter? ← if c == '\\' then next? else pure c?
      let written ← delimited delimiter? true .openAddress
      let (ignoresCase, byLine) ← markFlags ((← get).chars.length + 1) false false
      return some (.mark (.fits (← sought written ignoresCase byLine)))
    else if c.isDigit then
      let n ← number c?
      match ← nextBehindBlanks? with
      | some '~' =>
        let step ← number (← nextBehindBlanks?)
        return some (.mark (if step == 0 then .number n else .every n step))
      | c? =>
        back c?
        return some (.mark (.number n))
    else if c == '+' then return some (.behind (← number (← nextBehindBlanks?)))
    else if c == '~' then return some (.multiple (← number (← nextBehindBlanks?)))
    else if c == '$' then return some (.mark .final)
    else return none

/-- Takes an address that begins with a character, and the character behind it. -/
def address (c? : Option Char) : ReadEdit (Address × Option Char) := do
  let (a, c?) ← match ← mark? c? with
    | none => pure (({} : Address), c?)
    | some (.mark first) =>
      let c? ← nextBehindBlanks?
      let (stop?, c?) ← if c? != some ',' then pure (none, c?) else do
        match ← mark? (← nextBehindBlanks?) with
        | none => refuse .strayComma
        | stop? => pure (stop?, ← nextBehindBlanks?)
      let isZero := match first with
        | .number 0 => true
        | _ => false
      let isSoughtFor := match stop? with
        | some (.mark (.fits _)) => true
        | _ => false
      if isZero && !isSoughtFor then refuse .lineZero
      pure (⟨some first, stop?, false⟩, c?)
    | some _ => refuse .relativeFirst
  if c? == some '!' then
    match ← nextBehindBlanks? with
    | some '!' => refuse .manyBangs
    | c? => return ({ a with isInverted := true }, c?)
  else return (a, c?)

/-! ### Commands -/

/-- The commands that are only a letter. -/
def plainAction? (c : Char) : Option EditAction :=
  match c with
  | '=' => some .number
  | 'd' => some .delete
  | 'D' => some .deleteFirst
  | 'F' => some .fileName
  | 'g' => some .fetch
  | 'G' => some .fetchMore
  | 'h' => some .keep
  | 'H' => some .keepMore
  | 'n' => some .next
  | 'N' => some .nextMore
  | 'p' => some .print
  | 'P' => some .printFirst
  | 'x' => some .exchange
  | 'z' => some .clear
  | _ => none

def add (a : Address) (action : EditAction) : ReadEdit Unit :=
  modify fun r => { r with commands := r.commands.push ⟨a, action⟩ }

/-- Takes a number that may be missing, and the end of the command. -/
def optionalNumber? : ReadEdit (Option Nat) := do
  let c? ← nextBehindBlanks?
  let n? ← if (c?.map Char.isDigit).getD false then some <$> number c? else do
    back c?
    pure none
  stop
  return n?

def openBlock (a : Address) : ReadEdit Unit := do
  let r ← get
  set { r with blocks := (r.commands.size, r.placeAt 0) :: r.blocks }
  add a (.block 0)

def closeBlock (a : Address) : ReadEdit Unit := do
  match (← get).blocks with
  | [] => refuse .strayClose
  | (n, _) :: blocks =>
    if a.first?.isSome then refuse .strayClose
    stop
    modify fun r =>
      { r with
        blocks
        commands := r.commands.modify n fun c => { c with action := .block r.commands.size } }

/-- Skips a comment. The first one of a script may ask for silence. -/
def comment (a : Address) : ReadEdit Unit := do
  if a.first?.isSome then refuse .commentAddress
  let r ← get
  let cs ← taking (· != '\n')
  if cs == ['n'] && r.position == 1 && r.commands.isEmpty then
    modify fun r => { r with isQuiet := true }

def version : ReadEdit Unit := do
  let wanted := (← label).toList
  let isKnown := wanted.isEmpty
    || (wanted.all (fun c => c.isDigit || c == '.') && (wanted.head?.map Char.isDigit).getD false)
  if !isKnown then refuse .tooNew

def command (c? : Option Char) : ReadEdit Unit := do
  let (a, c?) ← address c?
  match c? with
  | none => refuse .noCommand
  | some c =>
    match c with
    | '#' => comment a
    | 'v' => version
    | ':' =>
      if a.first?.isSome then refuse .labelAddress
      let l ← label
      if l.isEmpty then refuse .noLabel
      modify fun r => { r with labels := r.labels ++ [(l, r.commands.size)] }
    | 'a' => add a (← placed .behind)
    | 'i' => add a (← placed .before)
    | 'c' => add a (← placed .instead)
    | 'b' => add a (.jump (← label) .always)
    | 't' => add a (.jump (← label) .ifReplaced)
    | 'T' => add a (.jump (← label) .unlessReplaced)
    | 'r' => add a (.readFile (← path))
    | 'R' => add a (.readLine (← path))
    | 'w' => add a (.writeLine (← writtenPath))
    | 'W' => add a (.writeFirst (← writtenPath))
    | 's' => add a (← substitution)
    | 'y' => add a (← transliteration)
    | 'l' => add a (.display (← optionalNumber?))
    | c =>
      if c == 'q' || c == 'Q' then
        if a.stop?.isSome then refuse .oneAddress
        add a (.quit ((← optionalNumber?).getD 0) (c == 'q'))
      else if c == '\x7b' then openBlock a
      else if c == '\x7d' then closeBlock a
      else
        match plainAction? c with
        | some action =>
          stop
          add a action
        | none => refuse (.unknown c)

/-- Takes all commands. The first argument bounds their number. -/
def allCommands : Nat → ReadEdit Unit
  | 0 => pure ()
  | n + 1 => do
    let _ ← taking fun c => c == ';' || c.isWhitespace || c == '\x0b' || c == '\x0c'
    match ← next? with
    | none => pure ()
    | c? => do
      command c?
      allCommands n

/-- Takes a text that a command in the text before asked for. -/
def awaitedText : ReadEdit Unit := do
  if (← get).awaitsText then
    let cs ← text
    modify fun r =>
      { r with
        commands := r.commands.modify (r.commands.size - 1) fun c =>
          match c.action with
          | .place _ placement => { c with action := .place cs placement }
          | _ => c }

end ReadEdit

def readEditText (r : ReadingEdit) (source : String) (isFile : Bool) (chars : List Char) :
    Except EditComplaint ReadingEdit := do
  let start := { r with source, isFile, chars, position := 0, line := 1 }
  let read : ReadEdit Unit := do
    if !chars.isEmpty then ReadEdit.awaitedText
    ReadEdit.allCommands (chars.length + 1)
  return (← read.run start).2

/-- The script that was read, if it is complete. -/
def ReadingEdit.finish (r : ReadingEdit) : Except EditComplaint EditScript := do
  if let (_, place) :: _ := r.blocks then
    throw (1, "sed: " ++ place ++ ": " ++ EditFault.openBlock.message)
  for c in r.commands do
    if let .jump label _ := c.action then
      if !label.isEmpty && (r.labels.lookup label).isNone then
        throw (4, "sed: can't find label for jump to \x60" ++ label ++ "'")
  return ⟨r.commands, r.labels, r.paths, r.isQuiet⟩

end ClientGen.Tool
