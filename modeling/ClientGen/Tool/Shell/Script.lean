/-!
Shell scripts as they are read: commands, and the words that they are made of. A plain shell and a
richer one read the same kinds of scripts; some forms are known to the richer one only. Texts are
lists of bytes, each of which is the character with its number.
-/

namespace ClientGen.Shell

/-- What is done where a variable has no value, or where it has one. -/
inductive Fallback where
  /-- A word stands for the missing value. -/
  | word
  /-- So it does, and it is kept. -/
  | kept
  /-- The shell complains with the word. -/
  | complaint
  /-- The word stands for the value that is there. -/
  | present

/-- Which part of a value a pattern takes away. -/
structure Trimming where
  atEnd : Bool
  isLongest : Bool

/-- Which parts of a value are replaced. -/
inductive Replacing where
  | first
  | all
  | front
  | back

/-- How a file is opened. -/
inductive Opening where
  | read
  | write
  /-- It is written even if files are to be kept. -/
  | overwrite
  | append
  | both

mutual

inductive Piece where
  | text (s : String) (isQuoted : Bool)
  /-- Pieces within double quotes. -/
  | doubled (pieces : List Piece)
  /-- The value of a variable, or what is made of it. -/
  | value (name : String) (form : Form)
  /-- What a script prints. -/
  | output (script : Command)
  /-- The number that an expression amounts to. -/
  | number (expression : List Piece)

/-- What is made of the value of a variable. -/
inductive Form where
  | plain
  | length
  /-- Nothing that has a meaning. -/
  | bad
  /-- Values that are empty may count as missing. -/
  | fallback (kind : Fallback) (orEmpty : Bool) (word : List Piece)
  | trim (trimming : Trimming) (pattern : List Piece)
  /-- A part of it, from a place on. -/
  | part (start : List Piece) (length? : Option (List Piece))
  | replace (which : Replacing) (pattern word : List Piece)
  /-- It is written in capitals or in small letters, as a whole or at its beginning. -/
  | letters (areCapital isWhole : Bool)
  /-- The value of the variable that it names. -/
  | named

/-- Where a channel leads. -/
inductive Redirection where
  | file (channel : Nat) (opening : Opening) (path : List Piece)
  /-- To the place to which another channel leads, or nowhere. -/
  | same (channel : Nat) (target : List Piece)
  /-- A text below the command, by number. -/
  | text (channel number : Nat)
  /-- A word, with the end of a line. -/
  | word (channel : Nat) (word : List Piece)
  /-- Both channels of what is written go to a file. -/
  | outputs (path : List Piece) (appends : Bool)

/-- A condition in double brackets. -/
inductive Condition where
  | one (operator : String) (operand : List Piece)
  | two (left : List Piece) (operator : String) (right : List Piece)
  | negation (condition : Condition)
  | both (first second : Condition)
  | either (first second : Condition)

inductive Command where
  | nothing
  | simple (line : Nat) (assignments : List (String × List Piece)) (words : List (List Piece))
      (redirections : List Redirection)
  | sequence (first second : Command)
  /-- It runs beside what is behind it. -/
  | beside (command : Command)
  | both (first second : Command)
  | either (first second : Command)
  | negation (command : Command)
  | pipeline (commands : List Command)
  | conditional (test yes no : Command)
  | loop (isUntil : Bool) (test body : Command)
  /-- The body runs for each word. -/
  | each (line : Nat) (name : String) (words : List (List Piece)) (body : Command)
  /-- The expressions are those before, between and behind the rounds. -/
  | count (first test step : List Piece) (body : Command)
  | choice (line : Nat) (subject : List Piece) (branches : List Branch)
  /-- It runs in a shell of its own. -/
  | apart (body : Command)
  | led (line : Nat) (body : Command) (redirections : List Redirection)
  | function (name : String) (body : Command)
  | condition (condition : Condition)
  | calculation (line : Nat) (expression : List Piece)

inductive Branch where
  | mk (patterns : List (List Piece)) (body : Command)

end

instance : Inhabited Command := ⟨.nothing⟩

/-- Pieces without those that are next to one like them. -/
def joinTexts : List Piece → List Piece
  | .text s isQuoted :: rest =>
    match joinTexts rest with
    | .text t isAlso :: more =>
      if isQuoted == isAlso then .text (s ++ t) isQuoted :: more
      else .text s isQuoted :: .text t isAlso :: more
    | rest => .text s isQuoted :: rest
  | piece :: rest => piece :: joinTexts rest
  | [] => []

/-- The text of a word without quotes and values. -/
def bare? : List Piece → Option String
  | [.text s false] => some s
  | [] => some ""
  | _ => none

/-- The text of a word that is not expanded, and whether any of it is quoted. Values in it have no
text. -/
def rawText : List Piece → List Char × Bool
  | [] => ([], false)
  | piece :: rest =>
    let (more, isQuoted) := rawText rest
    match piece with
    | .text s q => (s.toList ++ more, q || isQuoted)
    | .doubled inner => (inner.flatMap textOf ++ more, true)
    | _ => (more, isQuoted)
where
  /-- The text of a piece. -/
  textOf : Piece → List Char
    | .text s _ => s.toList
    | _ => []

def isNameStart (c : Char) : Bool := c.isAlpha || c == '_'

def isNameChar (c : Char) : Bool := c.isAlphanum || c == '_'

def isName (s : String) : Bool :=
  match s.toList with
  | c :: cs => isNameStart c && cs.all isNameChar
  | [] => false

/-- The name, the mark and the value of an assignment. -/
def assignment? : List Piece → Option (String × List Piece)
  | .text s false :: rest =>
    let cs := s.toList
    let name := cs.takeWhile isNameChar
    match cs.drop name.length with
    | '=' :: value =>
      let front := if value.isEmpty then [] else [Piece.text (String.ofList value) false]
      if isName (String.ofList name) then some (String.ofList name, front ++ rest) else none
    | _ => none
  | _ => none

end ClientGen.Shell
