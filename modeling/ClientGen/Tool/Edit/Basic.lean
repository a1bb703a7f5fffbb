import ClientGen.Tool.Pattern.Find

/-!
Commands for editing line by line. A command is for the lines that its address names. Blocks and
jumps lead to commands by their number, so that a script is a plain list of commands.
-/

namespace ClientGen.Tool

/-- What is looked for in a line. Without a pattern it is what was looked for last. -/
structure Sought where
  pattern? : Option Pattern
  ignoresCase : Bool := false
  /-- Every line within the text has a beginning and an end. -/
  byLine : Bool := false

/-- The lines that are named by one half of an address. -/
inductive LineMark where
  | number (n : Nat)
  /-- Every so many lines, beginning with one. -/
  | every (first step : Nat)
  | final
  | fits (sought : Sought)

/-- Where a range of lines ends. -/
inductive RangeStop where
  | mark (m : LineMark)
  /-- So many lines behind its first one. -/
  | behind (n : Nat)
  /-- At the next line whose number is a multiple. -/
  | multiple (n : Nat)

/-- The lines that a command is for. -/
structure Address where
  first? : Option LineMark := none
  stop? : Option RangeStop := none
  isInverted : Bool := false

/-- What is done to the letters of a replacement. -/
inductive LetterChange where
  | keep
  | raise
  | lower

/-- A part of a replacement. -/
inductive ReplacementPart where
  | char (c : Char)
  /-- What was found for a group. -/
  | group (n : Nat)
  /-- The letters behind this part are changed. -/
  | change (c : LetterChange)
  /-- The next letter is changed. -/
  | changeNext (c : LetterChange)

/-- A replacement of what is found. -/
structure Substitution where
  sought : Sought
  replacement : List ReplacementPart
  /-- The first fit that is replaced. -/
  nth : Nat := 1
  isGlobal : Bool := false
  prints : Bool := false
  /-- The file to which the line is written. -/
  path? : Option String := none

/-- Where a text is put. -/
inductive Placement where
  | before
  | behind
  | instead

/-- When to jump. -/
inductive JumpTest where
  | always
  | ifReplaced
  | unlessReplaced

/-- What a command does. -/
inductive EditAction where
  | nothing
  /-- Opens a block, and goes on behind it where its address does not name the line. -/
  | block (behind : Nat)
  | print
  | printFirst
  | delete
  | deleteFirst
  | fetch
  | fetchMore
  | keep
  | keepMore
  | exchange
  | next
  | nextMore
  | number
  | fileName
  | display (width? : Option Nat)
  | clear
  | quit (code : Nat) (prints : Bool)
  | place (text : List Char) (placement : Placement)
  | readFile (path : String)
  | readLine (path : String)
  | writeLine (path : String)
  | writeFirst (path : String)
  | jump (label : String) (test : JumpTest)
  | substitute (s : Substitution)
  | transliterate (table : List (Char × Char))

structure EditCommand where
  address : Address
  action : EditAction

structure EditScript where
  commands : Array EditCommand
  labels : List (String × Nat)
  /-- The files that it writes. -/
  paths : List String
  isQuiet : Bool

end ClientGen.Tool
