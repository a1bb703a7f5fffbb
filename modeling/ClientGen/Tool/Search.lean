import ClientGen.Tool.Pattern.Find
import ClientGen.Tool.Pattern.Read
import ClientGen.Text.Cut
import ClientGen.Tool.Show

/-!
Searching: the lines in which one of some patterns fits.
-/

namespace ClientGen.Tool

def searchOptions : OptionTable where
  name := "grep"
  letters := ("EFGPivwxclLqsnHhobzarRIUyTZ".toList.map fun c => (c, OptionValue.none))
    ++ ['e', 'f', 'm', 'A', 'B', 'C', 'd', 'D'].map fun c => (c, .needed)
  words := [("extended-regexp", "E", .none), ("fixed-strings", "F", .none),
    ("basic-regexp", "G", .none), ("perl-regexp", "P", .none), ("regexp", "e", .needed),
    ("file", "f", .needed), ("ignore-case", "i", .none),
    ("no-ignore-case", "no-ignore-case", .none),
    ("word-regexp", "w", .none), ("line-regexp", "x", .none), ("null-data", "z", .none),
    ("no-messages", "s", .none), ("invert-match", "v", .none), ("max-count", "m", .needed),
    ("byte-offset", "b", .none), ("line-number", "n", .none), ("line-buffered", "u", .none),
    ("with-filename", "H", .none), ("no-filename", "h", .none), ("only-matching", "o", .none),
    ("quiet", "q", .none), ("silent", "q", .none), ("text", "a", .none),
    ("files-without-match", "L", .none), ("files-with-matches", "l", .none), ("count", "c", .none),
    ("before-context", "B", .needed), ("after-context", "A", .needed), ("context", "C", .needed),
    ("color", "color", .optional), ("colour", "color", .optional), ("label", "label", .needed),
    ("directories", "d", .needed)]

/-- Arguments in which a number behind a dash is what it means: so many lines around those that are
found. -/
def searchArguments (arguments : List String) : List String :=
  arguments.map fun argument =>
    match argument.toList with
    | '-' :: c :: cs =>
      if (c :: cs).all Char.isDigit then "-C" ++ String.ofList (c :: cs) else argument
    | _ => argument

def searchUsage : String :=
  "Usage: grep [OPTION]... PATTERNS [FILE]...\nTry 'grep --help' for more information."

/-- The pattern for a line of patterns, and what is left out of it. -/
def searchPattern (o : Options) (cs : List Char) :
    Except PatternError (Pattern × List String) :=
  let read? := if o.has "F" then .ok (Pattern.exactly cs, [])
    else Pattern.readWithStrays ⟨o.has "E" || o.has "P", false⟩ cs
  read?.map fun (p, strays) =>
    let edged (start stop : Edge) : Pattern := .sequence (.edge start) (.sequence p (.edge stop))
    if o.has "x" then (edged .textStart .textStop, strays)
    else if o.has "w" then (edged .noWordBefore .noWordBehind, strays)
    else (p, strays)

/-- A line of an input. -/
structure SearchedLine where
  number : Nat
  /-- How many bytes are before it. -/
  offset : Nat
  text : List Char
  isSelected : Bool

/-- How lines are searched and printed. -/
structure Search where
  patterns : List Pattern
  options : Options
  lineEnd : Char
  title : String
  hasTitle : Bool
  most? : Option Nat
  before : Nat
  behind : Nat

namespace Search

variable (s : Search)

def subject (line : List Char) : Pattern.Subject where
  chars := line.toArray
  ignoresCase := s.options.has "i" || s.options.has "y"

/-- The first fit of one of the patterns, the longest one at its place. -/
def find? (subject : Pattern.Subject) (start : Nat) : Option Pattern.Fit :=
  (s.patterns.filterMap fun p => p.find? subject start).foldl (fun best? fit =>
    match best? with
    | none => some fit
    | some best =>
      if fit.start < best.start || (fit.start == best.start && best.stop < fit.stop) then some fit
      else some best) none

/-- A line is one of those that are wanted. -/
def selects (line : List Char) : Bool :=
  let subject := s.subject line
  (s.patterns.any fun p => (p.find? subject 0).isSome) != s.options.has "v"

/-- The lines of an input, up to the last one that may be selected and those behind it. -/
def linesOf (cs : List Char) : List SearchedLine :=
  (((bareLines s.lineEnd cs).foldl (fun (state : List SearchedLine × Nat × Nat × Nat) text =>
    let (done, number, offset, found) := state
    let isOver := (s.most?.map fun most => decide (most ≤ found)).getD false
    let isSelected := !isOver && s.selects text
    (⟨number, offset, text, isSelected⟩ :: done, number + 1, offset + text.length + 1,
      if isSelected then found + 1 else found)) ([], 1, 0, 0)).1).reverse

def label (line : SearchedLine) (offset : Nat) (mark : Char) : List Char :=
  (if s.hasTitle then s.title.toList ++ [mark] else [])
    ++ (if s.options.has "n" then (toString line.number).toList ++ [mark] else [])
    ++ if s.options.has "b" then (toString offset).toList ++ [mark] else []

/-- All fits in a line from a place on. The first argument bounds their number. -/
def fits (subject : Pattern.Subject) : Nat → Nat → List Pattern.Fit
  | 0, _ => []
  | n + 1, start =>
    match s.find? subject start with
    | none => []
    | some fit =>
      if fit.stop == fit.start then
        if fit.stop < subject.chars.size then fits subject n (fit.stop + 1) else []
      else fit :: fits subject n fit.stop

def printed (line : SearchedLine) : List Char :=
  if s.options.has "o" then
    if s.options.has "v" then []
    else
      let subject := s.subject line.text
      (s.fits subject (line.text.length + 1) 0).flatMap fun fit =>
        s.label line (line.offset + fit.start) ':' ++ fit.group subject 0 ++ [s.lineEnd]
  else s.label line line.offset ':' ++ line.text ++ [s.lineEnd]

/-- The selected lines with those around them. Where lines are left out in between, there is a line
of dashes. The lines before are given, nearest first. -/
def withContext (before : List SearchedLine) (shown : Nat) (hasGap hasPrinted : Bool) :
    List SearchedLine → List Char
  | [] => []
  | line :: rest =>
    let aside (l : SearchedLine) : List Char :=
      if s.options.has "o" then [] else s.label l l.offset '-' ++ l.text ++ [s.lineEnd]
    if line.isSelected then
      let around := (before.take s.before).reverse
      let skipped := hasGap || around.length < before.length
      (if hasPrinted && skipped then ['-', '-', '\n'] else [])
        ++ around.flatMap aside ++ s.printed line ++ withContext [] s.behind false true rest
    else if shown > 0 then aside line ++ withContext [] (shown - 1) false hasPrinted rest
    else withContext (line :: before) 0 hasGap hasPrinted rest

def isBinary (cs : List Char) : Bool :=
  s.lineEnd == '\n' && !s.options.has "a" && cs.contains '\x00'

/-- What is printed about an input, and whether a line was selected. An input that is no text is
searched between the characters that are none, too, and nothing is printed of it. -/
def search (cs : List Char) : List Char × Bool :=
  let o := s.options
  let cs := if s.isBinary cs then cs.map fun c => if c == '\x00' then s.lineEnd else c else cs
  let lines := s.linesOf cs
  let selected := lines.filter (·.isSelected)
  let found := !selected.isEmpty
  let named := s.title.toList ++ ['\n']
  if o.has "q" then ([], found)
  else if o.has "l" then (if found then named else [], found)
  else if o.has "L" then (if found then [] else named, found)
  else if o.has "c" then
    ((if s.hasTitle then s.title.toList ++ [':'] else [])
      ++ (toString selected.length).toList ++ ['\n'], found)
  else if s.before + s.behind == 0 then (selected.flatMap s.printed, found)
  else
    -- the lines behind the last selected one may be shown, and no others
    (s.withContext [] 0 false false lines, found)

end Search

/-- The lines of patterns that options and operands give, and the other operands. -/
def searchedPatterns (o : Options) : Work (Except String (List (List Char) × List String)) := do
  let mut patterns := []
  for (option, value?) in o.options do
    if option == "e" then
      patterns := patterns ++ (Text.cut (· == '\n') (value?.getD "").toList)
    else if option == "f" then
      let path := value?.getD ""
      match ← Work.readOperand path with
      | .ok cs => patterns := patterns ++ bareLines '\n' cs
      | .error e => return .error ("grep: " ++ path ++ ": " ++ Work.saying e)
  if o.has "e" || o.has "f" then return .ok (patterns, o.operands)
  match o.operands with
  | [] => return .error searchUsage
  | first :: rest => return .ok (Text.cut (· == '\n') first.toList, rest)

def searchNumber (o : Options) (names : List String) (about : String) :
    Except String (Option Nat) :=
  match names.findSome? o.value? with
  | none => .ok none
  | some text =>
    match text.toNat? with
    | some n => .ok (some n)
    | none =>
      if about == "max count" && text.startsWith "-" then .ok none
      else .error ("grep: " ++ (if about == "max count" then "invalid max count"
        else text ++ ": invalid context length argument"))

/-- Prints the lines in which one of some patterns fits. It ends badly when there are none. -/
def grep : Tool := fun arguments => do
  match searchOptions.read (searchArguments arguments) with
  | .error what => Work.fail 2 (searchOptions.remark what ++ "\n" ++ searchUsage)
  | .ok o =>
    match ← searchedPatterns o with
    | .error complaint => Work.fail 2 complaint
    | .ok (texts, operands) =>
      let prepared : Except String (List (Pattern × List String) × Option Nat × Nat × Nat) := do
        let patterns ← (texts.mapM (searchPattern o)).mapError fun (e : PatternError) =>
          "grep: " ++ e.message
        let most? ← searchNumber o ["m"] "max count"
        let before ← searchNumber o ["B", "C"] "context"
        let behind ← searchNumber o ["A", "C"] "context"
        return (patterns, most?, before.getD 0, behind.getD 0)
      match prepared with
      | .error complaint => Work.fail 2 complaint
      | .ok (found, most?, before, behind) =>
        let patterns := found.map Prod.fst
        for stray in found.flatMap Prod.snd do
          Work.complain ("grep: warning: " ++ stray ++ " at start of expression")
        let operands := if operands.isEmpty then ["-"] else operands
        let mut found := false
        let mut complete := true
        for operand in operands do
          match ← Work.readOperand operand with
          | .error e =>
            if e != .isDirectory || o.value? "d" != some "skip" then
              if !o.has "s" then
                Work.complain ("grep: " ++ operand ++ ": " ++ Work.saying e)
              complete := false
          | .ok cs =>
            let s : Search :=
              { patterns, most?, before, behind, options := o
                lineEnd := if o.has "z" then '\x00' else '\n'
                title :=
                  if operand == "-" then (o.value? "label").getD "(standard input)"
                  else operand
                hasTitle := (operands.length > 1 || o.has "H") && !o.has "h" }
            let (printed, selected) := s.search cs
            if s.isBinary cs && !printed.isEmpty && !(["c", "l", "L"].any o.has) then
              Work.complain ("grep: " ++ s.title ++ ": binary file matches")
            else Work.print printed
            found := found || selected
        return .code (if found && (complete || o.has "q") then 0 else if complete then 1 else 2)

end ClientGen.Tool
