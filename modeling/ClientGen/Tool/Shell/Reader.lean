import ClientGen.Tool.Shell.Script

/-!
What a reader of shell scripts works with: the characters that are left, and the token that it may
have put back.
-/

namespace ClientGen.Shell

inductive Token where
  | word (pieces : List Piece)
  | keyword (name : String)
  /-- An operator that redirects, and the channel before it. -/
  | redirection (channel? : Option Nat) (operator : String)
  | mark (text : String)
  | newline
  | stop

namespace Token

def isMark (text : String) : Token → Bool
  | .mark t => t == text
  | _ => false

def isKeyword (name : String) : Token → Bool
  | .keyword n => n == name
  | _ => false

def title : Token → String
  | .word _ => "word"
  | .keyword name => "\"" ++ name ++ "\""
  | .redirection .. => "redirection"
  | .mark text => "\"" ++ text ++ "\""
  | .newline => "newline"
  | .stop => "end of file"

def written : Token → String
  | .word pieces => (bare? pieces).getD ""
  | .keyword name => name
  | .redirection _ operator => operator
  | .mark text => text
  | .newline | .stop => "newline"

end Token

/-- What is wrong with a script. -/
inductive SyntaxFault where
  | unexpected (token : Token) (expected? : Option String)
  /-- The script ends before this mark. -/
  | unclosed (mark : String)
  | other (text : String)

/-- A text below a command that is still to be read. -/
structure Awaited where
  number : Nat
  /-- The line that ends it. -/
  last : List Char
  dropsTabs : Bool
  /-- Nothing in it is expanded. -/
  isLiteral : Bool

/-- A reader in the middle of a script. -/
structure Reader where
  /-- What is not read yet. -/
  chars : List Char
  line : Nat := 1
  /-- Forms of the richer shell are known. -/
  isRich : Bool
  /-- The last token, if it is put back. -/
  pushed? : Option Token := none
  /-- Ends of lines before the next token are nothing. -/
  skipsLines : Bool := false
  /-- The next token may be a keyword. -/
  seesKeywords : Bool := false
  awaited : List Awaited := []
  texts : List (Nat × List Piece) := []
  nextText : Nat

abbrev Read := ExceptT SyntaxFault (StateM Reader)

namespace Read

/-- A part of a script that is read by rules of its own. -/
structure Inner where
  /-- Reads a script up to the bracket behind it. -/
  script : Read Command
  /-- Reads the script that a text is. -/
  text : Read Command

def fail {α : Type} (fault : SyntaxFault) : Read α := throw fault

/-- A script up to a break of a line that is no break, which is left out. -/
def joined : List Char → Nat → List Char × Nat
  | '\\' :: '\n' :: cs, line => joined cs (line + 1)
  | cs, line => (cs, line)

/-- The next character. It stays. -/
def peek? : Read (Option Char) := do
  let r ← get
  let (chars, line) := joined r.chars r.line
  set { r with chars, line }
  return chars.head?

/-- Takes a character as it is. -/
def takeRaw? : Read (Option Char) := do
  let r ← get
  match r.chars with
  | [] => return none
  | c :: chars =>
    set { r with chars, line := if c == '\n' then r.line + 1 else r.line }
    return some c

def take? : Read (Option Char) := do
  let _ ← peek?
  takeRaw?

def takeChar (c : Char) : Read Bool := do
  if (← peek?) == some c then
    let _ ← takeRaw?
    return true
  else return false

/-- Takes characters as long as they are of a kind. The first argument bounds their number. -/
def takeWhile (p : Char → Bool) : Nat → Read (List Char)
  | 0 => return []
  | n + 1 => do
    match ← peek? with
    | some c =>
      if p c then
        let _ ← takeRaw?
        return c :: (← takeWhile p n)
      else return []
    | none => return []

/-- Takes characters as they are, up to a mark, which is taken, too. -/
def takeUpTo (mark : Char) : Read (List Char) := do
  let r ← get
  let front := r.chars.takeWhile (· != mark)
  match r.chars.drop front.length with
  | _ :: chars =>
    set { r with chars, line := r.line + front.count '\n' }
    return front
  | [] =>
    set { r with chars := [], line := r.line + front.count '\n' }
    fail (.unclosed mark.toString)

def fuel : Read Nat := return 8 * (← get).chars.length + 64

def skipBlanks : Nat → Read Unit
  | 0 => return ()
  | n + 1 => do
    match ← peek? with
    | some '#' => modify fun r => { r with chars := r.chars.dropWhile (· != '\n') }
    | some c =>
      if c == ' ' || c == '\t' then
        let _ ← takeRaw?
        skipBlanks n
    | none => return ()

def putBack (t : Token) : Read Unit := modify fun r => { r with pushed? := some t }

def expectToken (skipsLines seesKeywords : Bool) : Read Unit :=
  modify fun r => { r with skipsLines, seesKeywords }

end Read

end ClientGen.Shell
