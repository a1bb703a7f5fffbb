import ClientGen.Tool.Shell.Reader
import ClientGen.Tool.Print

/-!
Reading the words of shell scripts: what is quoted, and what stands for a value.
-/

namespace ClientGen.Shell

/-- Where pieces are read, which tells what ends them and what the characters mean. -/
inductive Within where
  | word
  | doubled
  /-- A text below a command. -/
  | here
  /-- Behind a mark in braces, up to one of some characters. The braces may stand within double
  quotes, and quotes may be open in them. -/
  | braces (isDoubled isOpen : Bool) (stops : List Char)
  /-- An expression, within so many brackets of its own. -/
  | calculation (depth : Nat)

namespace Within

/-- Quotes are no quotes here. -/
def isDoubled : Within → Bool
  | .word => false
  | .braces isDoubled _ _ => isDoubled
  | _ => true

def endsWord (c : Char) : Bool := " \t\n;&|()<>".toList.contains c

def isEnd (w : Within) (c : Char) : Bool :=
  match w with
  | .word => endsWord c
  | .doubled => c == '"'
  | .here => false
  | .braces _ isOpen stops => !isOpen && stops.contains c
  | .calculation _ => false

/-- A character that loses its meaning behind a backslash. -/
def isEscapable (w : Within) (c : Char) : Bool :=
  match w with
  | .word => true
  | .here => "\\\x60$".toList.contains c
  | .braces true _ _ => "\\\x60$\"\x7d".toList.contains c
  | .braces false _ _ => true
  | _ => "\\\x60$\"".toList.contains c

/-- What is wrong where the script ends here. -/
def fault? : Within → Option SyntaxFault
  | .word | .here => none
  | .doubled | .braces true _ _ => some (.unclosed "\"")
  | .braces false _ _ => some (.unclosed "\x7d")
  | .calculation _ => some (.unclosed "))")

end Within

namespace Read

/-- Does something with a text in the place of what is left. -/
def onText {α : Type} (cs : List Char) (read : Read α) : Read α := do
  let outer ← get
  set { outer with
    chars := cs, line := 1, pushed? := none, skipsLines := false, seesKeywords := false }
  let a ← read
  modify fun r =>
    { r with
      chars := outer.chars
      line := outer.line
      pushed? := outer.pushed?
      skipsLines := outer.skipsLines
      seesKeywords := outer.seesKeywords }
  return a

/-- The script between marks that is left to another reader, behind the first mark. A backslash
takes the meaning of some characters. -/
def backquoted (isDoubled : Bool) : Nat → Read (List Char)
  | 0 => fail (.unclosed "\x60")
  | n + 1 => do
    match ← take? with
    | none => fail (.unclosed "\x60")
    | some '\x60' => return []
    | some '\\' =>
      match ← take? with
      | none => fail (.unclosed "\x60")
      | some c =>
        let isDropped := c == '\\' || c == '\x60' || c == '$' || (isDoubled && c == '"')
        let rest ← backquoted isDoubled n
        return if isDropped then c :: rest else '\\' :: c :: rest
    | some c => return c :: (← backquoted isDoubled n)

/-- The text between single quotes in which backslashes are interpreted, behind the first one. -/
def interpreted : Nat → Read (List Char)
  | 0 => fail (.unclosed "'")
  | n + 1 => do
    match ← takeRaw? with
    | none => fail (.unclosed "'")
    | some '\'' => return []
    | some '\\' =>
      match ← takeRaw? with
      | none => fail (.unclosed "'")
      | some c =>
        let rest ← interpreted n
        return if c == '\'' || c == '"' || c == '?' then c :: rest else '\\' :: c :: rest
    | some c => return c :: (← interpreted n)

/-- A character that is the name of a value of its own. -/
def isSpecial (c : Char) : Bool := "@*#?-$!0".toList.contains c

/-- The name in braces, and whether the length of its value is meant. -/
def nameInBraces : Read (Option (String × Bool)) := do
  let n := (← get).chars.length
  let named : Read String := do
    match ← peek? with
    | some c =>
      return String.ofList (← takeWhile (if c.isDigit then Char.isDigit else isNameChar) n)
    | none => return ""
  match ← peek? with
  | none | some '\x7d' => return none
  | some c =>
    if isNameChar c then return some (← named, false)
    else
      let _ ← takeRaw?
      if c != '#' then return if isSpecial c then some (c.toString, false) else none
      else
        match ← peek? with
        | none => return some ("#", false)
        | some d =>
          if isNameChar d then return some (← named, true)
          else
            let behind := (← get).chars.tail
            if d == '\x7d' || behind.head? != some '\x7d' then return some ("#", false)
            else
              let _ ← takeRaw?
              return if isSpecial d then some (d.toString, true) else none

mutual

/-- Reads pieces up to what ends them. That stays, but for the brackets behind an expression. The
first argument bounds the number of steps. -/
def pieces (inner : Inner) : Nat → Within → Read (List Piece)
  | 0, _ => fail (.other "too long")
  | n + 1, w => do
    match ← peek? with
    | none =>
      match w.fault? with
      | some fault => fail fault
      | none => return []
    | some c =>
      if w.isEnd c then return []
      else
        let _ ← takeRaw?
        let goOn (piece : Piece) : Read (List Piece) := return piece :: (← pieces inner n w)
        match c with
        | '\\' =>
          match ← takeRaw? with
          | none => goOn (.text "\\" true)
          | some e =>
            goOn (.text (if w.isEscapable e then e.toString else String.ofList ['\\', e]) true)
        | '$' =>
          let piece ← dollar inner n w
          goOn piece
        | '\x60' =>
          let script ← backquoted w.isDoubled n
          let command ← onText script inner.text
          goOn (.output command)
        | '\'' =>
          if w.isDoubled then goOn (.text "'" false)
          else
            let text ← takeUpTo '\''
            goOn (.text (String.ofList text) true)
        | '"' =>
          match w with
          | .here => goOn (.text "\"" false)
          | .calculation _ =>
            if (← get).isRich then pieces inner n w else goOn (.text "\"" false)
          | .braces true isOpen stops => pieces inner n (.braces true (!isOpen) stops)
          | _ =>
            let quoted ← pieces inner n .doubled
            let _ ← takeRaw?
            goOn (.doubled (joinTexts quoted))
        | '(' =>
          match w with
          | .calculation depth =>
            return .text "(" false :: (← pieces inner n (.calculation (depth + 1)))
          | _ => goOn (.text "(" false)
        | ')' =>
          match w with
          | .calculation 0 =>
            if ← takeChar ')' then return [] else goOn (.text ")" false)
          | .calculation (depth + 1) =>
            return .text ")" false :: (← pieces inner n (.calculation depth))
          | _ => goOn (.text ")" false)
        | c => goOn (.text c.toString false)

def dollar (inner : Inner) : Nat → Within → Read Piece
  | 0, _ => fail (.other "too long")
  | n + 1, w => do
    match ← peek? with
    | some '(' =>
      let _ ← takeRaw?
      if ← takeChar '(' then
        let expression ← pieces inner n (.calculation 0)
        return .number (joinTexts expression)
      else return .output (← inner.script)
    | some '\x7b' =>
      let _ ← takeRaw?
      braces inner n w
    | some c =>
      if isNameStart c then
        return .value (String.ofList (← takeWhile isNameChar n)) .plain
      else if c.isDigit || isSpecial c then
        let _ ← takeRaw?
        return .value c.toString .plain
      else if (← get).isRich && !w.isDoubled && c == '\'' then
        let _ ← takeRaw?
        let text ← interpreted n
        return .text (String.ofList (Tool.interpret false true (String.ofList text)).1) true
      else if (← get).isRich && !w.isDoubled && c == '"' then return .text "" false
      else return .text "$" false
    | none => return .text "$" false

/-- Reads what is behind a dollar sign and an opening brace. -/
def braces (inner : Inner) : Nat → Within → Read Piece
  | 0, _ => fail (.other "too long")
  | n + 1, w => do
    let before := (← get).chars
    let isRich := (← get).isRich
    let upTo (isDoubled : Bool) (stops : List Char) : Read (List Piece) := do
      let found ← pieces inner n (.braces isDoubled false stops)
      return joinTexts found
    let close (name : String) (form : Form) : Read Piece := do
      let _ ← takeRaw?
      return .value name form
    let refuse : Read Piece := do
      let _ ← upTo w.isDoubled ['\x7d']
      let _ ← takeRaw?
      let written := before.take (before.length - (← get).chars.length)
      return .value ("$\x7b" ++ String.ofList written) .bad
    let fallback (name : String) (orEmpty : Bool) (c : Char) : Read Piece := do
      let word ← upTo w.isDoubled ['\x7d']
      let kind : Fallback := match c with
        | '-' => .word
        | '=' => .kept
        | '?' => .complaint
        | _ => .present
      close name (.fallback kind orEmpty word)
    let isNamed := isRich && before.head? == some '!'
      && ((before.drop 1).head?.map isNameChar).getD false
    if isNamed then
      let _ ← takeRaw?
    match ← nameInBraces with
    | none => refuse
    | some (name, true) =>
      if (← peek?) == some '\x7d' then close name .length else refuse
    | some (name, false) =>
      match ← peek? with
      | none => refuse
      | some '\x7d' => close name (if isNamed then .named else .plain)
      | some ':' =>
        let _ ← takeRaw?
        match ← peek? with
        | none => refuse
        | some c =>
          if "-=?+".toList.contains c then
            let _ ← takeRaw?
            fallback name true c
          else if isRich && c == '\x7d' then refuse
          else if isRich then
            let start ← upTo false [':', '\x7d']
            let length? ← if ← takeChar ':' then do
                let length ← upTo false ['\x7d']
                pure (some length)
              else pure none
            close name (.part start length?)
          else
            let _ ← takeRaw?
            refuse
      | some c =>
        let _ ← takeRaw?
        if "-=?+".toList.contains c then fallback name false c
        else if c == '%' || c == '#' then
          let isLongest ← takeChar c
          let pattern ← upTo false ['\x7d']
          close name (.trim ⟨c == '%', isLongest⟩ pattern)
        else if isRich && c == '/' then
          let which : Replacing ←
            if ← takeChar '/' then pure Replacing.all
            else if ← takeChar '#' then pure Replacing.front
            else if ← takeChar '%' then pure Replacing.back
            else pure Replacing.first
          let pattern ← upTo false ['/', '\x7d']
          let word ← if ← takeChar '/' then upTo false ['\x7d'] else pure []
          close name (.replace which pattern word)
        else if isRich && (c == '^' || c == ',') then
          let isWhole ← takeChar c
          let _ ← upTo false ['\x7d']
          close name (.letters (c == '^') isWhole)
        else refuse

end

/-! ### Tokens -/

def keywords (isRich : Bool) : List String :=
  ["if", "then", "else", "elif", "fi", "for", "in", "while", "until", "do", "done", "case", "esac",
    "\x7b", "\x7d", "!"] ++ if isRich then ["[[", "function", "time"] else []

def redirection (channel? : Option Nat) : Read Token := do
  let isRich := (← get).isRich
  let found ←
    if ← takeChar '>' then
      if ← takeChar '>' then pure ">>"
      else if ← takeChar '|' then pure ">|"
      else if ← takeChar '&' then pure ">&"
      else pure ">"
    else
      let _ ← takeRaw?
      if ← takeChar '<' then
        if ← takeChar '-' then pure "<<-"
        else if isRich && (← peek?) == some '<' then do
          let _ ← takeRaw?
          pure "<<<"
        else pure "<<"
      else if ← takeChar '&' then pure "<&"
      else if ← takeChar '>' then pure "<>"
      else pure "<"
  return .redirection channel? found

/-- Reads a token, without regard to what it could mean here. -/
def plainToken (inner : Inner) : Read Token := do
  let n ← fuel
  skipBlanks n
  let isRich := (← get).isRich
  match ← peek? with
  | none => return .stop
  | some c =>
    let twice (mark : String) (more : List Char) : Read Token := do
      let _ ← takeRaw?
      for d in more do
        if ← takeChar d then return .mark (mark ++ d.toString)
      return .mark mark
    match c with
    | '\n' =>
      let _ ← takeRaw?
      return .newline
    | '&' =>
      let _ ← takeRaw?
      if ← takeChar '&' then return .mark "&&"
      else if isRich && (← peek?) == some '>' then
        let _ ← takeRaw?
        return .redirection none (if ← takeChar '>' then "&>>" else "&>")
      else return .mark "&"
    | '|' => twice "|" (if isRich then ['|', '&'] else ['|'])
    | ';' => twice ";" [';']
    | '(' => twice "(" []
    | ')' => twice ")" []
    | _ =>
      if c == '<' || c == '>' then redirection none
      else
        let word ← pieces inner n .word
        let word := joinTexts word
        let next? ← peek?
        match bare? word with
        | some digits =>
          if (next? == some '<' || next? == some '>') && !digits.isEmpty
              && digits.toList.all Char.isDigit && (isRich || digits.length == 1) then
            redirection digits.toNat?
          else return .word word
        | none => return .word word

/-- Reads the texts below a command that are due. -/
def awaitedTexts (inner : Inner) : Read Unit := do
  let due := (← get).awaited
  modify fun r => { r with awaited := [] }
  for a in due do
    let (lines, left) := linesUpTo a (← get).chars.length (← get).chars
    modify fun r =>
      { r with
        chars := left
        line := r.line + (r.chars.take (r.chars.length - left.length)).count '\n' }
    let content := lines.flatten
    let word ← if a.isLiteral then pure [Piece.text (String.ofList content) true]
      else do
        let found ← onText content (pieces inner (8 * content.length + 64) .here)
        pure (joinTexts found)
    modify fun r => { r with texts := (a.number, word) :: r.texts }
where
  /-- The lines before the one that ends a text, and what is behind that. -/
  linesUpTo (a : Awaited) : Nat → List Char → List (List Char) × List Char
    | 0, cs => ([], cs)
    | n + 1, cs =>
      if cs.isEmpty then ([], [])
      else
        let front := cs.takeWhile (· != '\n')
        let left := cs.drop (front.length + 1)
        let line := if a.dropsTabs then front.dropWhile (· == '\t') else front
        if line == a.last then ([], left)
        else
          let (lines, rest) := linesUpTo a n left
          ((line ++ if front.length < cs.length then ['\n'] else []) :: lines, rest)

/-- Reads ends of lines, and the texts that begin there, up to another token. -/
def tokenBehindLines (inner : Inner) : Nat → Token → Read Token
  | 0, t => return t
  | n + 1, t => do
    match t with
    | .newline =>
      awaitedTexts inner
      let next ← plainToken inner
      tokenBehindLines inner n next
    | t => return t

def token (inner : Inner) : Read Token := do
  let r ← get
  set { r with pushed? := none, skipsLines := false, seesKeywords := false }
  let t ← match r.pushed? with
    | some t => pure t
    | none => plainToken inner
  let t ← if r.skipsLines then tokenBehindLines inner (r.chars.length + 1) t else pure t
  match t with
  | .word word =>
    match bare? word with
    | some name =>
      return if r.seesKeywords && (keywords r.isRich).contains name then .keyword name
        else .word word
    | none => return .word word
  | t => return t

end Read

end ClientGen.Shell
