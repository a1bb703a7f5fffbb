import ClientGen.Tool.Shell.Word

/-!
Reading the commands of shell scripts, line by line. A list of commands ends where a word stands
that only a command around it can need.
-/

namespace ClientGen.Shell.Read

/-- The commands of a plain shell that are not to be hidden by functions. -/
def specialCommands : List String :=
  [".", ":", "break", "continue", "eval", "exec", "exit", "export", "readonly", "return", "set",
    "shift", "times", "trap", "unset"]

/-- A token at which a list of commands may end. -/
def endsList : Token → Bool
  | .stop => true
  | .mark text => text == ")" || text == ";;"
  | .keyword name =>
    ["do", "done", "elif", "else", "esac", "fi", "then", "\x7d"].contains name
  | _ => false

def needKeyword (inner : Inner) (name : String) : Read Unit := do
  let t ← token inner
  if !t.isKeyword name then fail (.unexpected t ("\"" ++ name ++ "\""))

def needMark (inner : Inner) (text : String) : Read Unit := do
  let t ← token inner
  if !t.isMark text then fail (.unexpected t ("\"" ++ text ++ "\""))

def needWord (inner : Inner) : Read (List Piece) := do
  match ← token inner with
  | .word word => return word
  | .stop =>
    let isRich := (← get).isRich
    fail (.unexpected (if isRich then .newline else .stop) none)
  | t => fail (.unexpected t none)

def target (inner : Inner) (channel? : Option Nat) (operator : String) : Read Redirection := do
  let word ← needWord inner
  let input := channel?.getD 0
  let output := channel?.getD 1
  let isRich := (← get).isRich
  match operator with
  | "<" => return .file input .read word
  | ">" => return .file output .write word
  | ">|" => return .file output .overwrite word
  | ">>" => return .file output .append word
  | "<>" => return .file input .both word
  | "<&" => return .same input word
  | ">&" =>
    let isChannel := match bare? word with
      | some text => text == "-" || (!text.isEmpty && text.toList.all Char.isDigit)
      | none => true
    return if isRich && channel?.isNone && !isChannel then .outputs word false
      else .same output word
  | "&>" => return .outputs word false
  | "&>>" => return .outputs word true
  | "<<<" => return .word input word
  | _ =>
    let (last, isLiteral) := rawText word
    let r ← get
    let number := r.nextText
    set { r with
      nextText := number + 1
      awaited := r.awaited ++ [(⟨number, last, operator == "<<-", isLiteral⟩ : Awaited)] }
    return .text input number

def redirections (inner : Inner) : Nat → Read (List Redirection)
  | 0 => return []
  | n + 1 => do
    expectToken false true
    match ← token inner with
    | .redirection channel? operator =>
      let r ← target inner channel? operator
      return r :: (← redirections inner n)
    | t =>
      putBack t
      return []

/-- Reads words up to something else, which is given, too. -/
def words (inner : Inner) : Nat → Read (List (List Piece) × Token)
  | 0 => return ([], .stop)
  | n + 1 => do
    match ← token inner with
    | .word word =>
      let (more, t) ← words inner n
      return (word :: more, t)
    | t => return ([], t)

/-- Reads the patterns of a branch up to what is behind them, which is given, too. -/
def patterns (inner : Inner) : Nat → Token → Read (List (List Piece) × Token)
  | 0, t => return ([], t)
  | n + 1, t => do
    let pattern := match t with
      | .word word => word
      | .keyword name => [.text name false]
      | _ => []
    let next ← token inner
    if next.isMark "|" then
      let (more, t) ← patterns inner n (← token inner)
      return (pattern :: more, t)
    else return ([pattern], next)

/-- The parts of an expression between semicolons. -/
def expressionParts : List Piece → List (List Piece)
  | [] => [[]]
  | piece :: rest =>
    let (part, more) := match expressionParts rest with
      | part :: more => (part, more)
      | [] => ([], [])
    match piece with
    | .text s false =>
      match Text.cut (· == ';') s.toList with
      | [] | [_] => (piece :: part) :: more
      | pieces =>
        let texts := pieces.map fun cs => [Piece.text (String.ofList cs) false]
        texts.dropLast ++ ((texts.getLastD []) ++ part) :: more
    | piece => (piece :: part) :: more

/-! ### Conditions -/

def isTest (text : String) : Bool :=
  match text.toList with
  | ['-', c] => "abcdefghknoprstuvwxzGLNOS".toList.contains c
  | _ => false

mutual

/-- Reads a condition of which one part has to hold. -/
def condition (inner : Inner) : Nat → Read Condition
  | 0 => fail (.other "too long")
  | n + 1 => do
    let first ← conditions inner n
    expectToken true false
    let t ← token inner
    if t.isMark "||" then return .either first (← condition inner n)
    else
      putBack t
      return first

/-- Reads a condition of which all parts have to hold. -/
def conditions (inner : Inner) : Nat → Read Condition
  | 0 => fail (.other "too long")
  | n + 1 => do
    let first ← plainCondition inner n
    expectToken true false
    let t ← token inner
    if t.isMark "&&" then return .both first (← conditions inner n)
    else
      putBack t
      return first

/-- Reads a condition that has no parts, or one in brackets. -/
def plainCondition (inner : Inner) : Nat → Read Condition
  | 0 => fail (.other "too long")
  | n + 1 => do
    expectToken true false
    match ← token inner with
    | .mark "(" =>
      let found ← condition inner n
      needMark inner ")"
      return found
    | .word word =>
      match bare? word with
      | some "!" => return .negation (← plainCondition inner n)
      | some text =>
        if isTest text then
          match ← token inner with
          | .word operand =>
            if (bare? operand) == some "]]" then
              putBack (.word operand)
              return .one "-n" word
            else return .one text operand
          | t =>
            putBack t
            return .one "-n" word
        else behind inner n word
      | none => behind inner n word
    | t => fail (.unexpected t none)

/-- Reads what is behind the first word of a condition. -/
def behind (inner : Inner) : Nat → List Piece → Read Condition
  | 0, _ => fail (.other "too long")
  | _ + 1, word => do
    match ← token inner with
    | .redirection none operator => return .two word operator (← needWord inner)
    | .word operator =>
      match bare? operator with
      | some "]]" =>
        putBack (.word operator)
        return .one "-n" word
      | some "=~" =>
        skipBlanks (← fuel)
        let pattern ← pieces inner (← fuel) (.braces false false [' ', '\n'])
        return .two word "=~" (joinTexts pattern)
      | some text => return .two word text (← needWord inner)
      | none => fail (.unexpected (.word operator) none)
    | t =>
      putBack t
      return .one "-n" word

end

/-! ### Commands -/

mutual

/-- Reads a list of commands, behind those that are read already. It is a line, or goes on over the
ends of lines; at first something has to stand there unless the list may be empty. The first
argument bounds the number of steps. -/
def list : Nat → (isLine mayEnd : Bool) → Command → Read Command
  | 0, _, _, _ => fail (.other "too long")
  | n + 1, isLine, mayEnd, before => do
    let inner := innerOf n
    expectToken (!isLine) true
    match ← token inner with
    | .newline =>
      awaitedTexts inner
      return before
    | .stop =>
      awaitedTexts inner
      putBack .stop
      return before
    | t =>
      putBack t
      if mayEnd && endsList t then return before
      else
        let found ← andOr n
        let t ← token inner
        let found := if t.isMark "&" then Command.beside found else found
        let both := match before with
          | .nothing => found
          | before => .sequence before found
        match t with
        | .stop =>
          awaitedTexts inner
          putBack .stop
          return both
        | .newline =>
          putBack .newline
          list n isLine (!isLine) both
        | t =>
          if t.isMark ";" || t.isMark "&" then list n isLine (!isLine) both
          else if isLine then fail (.unexpected t none)
          else
            putBack t
            return both

/-- Reads scripts within words. -/
def innerOf : Nat → Inner
  | 0 => ⟨fail (.other "too long"), fail (.other "too long")⟩
  | n + 1 =>
    { script := do
        let r ← get
        set { r with awaited := [], pushed? := none, skipsLines := false, seesKeywords := false }
        let found ← list n false true .nothing
        let t := ((← get).pushed?).getD .stop
        modify fun s =>
          { s with
            pushed? := r.pushed?
            awaited := r.awaited
            skipsLines := r.skipsLines
            seesKeywords := r.seesKeywords }
        if t.isMark ")" then return found
        else
          match t, (← get).isRich with
          | .stop, true => fail (.unclosed ")")
          | t, _ => fail (.unexpected t "\")\"")
      text := list n false true .nothing }

/-- Reads pipelines of which one decides about the next. -/
def andOr : Nat → Read Command
  | 0 => fail (.other "too long")
  | n + 1 => do
    let first ← pipeline n
    andOrBehind n first

def andOrBehind : Nat → Command → Read Command
  | 0, _ => fail (.other "too long")
  | n + 1, first => do
    let t ← token (innerOf n)
    if t.isMark "&&" || t.isMark "||" then
      expectToken true true
      let second ← pipeline n
      andOrBehind n (if t.isMark "&&" then .both first second else .either first second)
    else
      putBack t
      return first

def pipeline : Nat → Read Command
  | 0 => fail (.other "too long")
  | n + 1 => do
    let inner := innerOf n
    let t ← token inner
    let isRich := (← get).isRich
    if t.isKeyword "!" then
      expectToken false true
      if isRich then
        return .negation (← pipeline n)
      else
        return .negation (← piped n)
    else if t.isKeyword "time" then
      expectToken false true
      pipeline n
    else
      putBack t
      piped n

/-- Reads commands of which each reads what the one before it writes. -/
def piped : Nat → Read Command
  | 0 => fail (.other "too long")
  | n + 1 => do
    let first ← command n
    match ← pipedBehind n with
    | [] => return first
    | more => return .pipeline (first :: more)

/-- Reads the commands behind the first one of a pipeline. -/
def pipedBehind : Nat → Read (List Command)
  | 0 => fail (.other "too long")
  | n + 1 => do
    let t ← token (innerOf n)
    if t.isMark "|" || t.isMark "|&" then
      expectToken true true
      let next ← command n
      return next :: (← pipedBehind n)
    else
      putBack t
      return []

def command : Nat → Read Command
  | 0 => fail (.other "too long")
  | n + 1 => do
    let inner := innerOf n
    let line := (← get).line
    let isRich := (← get).isRich
    let finish (body : Command) : Read Command := do
      match ← redirections inner n with
      | [] => return body
      | found => return .led line body found
    let whole (last : String) (body : Command) : Read Command := do
      needKeyword inner last
      finish body
    match ← token inner with
    | .keyword "if" => whole "fi" (← branches n)
    | .keyword "while" => whole "done" (← loop n false)
    | .keyword "until" => whole "done" (← loop n true)
    | .keyword "for" =>
      if isRich && ((← get).chars.dropWhile (· == ' ')).take 2 == ['(', '('] then
        skipBlanks n
        whole "done" (← counted n)
      else whole "done" (← each n line)
    | .keyword "case" =>
      let subject ← match ← token inner with
        | .word word => pure word
        | t => fail (.unexpected t "word")
      expectToken true true
      needKeyword inner "in"
      finish (.choice line subject (← choices n))
    | .keyword "\x7b" => whole "\x7d" (← list n false false .nothing)
    | .keyword "[[" =>
      let found ← condition inner n
      match ← token inner with
      | .word word =>
        if bare? word == some "]]" then finish (.condition found)
        else fail (.unexpected (.word word) none)
      | t => fail (.unexpected t none)
    | .keyword "function" =>
      let word ← needWord inner
      let t ← token inner
      if t.isMark "(" then needMark inner ")" else putBack t
      expectToken true true
      return .function ((bare? word).getD "") (← command n)
    | .mark "(" =>
      if isRich && (← get).chars.head? == some '(' then
        let _ ← takeRaw?
        let expression ← pieces inner n (.calculation 0)
        finish (.calculation line (joinTexts expression))
      else
        let body ← list n false false .nothing
        needMark inner ")"
        finish (.apart body)
    | .word word =>
      putBack (.word word)
      simple n line true [] [] []
    | .redirection channel? operator =>
      putBack (.redirection channel? operator)
      simple n line true [] [] []
    | t => fail (.unexpected t none)

/-- Reads a condition and the commands that depend on it, up to the end of all of it. -/
def branches : Nat → Read Command
  | 0 => fail (.other "too long")
  | n + 1 => do
    let inner := innerOf n
    let test ← list n false false .nothing
    needKeyword inner "then"
    let yes ← list n false false .nothing
    match ← token inner with
    | .keyword "elif" => return .conditional test yes (← branches n)
    | .keyword "else" => return .conditional test yes (← list n false false .nothing)
    | t =>
      putBack t
      return .conditional test yes .nothing

def loop : Nat → Bool → Read Command
  | 0, _ => fail (.other "too long")
  | n + 1, isUntil => do
    let test ← list n false false .nothing
    needKeyword (innerOf n) "do"
    return .loop isUntil test (← list n false false .nothing)

def each : Nat → Nat → Read Command
  | 0, _ => fail (.other "too long")
  | n + 1, line => do
    let inner := innerOf n
    let name ← match ← token inner with
      | .word word =>
        match bare? word with
        | some name => if isName name then pure name else fail (.other "Bad for loop variable")
        | none => fail (.other "Bad for loop variable")
      | _ => fail (.other "Bad for loop variable")
    expectToken true true
    let t ← token inner
    let found ←
      if t.isKeyword "in" then do
        match ← words inner n with
        | (found, .newline) => pure found
        | (found, t) => if t.isMark ";" then pure found else fail (.unexpected t none)
      else do
        if !t.isMark ";" then putBack t
        pure [[.doubled [.value "@" .plain]]]
    expectToken true true
    needKeyword inner "do"
    return .each line name found (← list n false false .nothing)

def counted : Nat → Read Command
  | 0 => fail (.other "too long")
  | n + 1 => do
    let inner := innerOf n
    needMark inner "("
    needMark inner "("
    let expression ← pieces inner n (.calculation 0)
    let t ← token inner
    if !t.isMark ";" then putBack t
    expectToken true true
    needKeyword inner "do"
    let body ← list n false false .nothing
    match expressionParts (joinTexts expression) with
    | [first, test, step] => return .count first test step body
    | _ => fail (.unexpected (.mark ")") none)

/-- Reads the branches of a choice up to its end. -/
def choices : Nat → Read (List Branch)
  | 0 => fail (.other "too long")
  | n + 1 => do
    let inner := innerOf n
    expectToken true true
    let t ← token inner
    if t.isKeyword "esac" then return []
    else
      let t ← if t.isMark "(" then token inner else pure t
      let (found, t) ← patterns inner n t
      if !t.isMark ")" then fail (.unexpected t "\")\"")
      let body ← list n false true .nothing
      expectToken true true
      let t ← token inner
      if t.isKeyword "esac" then return [.mk found body]
      else if t.isMark ";;" then return .mk found body :: (← choices n)
      else fail (.unexpected t "\";;\"")

/-- Reads the rest of a simple command, or the body of a function. -/
def simple : Nat → (line : Nat) → (mayAssign : Bool) → List (String × List Piece) →
    List (List Piece) → List Redirection → Read Command
  | 0, _, _, _, _, _ => fail (.other "too long")
  | n + 1, line, mayAssign, assignments, found, rs => do
    let inner := innerOf n
    let isRich := (← get).isRich
    match ← token inner with
    | .word word =>
      match if mayAssign then assignment? word else none with
      | some a => simple n line true (assignments ++ [a]) found rs
      | none => simple n line false assignments (found ++ [word]) rs
    | .redirection channel? operator =>
      let r ← target inner channel? operator
      simple n line mayAssign assignments found (rs ++ [r])
    | t =>
      match t.isMark "(", found, assignments, rs with
      | true, [name], [], [] =>
        needMark inner ")"
        let name := (bare? name).getD ""
        if !isRich && (!isName name || specialCommands.contains name) then
          fail (.other "Bad function name")
        expectToken true true
        if isRich then
          match ← token inner with
          | .word word => fail (.unexpected (.word word) none)
          | t => putBack t
        return .function name (← command n)
      | _, _, _, _ =>
        putBack t
        return .simple line assignments found rs

end

/-- Reads the commands of the next line, if there are any left. -/
def line : Read (Option Command) := do
  let n ← fuel
  let r ← get
  set { r with pushed? := none, skipsLines := false, seesKeywords := false, awaited := [] }
  let found ← list n true false .nothing
  match found, (← get).pushed? with
  | .nothing, some .stop => return none
  | found, _ => return some found

end ClientGen.Shell.Read
