import ClientGen.Data.Decimal.Shortest
import ClientGen.Failure
import ClientGen.Text.Cut
import ClientGen.Text.Quoted

/-!
The tokens of a template: its text, and what is written inside of outputs in double braces and of
tags in braces with percent signs. Comments are dropped, and the blanks around tags are taken away
as the template asks for:

* a tag or comment at the beginning of a line takes the spaces and tabs before it along,
* a tag or comment takes the line break behind it along,
* a minus sign at either end of a tag, output or comment takes all blanks on that side along,
* a plus sign keeps them all.
-/

namespace ClientGen.Template

/-- A mark of one or two characters. -/
inductive Mark where
  | plus
  | minus
  | times
  | over
  | into
  | modulo
  | power
  | tilde
  | dot
  | comma
  | colon
  | pipe
  | assign
  | equal
  | unequal
  | less
  | atMost
  | greater
  | atLeast
  | openParen
  | closeParen
  | openBracket
  | closeBracket
  | openBrace
  | closeBrace
  deriving DecidableEq

inductive Token where
  | text (s : String)
  | openOutput
  | closeOutput
  | openTag
  | closeTag
  | word (s : String)
  | quoted (s : String)
  | int (n : Nat)
  | float (x : Float)
  | mark (m : Mark)
  /-- Something that is no token. Nothing comes behind it. -/
  | bad (e : TemplateError)

/-! ### Blanks -/

/-- What a sign at an end of a tag asks for. -/
inductive Sign where
  | plain
  /-- Takes all blanks on that side. -/
  | strip
  /-- Keeps all blanks on that side. -/
  | keep
  deriving DecidableEq

/-- The sign at the front, and what follows it. -/
def signed : List Char → Sign × List Char
  | '-' :: cs => (.strip, cs)
  | '+' :: cs => (.keep, cs)
  | cs => (.plain, cs)

def isTagBlank (c : Char) : Bool :=
  c == ' ' || c == '\t' || c == '\n' || c == '\r' || c == '\x0c'

/-- The list without its longest end whose characters all satisfy `p`. -/
def trimEndWhere (p : Char → Bool) (cs : List Char) : List Char :=
  (cs.reverse.dropWhile p).reverse

/-- A blank that may stand before a tag on its line. -/
def isMarginBlank (c : Char) : Bool := c == ' ' || c == '\t'

/-- Whether the line so far is blank behind `cs`, if it is `blank` before. -/
def blankLine (blank : Bool) (cs : List Char) : Bool :=
  cs.foldl (fun b c => c == '\n' || (b && isMarginBlank c)) blank

/-- The text before a tag with this sign, whose line so far is blank or not. -/
def textBefore (sign : Sign) (blank : Bool) (cs : List Char) : List Char :=
  match sign with
  | .strip => trimEndWhere Text.isBlank cs
  | .keep => cs
  | .plain => if blank then trimEndWhere isMarginBlank cs else cs

/-- How many characters the line break at the front has. -/
def lineBreakLength : List Char → Nat
  | '\r' :: '\n' :: _ => 2
  | '\r' :: _ => 1
  | '\n' :: _ => 1
  | _ => 0

/-- How many characters at the front a tag with this sign at its end takes along. -/
def takenBehind (sign : Sign) (cs : List Char) : Nat :=
  match sign with
  | .strip => (cs.takeWhile Text.isBlank).length
  | .keep => 0
  | .plain => lineBreakLength cs

/-! ### Markers -/

/-- The text up to the next output, tag or comment. -/
def untilMarker : List Char → List Char
  | [] => []
  | [c] => [c]
  | c :: d :: cs =>
    if c == '{' && (d == '{' || d == '%' || d == '#') then []
    else c :: untilMarker (d :: cs)

/-- The length of a comment whose inside is given and behind whose start `n` characters, the last of
them `last`, have been passed. -/
def commentLength? (n : Nat) (last : Char) : List Char → Option Nat
  | '#' :: '}' :: cs => some (n + 2 + takenBehind (signed [last]).1 cs)
  | c :: cs => commentLength? (n + 1) c cs
  | [] => none

/-- The sign at the end of a tag of just a name, whose inside is given, its length, and what follows
it. -/
def wordTag? (name cs : List Char) : Option (Sign × Nat × List Char) :=
  let before := (cs.takeWhile isTagBlank).length
  let cs := cs.drop before
  if name.isPrefixOf cs then
    let cs := cs.drop name.length
    let behind := (cs.takeWhile isTagBlank).length
    match signed (cs.drop behind) with
    | (.plain, '%' :: '}' :: rest) => some (.plain, before + name.length + behind + 2, rest)
    | (sign, '%' :: '}' :: rest) => some (sign, before + name.length + behind + 3, rest)
    | _ => none
  else none

def Sign.length : Sign → Nat
  | .plain => 0
  | _ => 1

/-- The text up to the tag that ends literal text, which begins behind a tag with this sign, and how
many characters go with it. -/
def literalText? (sign : Sign) (n : Nat) (done : List Char) :
    List Char → Option (List Char × Nat)
  | '{' :: '%' :: cs =>
    match wordTag? ['e', 'n', 'd', 'r', 'a', 'w'] (signed cs).2 with
    | some (last, length, rest) =>
      let text := done.reverse.drop (takenBehind sign done.reverse)
      some (textBefore (signed cs).1 (blankLine true text) text,
        n + 2 + (signed cs).1.length + length + takenBehind last rest)
    | none => literalText? sign (n + 2) ('%' :: '{' :: done) cs
  | c :: cs => literalText? sign (n + 1) (c :: done) cs
  | [] => none

/-! ### Quoted texts -/

/-- A text in quotes as far as it is read: its characters, last first, and a leading surrogate that
waits for its other half. -/
structure QuotedText where
  done : List Char := []
  leading? : Option Nat := none

def QuotedText.add? (q : QuotedText) (c : Char) : Option QuotedText :=
  if q.leading?.isSome then none else some { q with done := c :: q.done }

/-- The text with the sixteen bits of an escape more. -/
def QuotedText.addUnit? (q : QuotedText) (n : Nat) : Option QuotedText :=
  match q.leading? with
  | some leading =>
    if leading < 0xdc00 && 0xdc00 ≤ n && n ≤ 0xdfff then
      some ⟨Char.ofNat (0x10000 + (leading - 0xd800) * 0x400 + (n - 0xdc00)) :: q.done, none⟩
    else none
  | none =>
    if 0xd800 ≤ n && n ≤ 0xdfff then some { q with leading? := some n }
    else some { q with done := Char.ofNat n :: q.done }

/-- The number of four hexadecimal digits, of which the first may be a plus sign. -/
def unit? (digits : List Char) : Option Nat :=
  let digits := if digits.head? == some '+' then digits.tail else digits
  (digits.mapM Text.hexValue?).map fun values => values.foldl (fun n v => 16 * n + v) 0

def escapes : List (Char × Char) :=
  [('"', '"'), ('\\', '\\'), ('/', '/'), ('\'', '\''), ('b', '\x08'), ('f', '\x0c'), ('n', '\n'),
    ('r', '\r'), ('t', '\t')]

def isOctal (c : Char) : Bool := '0'.toNat ≤ c.toNat && c.toNat ≤ '7'.toNat

/-- The character below 256 that digits behind a backslash give, and how many characters that takes:
two hexadecimal digits behind an `x`, or up to three octal ones. -/
def byteEscape? (cs : List Char) : Option (Option Char × Nat) :=
  match cs with
  | 'x' :: cs =>
    match (cs.take 2).mapM Text.hexValue? with
    | some [h, l] => some (Char.ofNat (16 * h + l), 3)
    | _ => some (none, 0)
  | cs =>
    let digits := (cs.take 3).takeWhile isOctal
    let n := digits.foldl (fun n c => 8 * n + (c.toNat - '0'.toNat)) 0
    if digits.isEmpty then none
    else some (if n < 256 then some (Char.ofNat n) else none, digits.length)

/-- The text that is written with escapes. The last step also took the first `skip` characters. A
backslash before a character without a meaning of its own stands for itself. -/
def unescape? (q : QuotedText) (skip : Nat) : List Char → Option String
  | [] => if q.leading?.isSome then none else some (String.ofList q.done.reverse)
  | c :: cs =>
    match skip with
    | k + 1 => unescape? q k cs
    | 0 =>
      if c == '\\' then
        match cs with
        | [] => none
        | d :: ds =>
          if d == 'u' then do
            guard (ds.length ≥ 4)
            unescape? (← q.addUnit? (← unit? (ds.take 4))) 5 cs
          else
            match escapes.lookup d, byteEscape? cs with
            | some e, _ => do unescape? (← q.add? e) 1 cs
            | none, some (e?, taken) => do unescape? (← q.add? (← e?)) taken cs
            | none, none => do unescape? (← (← q.add? c).add? d) 1 cs
      else do unescape? (← q.add? c) 0 cs

/-- How many characters come before the closing quotation mark. -/
def quotedLength? (quote : Char) (n : Nat) : List Char → Option Nat
  | [] => none
  | '\\' :: _ :: cs => quotedLength? quote (n + 2) cs
  | c :: cs =>
    if c == quote then some n else if c == '\\' then none else quotedLength? quote (n + 1) cs

/-- The text in quotes that begins behind a quotation mark, and its length with both marks. -/
def quotedToken (quote : Char) (cs : List Char) : Token × Nat :=
  match quotedLength? quote 0 cs with
  | none => (.bad .badSyntax, 1)
  | some n =>
    match unescape? {} 0 (cs.take n) with
    | some s => (.quoted s, n + 2)
    | none => (.bad .badEscape, n + 2)

/-! ### Numbers -/

/-- What part of a number is being read. -/
inductive NumberPart where
  | whole
  | fraction
  /-- Behind the letter of an exponent. -/
  | exponent
  | exponentDigits
  | inBase (base : Nat)
  deriving DecidableEq

/-- The part behind a character, if that belongs to the number. -/
def NumberPart.step? (p : NumberPart) (c : Char) : Option NumberPart :=
  match p with
  | .whole =>
    if c == '.' then some .fraction
    else if c == 'e' || c == 'E' then some .exponent
    else if c.isDigit || c == '_' then some .whole
    else none
  | .fraction =>
    if c == 'e' || c == 'E' then some .exponent
    else if c.isDigit || c == '_' then some .fraction
    else none
  | .exponent =>
    if c == '+' || c == '-' || c.isDigit then some .exponentDigits
    else if c == '_' then some .exponent
    else none
  | .exponentDigits => if c.isDigit || c == '_' then some .exponentDigits else none
  | .inBase base =>
    if c.isDigit || c == '_' || (base == 16 && (Text.hexValue? c).isSome) then some p else none

/-- The characters of a number, and what part they end in. -/
def numberSpan (p : NumberPart) : List Char → List Char × NumberPart
  | [] => ([], p)
  | c :: cs =>
    match p.step? c with
    | some p =>
      let (span, last) := numberSpan p cs
      (c :: span, last)
    | none => ([], p)

def digits? (base : Nat) (cs : List Char) : Option Nat :=
  if cs.isEmpty then none
  else (cs.mapM Text.hexValue?).bind fun values =>
    if values.all (· < base) then some (values.foldl (fun n v => base * n + v) 0) else none

/-- The place of an item at the front, behind a point, and its length. -/
def placeToken (cs : List Char) : Token × Nat :=
  let span := cs.takeWhile Char.isDigit
  (((Data.Decimal.digits? span).map Token.int).getD (.bad .badSyntax), span.length)

/-- The number at the front, and its length. A whole number has at most a hundred and twenty-eight
bits. -/
def numberToken (cs : List Char) : Token × Nat :=
  let (start, base) := match cs with
    | '0' :: c :: _ =>
      (([('b', 2), ('B', 2), ('o', 8), ('O', 8), ('x', 16), ('X', 16)].lookup c).map
        fun base => (2, base)).getD (0, 10)
    | _ => (0, 10)
  let (span, last) := numberSpan (if start == 0 then .whole else .inBase base) (cs.drop start)
  let digits := span.filter (· != '_')
  let length := start + span.length
  if span.getLast? == some '_' then (.bad .badSyntax, length)
  else match last with
    | .whole | .inBase _ =>
      match digits? base digits with
      | some n => (if n < Nat.pow 2 128 then .int n else .bad .badSyntax, length)
      | none => (.bad .badSyntax, length)
    | _ =>
      let x? := Data.Decimal.float? (String.ofList digits)
      ((x?.map Token.float).getD (.bad .badSyntax), length)

/-! ### Tokens of tags -/

def beginsWord (c : Char) : Bool := c.isAlpha || c == '_'

def isWordChar (c : Char) : Bool := c.isAlphanum || c == '_'

def mark? : List Char → Option (Mark × Nat)
  | '/' :: '/' :: _ => some (.into, 2)
  | '*' :: '*' :: _ => some (.power, 2)
  | '=' :: '=' :: _ => some (.equal, 2)
  | '!' :: '=' :: _ => some (.unequal, 2)
  | '<' :: '=' :: _ => some (.atMost, 2)
  | '>' :: '=' :: _ => some (.atLeast, 2)
  | c :: _ =>
    ([('+', Mark.plus), ('-', .minus), ('*', .times), ('/', .over), ('%', .modulo), ('~', .tilde),
      ('.', .dot), (',', .comma), (':', .colon), ('|', .pipe), ('=', .assign), ('<', .less),
      ('>', .greater), ('(', .openParen), (')', .closeParen), ('[', .openBracket),
      (']', .closeBracket), ('{', .openBrace), ('}', .closeBrace)].lookup c).map (·, 1)
  | [] => none

/-- The token at the front, and its length. What stands behind a point is the name or the place of a
part, so that a number there has no point of its own. -/
def token (behindPoint : Bool) (cs : List Char) : Token × Nat :=
  match mark? cs with
  | some (m, length) => (.mark m, length)
  | none =>
    match cs with
    | '"' :: cs => quotedToken '"' cs
    | '\'' :: cs => quotedToken '\'' cs
    | c :: _ =>
      if c.isDigit then if behindPoint then placeToken cs else numberToken cs
      else if beginsWord c then
        let word := cs.takeWhile isWordChar
        (.word (String.ofList word), word.length)
      else (.bad .badSyntax, 1)
    | [] => (.bad .badSyntax, 1)

/-- How many brackets are open behind a token, if `depth` are open before it. -/
def Token.depth? (depth : Nat) : Token → Option Nat
  | .mark .openParen | .mark .openBracket | .mark .openBrace => some (depth + 1)
  | .mark .closeParen | .mark .closeBracket | .mark .closeBrace =>
    if depth == 0 then none else some (depth - 1)
  | .bad _ => none
  | _ => some depth

/-! ### The scan -/

/-- Where a scan stands: in text, or in a tag or output. -/
inductive Mode where
  | text
  | inside (isOutput : Bool) (depth : Nat)

/-- One step of a scan: the mode behind it, the tokens that it found, and how many characters it
took. A scan without a mode is over. -/
structure Step where
  mode? : Option Mode
  tokens : List Token
  taken : Nat

/-- A step that meets what makes no sense. -/
def Step.fail (e : TemplateError) : Step := ⟨none, [.bad e], 1⟩

def textTokens (cs : List Char) : List Token :=
  if cs.isEmpty then [] else [.text (String.ofList cs)]

/-- A step in text whose line so far is blank or not. -/
def textStep (blank : Bool) (cs : List Char) : Step :=
  match cs with
  | '{' :: '#' :: inside =>
    let sign := signed inside
    match commentLength? (2 + sign.1.length) ' ' sign.2 with
    | some n => ⟨some .text, [], n⟩
    | none => .fail .badSyntax
  | '{' :: '{' :: inside =>
    ⟨some (.inside true 0), [.openOutput], 2 + (signed inside).1.length⟩
  | '{' :: '%' :: inside =>
    let sign := signed inside
    match wordTag? ['r', 'a', 'w'] sign.2 with
    | some (last, length, rest) =>
      match literalText? last (2 + sign.1.length + length) [] rest with
      | some (text, n) => ⟨some .text, textTokens text, n⟩
      | none => .fail .badSyntax
    | none => ⟨some (.inside false 0), [.openTag], 2 + sign.1.length⟩
  | _ =>
    let text := untilMarker cs
    let kept := match cs.drop text.length with
      | '{' :: '{' :: inside => textBefore (signed inside).1 false text
      | '{' :: _ :: inside => textBefore (signed inside).1 (blankLine blank text) text
      | _ => text
    ⟨some .text, textTokens kept, text.length⟩

/-- How many characters end the tag, if it ends here, with those that it takes along. -/
def closing? (isOutput : Bool) (cs : List Char) : Option Nat :=
  match signed cs with
  | (sign, '}' :: '}' :: rest) =>
    if isOutput then
      some (2 + sign.length + if sign == .plain then 0 else takenBehind sign rest)
    else none
  | (sign, '%' :: '}' :: rest) =>
    if isOutput then none else some (2 + sign.length + takenBehind sign rest)
  | _ => none

/-- A step inside a tag or output, perhaps behind a point. -/
def insideStep (isOutput : Bool) (depth : Nat) (behindPoint : Bool) (cs : List Char) : Step :=
  match cs.takeWhile isTagBlank with
  | c :: blanks => ⟨some (.inside isOutput depth), [], (c :: blanks).length⟩
  | [] =>
    match if depth == 0 then closing? isOutput cs else none with
    | some taken => ⟨some .text, [if isOutput then .closeOutput else .closeTag], taken⟩
    | none =>
      let (t, length) := token behindPoint cs
      ⟨(t.depth? depth).map (.inside isOutput), [t], length⟩

def Token.isPoint : Token → Bool
  | .mark m => m == .dot
  | _ => false

/-- One step of a scan behind a token. -/
def Mode.step (blank : Bool) (before? : Option Token) (mode : Mode) (cs : List Char) : Step :=
  match mode with
  | .text => textStep blank cs
  | .inside isOutput depth =>
    insideStep isOutput depth ((before?.map Token.isPoint).getD false) cs

/-- Scans a text on from where it stands. The last step also took the first `skip` characters. -/
def tokensFrom (mode? : Option Mode) (blank : Bool) (skip : Nat) (done : List Token) :
    List Char → List Token
  | [] => done.reverse
  | c :: cs =>
    match mode?, skip with
    | none, _ => done.reverse
    | some mode, k + 1 => tokensFrom (some mode) (blankLine blank [c]) k done cs
    | some mode, 0 =>
      let step := mode.step blank done.head? (c :: cs)
      tokensFrom step.mode? (blankLine blank [c]) (step.taken - 1) (step.tokens.reverse ++ done) cs

def tokens (source : String) : List Token :=
  tokensFrom (some .text) true 0 [] source.toList

end ClientGen.Template
