import ClientGen.Naming.Words
import ClientGen.Template.Argument
import ClientGen.Text.Case
import ClientGen.Text.Cut

/-!
Filters that make one text of another, or cut a text into pieces.
-/

namespace ClientGen.Template

def isPunctuation (c : Char) : Bool :=
  33 ≤ c.toNat && c.toNat ≤ 126 && !c.isAlphanum

/-- Words with a capital each. Blanks and punctuation are between words. -/
def titleFrom (begins : Bool) : List Char → List Char
  | [] => []
  | c :: cs =>
    if isPunctuation c || Text.isBlank c then c :: titleFrom true cs
    else (if begins then Text.upperChar c else Text.lowerChar c) ++ titleFrom false cs

/-- The text with a capital at the front and lower case behind it. -/
def capitalize (s : String) : String :=
  match s.toList with
  | [] => ""
  | c :: cs => String.ofList (Text.upperChar c) ++ Text.lower (String.ofList cs)

/-- The pieces of a text between the places where another one stands. An empty one stands between
any two characters, and at both ends. -/
def piecesBetween (s sep : String) : List String :=
  if sep.isEmpty then "" :: s.toList.map (fun c => String.ofList [c]) ++ [""] else s.splitOn sep

/-- At most `n` of the pieces. The last one is all that is left. -/
def fewPieces (s sep : String) (n : Nat) : List String :=
  let pieces := piecesBetween s sep
  if pieces.length ≤ n then pieces
  else pieces.take (n - 1) ++ [sep.intercalate (pieces.drop (n - 1))]

def words (cs : List Char) : List String :=
  ((Text.cut Text.isBlank cs).filter (!·.isEmpty)).map String.ofList

/-- At most `n` words. The last one is all that is left, with the blanks behind it; only blanks are
left out if they stand before it. -/
def fewWords (cs : List Char) : Nat → List String
  | 0 => []
  | n + 1 =>
    let start := cs.dropWhile Text.isBlank
    let stop := start.dropWhile (!Text.isBlank ·)
    if cs.isEmpty then []
    else if n == 0 || start.isEmpty || stop.isEmpty then
      [String.ofList (if start.isEmpty then cs else start)]
    else String.ofList (start.takeWhile (!Text.isBlank ·)) :: fewWords stop n

/-- The text without a line break at its end, and then without a carriage return there. -/
def chomp (cs : List Char) : List Char :=
  let drop (c : Char) (cs : List Char) : List Char :=
    if cs.getLast? == some c then cs.dropLast else cs
  drop '\r' (drop '\n' cs)

def linesOf (s : String) : List String :=
  let lines := Text.cut (· == '\n') s.toList
  let lines := if (lines.getLast?.map List.isEmpty).getD false then lines.dropLast else lines
  -- what stands before a line break may be a carriage return that belongs to it
  let ended := if s.endsWith "\n" then lines.length else lines.length - 1
  ((lines.take ended).map fun l => if l.getLast? == some '\r' then l.dropLast else l)
    ++ lines.drop ended |>.map String.ofList

/-- The lines of a text further to the right: all but the first one, and those that are not empty,
unless more are asked for. -/
def indent (s : String) (width : Nat) (first empty : Bool) : String :=
  let margin := List.replicate width ' '
  let move (line : List Char) : List Char :=
    if line.isEmpty && !empty then line else margin ++ line
  let lines := match Text.cut (· == '\n') (chomp s.toList) with
    | line :: lines => (if first then move line else line) :: lines.map move
    | [] => []
  String.ofList (chomp (lines.flatMap (· ++ ['\n'])))

/-- The filter for one text, whatever the value is. -/
def textFilter (f : String → String) (args : Arguments) : Result := do
  let s ← args.text 0
  args.noMore 1
  return .text (f s)

/-- A text made of another one, which needs no escapes if that one needs none. -/
def likeFirst (args : Arguments) (s : String) : Value :=
  match args.head? with
  | some (.safe _) => .safe s
  | _ => .text s

def applyCapitalize (args : Arguments) : Result := do
  let s ← args.text 0
  args.noMore 1
  return likeFirst args (capitalize s)

/-- The text without other characters, or without blanks, at both ends. -/
def applyTrim (args : Arguments) : Result := do
  let s ← args.text 0
  let chars? ← args.optionalText 1
  args.noMore 2
  return likeFirst args <| match chars? with
    | some chars => String.ofList (Text.trimWhere chars.toList.contains s.toList)
    | none => Text.trim s

/-- Another text in all places of one. Where outputs are escaped and one of the three texts needs no
escapes, the others get them, and the result needs none. -/
def applyReplace (escaping : Bool) (args : Arguments) : Result := do
  let s ← args.text 0
  let old ← args.text 1
  let new ← args.text 2
  args.noMore 3
  let isSafe (place : Nat) : Bool := args[place]? matches some (.safe _)
  let escapedAt (place : Nat) : String := escapedText (args[place]?.getD .absent)
  let replaced (s old new : String) : String := new.intercalate (piecesBetween s old)
  if escaping && (isSafe 0 || isSafe 1 || isSafe 2) then
    return .safe (replaced (escapedAt 0) (escapedAt 1) (escapedAt 2))
  else return .text (replaced s old new)

def applySplit (args : Arguments) : Result := do
  let s ← Arguments.asText (← args.known 0)
  let sep? ← args.optionalAs Arguments.asText 1
  let most? ← args.optionalAs (Arguments.asInt 64) 2
  args.noMore 3
  let most? := most?.bind fun n => if n < 0 then none else some (n.toNat + 1)
  let pieces := match sep?, most? with
    | some sep, some n => fewPieces s sep n
    | some sep, none => piecesBetween s sep
    | none, some n => fewWords s.toList n
    | none, none => words s.toList
  return Value.ofList .text pieces

def applyLines (args : Arguments) : Result := do
  let s ← Arguments.asText (← args.known 0)
  args.noMore 1
  return Value.ofList .text (linesOf s)

/-- The argument at a place, or the named one that is given in its place. -/
def placedOrNamed {α : Type} (args : Arguments) (fields : List (Value × Value))
    (as : Value → Except TemplateError α) (place : Nat) (name : String) :
    Except TemplateError (Option α) := do
  match ← args.optionalAs as place with
  | some a => return some a
  | none => Arguments.namedAs as fields name

/-- The lines of a text further to the right. -/
def applyIndent (args : Arguments) : Result := do
  let (args, fields) := args.split
  let s ← args.text 0
  let width? ← placedOrNamed args fields Arguments.asNat 1 "width"
  let first? ← placedOrNamed args fields Arguments.asBool 2 "first"
  let empty? ← placedOrNamed args fields Arguments.asBool 3 "blank"
  args.noMore 4
  Arguments.onlyNamed fields (["width", "first", "blank"].drop (args.length - 1))
  return likeFirst args (indent s (width?.getD 4) (first?.getD false) (empty?.getD false))

/-- The text without escapes from now on. -/
def applySafe (args : Arguments) : Result := do
  let s ← args.text 0
  args.noMore 1
  return .safe s

def applyEscape (args : Arguments) : Result := do
  let v ← args.known 0
  args.noMore 1
  return .safe (escapedText v)

/-- Elements one behind the other with a text in between. -/
def applyJoin (args : Arguments) : Result := do
  let v ← args.value 0
  let sep ← args.optionalText 1
  args.noMore 2
  match v with
  | .undefined | .absent | .none => return .text ""
  | v =>
    let vs ← Arguments.elementsOf v .invalidOperation
    return .text ((sep.getD "").intercalate (vs.map Value.toText))

def applyText (args : Arguments) : Result := do
  let v ← args.known 0
  args.noMore 1
  return match v.text? with
    | some _ => v
    | none => .text v.toText

/-- The filters that make texts, or pieces of a text. Some depend on whether outputs are escaped. -/
def textFilters (escaping : Bool) : List (String × (Arguments → Result)) :=
  [("pascal", textFilter Naming.pascal), ("camel", textFilter Naming.camel),
    ("snake", textFilter Naming.snake), ("lower", textFilter Text.lower),
    ("upper", textFilter Text.upper), ("upper_first", textFilter Text.upperFirst),
    ("quote", textFilter Text.quote), ("title", textFilter titleOf),
    ("capitalize", applyCapitalize), ("trim", applyTrim), ("replace", applyReplace escaping),
    ("split", applySplit), ("lines", applyLines), ("indent", applyIndent), ("safe", applySafe),
    ("escape", applyEscape), ("e", applyEscape), ("join", applyJoin), ("string", applyText)]
where
  /-- The text with a capital for each word. -/
  titleOf (s : String) : String := String.ofList (titleFrom true s.toList)

end ClientGen.Template
