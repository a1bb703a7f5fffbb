import ClientGen.Data.Toml.Scalar

/-!
From a TOML text to the tables that it spells. The text is read character by character: lists and
tables in brackets that are open are kept on a stack, and every complete value goes into its table
at once. A name may be given only once, and a table may be opened only once by a header of its own.
-/

namespace ClientGen.Data.Toml

/-- Where a table comes from. -/
inductive Origin where
  /-- From a header of its own. -/
  | stated
  /-- From a longer header. -/
  | implied
  /-- From a name with dots. -/
  | dotted
  /-- From braces. Nothing can be added later. -/
  | braces
  deriving DecidableEq

inductive Value where
  | text (s : String)
  | whole (isNegative : Bool) (n : Nat)
  | fraction
  | truth (b : Bool)
  | moment
  | list (items : List Value)
  /-- Tables from headers of their own with one name, last first. -/
  | tables (elements : List (List (String × Value)))
  | table (origin : Origin) (fields : List (String × Value))
  deriving Inhabited

/-- The fields of a table, in the order of the text. -/
abbrev Fields := List (String × Value)

namespace Fields

def set (name : String) (v : Value) (fields : Fields) : Fields :=
  fields.map fun f => if f.1 == name then (name, v) else f

/-- Changes the table at the end of a path. Tables that are missing on the way are made with the
origin `made`. Names with dots do not lead into tables that have a header of their own, but for the
last one of a list; the other tables that they lead through count as theirs from then on. -/
def descend (made : Origin) (change : Origin → Fields → Option Fields) :
    Origin → List String → Fields → Option Fields
  | here, [], fields => change here fields
  | _, name :: path, fields =>
    match fields.lookup name with
    | none =>
      (descend made change made path []).map fun inside => fields ++ [(name, .table made inside)]
    | some (.table origin inside) =>
      if origin = .braces || (made = .dotted && origin = .stated) then none
      else
        let origin := if made = .dotted then .dotted else origin
        (descend made change origin path inside).map fun inside =>
          set name (.table origin inside) fields
    | some (.tables (inside :: before)) =>
      (descend made change .stated path inside).map fun inside =>
        set name (.tables (inside :: before)) fields
    | some _ => none

/-- The fields with a new one. A name with dots does not lead into a table of another origin. -/
def insert (path : List String) (v : Value) (here : Origin) (fields : Fields) : Option Fields :=
  match path.getLast? with
  | none => none
  | some name =>
    descend .dotted (fun origin inside =>
      if (origin = .dotted) ≠ (path.length > 1) || (inside.lookup name).isSome then none
      else some (inside ++ [(name, v)])) here path.dropLast fields

/-- The fields with a table that a header opens. -/
def openTable (path : List String) (fields : Fields) : Option Fields :=
  match path.getLast? with
  | none => none
  | some name =>
    descend .implied (fun _ inside =>
      match inside.lookup name with
      | none => some (inside ++ [(name, .table .stated [])])
      | some (.table .implied fields) => some (set name (.table .stated fields) inside)
      | some _ => none) .stated path.dropLast fields

/-- The fields with one more table of a list that a header opens. -/
def openElement (path : List String) (fields : Fields) : Option Fields :=
  match path.getLast? with
  | none => none
  | some name =>
    descend .implied (fun _ inside =>
      match inside.lookup name with
      | none => some (inside ++ [(name, .tables [[]])])
      | some (.tables elements) => some (set name (.tables ([] :: elements)) inside)
      | some _ => none) .stated path.dropLast fields

/-- The fields with a new one in the table of a header. -/
def insertUnder (header path : List String) (v : Value) (fields : Fields) : Option Fields :=
  descend .implied (fun _ inside => insert path v .stated inside) .stated header fields

end Fields

/-! ### Reading -/

/-- What a name belongs to. -/
inductive NameKind where
  | line
  /-- A header of a table. -/
  | header
  /-- A header of one table of a list. -/
  | element
  /-- A field in braces. -/
  | field
  deriving DecidableEq

/-- Something in brackets that is open. -/
inductive Frame where
  | list (items : List Value)
  /-- A table whose next value has a name. -/
  | table (fields : Fields) (path : List String)

/-- What is expected. -/
inductive Place where
  /-- A field, a header or nothing, up to the end of the line. -/
  | line
  | lineEnd
  /-- A part of a name. The parts before it stand last first. -/
  | name (kind : NameKind) (parts : List String)
  | nameEnd (kind : NameKind) (parts : List String)
  /-- The sign between the name and the value of a field in braces. -/
  | sign (path : List String)
  | value
  /-- An item, or the end of a list. -/
  | item
  | itemEnd
  /-- A field, or the end of a table. -/
  | field
  | fieldEnd

/-- A line may end at this place. In braces that is everywhere but between the parts of a name. -/
def Place.allowsBreak (inBraces : Bool) : Place → Bool
  | .name _ _ => false
  | .nameEnd kind _ => kind = .field
  | .value => inBraces
  | _ => true

def Place.behindBreak : Place → Place
  | .lineEnd => .line
  | .nameEnd _ parts => .sign parts.reverse
  | place => place

/-- What is read so far. -/
structure Reader where
  root : Fields := []
  /-- The path of the last header. -/
  header : List String := []
  /-- The name of the field that is read. -/
  path : List String := []
  stack : List Frame := []
  place : Place := .line

namespace Reader

/-- How deep lists and tables in brackets may be nested, and how many parts a name may have. -/
def depthLimit : Nat := 80

/-- Puts a complete value where it belongs. -/
def complete? (r : Reader) (v : Value) : Option Reader :=
  match r.stack with
  | [] => (r.root.insertUnder r.header r.path v).map fun root =>
    { r with root := root, place := .lineEnd }
  | .list items :: outer => some { r with stack := .list (v :: items) :: outer, place := .itemEnd }
  | .table fields path :: outer =>
    (fields.insert path v .stated).map fun fields =>
      { r with stack := .table fields [] :: outer, place := .fieldEnd }

/-- Ends the innermost list or table. -/
def close? (r : Reader) : Option Reader :=
  match r.stack with
  | [] => none
  | .list items :: outer => { r with stack := outer }.complete? (.list items.reverse)
  | .table fields _ :: outer => { r with stack := outer }.complete? (.table .braces fields)

/-- Begins a list or a table. -/
def enter? (r : Reader) (f : Frame) (place : Place) : Option Reader :=
  if r.stack.length < depthLimit then some { r with stack := f :: r.stack, place := place }
  else none

def wordValue? (word : List Char) : Option Value :=
  if word == ['t', 'r', 'u', 'e'] then some (.truth true)
  else if word == ['f', 'a', 'l', 's', 'e'] then some (.truth false)
  else if isMoment word then some .moment
  else match whole? word with
    | some (isNegative, n) => some (.whole isNegative n)
    | none => if isFraction word then some .fraction else none

/-- A value that holds no others, and its length. -/
def scalar? (cs : List Char) : Option (Value × Nat) :=
  match cs with
  | '"' :: _ => (text? cs).map fun t => (.text (String.ofList t.1), t.2)
  | '\'' :: _ => (text? cs).map fun t => (.text (String.ofList t.1), t.2)
  | _ =>
    let word := wordOf cs
    (wordValue? word).map fun v => (v, word.length)

/-- A character of names without quotation marks. -/
def isBareChar (c : Char) : Bool := c.isAlphanum || c == '_' || c == '-'

def namePart? (cs : List Char) : Option (String × Nat) :=
  match cs with
  | '"' :: _ => (shortText? cs).map fun t => (String.ofList t.1, t.2)
  | '\'' :: _ => (shortText? cs).map fun t => (String.ofList t.1, t.2)
  | _ =>
    let word := cs.takeWhile isBareChar
    if word.isEmpty then none else some (String.ofList word, word.length)

def name? (r : Reader) (kind : NameKind) (parts : List String) (cs : List Char) :
    Option (Reader × Nat) :=
  if parts.length < depthLimit then
    (namePart? cs).map fun p => ({ r with place := .nameEnd kind (p.1 :: parts) }, p.2)
  else none

/-- The sign behind the name of a field in braces. -/
def sign? (r : Reader) (path : List String) (cs : List Char) : Option (Reader × Nat) :=
  match r.stack, cs with
  | .table fields _ :: outer, '=' :: _ =>
    some ({ r with stack := .table fields path :: outer, place := .value }, 1)
  | _, _ => none

def nameEnd? (r : Reader) (kind : NameKind) (parts : List String) (cs : List Char) :
    Option (Reader × Nat) :=
  let path := parts.reverse
  match kind, cs with
  | _, '.' :: _ => some ({ r with place := .name kind parts }, 1)
  | .line, '=' :: _ => some ({ r with path := path, place := .value }, 1)
  | .field, cs => r.sign? path cs
  | .header, ']' :: _ => (r.root.openTable path).map fun root =>
    ({ r with root := root, header := path, place := .lineEnd }, 1)
  | .element, ']' :: ']' :: _ => (r.root.openElement path).map fun root =>
    ({ r with root := root, header := path, place := .lineEnd }, 2)
  | _, _ => none

def value? (r : Reader) (cs : List Char) : Option (Reader × Nat) :=
  match cs with
  | '[' :: _ => (r.enter? (.list []) .item).map (·, 1)
  | '{' :: _ => (r.enter? (.table [] []) .field).map (·, 1)
  | _ => do
    let (v, length) ← scalar? cs
    let r ← r.complete? v
    return (r, length)

/-- One step at a character that is no blank. -/
def mark? (r : Reader) (cs : List Char) : Option (Reader × Nat) :=
  match r.place, cs with
  | .line, '[' :: '[' :: _ => some ({ r with place := .name .element [] }, 2)
  | .line, '[' :: _ => some ({ r with place := .name .header [] }, 1)
  | .line, cs => r.name? .line [] cs
  | .lineEnd, _ => none
  | .name kind parts, cs => r.name? kind parts cs
  | .nameEnd kind parts, cs => r.nameEnd? kind parts cs
  | .sign path, cs => r.sign? path cs
  | .value, cs => r.value? cs
  | .item, ']' :: _ => r.close?.map (·, 1)
  | .item, cs => r.value? cs
  | .itemEnd, ',' :: _ => some ({ r with place := .item }, 1)
  | .itemEnd, ']' :: _ => r.close?.map (·, 1)
  | .itemEnd, _ => none
  | .field, '}' :: _ => r.close?.map (·, 1)
  | .field, cs => r.name? .field [] cs
  | .fieldEnd, ',' :: _ => some ({ r with place := .field }, 1)
  | .fieldEnd, '}' :: _ => r.close?.map (·, 1)
  | .fieldEnd, _ => none

/-- A line may end here. -/
def allowsBreak (r : Reader) : Bool := r.place.allowsBreak (!r.stack.isEmpty)

/-- One step: what is read behind it, and how many characters it took. -/
def step? (r : Reader) (cs : List Char) : Option (Reader × Nat) :=
  match cs with
  | [] => none
  | c :: _ =>
    if isSpace c then some (r, 1)
    else if lineBreak cs > 0 then
      if r.allowsBreak then some ({ r with place := r.place.behindBreak }, lineBreak cs)
      else none
    else if c == '#' then
      let comment := cs.takeWhile isPrintable
      let ends := (cs.drop comment.length).isEmpty || lineBreak (cs.drop comment.length) > 0
      if r.allowsBreak && ends then some (r, comment.length) else none
    else r.mark? cs

/-- Reads a text. The last step also took the first `skip` characters. -/
def run? (r : Reader) (skip : Nat) : List Char → Option Fields
  | [] =>
    match r.place with
    | .line => some r.root
    | .lineEnd => some r.root
    | _ => none
  | c :: cs =>
    match skip with
    | k + 1 => run? r k cs
    | 0 =>
      match r.step? (c :: cs) with
      | some (r, taken) => run? r (taken - 1) cs
      | none => none

end Reader

def parse? (s : String) : Option Fields :=
  let cs := match s.toList with
    | [] => []
    | c :: cs => if c.toNat == 0xfeff then cs else c :: cs
  Reader.run? {} 0 cs

end ClientGen.Data.Toml
