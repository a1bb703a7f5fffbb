import ClientGen.Tool.Show

/-!
Counting what is read, and numbering its lines.
-/

namespace ClientGen.Tool

/-- What can be counted. -/
structure Counts where
  lines : Nat := 0
  words : Nat := 0
  bytes : Nat := 0
  longest : Nat := 0

namespace Counts

def of (cs : List Char) : Counts :=
  let (words, _) := cs.foldl (fun (state : Nat × Bool) c =>
    let (n, isInside) := state
    if c == ' ' || ('\t'.toNat ≤ c.toNat && c.toNat ≤ '\r'.toNat) then (n, false)
    else if 32 < c.toNat && c.toNat < 127 then (if isInside then n else n + 1, true)
    else (n, isInside)) (0, false)
  { lines := cs.count '\n'
    words
    bytes := cs.length
    longest := ((bareLines '\n' cs).map List.length).foldl max 0 }

def plus (a b : Counts) : Counts :=
  ⟨a.lines + b.lines, a.words + b.words, a.bytes + b.bytes, max a.longest b.longest⟩

def wanted (o : Options) (c : Counts) : List Nat :=
  let has := ["l", "w", "c", "m", "L"].any o.has
  (if o.has "l" || !has then [c.lines] else [])
    ++ (if o.has "w" || !has then [c.words] else [])
    ++ (if o.has "m" then [c.bytes] else [])
    ++ (if o.has "c" || !has then [c.bytes] else [])
    ++ if o.has "L" then [c.longest] else []

def line (o : Options) (width : Nat) (title : String) (c : Counts) : List Char :=
  ([' '].intercalate ((c.wanted o).map fun n => alignRight width (toString n).toList))
    ++ (if title.isEmpty then [] else ' ' :: title.toList) ++ ['\n']

end Counts

def countOptions : OptionTable where
  name := "wc"
  letters := "lwcmL".toList.map fun c => (c, .none)
  words := [("bytes", "c", .none), ("chars", "m", .none), ("lines", "l", .none),
    ("words", "w", .none), ("max-line-length", "L", .none)]

/-- How wide the counts of some inputs are. Counts of what is no file need more room. -/
def countWidth (o : Options) (isFile : Bool) (sizes : List Nat) : Nat :=
  if sizes.length == 1 && (({} : Counts).wanted o).length == 1 then 1
  else max (if isFile then 1 else 7) (toString (sizes.foldl (· + ·) 0)).length

def count : Tool := countOptions.program 1 fun o => do
  let isFromFile := match (← get).stream? 0 with
    | some (_, .file ..) => true
    | _ => false
  let (found, complete) ← Work.readOperands ("wc: " ++ ·) o.operands
  let isFile := isFromFile || !(o.operands.isEmpty || o.operands.contains "-")
  let width := countWidth o isFile (found.map fun f => f.2.length)
  let mut total : Counts := {}
  for (title, cs) in found do
    let counts := Counts.of cs
    total := total.plus counts
    Work.print (counts.line o width (if o.operands.isEmpty then "" else title))
  if o.operands.length > 1 then Work.print (total.line o width "total")
  return .code (if complete then 0 else 1)

/-! ### Numbers before lines -/

def numberOptions : OptionTable where
  name := "nl"
  letters := ("bwsvindfhl".toList.map fun c => (c, .needed))
    ++ [('p', .none)]
  words := [("body-numbering", "b", .needed), ("number-width", "w", .needed),
    ("number-separator", "s", .needed), ("starting-line-number", "v", .needed),
    ("line-increment", "i", .needed), ("number-format", "n", .needed)]

def numberLines (isCounted : List Char → Bool) (place : Nat → List Char) (blank : List Char)
    (step : Nat) : Nat → List (List Char) → List Char
  | _, [] => []
  | n, line :: rest =>
    if isCounted line then
      place n ++ line ++ '\n' :: numberLines isCounted place blank step (n + step) rest
    else blank ++ line ++ '\n' :: numberLines isCounted place blank step n rest

def number : Tool := numberOptions.program 1 fun o => do
  let natOf (name : String) (default : Nat) : Nat :=
    ((o.value? name).bind String.toNat?).getD default
  let width := natOf "w" 6
  let separator := ((o.value? "s").getD "\t").toList
  let place (n : Nat) : List Char :=
    let digits := (toString n).toList
    (match o.value? "n" with
      | some "ln" => digits ++ List.replicate (width - digits.length) ' '
      | some "rz" => List.replicate (width - digits.length) '0' ++ digits
      | _ => alignRight width digits) ++ separator
  let isCounted (line : List Char) : Bool := match o.value? "b" with
    | some "a" => true
    | some "n" => false
    | _ => !line.isEmpty
  let blank := List.replicate (width + separator.length) ' '
  Work.overOperands ("nl: " ++ ·) o.operands fun cs =>
    numberLines isCounted place blank (natOf "i" 1) (natOf "v" 1) (bareLines '\n' cs)

end ClientGen.Tool
