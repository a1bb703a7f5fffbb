import ClientGen.Tool.Pattern.Read
import ClientGen.Tool.Option

/-!
Exchanging bytes one by one: each byte of one set is replaced by its partner in another set, or is
left out, and runs of one byte may be squeezed to a single one.
-/

namespace ClientGen.Tool

def isOctal (c : Char) : Bool := 48 ≤ c.toNat && c.toNat ≤ 55

/-- The value of up to three octal digits at the front, and what is behind them. A value that is too
large takes only two. -/
def octalAtFront (cs : List Char) : Nat × List Char :=
  let value (digits : List Char) : Nat := digits.foldl (fun n c => n * 8 + (c.toNat - 48)) 0
  let digits := (cs.take 3).takeWhile isOctal
  let digits := if value digits < 256 then digits else digits.take 2
  (value digits, cs.drop digits.length)

/-- The character that a letter behind a backslash stands for. -/
def escaped? (c : Char) : Option Char :=
  [('n', '\n'), ('t', '\t'), ('r', '\r'), ('\\', '\\'), ('a', '\x07'), ('b', '\x08'), ('f', '\x0c'),
    ('v', '\x0b')].lookup c

inductive SetPart where
  | bytes (cs : List Char)
  | named (name : String) (cs : List Char)
  | equal (c : Char)
  /-- A byte a number of times, or as often as it takes. -/
  | fill (c : Char) (count? : Option Nat)

/-- The characters of a set, each with whether it is written behind a backslash. -/
def unescapeSet : List Char → List (Char × Bool)
  | [] => []
  | ['\\'] => [('\\', false)]
  | '\\' :: c :: cs =>
    match escaped? c with
    | some e => (e, true) :: unescapeSet cs
    | none =>
      if isOctal c then
        let (n, rest) := octalAtFront (c :: cs)
        (Char.ofNat n, true) :: (unescapeSet cs).drop (cs.length - rest.length)
      else (c, true) :: unescapeSet cs
  | c :: cs => (c, false) :: unescapeSet cs

/-- A bare number, in octal digits if the first one is zero. -/
def repeatCount? (cs : List Char) : Option (Option Nat) :=
  match cs with
  | [] => some none
  | '0' :: rest =>
    if rest.all isOctal then
      let n := rest.foldl (fun n c => n * 8 + (c.toNat - 48)) 0
      some (if n == 0 then none else some n)
    else none
  | cs => (String.ofList cs).toNat?.map some

/-- What stands between two marks and a closing bracket, and what is behind it. -/
def markedAtFront? (mark : Char) : List (Char × Bool) → Option (List Char × List (Char × Bool))
  | (c, false) :: (']', false) :: rest =>
    if c == mark then some ([], rest)
    else (markedAtFront? mark ((']', false) :: rest)).map fun r => (c :: r.1, r.2)
  | (c, _) :: rest => (markedAtFront? mark rest).map fun r => (c :: r.1, r.2)
  | [] => none

def rangeBytes (ranges : List (Char × Char)) : List Char :=
  ranges.flatMap fun (first, last) =>
    (List.range (last.toNat + 1 - first.toNat)).map fun n => Char.ofNat (first.toNat + n)

/-- The part that begins with a bracket, and what is behind it, if there is one. -/
def bracketPart? : List (Char × Bool) → Except String (Option (SetPart × List (Char × Bool)))
  | (':', false) :: cs =>
    match markedAtFront? ':' cs with
    | some ([], _) => .error "missing character class name '[::]'"
    | some (name, rest) =>
      let name := String.ofList name
      match namedClass? name with
      | some ranges => .ok (some (.named name (rangeBytes ranges), rest))
      | none => .error ("invalid character class '" ++ name ++ "'")
    | none => .ok none
  | ('=', false) :: cs =>
    match markedAtFront? '=' cs with
    | some ([], _) => .error "missing equivalence class character '[==]'"
    | some ([c], rest) => .ok (some (.equal c, rest))
    | some (name, _) =>
      .error (String.ofList name ++ ": equivalence class operand must be a single character")
    | none => .ok none
  | (c, _) :: ('*', false) :: cs =>
    let digits := cs.takeWhile fun d => d.1 != ']' && !d.2
    match cs.drop digits.length with
    | (']', false) :: rest =>
      let digits := digits.map Prod.fst
      match repeatCount? digits with
      | some count? => .ok (some (.fill c count?, rest))
      | none =>
        .error ("invalid repeat count '" ++ String.ofList digits ++ "' in [c*n] construct")
    | _ => .ok none
  | _ => .ok none

/-- The parts of a set. The first argument bounds their number. -/
def setParts : Nat → List (Char × Bool) → Except String (List SetPart)
  | 0, _ => .ok []
  | _, [] => .ok []
  | n + 1, (c, isEscaped) :: cs => do
    let part? ← if c == '[' && !isEscaped then bracketPart? cs else pure none
    match part? with
    | some (part, rest) => return part :: (← setParts n rest)
    | none =>
      match cs with
      | ('-', false) :: (last, _) :: rest =>
        if c.toNat ≤ last.toNat then return .bytes (rangeBytes [(c, last)]) :: (← setParts n rest)
        else
          throw ("range-endpoints of '" ++ c.toString ++ "-" ++ last.toString
            ++ "' are in reverse collating sequence order")
      | cs => return .bytes [c] :: (← setParts n cs)

/-- The bytes of a part, of which one that fills up takes a number of bytes. -/
def SetPart.expand (room : Nat) : SetPart → List Char
  | .bytes cs => cs
  | .named _ cs => cs
  | .equal c => [c]
  | .fill c count? => List.replicate (count?.getD room) c

/-- The bytes of parts, which fill up a number of places if they can. -/
def expandParts (length : Nat) (parts : List SetPart) : List Char :=
  let fixed := parts.foldl (fun n p => n + (p.expand 0).length) 0
  parts.flatMap (SetPart.expand (length - fixed))

/-- All bytes that are not in a set, in order. -/
def complement (set : List Char) : List Char :=
  ((List.range 256).map Char.ofNat).filter fun c => !set.contains c

/-- Partners for the bytes of a set. The last one stands for all that are missing. -/
def partners (set targets : List Char) : List (Char × Char) :=
  match targets.getLast? with
  | some last => set.zip (targets ++ List.replicate (set.length - targets.length) last)
  | none => []

def squeeze (set input : List Char) : List Char :=
  input.foldr (fun c rest =>
    if set.contains c && rest.head? == some c then rest else c :: rest) []

def exchangeOptions : OptionTable where
  name := "tr"
  letters := "cCdst".toList.map fun c => (c, .none)
  words := [("complement", "c", .none), ("delete", "d", .none), ("squeeze-repeats", "s", .none),
    ("truncate-set1", "t", .none)]
  mixes := false

/-- The class of letters in one case, and where it begins in a set. -/
def casesIn (parts : List SetPart) : List Nat :=
  (parts.foldl (fun (state : List Nat × Nat) part =>
    let (found, start) := state
    let isCase := match part with
      | .named name _ => name == "upper" || name == "lower"
      | _ => false
    (if isCase then start :: found else found, start + (part.expand 0).length)) ([], 0)).1

/-- What is wrong with parts that are exchanged for others. -/
def exchangeFault? (isComplement : Bool) (set targets : List SetPart) : Option String :=
  if targets.any fun p => p matches .equal _ then
    some "[=c=] expressions may not appear in string2 when translating"
  else if targets.any fun p => match p with
      | .named name _ => name != "upper" && name != "lower"
      | _ => false then
    some ("when translating, the only character classes that may appear in\n"
      ++ "string2 are 'upper' and 'lower'")
  else if (casesIn targets).any fun start => !(casesIn set).contains start then
    some "misaligned [:upper:] and/or [:lower:] construct"
  else if isComplement && set.any (fun p => p matches .named _ _) &&
      ((expandParts 0 targets).eraseDups).length > 1 then
    some ("when translating with complemented character classes,\n"
      ++ "string2 must map all characters in the domain to one")
  else none

def exchangeBytes (o : Options) (operands : List String) :
    Except String (List Char → List Char) := do
  let isComplement := o.has "c" || o.has "C"
  let remark := fun what => exchangeOptions.remark what
  let parts (s : String) : Except String (List SetPart) :=
    (setParts (s.length + 1) (unescapeSet s.toList)).mapError remark
  let setParts ← parts (operands.headD "")
  if setParts.any fun p => p matches .fill _ none then
    throw (remark "the [c*] repeat construct may not appear in string1")
  let set := expandParts 0 setParts
  let set := if isComplement then complement set else set
  match operands.tail with
  | [] =>
    return fun input => if o.has "d" then input.filter fun c => !set.contains c
      else squeeze set input
  | second :: _ =>
    let targetParts ← parts second
    if (targetParts.filter fun p => p matches .fill _ none).length > 1 then
      throw (remark "only one [c*] repeat construct may appear in string2")
    let targets := expandParts set.length targetParts
    if o.has "d" then
      return fun input => squeeze targets (input.filter fun c => !set.contains c)
    match exchangeFault? isComplement setParts targetParts with
    | some fault => throw (remark fault)
    | none =>
      if targets.isEmpty && !o.has "t" then
        throw (remark "when not truncating set1, string2 must be non-empty")
      let table := (partners (if o.has "t" then set.take targets.length else set) targets).reverse
      let exchange (c : Char) : Char := (table.lookup c).getD c
      return fun input =>
        let exchanged := input.map exchange
        if o.has "s" then squeeze targets exchanged else exchanged

/-- What is wrong with the number of operands: there are as many as the options ask for, two, or one
if bytes are either left out or squeezed. -/
def operandFault? (deletes squeezes : Bool) : List String → Option String
  | [] => some "missing operand"
  | [set] =>
    if deletes != squeezes then none
    else
      some ("missing operand after '" ++ set ++ "'\nTwo strings must be given when "
        ++ if squeezes then "both deleting and squeezing repeats." else "translating.")
  | [_, targets] =>
    if deletes && !squeezes then
      some ("extra operand '" ++ targets
        ++ "'\nOnly one string may be given when deleting without squeezing repeats.")
    else none
  | _ :: second :: third :: _ =>
    some ("extra operand '" ++ (if deletes && !squeezes then second else third) ++ "'")

def exchange : Tool := exchangeOptions.program 1 fun o => do
  match operandFault? (o.has "d") (o.has "s") o.operands with
  | some fault => Work.fail 1 (exchangeOptions.complaint fault)
  | none =>
    match exchangeBytes o o.operands with
    | .ok f =>
      Work.print (f (← Work.readAll 0))
      return .code 0
    | .error complaint => Work.fail 1 complaint

end ClientGen.Tool
