import ClientGen.Text.CaseTable

/-!
Lower and upper case of any text. ASCII letters are mapped by rule and all others by table; a
character may map to several, and a capital sigma that ends a word takes its final form.
-/

namespace ClientGen.Text

/-- A code point lies in one of the ranges. -/
def inRanges (ranges : List (Nat × Nat)) (n : Nat) : Bool :=
  ranges.any fun r => r.1 ≤ n && n ≤ r.2

/-- The image of a code point under the first mapping range that holds it. -/
def shifted? : List (Nat × Nat × Nat × Nat) → Nat → Option Nat
  | [], _ => none
  | (first, last, step, target) :: rest, n =>
    if first ≤ n && n ≤ last && (n - first) % step == 0 then some (n - first + target)
    else shifted? rest n

def expansion? : List (Nat × List Nat) → Nat → Option (List Nat)
  | [], _ => none
  | (m, image) :: rest, n => if m == n then some image else expansion? rest n

/-- The lower case of one character, taken out of context. -/
def lowerChar (c : Char) : List Char :=
  if c.toNat < 128 then [c.toLower]
  else match shifted? CaseTable.lowering c.toNat with
    | some n => [Char.ofNat n]
    | none =>
      match expansion? CaseTable.loweringExpansions c.toNat with
      | some image => image.map Char.ofNat
      | none => [c]

def upperChar (c : Char) : List Char :=
  if c.toNat < 128 then [c.toUpper]
  else match shifted? CaseTable.raising c.toNat with
    | some n => [Char.ofNat n]
    | none =>
      match expansion? CaseTable.raisingExpansions c.toNat with
      | some image => image.map Char.ofNat
      | none => [c]

/-- A capital: it has a lower case, or is listed as one without. -/
def isUpperChar (c : Char) : Bool :=
  (lowerChar c != [c] && upperChar c == [c]) || inRanges CaseTable.loneCapitals c.toNat

/-- A small letter: one that has a case, and is neither a capital nor between the two. -/
def isLowerChar (c : Char) : Bool :=
  (if c.toNat < 128 then c.isAlpha else inRanges CaseTable.cased c.toNat)
    && lowerChar c == [c] && !isUpperChar c

/-- The first character that case rules do not skip is a cased one. -/
def meetsCased (cs : List Char) : Bool :=
  match cs.dropWhile fun c => inRanges CaseTable.ignorable c.toNat with
  | [] => false
  | c :: _ => inRanges CaseTable.cased c.toNat

/-- Lower case of `cs`, where `seen` holds the characters before it, nearest first. -/
def lowerFrom (seen : List Char) : List Char → List Char
  | [] => []
  | c :: cs =>
    (if c == 'Σ' then [if meetsCased seen && !meetsCased cs then 'ς' else 'σ'] else lowerChar c)
      ++ lowerFrom (c :: seen) cs

def lower (s : String) : String :=
  String.ofList (lowerFrom [] s.toList)

def upper (s : String) : String :=
  String.ofList (s.toList.flatMap upperChar)

def upperFirst (s : String) : String :=
  match s.toList with
  | [] => ""
  | c :: cs => String.ofList (upperChar c ++ cs)

def lowerFirst (s : String) : String :=
  match s.toList with
  | [] => ""
  | c :: cs => String.ofList (lowerChar c ++ cs)

end ClientGen.Text
