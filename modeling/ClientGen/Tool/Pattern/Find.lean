import ClientGen.Tool.Pattern.Basic

/-!
Finding patterns. Of all places at which a pattern fits, the first one counts, and there the longest
fit. Where a fit can be parted among the parts of a pattern in several ways, each part, from left to
right, is as long as it can be.

For most patterns it is enough to know at which places a fit can end, which are found for one part
after the other. What was found for a group has to be known only where a pattern asks for it again.
-/

namespace ClientGen.Pattern

/-- A text in which patterns are looked for. -/
structure Subject where
  chars : Array Char
  ignoresCase : Bool := false
  /-- Every line has a beginning and an end, and its end is none of the characters that are meant
  when others are excluded. -/
  byLine : Bool := false

namespace Subject

variable (s : Subject)

/-- The character at a place is in the ranges, or not. -/
def accepts (ranges : List (Char × Char)) (isNegated : Bool) (c : Char) : Bool :=
  let isIn (c : Char) : Bool := ranges.any (inRange c)
  (isIn c || (s.ignoresCase && (isIn c.toLower || isIn c.toUpper))) != isNegated
    && !(isNegated && s.byLine && c == '\n')

/-- The character before a place is one of a word. -/
def isWordBefore (i : Nat) : Bool :=
  i > 0 && ((s.chars[i - 1]?).map isWordChar).getD false

/-- The character behind a place is one of a word. -/
def isWordBehind (i : Nat) : Bool := ((s.chars[i]?).map isWordChar).getD false

def hasEdge (i : Nat) : Edge → Bool
  | .lineStart => i == 0 || (s.byLine && s.chars[i - 1]? == some '\n')
  | .lineStop => i == s.chars.size || (s.byLine && s.chars[i]? == some '\n')
  | .textStart => i == 0
  | .textStop => i == s.chars.size
  | .word => s.isWordBefore i != s.isWordBehind i
  | .notWord => s.isWordBefore i == s.isWordBehind i
  | .wordStart => !s.isWordBefore i && s.isWordBehind i
  | .wordStop => s.isWordBefore i && !s.isWordBehind i
  | .noWordBefore => !s.isWordBefore i
  | .noWordBehind => !s.isWordBehind i

end Subject

/-- Places from the last one to the first one, each once. -/
def descending (places : List Nat) : List Nat :=
  match places with
  | [] => []
  | [i] => [i]
  | places => (places.mergeSort fun i j => j ≤ i).eraseReps

/-- The places that one of some places leads to. -/
def stepAll (step : Nat → List Nat) (places : List Nat) : List Nat :=
  descending (places.flatMap step)

def stepTimes (step : Nat → List Nat) : Nat → List Nat → List Nat
  | 0, places => places
  | n + 1, places => if places.isEmpty then [] else stepTimes step n (stepAll step places)

/-- The places that are reached from some by any number of steps, at most `n`. -/
def stepOn (step : Nat → List Nat) : Nat → List Nat → List Nat → List Nat
  | 0, _, found => found
  | n + 1, last, found =>
    match (stepAll step last).filter fun i => !found.contains i with
    | [] => found
    | new => stepOn step n new (new ++ found)

def stepRepeatedly (size : Nat) (step : Nat → List Nat) (least : Nat) (most? : Option Nat)
    (i : Nat) :
    List Nat :=
  let first := stepTimes step least [i]
  let more := match most? with
    | some most => min (most - least) (size + 1)
    | none => size + 1
  descending (stepOn step more first first)

/-- How many characters there are from a place on that fit, at most `n`. -/
def countFrom (fits : Char → Bool) (chars : Array Char) : Nat → Nat → Nat
  | 0, _ => 0
  | n + 1, i =>
    match chars[i]? with
    | some c => if fits c then countFrom fits chars n (i + 1) + 1 else 0
    | none => 0

/-- The places behind repetitions of a character, from the last one to the first one. -/
def runEnds (fits : Char → Bool) (chars : Array Char) (least : Nat) (most? : Option Nat) (i : Nat) :
    List Nat :=
  let n := countFrom fits chars (most?.getD (chars.size + 1)) i
  ((List.range (n + 1 - least)).map fun k => i + least + k).reverse

/-- The places at which fits from a place on can end, from the last one to the first one. -/
def ends (s : Subject) : Pattern → Nat → List Nat
  | .nothing, i => [i]
  | .any, i =>
    match s.chars[i]? with
    | some c => if s.accepts [] true c then [i + 1] else []
    | none => []
  | .among ranges isNegated, i =>
    match s.chars[i]? with
    | some c => if s.accepts ranges isNegated c then [i + 1] else []
    | none => []
  | .edge e, i => if s.hasEdge i e then [i] else []
  | .sequence p q, i => stepAll (ends s q) (ends s p i)
  | .choice p q, i => descending (ends s p i ++ ends s q i)
  | .group _ p, i => ends s p i
  | .again _, _ => []
  | .repeated .any least most?, i => runEnds (s.accepts [] true) s.chars least most? i
  | .repeated (.among ranges isNegated) least most?, i =>
    runEnds (s.accepts ranges isNegated) s.chars least most? i
  | .repeated p least most?, i => stepRepeatedly s.chars.size (ends s p) least most? i

/-- A group with where it was found. -/
abbrev Found := Nat × Nat × Nat

/-- The groups in repetitions between two places, of which each is as long as it can be. The first
argument bounds the number of repetitions. -/
def repeatedGroups (step : Nat → List Nat)
    (rest : (least : Nat) → (most? : Option Nat) → Nat → List Nat)
    (groups : Nat → Nat → List Found) (stop : Nat) :
    Nat → Nat → Option Nat → Nat → List Found
  | 0, _, _, _ => []
  | n + 1, least, most?, i =>
    if least == 0 && i == stop then []
    else
      let more? := most?.map (· - 1)
      match (step i).find? fun j =>
          (j > i || least > 0) && (rest (least - 1) more? j).contains stop with
      | some j => groups i j ++ repeatedGroups step rest groups stop n (least - 1) more? j
      | none => []

/-- The groups of a fit between two places. Of those with one number, the last one counts. -/
def groupsBetween (s : Subject) : Pattern → Nat → Nat → List Found
  | .sequence p q, i, j =>
    match (ends s p i).find? fun m => (ends s q m).contains j with
    | some m => groupsBetween s p i m ++ groupsBetween s q m j
    | none => []
  | .choice p q, i, j =>
    if (ends s p i).contains j then groupsBetween s p i j else groupsBetween s q i j
  | .group n p, i, j => (n, i, j) :: groupsBetween s p i j
  | .repeated p least most?, i, j =>
    repeatedGroups (ends s p) (fun least most? => ends s (.repeated p least most?))
      (groupsBetween s p) j (s.chars.size + least + 1) least most? i
  | _, _, _ => []

/-- A place with the groups that were found before it, the last one first. -/
abbrev Reached := Nat × List Found

/-- All ways on by repetitions, the longest ones first. -/
def reachRepeatedly (step : Reached → List Reached) :
    Nat → Nat → Option Nat → Reached → List Reached
  | 0, least, _, r => if least == 0 then [r] else []
  | n + 1, least, most?, r =>
    if most? == some 0 then [r]
    else
      let next := (step r).filter fun q => q.1 > r.1 || least > 0
      (next.flatMap (reachRepeatedly step n (least - 1) (most?.map (· - 1))))
        ++ if least == 0 then [r] else []

/-- All ways in which a fit can go on, those first that take more for the parts to the left. -/
def reach (s : Subject) : Pattern → Reached → List Reached
  | .sequence p q, r => (reach s p r).flatMap (reach s q)
  | .choice p q, r => reach s p r ++ reach s q r
  | .group n p, (i, found) => (reach s p (i, found)).map fun (j, more) => (j, (n, i, j) :: more)
  | .again n, (i, found) =>
    match found.lookup n with
    | none => []
    | some (start, stop) =>
      let size := stop - start
      let same := (List.range size).all fun k =>
        match s.chars[start + k]?, s.chars[i + k]? with
        | some c, some d => c == d || (s.ignoresCase && c.toLower == d.toLower)
        | _, _ => false
      if same then [(i + size, found)] else []
  | .repeated p least most?, r =>
    reachRepeatedly (reach s p) (s.chars.size + least + 1) least most? r
  | p, (i, found) => (ends s p i).map fun j => (j, found)

/-- A fit: where it begins and ends, and its groups. -/
structure Fit where
  start : Nat
  stop : Nat
  groups : List Found

/-- The longest fit at a place. -/
def fitAt? (s : Subject) (p : Pattern) (i : Nat) : Option Fit :=
  if p.hasAgain then
    match reach s p (i, []) with
    | [] => none
    | r :: rs =>
      let best := rs.foldl (fun best r => if best.1 < r.1 then r else best) r
      some ⟨i, best.1, best.2⟩
  else (ends s p i).head?.map fun j => ⟨i, j, (groupsBetween s p i j).reverse⟩

/-- The first fit at one of `n` places from one on. -/
def findWithin? (s : Subject) (p : Pattern) : Nat → Nat → Option Fit
  | 0, _ => none
  | n + 1, i =>
    match fitAt? s p i with
    | some fit => some fit
    | none => findWithin? s p n (i + 1)

/-- The first fit from a place on. -/
def find? (s : Subject) (p : Pattern) (i : Nat) : Option Fit :=
  findWithin? s p (s.chars.size + 1 - i) i

/-- What was found for a group, and all that was found for number zero. -/
def Fit.group (fit : Fit) (s : Subject) (n : Nat) : List Char :=
  let (start, stop) := if n == 0 then (fit.start, fit.stop) else (fit.groups.lookup n).getD (0, 0)
  (s.chars.extract start stop).toList

end ClientGen.Pattern
