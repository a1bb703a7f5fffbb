import ClientGen.Template.Argument
import ClientGen.Text.Case
import ClientGen.Text.Cut

/-!
Filters on lists, maps and other values with elements.
-/

namespace ClientGen.Template

/-! ### One element -/

/-- The first element: a character, an item or a key. -/
def applyFirst (args : Arguments) : Result := do
  let v ← args.value 0
  args.noMore 1
  match v, v.elements? with
  | .undefined, _ | .absent, _ | .none, _ | _, none => throw .invalidOperation
  | _, some vs => return vs.head?.getD .undefined

/-- The last element: a character or an item. -/
def applyLast (args : Arguments) : Result := do
  let v ← args.value 0
  args.noMore 1
  match v.text?, v.items? with
  | some s, _ => return (Value.ofChars s).getLast?.getD .undefined
  | none, some items => return items.getLast?.getD .undefined
  | none, none => throw .invalidOperation

/-- The element that no other one comes before in an order, the first of several. -/
def leastBy (order : Value → Value → Ordering) : List Value → Option Value
  | [] => none
  | v :: vs => some (vs.foldl (fun best w => if order w best == .lt then w else best) v)

def applyMin (args : Arguments) : Result := do
  let vs ← args.elements 0
  args.noMore 1
  return (leastBy Value.order vs).getD .undefined

/-- The greatest element, the last of several. -/
def applyMax (args : Arguments) : Result := do
  let vs ← args.elements 0
  args.noMore 1
  return (leastBy (fun v w => w.order v) vs.reverse).getD .undefined

def applyLength (args : Arguments) : Result := do
  let v ← args.value 0
  args.noMore 1
  match v.length? with
  | some n => return .int n
  | none => throw .invalidOperation

def applyAttr (args : Arguments) : Result := do
  let v ← args.value 0
  let key ← args.value 1
  args.noMore 2
  match v with
  | .undefined => throw .undefined
  | v => return (v.item? key).getD .undefined

def applySum (args : Arguments) : Result := do
  let vs ← args.knownElements 0
  args.noMore 1
  vs.foldlM (fun sum v =>
    match v with
    | .undefined | .absent => throw .undefined
    | .int _ | .float _ => plus sum v
    | _ => throw .invalidOperation) (.int 0)

/-! ### The elements in another order, or fewer of them -/

/-- The elements from the last one to the first one. -/
def applyReverse (args : Arguments) : Result := do
  let v ← args.value 0
  args.noMore 1
  match v with
  | .undefined | .absent | .none => return v
  | .text s => return .text (String.ofList s.toList.reverse)
  | .safe s => return .safe (String.ofList s.toList.reverse)
  | v =>
    match v.elements? with
    | some vs => return .series vs.reverse true
    | none => throw .invalidOperation

def applyList (args : Arguments) : Result := do
  let vs ← args.elements 0
  args.noMore 1
  return .list vs

/-- The order that puts last what another one puts first, if that is asked for. -/
def ordered {α : Type} (reverse : Bool) (order : α → α → Ordering) (a b : α) : Ordering :=
  if reverse then order b a else order a b

/-- How two values are ordered by what is behind paths into them, the first path that tells. Only
with one path texts may be without regard to case. -/
def byPaths (caseSensitive : Bool) : List String → Value → Value → Ordering
  | [path], v, w => listed caseSensitive (v.behindOr path .undefined) (w.behindOr path .undefined)
  | paths, v, w =>
    paths.foldl (fun found path =>
      found.then ((v.behindOr path .undefined).order (w.behindOr path .undefined))) .eq

def applySort (args : Arguments) : Result := do
  let (args, fields) := args.split
  let vs ← args.elements 0
  args.noMore 1
  let caseSensitive := (← Arguments.namedAs Arguments.asBool fields "case_sensitive").getD false
  let path? ← Arguments.namedAs Arguments.asText fields "attribute"
  let order := match path? with
    | some path => byPaths caseSensitive ((path.splitOn ",").map Text.trim)
    | none => listed caseSensitive
  let reverse := (← Arguments.namedAs Arguments.asBool fields "reverse").getD false
  Arguments.onlyNamed fields ["case_sensitive", "attribute", "reverse"]
  return .list (sortBy (ordered reverse order) vs)

/-- The elements that are not equal to one before them. -/
def distinct (key : Value → Value) (vs : List Value) : List Value :=
  (vs.foldl (fun (done : List Value × List Value) v =>
    let k := key v
    if done.2.any fun l => l.order k == .eq then done else (v :: done.1, k :: done.2))
    ([], [])).1.reverse

/-- The elements without those that there are already. Texts may differ by case. -/
def applyUnique (args : Arguments) : Result := do
  let (args, fields) := args.split
  let v ← args.value 0
  args.noMore 1
  let path? ← Arguments.namedAs Arguments.asText fields "attribute"
  let caseSensitive := (← Arguments.namedAs Arguments.asBool fields "case_sensitive").getD false
  Arguments.onlyNamed fields ["case_sensitive", "attribute"]
  let vs ← Arguments.elementsOf v .undefined
  let key (v : Value) : Value :=
    let v := match path? with
      | some path => v.behindOr path .undefined
      | none => v
    match v.text? with
    | some s => if caseSensitive then v else .text (Text.lower s)
    | none => v
  return .list (distinct key vs)

/-! ### Lists of lists -/

/-- The items in pieces of a positive length, of which only the last one may be shorter. -/
def chunks {α : Type} (size : Nat) (as : List α) : List (List α) :=
  (List.range ((as.length + size - 1) / size)).map fun n => (as.drop (n * size)).take size

/-- The elements in lists of a length. The last one may be filled up. -/
def applyBatch (args : Arguments) : Result := do
  let v ← args.value 0
  let size ← Arguments.asNat (← args.known 1)
  let filler? := args.given 2
  args.noMore 3
  if size == 0 then throw .invalidOperation
  let vs ← Arguments.elementsOf v .undefined
  let fill (piece : List Value) : List Value := match filler? with
    | some filler => piece ++ List.replicate (size - piece.length) filler
    | none => piece
  return Value.ofList (fun piece => .list (fill piece)) (chunks size vs)

/-- The items in a number of pieces that are equally long, but for one item more in the first
ones. -/
def parts {α : Type} (short long : Nat) : Nat → List α → List (List α)
  | 0, _ => []
  | n + 1, as =>
    let size := if long > 0 then short + 1 else short
    as.take size :: parts short (long - 1) n (as.drop size)

/-- The elements in a number of lists. Those that are shorter may be filled up. -/
def applySlice (args : Arguments) : Result := do
  let v ← args.value 0
  let count ← Arguments.asNat (← args.known 1)
  let filler? := args.given 2
  args.noMore 3
  if count == 0 then throw .invalidOperation
  let vs ← Arguments.elementsOf v .undefined
  let long := vs.length % count
  let lists := parts (vs.length / count) long count vs
  return .list <| lists.zipIdx.map fun (piece, place) =>
    .list (if place < long then piece else piece ++ filler?.toList)

/-- Neighbours with equal keys as groups, each with the key of its last item. -/
def groups (same : Value → Value → Bool) : List (Value × Value) → List (Value × List Value)
  | [] => []
  | (k, v) :: rest =>
    match groups same rest, rest with
    | (key, vs) :: others, (next, _) :: _ =>
      if same k next then (key, v :: vs) :: others else (k, [v]) :: (key, vs) :: others
    | _, _ => [(k, [v])]

/-- The elements in groups that have something in common. -/
def applyGroups (args : Arguments) : Result := do
  let (args, fields) := args.split
  let v ← args.value 0
  let path? ← args.optionalAs Arguments.asText 1
  args.noMore 2
  let default := (← Arguments.namedAs .ok fields "default").getD .undefined
  let caseSensitive := (← Arguments.namedAs Arguments.asBool fields "case_sensitive").getD false
  let path ← match path?, ← Arguments.namedAs Arguments.asText fields "attribute" with
    | some path, _ | none, some path => pure path
    | none, none => throw .missingArgument
  let some vs := v.elements? | throw .invalidOperation
  Arguments.onlyNamed fields
    (["default", "case_sensitive"] ++ if path?.isSome then [] else ["attribute"])
  let order := listed caseSensitive
  let keyed := sortBy (fun a b => order a.1 b.1) (vs.map fun v => (v.behindOr path default, v))
  return .list ((groups (fun k l => order k l == .eq) keyed).map fun g => .group g.1 g.2)

/-- The value holds items that can be counted. -/
def isList : Value → Bool
  | .list _ | .group _ _ => true
  | _ => false

/-- The elements of a value, or one in their place that could not be had. -/
def elementsOrInvalid (v : Value) : List Value :=
  v.elements?.getD [.invalid ("invalid operation: " ++ v.sort ++ " is not iterable")]

/-- The elements of several values one behind the other. Maps become one map, in which the last
value under a key counts. -/
def applyChain (args : Arguments) : Result := do
  discard <| args.value 0
  let maps := args.filterMap Value.fields?
  if maps.length == args.length then return .map (Value.sortFields maps.flatten)
  let vs := args.flatMap elementsOrInvalid
  if args.all isList then return .list vs else return .series vs false

/-- Lists of elements at one place, as long as every value has one. -/
def zipped : List (List Value) → List Value → List Value
  | [], firsts => firsts.map fun v => .list [v]
  | vs :: rest, firsts =>
    (firsts.zip (zipped rest vs)).map fun (v, w) => .list (v :: (w.items?.getD []))

/-- Lists of elements of several values at one place. -/
def applyZip (args : Arguments) : Result := do
  discard <| args.value 0
  match args.mapM Value.elements? with
  | some (vs :: rest) => return .list (zipped rest vs)
  | _ => throw .invalidOperation

/-! ### Maps -/

def pairs (fields : List (Value × Value)) : Value :=
  Value.ofList (fun f => .list [f.1, f.2]) fields

def applyItems (args : Arguments) : Result := do
  let v ← args.value 0
  args.noMore 1
  match v.fields? with
  | some fields => return pairs fields
  | none => throw .invalidOperation

/-- The fields of a map in order, as lists of two. -/
def applyDictSort (args : Arguments) : Result := do
  let (args, fields) := args.split
  let v ← args.value 0
  args.noMore 1
  let some entries := v.fields? | throw .invalidOperation
  let byValue := (← Arguments.namedAs Arguments.asText fields "by") == some "value"
  let caseSensitive := (← Arguments.namedAs Arguments.asBool fields "case_sensitive").getD false
  let part (f : Value × Value) : Value := if byValue then f.2 else f.1
  let order (f g : Value × Value) : Ordering := listed caseSensitive (part f) (part g)
  let reverse := (← Arguments.namedAs Arguments.asBool fields "reverse").getD false
  Arguments.onlyNamed fields ["by", "case_sensitive", "reverse"]
  return pairs (sortBy (ordered reverse order) entries)

def collectionFilters : List (String × (Arguments → Result)) :=
  [("first", applyFirst), ("last", applyLast), ("min", applyMin),
    ("max", applyMax), ("length", applyLength), ("count", applyLength), ("attr", applyAttr),
    ("sum", applySum), ("reverse", applyReverse), ("list", applyList), ("sort", applySort),
    ("unique", applyUnique), ("batch", applyBatch), ("slice", applySlice),
    ("groupby", applyGroups), ("chain", applyChain), ("zip", applyZip), ("items", applyItems),
    ("dictsort", applyDictSort)]

end ClientGen.Template
