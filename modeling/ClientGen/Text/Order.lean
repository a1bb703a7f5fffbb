/-!
The order of texts by code point, and lists that are kept in the order of a text key.
-/

namespace ClientGen.Text

/-- `as` comes strictly before `bs`: a beginning before what it begins, else by the first code point
that differs. -/
def charsBefore : List Char → List Char → Bool
  | [], [] => false
  | [], _ :: _ => true
  | _ :: _, [] => false
  | a :: as, b :: bs => a.toNat < b.toNat || (a.toNat == b.toNat && charsBefore as bs)

def before (s t : String) : Bool :=
  charsBefore s.toList t.toList

def order (s t : String) : Ordering :=
  if before s t then .lt else if s == t then .eq else .gt

variable {α : Type} (key : α → String)

/-- Puts an element at its place in the order of the keys. An element with the same key gives way.
-/
def insertByKey (a : α) : List α → List α
  | [] => [a]
  | b :: bs =>
    if before (key a) (key b) then a :: b :: bs
    else if key a == key b then a :: bs
    else b :: insertByKey a bs

def findByKey? (k : String) (as : List α) : Option α :=
  as.find? fun a => key a == k

def modifyByKey (k : String) (f : α → α) (as : List α) : List α :=
  as.map fun a => if key a == k then f a else a

end ClientGen.Text
