/-!
Cutting texts, at separators and at places, and trimming them.
-/

namespace ClientGen.Text

/-! ### Cutting -/

/-- Cuts a list at every element that satisfies `sep`, which is dropped. -/
def cut (sep : Char → Bool) : List Char → List (List Char)
  | [] => [[]]
  | c :: cs => if sep c then [] :: cut sep cs else (cut sep cs).modifyHead (c :: ·)

/-- The characters of a text, each with how many bytes come before it in UTF-8. -/
def indexed (s : String) : List (Nat × Char) :=
  behind 0 s.toList
where
  /-- The characters, from a number of bytes on. -/
  behind (n : Nat) : List Char → List (Nat × Char)
    | [] => []
    | c :: cs => (n, c) :: behind (n + c.utf8Size) cs

/-- The characters that begin at the bytes from one on and before another. -/
def piece (s : List (Nat × Char)) (start stop : Nat) : String :=
  String.ofList ((s.filter fun p => start ≤ p.1 && p.1 < stop).map Prod.snd)

/-! ### Blank characters and trimming -/

/-- A character of the Unicode property White_Space. -/
def isBlank (c : Char) : Bool :=
  let n := c.toNat
  (9 ≤ n && n ≤ 13) || n == 0x20 || n == 0x85 || n == 0xa0 || n == 0x1680
    || (0x2000 ≤ n && n ≤ 0x200a) || n == 0x2028 || n == 0x2029 || n == 0x202f || n == 0x205f
    || n == 0x3000

/-- The list without its longest beginning and end whose characters all satisfy `p`. -/
def trimWhere (p : Char → Bool) (cs : List Char) : List Char :=
  ((cs.dropWhile p).reverse.dropWhile p).reverse

def trim (s : String) : String :=
  String.ofList (trimWhere isBlank s.toList)

def isBlankText (s : String) : Bool :=
  s.toList.all isBlank

end ClientGen.Text
