import ClientGen.Tool.Shell.Calculation
import ClientGen.Tool.Shell.State

/-!
Expanding words: values take the places of what stands for them, blanks in them part words, and
wildcards become the names of files.
-/

namespace ClientGen.Shell

/-- A bit of an expanded word. -/
inductive Bit where
  /-- A character. One that is not quoted may be a wildcard; one that comes from a value may part
  words. -/
  | char (c : Char) (isQuoted splits : Bool)
  /-- Quotes, which make a word of nothing. -/
  | mark
  /-- A word ends here. -/
  | gap

def bitsOf (isQuoted splits : Bool) (s : String) : List Bit :=
  s.toList.map fun c => .char c isQuoted splits

def textOf (bits : List Bit) : List Char :=
  bits.filterMap fun
    | .char c _ _ => some c
    | .mark => none
    | .gap => some ' '

/-- The wildcard that bits are: each character comes with whether it is meant literally. A backslash
of a value takes the meaning of what is behind it. -/
def wildcardOf : List Bit → List (Char × Bool)
  | .char '\\' false _ :: .char c _ _ :: rest => (c, true) :: wildcardOf rest
  | .char c isQuoted _ :: rest => (c, isQuoted) :: wildcardOf rest
  | _ :: rest => wildcardOf rest
  | [] => []

def fits (wildcard : List (Char × Bool)) (text : List Char) : Bool :=
  Pattern.wildcardFits (wildcard.length + 1) wildcard text

/-! ### Fields -/

/-- Fields in the middle of the bits of a word. -/
structure Fields where
  /-- Those that are complete, last one first. -/
  done : List (List (Char × Bool)) := []
  /-- The characters of the one that is not, last one first. -/
  current : List (Char × Bool) := []
  /-- There is one that is not complete. -/
  isOpen : Bool := false
  /-- It ended with a blank. -/
  isBehindBlank : Bool := false

namespace Fields

def close (f : Fields) : Fields :=
  { done := f.current.reverse :: f.done }

def add (separators : List Char) (f : Fields) : Bit → Fields
  | .mark => { f with isOpen := true, isBehindBlank := false }
  | .gap => if f.isOpen then f.close else f
  | .char c isQuoted splits =>
    if splits && !isQuoted && separators.contains c then
      if c == ' ' || c == '\t' || c == '\n' then
        if f.isOpen then { f.close with isBehindBlank := true } else f
      else if !f.isOpen && f.isBehindBlank then { f with isBehindBlank := false }
      else f.close
    else { f with current := (c, isQuoted) :: f.current, isOpen := true, isBehindBlank := false }

def ofBits (separators : List Char) (bits : List Bit) : List (List (Char × Bool)) :=
  let f := bits.foldl (add separators) {}
  (if f.isOpen then f.close else f).done.reverse

end Fields

def separators (s : Shell) : List Char :=
  match s.bindings.lookup "IFS" with
  | some ⟨some text, _, _⟩ => text.toList
  | _ => [' ', '\t', '\n']

/-! ### Names of files -/

def isWildcard (c : Char × Bool) : Bool := !c.2 && ['*', '?', '['].contains c.1

/-- The paths that fit a wildcard, given as its parts between slashes, behind some beginnings. -/
def pathsFrom (d : Disk) : List String → List (List (Char × Bool)) → List String
  | starts, [] => starts
  | starts, part :: rest =>
    let literal := String.ofList (part.map Prod.fst)
    let behind := starts.flatMap fun start =>
      if !part.any isWildcard then
        let path := start ++ literal
        if !rest.isEmpty || (d.entryAt (decodeText path)).toOption.isSome then [path] else []
      else
        match d.resolve (decodeText (if start.isEmpty then "." else start)) with
        | .ok (place, .directory) =>
          let names := (d.namesIn place).map fun name => String.ofList (encode name)
          let names := if literal.startsWith "." then [".", ".."] ++ names else names
          (names.filter fun name =>
            (literal.startsWith "." || !name.startsWith ".") && fits part name.toList).map
              (start ++ ·)
        | _ => []
    pathsFrom d (if rest.isEmpty then behind else behind.map (· ++ "/")) rest

def partsOf (field : List (Char × Bool)) : List (List (Char × Bool)) :=
  field.foldr (fun c parts =>
    match c, parts with
    | ('/', _), parts => [] :: parts
    | c, part :: rest => (c :: part) :: rest
    | c, [] => [[c]]) [[]]

/-- The paths that fit a field, or the field itself. -/
def pathsOf (d : Disk) (field : List (Char × Bool)) : List String :=
  let literal := String.ofList (field.map Prod.fst)
  if !field.any isWildcard then [literal]
  else
    match pathsFrom d [""] (partsOf field) with
    | [] => [literal]
    | paths => paths.mergeSort fun s t => !Text.before t s

/-! ### Braces -/

/-- The parts of braces between commas, with what is behind the closing one. The first argument
bounds the number of steps. -/
def braceParts :
    Nat → Nat → List Char → List Char → List (List Char) → Option (List (List Char) × List Char)
  | 0, _, _, _, _ => none
  | _ + 1, _, [], _, _ => none
  | n + 1, depth, c :: cs, part, done =>
    if c == '\x7b' then braceParts n (depth + 1) cs (c :: part) done
    else if c == '\x7d' then
      if depth == 0 then some ((part.reverse :: done).reverse, cs)
      else braceParts n (depth - 1) cs (c :: part) done
    else if c == ',' && depth == 0 then braceParts n depth cs [] (part.reverse :: done)
    else braceParts n depth cs (c :: part) done

/-- The texts of a row from one number or letter to another. -/
def braceRow? (part : List Char) : Option (List (List Char)) :=
  let row (first last : Int) (spell : Int → List Char) : List (List Char) :=
    (List.range ((last - first).natAbs + 1)).map fun (k : Nat) =>
      spell (if first ≤ last then first + (k : Int) else first - (k : Int))
  match (String.ofList part).splitOn ".." with
  | [first, last] =>
    match first.toInt?, last.toInt?, first.toList, last.toList with
    | some a, some b, _, _ => some (row a b fun n => (toString n).toList)
    | _, _, [a], [b] =>
      if a.isAlpha && b.isAlpha then some (row a.toNat b.toNat fun n => [Char.ofNat n.toNat])
      else none
    | _, _, _, _ => none
  | _ => none

/-- The texts that a text with braces stands for. The first argument bounds the number of steps. -/
def bracesIn : Nat → List Char → List (List Char)
  | 0, cs => [cs]
  | _ + 1, [] => [[]]
  | n + 1, '\x7b' :: cs =>
    let literally := (bracesIn n cs).map ('\x7b' :: ·)
    match braceParts (cs.length + 1) 0 cs [] [] with
    | some ([part], rest) =>
      match braceRow? part with
      | some row => row.flatMap fun text => (bracesIn n rest).map (text ++ ·)
      | none => literally
    | some (parts, rest) =>
      let behind := bracesIn n rest
      (parts.flatMap (bracesIn n)).flatMap fun text => behind.map (text ++ ·)
    | none => literally
  | n + 1, c :: cs => (bracesIn n cs).map (c :: ·)

/-- The words that a word with braces stands for. -/
def bracedWords (word : List Piece) : List (List Piece) :=
  word.foldr (fun piece words =>
    match piece with
    | .text s false =>
      (bracesIn (s.length + 1) s.toList).flatMap fun cs =>
        words.map (.text (String.ofList cs) false :: ·)
    | piece => words.map (piece :: ·)) [[]]

/-! ### Values -/

/-- What is left of a text without what a wildcard fits at one of its ends. -/
def trimmed (t : Trimming) (wildcard : List (Char × Bool)) (text : List Char) : List Char :=
  let sizes := List.range (text.length + 1)
  let sizes := if t.isLongest then sizes.reverse else sizes
  let part (k : Nat) : List Char := if t.atEnd then text.drop (text.length - k) else text.take k
  match sizes.find? fun k => fits wildcard (part k) with
  | some k => if t.atEnd then text.take (text.length - k) else text.drop k
  | none => text

/-- A text in which what a wildcard fits is replaced. The first argument bounds the number of
steps. -/
def replaced (which : Replacing) (wildcard : List (Char × Bool)) (word : List Char) :
    Nat → (isFront : Bool) → List Char → List Char
  | 0, _, text => text
  | n + 1, isFront, text =>
    let mayFit := match which with
      | .front => isFront
      | _ => true
    let sizes := match which with
      | .back => [text.length]
      | _ => (List.range (text.length + 1)).reverse
    match if mayFit then sizes.find? fun k => 0 < k && fits wildcard (text.take k) else none with
    | some k =>
      match which with
      | .all => word ++ replaced which wildcard word n false (text.drop k)
      | _ => word ++ text.drop k
    | none =>
      match text with
      | c :: rest => c :: replaced which wildcard word n false rest
      | [] => []

/-- The value of what is no variable. -/
def specialValue? (s : Shell) (name : String) : Option String :=
  match name with
  | "#" => some (toString s.parameters.length)
  | "?" => some (toString s.status)
  | "$" => some (toString s.number)
  | "!" => if s.besides.isEmpty then none else some (toString (s.number + s.besides.length))
  | "-" => some s.optionLetters
  | "0" => some s.name
  | "LINENO" => some (toString s.line)
  | name =>
    match name.toNat? with
    | some n => s.parameters[n - 1]?
    | none => s.value? name

/-- The value of a parameter, if it is there. -/
def valueOf? (s : Shell) (name : String) : Option String :=
  if name == "@" || name == "*" then
    if s.parameters.isEmpty then none else some (" ".intercalate s.parameters)
  else specialValue? s name

def parameterBits (s : Shell) (name : String) (isQuoted : Bool) : List Bit :=
  if isQuoted && name == "*" then
    let between := match s.bindings.lookup "IFS" with
      | some ⟨some text, _, _⟩ => (text.toList.take 1)
      | _ => [' ']
    bitsOf true false (String.ofList (between.intercalate (s.parameters.map String.toList)))
  else
    [Bit.gap].intercalate (s.parameters.map fun p =>
      (if isQuoted then [.mark] else []) ++ bitsOf isQuoted (!isQuoted) p)

def holdsParameters (pieces : List Piece) : Bool :=
  pieces.any fun
    | .value "@" _ => true
    | _ => false

/-- The text of a directory in front of a word that begins with a tilde. -/
def withHome (s : Shell) : List Piece → List Piece
  | .text t false :: rest =>
    match t.toList with
    | '~' :: cs =>
      let isAlone := cs.isEmpty && rest.isEmpty
      match s.value? "HOME" with
      | some home =>
        if isAlone || cs.head? == some '/' then
          .text home true :: .text (String.ofList cs) false :: rest
        else .text t false :: rest
      | none => .text t false :: rest
    | _ => .text t false :: rest
  | pieces => pieces

def calculated (cs : List Char) : Act Int := do
  let s ← get
  match Term.ofText s.isRich (valueOf? s) cs with
  | .ok (n, known) =>
    for (name, k) in known do
      Act.assign name (toString k)
    return n
  | .error fault => Act.die 2 1 (fault.message s.isRich (String.ofList cs))

section

variable (substitute : Command → Act (List Char))

mutual

/-- The bits of a piece. The first argument bounds how deep pieces are within each other. -/
def pieceBits : Nat → (isQuoted : Bool) → Piece → Act (List Bit)
  | 0, _, _ => return []
  | n + 1, isQuoted, piece => do
    match piece with
    | .text s quoted =>
      return if s.isEmpty && quoted then [.mark] else bitsOf (quoted || isQuoted) false s
    | .doubled inner =>
      let found ← inner.mapM (pieceBits n true)
      let bits := found.flatten
      return if bits.isEmpty && holdsParameters inner then [] else .mark :: bits
    | .output script =>
      let cs ← substitute script
      let cs := (cs.reverse.dropWhile (· == '\n')).reverse.filter (· != '\x00')
      return bitsOf isQuoted (!isQuoted) (String.ofList cs)
    | .number expression =>
      let found ← expression.mapM (pieceBits n true)
      let k ← calculated (textOf found.flatten)
      return bitsOf isQuoted (!isQuoted) (toString k)
    | .value name form => formBits n isQuoted name form

/-- The bits of what is made of a value. -/
def formBits : Nat → (isQuoted : Bool) → String → Form → Act (List Bit)
  | 0, _, _, _ => return []
  | n + 1, isQuoted, name, form => do
    let s ← get
    let value? := valueOf? s name
    let whole (word : List Piece) (quoted : Bool) : Act (List Bit) := do
      let found ← word.mapM (pieceBits n quoted)
      return found.flatten
    let wildcard (word : List Piece) : Act (List (Char × Bool)) :=
      return wildcardOf (← whole word false)
    let plain (text : String) : List Bit := bitsOf isQuoted (!isQuoted) text
    let isMany := name == "@" || name == "*"
    let needed : Act (List Char) := do
      match value? with
      | some v => return v.toList
      | none =>
        if s.has 'u' && !isMany then
          if s.isRich then
            let sign := if isName name then "" else "$"
            Act.die 1 (if s.has 'e' then 1 else 127) (sign ++ name ++ ": unbound variable")
          else Act.die 2 2 (name ++ ": parameter not set")
        else return []
    let made (text : List Char) : Act (List Bit) := return plain (String.ofList text)
    match form with
    | .bad => Act.die 2 1 (if s.isRich then name ++ ": bad substitution" else "Bad substitution")
    | .plain =>
      if isMany then return parameterBits s name isQuoted
      else made (← needed)
    | .length =>
      if isMany then return plain (toString s.parameters.length)
      else return plain (toString (← needed).length)
    | .fallback kind orEmpty word =>
      let isThere := match value? with
        | some v => !(orEmpty && v.isEmpty)
        | none => false
      let used : Act (List Bit) := do
        let bits ← whole (withHome s word) isQuoted
        return bits.map fun
          | .char c false _ => .char c false true
          | b => b
      match kind with
      | .present => if isThere then used else return []
      | .word =>
        if !isThere then used
        else if isMany then return parameterBits s name isQuoted
        else return plain (value?.getD "")
      | .kept =>
        if isThere then return plain (value?.getD "")
        else
          let text := String.ofList (textOf (← whole (withHome s word) isQuoted))
          if !isName name then
            Act.die 2 1 (if s.isRich then "$" ++ name ++ ": cannot assign in this way"
              else name ++ ": bad variable name")
          Act.assign name text
          return plain text
      | .complaint =>
        if isThere then
          return if isMany then parameterBits s name isQuoted else plain (value?.getD "")
        else
          let text := String.ofList (textOf (← whole word isQuoted))
          let standard := if !orEmpty then "parameter not set"
            else if s.isRich then "parameter null or not set" else "parameter not set or null"
          Act.die 2 127 (name ++ ": " ++ if word.isEmpty then standard else text)
    | .trim t pattern =>
      let text ← needed
      let w ← wildcard pattern
      made (trimmed t w text)
    | .part start length? =>
      let text ← needed
      let first ← calculated (textOf (← whole start true))
      let first := if first < 0 then text.length - first.natAbs else min first.toNat text.length
      match length? with
      | none => made (text.drop first)
      | some length =>
        let k ← calculated (textOf (← whole length true))
        let k := if k < 0 then text.length - k.natAbs - first else k.toNat
        made ((text.drop first).take k)
    | .replace which pattern word =>
      let text ← needed
      let w ← wildcard pattern
      let new ← whole word true
      made (replaced which w (textOf new) (text.length + 1) true text)
    | .letters areCapital isWhole =>
      let text ← needed
      let change (c : Char) : Char := if areCapital then c.toUpper else c.toLower
      made (if isWhole then text.map change else (text.take 1).map change ++ text.drop 1)
    | .named => made ((valueOf? s (value?.getD "")).getD "").toList

end

def deepest : Nat := 256

def wordBits (isQuoted : Bool) (word : List Piece) : Act (List Bit) := do
  let found ← word.mapM (pieceBits substitute deepest isQuoted)
  return found.flatten

/-- The text of a word that stays one. -/
def wordText (word : List Piece) : Act String := do
  let bits ← wordBits substitute false (withHome (← get) word)
  return String.ofList (textOf bits)

def quotedText (word : List Piece) : Act (List Char) :=
  return textOf (← wordBits substitute true word)

def wordWildcard (word : List Piece) : Act (List (Char × Bool)) :=
  return wildcardOf (← wordBits substitute false word)

def wordFields (word : List Piece) : Act (List String) := do
  let words := if (← get).isRich then bracedWords word else [word]
  let mut fields := []
  for word in words do
    let bits ← wordBits substitute false (withHome (← get) word)
    let s ← get
    let found := Fields.ofBits (separators s) bits
    fields := fields ++ found.flatMap fun field =>
      if s.has 'f' then [String.ofList (field.map Prod.fst)] else pathsOf s.job.disk field
  return fields

def wordsFields (words : List (List Piece)) : Act (List String) := do
  let mut fields := []
  for word in words do
    fields := fields ++ (← wordFields substitute word)
  return fields

end

end ClientGen.Shell
