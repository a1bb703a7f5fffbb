/-!
Paths as text: components are divided by slashes, a leading slash makes a path absolute, and empty
components and dots inside a path say nothing. Nothing here looks at a file system.
-/

namespace ClientGen.Path

/-- A path that does not depend on where it is used. -/
def isAbsolute (path : String) : Bool :=
  path.toList.head? == some '/'

/-- The path of `part` seen from `base`. An absolute part stands for itself. -/
def join (base part : String) : String :=
  if isAbsolute part then part
  else if base.isEmpty || base.toList.getLast? == some '/' then base ++ part
  else base ++ "/" ++ part

/-- What comes before the first component: the root, or the dot that a path begins with. -/
def front : List Char → List Char
  | '/' :: _ => ['/']
  | ['.'] => ['.']
  | '.' :: '/' :: _ => ['.']
  | _ => []

/-- Takes empty components and dots off the end of a path that is given last character first. -/
def trimEnd : List Char → List Char
  | '/' :: r => trimEnd r
  | '.' :: '/' :: r => trimEnd r
  | ['.'] => []
  | r => r

/-- The components of a path, last character first and without its front. -/
def backward (path : String) : List Char :=
  let cs := path.toList
  trimEnd (cs.drop (front cs).length).reverse

/-- The path one level up, if there is one. -/
def parent? (path : String) : Option String :=
  let start := front path.toList
  match backward path with
  | [] => if start == ['.'] then some "" else none
  | r => some (String.ofList (start ++ (trimEnd ((r.dropWhile (· != '/')).drop 1)).reverse))

/-- The last component, unless the path ends in its root, in a dot or in two. -/
def fileName? (path : String) : Option String :=
  match (backward path).takeWhile (· != '/') with
  | [] => none
  | ['.', '.'] => none
  | name => some (String.ofList name.reverse)

def withFileName (path name : String) : String :=
  match fileName? path with
  | some _ => join ((parent? path).getD "") name
  | none => join path name

/-- What follows the last dot of the file name, unless that dot comes first. -/
def extension? (path : String) : Option String :=
  match fileName? path with
  | none => none
  | some name =>
    let reversed := name.toList.reverse
    match reversed.dropWhile (· != '.') with
    | '.' :: _ :: _ => some (String.ofList (reversed.takeWhile (· != '.')).reverse)
    | _ => none

/-- The path itself and all above it, nearest first. The first argument bounds their number. -/
def ancestorsFrom : Nat → String → List String
  | 0, path => [path]
  | k + 1, path =>
    match parent? path with
    | some above => path :: ancestorsFrom k above
    | none => [path]

/-- The path itself and all above it, nearest first. -/
def ancestors (path : String) : List String :=
  ancestorsFrom path.length path

end ClientGen.Path
