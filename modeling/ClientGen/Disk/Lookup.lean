import ClientGen.Disk.Basic
import ClientGen.Disk.Error
import ClientGen.Path
import ClientGen.Text.Cut

/-!
From paths to places. A path is walked name by name; links on the way are followed, and only the
last name may be the name of nothing. A slash at the end of a path asks for a directory, as a dot
behind it would.
-/

namespace ClientGen

/-- The names of a path, with a dot for a slash at its end. -/
def Path.names (path : String) : List String :=
  let names := ((Text.cut (· == '/') path.toList).filter fun n => !n.isEmpty).map String.ofList
  if path.toList.getLast? == some '/' then names ++ ["."] else names

namespace Disk

def longestName : Nat := 255

def longestPath : Nat := 4095

/-- How many links may be followed on the way. -/
def mostLinks : Nat := 40

variable (d : Disk)

/-- Where a path begins that is met in the directory `here`. -/
def beginning (here : Place) (path : String) : Place :=
  if Path.isAbsolute path then [] else here

/-- Goes on along the names from a directory. `follow` goes on behind a link: from where its target
begins, along the names of the target and those that are left. -/
def walkWith (follow : Place → List String → Except DiskError Place) :
    Place → List String → Except DiskError Place
  | here, [] => .ok here
  | here, name :: rest =>
    if name == "." then walkWith follow here rest
    else if name == ".." then walkWith follow here.tail rest
    else if longestName < name.utf8ByteSize then .error .nameTooLong
    else
      match d.get? (name :: here) with
      | some .directory => walkWith follow (name :: here) rest
      | some (.link target) => follow (beginning here target) (Path.names target ++ rest)
      | some _ => if rest.isEmpty then .ok (name :: here) else .error .notDirectory
      | none => if rest.isEmpty then .ok (name :: here) else .error .noEntry

/-- Goes along the names from a directory, through no more links than the first argument says. -/
def walk : Nat → Place → List String → Except DiskError Place
  | 0 => d.walkWith fun _ _ => .error .tooManyLinks
  | links + 1 => d.walkWith (walk links)

/-- A path that can be looked up at all. -/
def checkPath (path : String) : Except DiskError Unit :=
  if path.toList.contains (Char.ofNat 0) then .error .zeroInPath
  else if path.isEmpty then .error .noEntry
  else if longestPath < path.utf8ByteSize then .error .nameTooLong
  else .ok ()

/-- The place of a path when every link is followed, even a last one. There may be nothing. -/
def placeOf (path : String) : Except DiskError Place := do
  checkPath path
  d.walk mostLinks (beginning d.current path) (Path.names path)

/-- What a path leads to when every link is followed. -/
def resolve (path : String) : Except DiskError (Place × Node) := do
  let place ← d.placeOf path
  match d.get? place with
  | some node => return (place, node)
  | none => throw .noEntry

/-- A path up to its last name, which is not looked at. -/
structure Spot where
  /-- The directory in which the last name is looked up. -/
  directory : Place
  /-- The last name, unless it is a dot, two dots or missing. -/
  name? : Option String
  /-- A slash comes behind the last name. -/
  hasSlash : Bool

/-- The place that the last name stands for. -/
def Spot.place? (spot : Spot) : Except DiskError (Option Place) :=
  match spot.name? with
  | none => .ok none
  | some name =>
    if longestName < name.utf8ByteSize then .error .nameTooLong
    else .ok (some (name :: spot.directory))

/-- The spot of a path that is met in the directory `here`. -/
def spotFrom (here : Place) (path : String) : Except DiskError Spot := do
  checkPath path
  let hasSlash := path.toList.getLast? == some '/'
  let names := if hasSlash then (Path.names path).dropLast else Path.names path
  let directory ← d.walk mostLinks (beginning here path) names.dropLast
  match d.get? directory with
  | some .directory =>
    match names.getLast? with
    | none | some "." | some ".." => return ⟨directory, none, hasSlash⟩
    | some name => return ⟨directory, some name, hasSlash⟩
  | some _ => throw .notDirectory
  | none => throw .noEntry

def spotOf (path : String) : Except DiskError Spot :=
  d.spotFrom d.current path

/-- A path leads to a directory. -/
def isDirectory (path : String) : Bool :=
  match d.resolve path with
  | .ok (_, .directory) => true
  | _ => false

/-- There is something at a path, be it a link that leads nowhere. -/
def contains (path : String) : Bool :=
  match d.spotOf path with
  | .error _ => false
  | .ok spot =>
    match spot.place?, spot.hasSlash with
    | .ok (some place), false => (d.get? place).isSome
    | _, _ => d.isDirectory path

/-- The bytes of what is found at a place. Those of a program are no text. -/
def Node.content : Node → Except DiskError ByteArray
  | .file content => .ok content
  | .device => .ok .empty
  | .program _ => .ok (ByteArray.mk #[0x7f, 0x45, 0x4c, 0x46, 0xff])
  | .directory => .error .isDirectory
  | .link _ => .error .tooManyLinks

def read (path : String) : Except DiskError ByteArray := do
  (← d.resolve path).2.content

def readText (path : String) : Except ReadError String :=
  match d.read path with
  | .error e => .error (.disk e)
  | .ok bytes =>
    match String.fromUTF8? bytes with
    | some text => .ok text
    | none => .error .notText

end Disk

end ClientGen
