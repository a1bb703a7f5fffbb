import ClientGen.Disk.Lookup

/-!
The operations that change a disk, one at a time. An operation is done as a whole or refused, and a
refused one changes nothing. A device may fail on its own account, too: `Faults` says when.
-/

namespace ClientGen

/-- Something that is done to a disk. -/
inductive Operation where
  | makeDirectory (path : String)
  /-- Makes a file, or empties the one that is there. -/
  | create (path : String)
  /-- Gives an empty file its content. -/
  | write (path : String) (content : ByteArray)
  /-- Waits until a file has reached the device. -/
  | sync (path : String)
  | remove (path : String)
  | rename (source target : String)

namespace Disk

variable (d : Disk)

def makeDirectory (path : String) : Except DiskError Disk := do
  let spot ← d.spotOf path
  match ← spot.place? with
  | none => throw .exists
  | some place =>
    match d.get? place with
    | some _ => throw .exists
    | none => return d.insert place .directory

/-- The place where a file is made for a path that is met in the directory `here`: that of the path,
or if there is a link, where its target leads. The first argument bounds the number of links. -/
def creationPlace : Nat → Place → String → Except DiskError Place
  | 0, _, _ => .error .tooManyLinks
  | links + 1, here, path => do
    let spot ← d.spotFrom here path
    if spot.hasSlash then throw .isDirectory
    else
      match ← spot.place? with
      | none => throw .isDirectory
      | some place =>
        match d.get? place with
        | some .directory => throw .isDirectory
        | some (.link target) => creationPlace links spot.directory target
        | _ => return place

/-- The disk with an empty file at a place. A device stays what it is. -/
def emptyFile (place : Place) : Disk :=
  match d.get? place with
  | some .device => d
  | _ => d.insert place (.file .empty)

/-- Makes an empty file, where a path leads to through all links. -/
def create (path : String) : Except DiskError Disk := do
  let place ← d.creationPlace (mostLinks + 1) d.current path
  return d.emptyFile place

def write (path : String) (content : ByteArray) : Except DiskError Disk := do
  match ← d.resolve path with
  | (_, .device) => return d
  | (_, .directory) => throw .isDirectory
  | (_, .link _) => throw .tooManyLinks
  | (place, _) => return d.insert place (.file content)

/-- Waits for a file to be kept for good, which a device cannot do. -/
def sync (path : String) : Except DiskError Disk :=
  match d.resolve path with
  | .ok (_, .device) => .error .invalid
  | _ => .ok d

def remove (path : String) : Except DiskError Disk := do
  let spot ← d.spotOf path
  match ← spot.place? with
  | none => throw .isDirectory
  | some place =>
    match d.get? place with
    | none => throw .noEntry
    | some .directory => throw .isDirectory
    | some _ => if spot.hasSlash then throw .notDirectory else return d.erase place

/-- Puts the file or link at one path in the place of what is at another one. Directories are
neither moved nor replaced. -/
def rename (source target : String) : Except DiskError Disk := do
  let old ← d.spotOf source
  let new ← d.spotOf target
  if old.name?.isNone || new.name?.isNone then throw .busy
  else
    match ← old.place?, ← new.place? with
    | some oldPlace, some newPlace =>
      match d.get? oldPlace with
      | none => throw .noEntry
      | some .directory => throw .isDirectory
      | some node =>
        if old.hasSlash || new.hasSlash then throw .notDirectory
        else
          match d.get? newPlace with
          | some .directory => throw .isDirectory
          | _ => return (d.erase oldPlace).insert newPlace node
    | _, _ => throw .busy

def apply : Operation → Except DiskError Disk
  | .makeDirectory path => d.makeDirectory path
  | .create path => d.create path
  | .write path content => d.write path content
  | .sync path => d.sync path
  | .remove path => d.remove path
  | .rename source target => d.rename source target

end Disk

/-- The operations on which a device fails. -/
structure Faults where
  error? : Operation → Option DiskError
  /-- How many bytes reach the device before writing fails. -/
  kept : Nat

def Faults.never : Faults where
  error? := fun _ => none
  kept := 0

/-- Something that is done to a disk step by step. What was done before a step failed stays done. -/
abbrev DiskAction := EStateM DiskError Disk

def Faults.perform (faults : Faults) (operation : Operation) : DiskAction Unit := fun d =>
  match faults.error? operation with
  | some e =>
    match operation with
    | .write path content =>
      match d.write path (content.extract 0 faults.kept) with
      | .ok d => .error e d
      | .error _ => .error e d
    | _ => .error e d
  | none =>
    match d.apply operation with
    | .ok d => .ok () d
    | .error e => .error e d

end ClientGen
