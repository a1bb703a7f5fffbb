import ClientGen.Disk.Operation
import ClientGen.Text.Order

/-!
Directories as a whole: what is in them, and operations on all of it.
-/

namespace ClientGen.Disk

variable (d : Disk)

def namesIn (place : Place) : List String :=
  (d.entries.filterMap fun e =>
    match e.1 with
    | name :: above => if above == place then some name else none
    | [] => none).mergeSort fun s t => !Text.before t s

/-- What a path leads to, without following a last link. -/
def entryAt (path : String) : Except DiskError (Place × Node) := do
  let spot ← d.spotOf path
  match ← spot.place? with
  | none => d.resolve path
  | some place =>
    if spot.hasSlash then d.resolve path
    else
      match d.get? place with
      | some node => return (place, node)
      | none => throw .noEntry

def removeDirectory (path : String) : Except DiskError Disk := do
  match ← d.entryAt path with
  | (place, .directory) =>
    if place.isEmpty then throw .busy
    else if (d.namesIn place).isEmpty then return d.erase place
    else throw .notEmpty
  | _ => throw .notDirectory

/-- Puts what is at a place, and below it, at another one. -/
def moveTree (source target : Place) : Disk :=
  let cleared := d.eraseAll target
  { cleared with
    entries := cleared.entries.map fun e =>
      if source.isSuffixOf e.1 then (e.1.take (e.1.length - source.length) ++ target, e.2) else e }

/-- Puts copies of what is at a place, and below it, at another one. -/
def copyTree (source target : Place) : Disk :=
  let copies := (d.entries.filter fun e => source.isSuffixOf e.1).map fun e =>
    (e.1.take (e.1.length - source.length) ++ target, e.2)
  copies.foldl (fun d e => d.insert e.1 e.2) d

def link (path target : String) : Except DiskError Disk := do
  let spot ← d.spotOf path
  match ← spot.place? with
  | none => throw .exists
  | some place =>
    match d.get? place with
    | some _ => throw .exists
    | none => return d.insert place (.link target)

end ClientGen.Disk
