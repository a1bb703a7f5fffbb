import ClientGen.Disk.Operation

/-!
Furnishing a disk, and comparing two of them. What cannot be put somewhere is left out.
-/

namespace ClientGen.Disk

def putDirectory (d : Disk) (path : String) : Disk :=
  let above := (Path.ancestors path).reverse
  above.foldl (fun d path => (d.makeDirectory path).toOption.getD d) d

def putFile (d : Disk) (path : String) (content : ByteArray) : Disk :=
  let d := d.putDirectory ((Path.parent? path).getD "")
  ((d.create path).bind fun d => d.write path content).toOption.getD d

def putLink (d : Disk) (path target : String) : Disk :=
  match d.spotOf path with
  | .ok ⟨directory, some name, false⟩ =>
    if (d.get? (name :: directory)).isSome then d else d.insert (name :: directory) (.link target)
  | _ => d

/-- The disk without what is at a path and below it. -/
def clear (d : Disk) (path : String) : Disk :=
  match d.spotOf path with
  | .ok ⟨directory, some name, _⟩ => d.eraseAll (name :: directory)
  | _ => d

/-- The places at which two disks differ, each with what the later one has there. -/
def changes (before after : Disk) : List (Place × Option Node) :=
  (after.entries.filter fun e => before.get? e.1 != some e.2).map (fun e => (e.1, some e.2))
    ++ (before.entries.filter fun e => (after.get? e.1).isNone).map fun e => (e.1, none)

end ClientGen.Disk
