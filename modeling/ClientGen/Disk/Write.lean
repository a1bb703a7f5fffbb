import ClientGen.Disk.Operation
import ClientGen.Failure
import ClientGen.Mode
import ClientGen.Naming.Module

/-!
Writing files. The directories above a file are made first, as far as they are missing; then the
file is either removed and made anew, or written beside its place and moved there at once.
-/

namespace ClientGen

namespace Faults

variable (faults : Faults)

/-- Takes an error for what it is, unless there is a directory already. -/
def settle (path : String) (e : DiskError) : DiskAction Unit := fun d =>
  if e = .exists && d.isDirectory path then .ok () d else .error e d

def ensureDirectory (path : String) : DiskAction Unit :=
  tryCatch (faults.perform (.makeDirectory path)) (settle path)

/-- Makes a directory unless there is one. The list goes on with the directories above it, nearest
first, which are made where they are missing. -/
def ensureDirectories : List String → DiskAction Unit
  | [] => pure ()
  | path :: above =>
    tryCatch (faults.perform (.makeDirectory path)) fun e =>
      if e = .noEntry then do
        ensureDirectories above
        faults.ensureDirectory path
      else settle path e

/-- Makes a directory and those above it, as far as they are missing. -/
def makeDirectories (path : String) : DiskAction Unit :=
  faults.ensureDirectories
    ((Path.ancestors path).takeWhile fun p => !p.isEmpty && (Path.parent? p).isSome)

def failingAt {α : Type} (path : String) (action : DiskAction α) : EStateM Failure Disk α :=
  action.adaptExcept (.disk path)

def makeParents (path : String) : EStateM Failure Disk Unit :=
  match Path.parent? path with
  | some parent =>
    if parent.isEmpty then pure () else failingAt parent (faults.makeDirectories parent)
  | none => pure ()

def writeNew (path : String) (content : ByteArray) : DiskAction Unit := do
  faults.perform (.create path)
  faults.perform (.write path content)

/-- Makes a file with this content in the place of what is at its path. -/
def replaceFile (path : String) (content : ByteArray) : EStateM Failure Disk Unit := do
  if (← get).contains path then
    failingAt path (faults.perform (.remove path))
  failingAt path (faults.writeNew path content)

/-- Tries to remove a file. -/
def discard (path : String) : EStateM Failure Disk Unit :=
  tryCatch (failingAt path (faults.perform (.remove path))) fun _ => pure ()

/-- Makes a file with this content beside its path, and then puts it there. -/
def moveFile (path : String) (content : ByteArray) : EStateM Failure Disk Unit :=
  let temporary := Naming.temporaryPath path
  tryCatch
    (do
      failingAt temporary do
        faults.writeNew temporary content
        faults.perform (.sync temporary)
      failingAt path (faults.perform (.rename temporary path)))
    fun failure => do
      faults.discard temporary
      throw failure

def writeFile (mode : WriteMode) (path : String) (content : ByteArray) :
    EStateM Failure Disk Unit := do
  faults.makeParents path
  match mode with
  | .replace => faults.replaceFile path content
  | .atomic => faults.moveFile path content

end Faults

end ClientGen
