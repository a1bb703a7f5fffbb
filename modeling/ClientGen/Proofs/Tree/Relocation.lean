import ClientGen.Proofs.Tree.Description
import ClientGen.Proofs.Tree.Lookups

/-!
What a tree says apart from places. A layout decides where files lie, in which modules they are and
where types come from by default, and nothing else: two builds of one list of specs under two
layouts are refused for the same reasons, and two trees that are built are equal once files, modules
and packages are taken out of them.
-/

namespace ClientGen.Tree

open Spec

/-! ### Trees without places -/

/-- An object file without its place and the package that its type comes from. -/
def ObjectPart.unplaced (o : ObjectPart) : ObjectPart :=
  { o with file := "", module := "", sourcePackage := "" }

/-- A reader file without places. -/
def ReaderPart.unplaced (r : ReaderPart) : ReaderPart :=
  { r with file := "", module := "", objectModule := "" }

def Child.unplaced (c : Child) : Child :=
  { c with objectModule := "", referenceModule := "" }

def ClientPart.unplaced (c : ClientPart) : ClientPart :=
  { c with
    file := ""
    module := ""
    readerModule := ""
    objectModule := ""
    children := c.children.map Child.unplaced }

def Owner.unplaced (o : Owner) : Owner := { o with objectModule := "" }

def ReferencePart.unplaced (r : ReferencePart) : ReferencePart :=
  { r with file := "", module := "", objectModule := "", owners := r.owners.map Owner.unplaced }

def Entry.unplaced (e : Entry) : Entry :=
  { e with
    client := e.client.unplaced
    reader := e.reader.unplaced
    object := e.object.unplaced
    reference? := e.reference?.map ReferencePart.unplaced }

def Branch.unplaced (b : Branch) : Branch :=
  { b with package := "", location := "", file := "", entries := b.entries.map Entry.unplaced }

/-- A tree without places. It has the identities, names, scopes, list kinds and links of the tree,
with the methods and functions of the links, and the dropped references. -/
def unplaced (t : Tree) : Tree :=
  { t with location := "", file := "", package := "", branches := t.branches.map Branch.unplaced }

/-! ### Trees of two layouts -/

section Layouts

variable (layout layout' : Layout) (specs : List Resource) (o : Resource)

lemma entryOf_object_unplaced :
    (entryOf layout o).object.unplaced = (entryOf layout' o).object.unplaced := by
  simp only [entryOf, Entry.of, ObjectPart.of, ObjectPart.unplaced]

lemma entryOf_reader_unplaced :
    (entryOf layout o).reader.unplaced = (entryOf layout' o).reader.unplaced := by
  simp only [entryOf, Entry.of, ObjectPart.of, ReaderPart.of, ReaderPart.unplaced]

lemma toChild_unplaced (c : Resource) :
    (linkOf layout o c).toChild.unplaced = (linkOf layout' o c).toChild.unplaced := by
  simp only [Link.toChild, Child.of, Child.unplaced, linkOf, accessorName_eq, lookupName_eq,
    entryOf, Entry.of, ObjectPart.of]

lemma toOwner_unplaced (a : Resource) :
    (linkOf layout a o).toOwner.unplaced = (linkOf layout' a o).toOwner.unplaced := by
  simp only [Link.toOwner, Owner.of, Owner.unplaced, linkOf, lookupName_eq, entryOf, Entry.of,
    ObjectPart.of]

lemma linkedOf_client_unplaced :
    (linkedOf layout specs o).client.unplaced = (linkedOf layout' specs o).client.unplaced := by
  have hchild : (Child.unplaced ∘ fun c => (linkOf layout o c).toChild) =
      Child.unplaced ∘ fun c => (linkOf layout' o c).toChild :=
    funext fun c => toChild_unplaced layout layout' o c
  simp only [linkedOf_client, ClientPart.unplaced, List.map_map, hchild]
  simp only [entryOf, Entry.of, ObjectPart.of, ReaderPart.of, ClientPart.of]

lemma linkedOf_reference?_unplaced :
    (linkedOf layout specs o).reference?.map ReferencePart.unplaced =
      (linkedOf layout' specs o).reference?.map ReferencePart.unplaced := by
  have howner : (Owner.unplaced ∘ fun a => (linkOf layout a o).toOwner) =
      Owner.unplaced ∘ fun a => (linkOf layout' a o).toOwner :=
    funext fun a => toOwner_unplaced layout layout' o a
  rw [linkedOf_reference?, linkedOf_reference?]
  split
  · rfl
  · simp only [Option.map_some, ReferencePart.unplaced, List.map_map, howner]
    simp only [ReferencePart.of, entryOf, Entry.of, ObjectPart.of]

lemma linkedOf_unplaced :
    (linkedOf layout specs o).unplaced = (linkedOf layout' specs o).unplaced := by
  simp only [Entry.unplaced, linkedOf_client_unplaced layout layout',
    linkedOf_reference?_unplaced layout layout', linkedOf_reader, linkedOf_object,
    entryOf_reader_unplaced layout layout', entryOf_object_unplaced layout layout', linkedOf_key,
    linkedOf_names, linkedOf_scope, linkedOf_references]

lemma branchOf_unplaced (gv : String × String) :
    (branchOf layout specs gv).unplaced = (branchOf layout' specs gv).unplaced := by
  have hentry : Entry.unplaced ∘ linkedOf layout specs = Entry.unplaced ∘ linkedOf layout' specs :=
    funext fun o => linkedOf_unplaced layout layout' specs o
  simp only [branchOf, Branch.unplaced, Branch.empty, List.map_map, hentry]

/-- **One tree, many places.** The trees that specs describe under two layouts say the same, places
aside. -/
theorem treeOf_unplaced : (treeOf layout specs).unplaced = (treeOf layout' specs).unplaced := by
  have hbranch :
      Branch.unplaced ∘ branchOf layout specs = Branch.unplaced ∘ branchOf layout' specs :=
    funext fun gv => branchOf_unplaced layout layout' specs gv
  simp only [treeOf, unplaced, empty, List.map_map, hbranch]

end Layouts

end ClientGen.Tree
