/-!
What a disk holds: files, directories and symbolic links, each at a place. A disk is looked at
through `get?`; the lemmas say what each change does to that view.

No two places share one file. On a disk with hard links, what is written to a file that is there
would show under its other names, too. So where it is proved that writing one file leaves all else
alone (Proofs/Disk/Sparing, Proofs/Disk/Modes), that is proved of disks without hard links.
-/

namespace ClientGen

/-- The names on the way from something up to the root, its own name first. -/
abbrev Place := List String

/-- What is found at a place. -/
inductive Disk.Node where
  | file (content : ByteArray)
  | directory
  | link (target : String)
  /-- A file that swallows what is written to it. -/
  | device
  /-- A program that comes with the system. -/
  | program (name : String)
  deriving BEq

/-- A disk, as seen from one of its directories. Each place has a file of its own: there are no hard
links. -/
structure Disk where
  /-- The directory in which relative paths begin. -/
  current : Place
  /-- What the disk holds. The root is not listed. -/
  entries : List (Place × Disk.Node)

namespace Disk

/-- What is at a place. The root is a directory. -/
def get? (d : Disk) : Place → Option Node
  | [] => some .directory
  | name :: above => d.entries.lookup (name :: above)

def insert (d : Disk) (place : Place) (node : Node) : Disk :=
  { d with entries := (place, node) :: d.entries.filter fun e => e.1 != place }

def erase (d : Disk) (place : Place) : Disk :=
  { d with entries := d.entries.filter fun e => e.1 != place }

def eraseAll (d : Disk) (place : Place) : Disk :=
  { d with entries := d.entries.filter fun e => !place.isSuffixOf e.1 }

/-- A disk with nothing on it but the current directory and those above it. -/
def empty (current : Place) : Disk where
  current := current
  entries := (List.range current.length).map fun n => (current.drop n, .directory)

/-- The directory of the programs that come with the system. -/
def programDirectory : Place := ["bin", "usr"]

def ofSystem (current : Place) (programs : List String) : Disk where
  current := current
  entries := (empty current).entries
    ++ [(["dev"], .directory), (["null", "dev"], .device), (["usr"], .directory),
      (programDirectory, .directory), (["bin"], .link "usr/bin"), (["tmp"], .directory),
      (["etc"], .directory), (["root"], .directory)]
    ++ programs.map fun name => (name :: programDirectory, .program name)

theorem lookup_filter_ne (entries : List (Place × Node)) {place other : Place} (h : other ≠ place) :
    (entries.filter fun e => e.1 != place).lookup other = entries.lookup other := by
  induction entries with
  | nil => rfl
  | cons e rest ih =>
    obtain ⟨p, node⟩ := e
    by_cases hp : p = place
    · subst hp
      have hb : (other == p) = false := beq_eq_false_iff_ne.mpr h
      simpa [List.lookup_cons, hb] using ih
    · simp only [List.filter_cons, bne_iff_ne, ne_eq, hp, not_false_eq_true, if_true,
        List.lookup_cons, ih]

theorem lookup_filter_self (entries : List (Place × Node)) (place : Place) :
    (entries.filter fun e => e.1 != place).lookup place = none := by
  induction entries with
  | nil => rfl
  | cons e rest ih =>
    obtain ⟨p, node⟩ := e
    by_cases hp : p = place
    · simpa [hp] using ih
    · have hb : (place == p) = false := beq_eq_false_iff_ne.mpr (Ne.symm hp)
      simp only [List.filter_cons, bne_iff_ne, ne_eq, hp, not_false_eq_true, if_true,
        List.lookup_cons, hb, ih]

theorem get?_insert (d : Disk) (name : String) (above other : Place) (node : Node) :
    (d.insert (name :: above) node).get? other
      = if other = name :: above then some node else d.get? other := by
  cases other with
  | nil => simp [get?]
  | cons n a =>
    by_cases h : n :: a = name :: above
    · simp [get?, insert, h]
    · have hb : (n :: a == name :: above) = false := by simpa using h
      simp only [get?, insert, List.lookup_cons, hb, lookup_filter_ne _ h, h, if_false]

theorem get?_erase (d : Disk) (name : String) (above other : Place) :
    (d.erase (name :: above)).get? other
      = if other = name :: above then none else d.get? other := by
  cases other with
  | nil => simp [get?]
  | cons n a =>
    by_cases h : n :: a = name :: above
    · simp only [get?, erase, h, lookup_filter_self, if_true]
    · simp only [get?, erase, lookup_filter_ne _ h, h, if_false]

end Disk

end ClientGen
