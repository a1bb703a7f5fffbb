import ClientGen.Tree.Register
import Mathlib.Data.List.Basic
import Mathlib.Tactic.Lemma

/-!
What becomes of a spec, read off the list of specs alone. The first spec with a directory decides
whose directory it is, and the first one with a file decides whose file it is; a spec that comes
first with both is the one its resource is registered by, and every other spec is merged or refused.
-/

namespace ClientGen.Tree

open Spec

def sameDirectory (a b : Identity) : Bool :=
  Naming.groupSegment a.group == Naming.groupSegment b.group && a.version == b.version

def sameFile (a b : Identity) : Bool :=
  a.group == b.group && a.version == b.version && Naming.stem a.kind == Naming.stem b.kind

/-- The first spec with the directory of a resource. -/
def firstInDirectory? (specs : List Resource) (id : Identity) : Option Resource :=
  specs.find? fun o => sameDirectory o.identity id

/-- The first spec with the group-version and the stem of a resource. -/
def firstInFile? (specs : List Resource) (id : Identity) : Option Resource :=
  specs.find? fun o => sameFile o.identity id

/-- Two specs say the same about their resource. -/
def Agree (a b : Resource) : Prop :=
  sameIgnoringCase a.plural b.plural = true ∧ a.listKind = b.listKind ∧ a.scope = b.scope ∧
    a.statedPackage? = b.statedPackage?

instance (a b : Resource) : Decidable (Agree a b) := by
  unfold Agree
  infer_instance

/-- What is wrong with a spec of a list. -/
def clash? (specs : List Resource) (s : Resource) : Option Category :=
  if (firstInDirectory? specs s.identity).any (·.identity.group != s.identity.group) then
    some .pathCollision
  else if Naming.stem s.identity.kind = "client" then some .pathCollision
  else
    match firstInFile? specs s.identity with
    | none => none
    | some first =>
      if first.identity.kind ≠ s.identity.kind then some .pathCollision
      else if Agree first s then none
      else some .identityConflict

/-- Everything that is wrong with the specs of a list, in order and with its place. -/
def clashes (specs : List Resource) : List (Location × Category) :=
  specs.zipIdx.filterMap fun s => (clash? specs s.1).map fun c => (.resource s.2, c)

/-- The directory of a resource belongs to its group. -/
def OwnsDirectory (specs : List Resource) (id : Identity) : Prop :=
  ∃ o, firstInDirectory? specs id = some o ∧ o.identity.group = id.group

/-- The spec by which its resource is registered. -/
structure Registers (specs : List Resource) (s : Resource) : Prop where
  directory : OwnsDirectory specs s.identity
  stem_ne : Naming.stem s.identity.kind ≠ "client"
  file : firstInFile? specs s.identity = some s

lemma identity_ext {a b : Identity} (hg : a.group = b.group) (hv : a.version = b.version)
    (hk : a.kind = b.kind) : a = b := by
  obtain ⟨g, v, k⟩ := a
  simp only at hg hv hk
  rw [hg, hv, hk]

lemma sameDirectory_self (id : Identity) : sameDirectory id id = true := by simp [sameDirectory]

lemma sameFile_self (id : Identity) : sameFile id id = true := by simp [sameFile]

lemma sameFile_iff {a b : Identity} : sameFile a b = true ↔
    a.group = b.group ∧ a.version = b.version ∧ Naming.stem a.kind = Naming.stem b.kind := by
  simp [sameFile, and_assoc]

lemma sameDirectory_of_groupVersion {a b : Identity} (hg : a.group = b.group)
    (hv : a.version = b.version) : sameDirectory a b = true := by
  simp [sameDirectory, hg, hv]

lemma firstInDirectory?_congr {a b : Identity} (h : sameDirectory a b = true)
    (specs : List Resource) : firstInDirectory? specs a = firstInDirectory? specs b := by
  simp only [sameDirectory, Bool.and_eq_true, beq_iff_eq] at h
  simp only [firstInDirectory?, sameDirectory, h.1, h.2]

lemma firstInFile?_congr {a b : Identity} (h : sameFile a b = true) (specs : List Resource) :
    firstInFile? specs a = firstInFile? specs b := by
  obtain ⟨hg, hv, hs⟩ := sameFile_iff.mp h
  simp only [firstInFile?, sameFile, hg, hv, hs]

lemma firstInFile?_some {specs : List Resource} {id : Identity} {o : Resource}
    (h : firstInFile? specs id = some o) : o ∈ specs ∧ sameFile o.identity id = true :=
  ⟨List.mem_of_find?_eq_some h, by simpa using List.find?_some h⟩

lemma firstInDirectory?_some {specs : List Resource} {id : Identity} {o : Resource}
    (h : firstInDirectory? specs id = some o) : o ∈ specs ∧ sameDirectory o.identity id = true :=
  ⟨List.mem_of_find?_eq_some h, by simpa using List.find?_some h⟩

lemma OwnsDirectory.congr {specs : List Resource} {a b : Identity} (hg : a.group = b.group)
    (hv : a.version = b.version) (h : OwnsDirectory specs a) : OwnsDirectory specs b := by
  obtain ⟨o, ho, hog⟩ := h
  rw [firstInDirectory?_congr (sameDirectory_of_groupVersion hg hv)] at ho
  exact ⟨o, ho, hog.trans hg⟩

lemma OwnsDirectory.eq_group {specs : List Resource} {a b : Identity} (ha : OwnsDirectory specs a)
    (hb : OwnsDirectory specs b) (h : sameDirectory a b = true) : a.group = b.group := by
  obtain ⟨o, ho, hog⟩ := ha
  obtain ⟨o', ho', hog'⟩ := hb
  rw [firstInDirectory?_congr h, ho'] at ho
  obtain rfl := Option.some.inj ho
  exact hog.symm.trans hog'

lemma Registers.mem {specs : List Resource} {s : Resource} (h : Registers specs s) : s ∈ specs :=
  (firstInFile?_some h.file).1

lemma Registers.eq_of_sameFile {specs : List Resource} {s t : Resource} (hs : Registers specs s)
    (ht : Registers specs t) (h : sameFile s.identity t.identity = true) : s = t := by
  have := hs.file
  rw [firstInFile?_congr h, ht.file] at this
  exact (Option.some.inj this).symm

/-! ### One spec more -/

variable {done : List Resource} {s : Resource}

lemma firstInDirectory?_append (id : Identity) (more : List Resource) :
    firstInDirectory? (done ++ more) id
      = (firstInDirectory? done id).or (firstInDirectory? more id) :=
  List.find?_append

lemma firstInFile?_append (id : Identity) (more : List Resource) :
    firstInFile? (done ++ more) id = (firstInFile? done id).or (firstInFile? more id) :=
  List.find?_append

lemma firstInDirectory?_isSome {o : Resource} {id : Identity} (ho : o ∈ done)
    (h : sameDirectory o.identity id = true) : ∃ first, firstInDirectory? done id = some first := by
  rw [← Option.isSome_iff_exists, firstInDirectory?, List.find?_isSome]
  exact ⟨o, ho, h⟩

lemma firstInFile?_isSome {o : Resource} {id : Identity} (ho : o ∈ done)
    (h : sameFile o.identity id = true) : ∃ first, firstInFile? done id = some first := by
  rw [← Option.isSome_iff_exists, firstInFile?, List.find?_isSome]
  exact ⟨o, ho, h⟩

lemma ownsDirectory_append {o : Resource} {id : Identity} (ho : o ∈ done)
    (h : sameDirectory o.identity id = true) (more : List Resource) :
    OwnsDirectory (done ++ more) id ↔ OwnsDirectory done id := by
  obtain ⟨first, hf⟩ := firstInDirectory?_isSome ho h
  simp [OwnsDirectory, firstInDirectory?_append, hf]

lemma owned_append {g v : String} :
    (∃ o ∈ done ++ [s], o.identity.group = g ∧ o.identity.version = v ∧
        OwnsDirectory (done ++ [s]) o.identity) ↔
      (∃ o ∈ done, o.identity.group = g ∧ o.identity.version = v ∧
        OwnsDirectory done o.identity) ∨
      (s.identity.group = g ∧ s.identity.version = v ∧
        OwnsDirectory (done ++ [s]) s.identity) := by
  constructor
  · rintro ⟨o, ho, hg, hv, hown⟩
    rcases List.mem_append.mp ho with ho | ho
    · exact Or.inl ⟨o, ho, hg, hv,
        (ownsDirectory_append ho (sameDirectory_self _) _).mp hown⟩
    · obtain rfl := List.mem_singleton.mp ho
      exact Or.inr ⟨hg, hv, hown⟩
  · rintro (⟨o, ho, hg, hv, hown⟩ | ⟨hg, hv, hown⟩)
    · exact ⟨o, List.mem_append_left _ ho, hg, hv,
        (ownsDirectory_append ho (sameDirectory_self _) _).mpr hown⟩
    · exact ⟨s, by simp, hg, hv, hown⟩

/-- A further spec registers its resource only if the directory is its group's and nobody has its
file; what was registered stays so. -/
lemma registers_append {x : Resource} :
    Registers (done ++ [s]) x ↔ Registers done x ∨
      (x = s ∧ OwnsDirectory (done ++ [s]) s.identity ∧
        Naming.stem s.identity.kind ≠ "client" ∧ firstInFile? done s.identity = none) := by
  constructor
  · rintro ⟨hdir, hstem, hfile⟩
    rw [firstInFile?_append] at hfile
    rcases hd : firstInFile? done x.identity with _ | y
    · rw [hd, Option.none_or] at hfile
      obtain rfl : x = s := List.mem_singleton.mp (firstInFile?_some hfile).1
      exact Or.inr ⟨rfl, hdir, hstem, hd⟩
    · rw [hd, Option.some_or] at hfile
      obtain rfl := Option.some.inj hfile
      have hx := (firstInFile?_some hd).1
      exact Or.inl ⟨(ownsDirectory_append hx (sameDirectory_self _) _).mp hdir, hstem, hd⟩
  · rintro (h | ⟨rfl, hdir, hstem, hnone⟩)
    · refine ⟨(ownsDirectory_append h.mem (sameDirectory_self _) _).mpr h.directory, h.stem_ne, ?_⟩
      rw [firstInFile?_append, h.file, Option.some_or]
    · refine ⟨hdir, hstem, ?_⟩
      rw [firstInFile?_append, hnone, Option.none_or]
      simp [firstInFile?, sameFile_self]

lemma clash?_append (more : List Resource) :
    clash? (done ++ [s] ++ more) s = clash? (done ++ [s]) s := by
  have hs : s ∈ done ++ [s] := by simp
  obtain ⟨d, hd⟩ := firstInDirectory?_isSome hs (sameDirectory_self s.identity)
  obtain ⟨f, hf⟩ := firstInFile?_isSome hs (sameFile_self s.identity)
  simp only [clash?, @firstInDirectory?_append (done ++ [s]), @firstInFile?_append (done ++ [s]),
    hd, hf, Option.some_or]

lemma Agree.refl (a : Resource) : Agree a a := by
  simp [Agree, sameIgnoringCase]

lemma disagreement?_eq_none_iff {a b : Resource} : disagreement? a b = none ↔ Agree a b := by
  unfold disagreement? Agree
  by_cases hp : sameIgnoringCase a.plural b.plural = true <;>
    by_cases hl : a.listKind = b.listKind <;> by_cases hs : a.scope = b.scope <;>
      by_cases hk : a.statedPackage? = b.statedPackage? <;> simp [hp, hl, hs, hk]

lemma registers_of_clash?_eq_none {specs : List Resource} (hs : s ∈ specs)
    (h : clash? specs s = none) : ∃ o, Registers specs o ∧ o.identity = s.identity := by
  obtain ⟨d, hd⟩ := firstInDirectory?_isSome hs (sameDirectory_self s.identity)
  obtain ⟨f, hf⟩ := firstInFile?_isSome hs (sameFile_self s.identity)
  rw [clash?, hd, hf, Option.any_some] at h
  split at h
  · cases h
  next hdir =>
  split at h
  · cases h
  next hstem =>
  dsimp only at h
  split at h
  · cases h
  next hkind =>
  obtain ⟨-, hsame⟩ := firstInFile?_some hf
  obtain ⟨hg, hv, hst⟩ := sameFile_iff.mp hsame
  have hown : OwnsDirectory specs s.identity := ⟨d, hd, by simpa using hdir⟩
  refine ⟨f, ⟨hown.congr hg.symm hv.symm, by rwa [hst], by rw [firstInFile?_congr hsame, hf]⟩, ?_⟩
  exact identity_ext hg hv (by simpa using hkind)

lemma clash?_eq_none_of_clashes {specs : List Resource} (h : clashes specs = [])
    (hs : s ∈ specs) : clash? specs s = none := by
  obtain ⟨i, hi, rfl⟩ := List.mem_iff_getElem.mp hs
  have hmem : (specs[i], i) ∈ specs.zipIdx := List.mk_mem_zipIdx_iff_getElem?.mpr (by simp [hi])
  simpa using List.filterMap_eq_nil_iff.mp h _ hmem

lemma registers_of_clashes {specs : List Resource} (h : clashes specs = []) (hs : s ∈ specs) :
    ∃ o, Registers specs o ∧ o.identity = s.identity :=
  registers_of_clash?_eq_none hs (clash?_eq_none_of_clashes h hs)

end ClientGen.Tree
