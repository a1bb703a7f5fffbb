import ClientGen.Spec.Validation
import ClientGen.Proofs.Naming.Module
import ClientGen.Proofs.Path.Components

/-!
Where no field has an issue, every identity is valid, and the directory and the files of a valid
identity have names over small letters, digits and underscores.
-/

namespace ClientGen.Spec

open Text Naming

/-- Every field of an identity has its form. -/
structure Identity.IsValid (id : Identity) : Prop where
  group : hasName id.group = true
  version : isVersion id.version = true
  kind : isIdentifier id.kind = true

/-- The identity of a resource and those of the resources that it owns are valid. -/
structure Resource.IsValid (r : Resource) : Prop where
  identity : r.identity.IsValid
  references : ∀ ref ∈ r.references, ref.identity.IsValid

lemma good_of_requiredProblem? {field : Field} {value : String} {good : Bool} {p : Problem}
    (h : requiredProblem? field value good p = none) : good = true := by
  unfold requiredProblem? at h
  split at h
  · simp at h
  · split at h
    · assumption
    · simp at h

lemma isValid_of_identityProblems {id : Identity} (h : identityProblems id = []) : id.IsValid := by
  simp only [identityProblems, List.append_eq_nil_iff, Option.toList_eq_nil_iff] at h
  exact ⟨good_of_requiredProblem? h.1.1, good_of_requiredProblem? h.1.2,
    good_of_requiredProblem? h.2⟩

/-- No field of a spec has a problem. -/
structure Resource.IsClean (r : Resource) : Prop where
  problems : r.problems = []
  references : ∀ ref ∈ r.references, identityProblems ref.identity = []

lemma referenceIssues_eq_nil_iff {index sub : Nat} {refs : List Reference} :
    referenceIssues index sub refs = [] ↔ ∀ ref ∈ refs, identityProblems ref.identity = [] := by
  induction refs generalizing sub with
  | nil => simp [referenceIssues]
  | cons r rs ih =>
    rw [referenceIssues, List.append_eq_nil_iff, List.map_eq_nil_iff, ih, List.forall_mem_cons]

lemma resourceIssues_eq_nil_iff {index : Nat} {r : Resource} :
    r.issues index = [] ↔ r.IsClean := by
  rw [Resource.issues, List.append_eq_nil_iff, List.map_eq_nil_iff, referenceIssues_eq_nil_iff]
  exact ⟨fun h => ⟨h.1, h.2⟩, fun h => ⟨h.problems, h.references⟩⟩

lemma issuesFrom_eq_nil_iff {index : Nat} {specs : List Resource} :
    issuesFrom index specs = [] ↔ ∀ s ∈ specs, s.IsClean := by
  induction specs generalizing index with
  | nil => simp [issuesFrom]
  | cons r rs ih =>
    rw [issuesFrom, List.append_eq_nil_iff, resourceIssues_eq_nil_iff, ih, List.forall_mem_cons]

lemma issues_eq_nil_iff {specs : List Resource} : issues specs = [] ↔ ∀ s ∈ specs, s.IsClean :=
  issuesFrom_eq_nil_iff

/-- A problem of one field, not one that two specs have with each other. -/
def Problem.IsOfField (p : Problem) : Prop :=
  p.category = .missingField ∨ p.category = .invalidIdentifier

lemma isOfField_of_requiredProblem? {field : Field} {value : String} {good : Bool}
    {otherwise p : Problem} (h : requiredProblem? field value good otherwise = some p)
    (hotherwise : otherwise.IsOfField) : p.IsOfField := by
  rw [requiredProblem?] at h
  split at h
  · cases h
    exact Or.inl rfl
  · split at h <;> cases h
    exact hotherwise

lemma isOfField_of_mem_identityProblems {id : Identity} {p : Problem}
    (h : p ∈ identityProblems id) : p.IsOfField := by
  simp only [identityProblems, List.mem_append, Option.mem_toList] at h
  rcases h with (h | h) | h <;> exact isOfField_of_requiredProblem? h (Or.inr rfl)

lemma isOfField_of_mem_problems {r : Resource} {p : Problem} (h : p ∈ r.problems) :
    p.IsOfField := by
  simp only [Resource.problems, List.mem_append, Option.mem_toList] at h
  rcases h with (h | h) | h
  · exact isOfField_of_mem_identityProblems h
  · exact isOfField_of_requiredProblem? h (Or.inr rfl)
  · rcases hkind : r.listKind? with _ | kind
    · rw [hkind] at h
      cases h
    · rw [hkind, listKindProblem?] at h
      split at h <;> cases h
      exact Or.inr rfl

lemma isOfField_of_mem_referenceIssues {index sub : Nat} {refs : List Reference} {issue : Issue}
    (h : issue ∈ referenceIssues index sub refs) : issue.problem.IsOfField := by
  induction refs generalizing sub with
  | nil => cases h
  | cons r rs ih =>
    rcases List.mem_append.mp h with h | h
    · obtain ⟨p, hp, rfl⟩ := List.mem_map.mp h
      exact isOfField_of_mem_identityProblems hp
    · exact ih h

lemma isOfField_of_mem_issuesFrom {index : Nat} {specs : List Resource} {issue : Issue}
    (h : issue ∈ issuesFrom index specs) : issue.problem.IsOfField := by
  induction specs generalizing index with
  | nil => cases h
  | cons r rs ih =>
    rcases List.mem_append.mp h with h | h
    · rcases List.mem_append.mp h with h | h
      · obtain ⟨p, hp, rfl⟩ := List.mem_map.mp h
        exact isOfField_of_mem_problems hp
      · exact isOfField_of_mem_referenceIssues h
    · exact ih h

lemma isOfField_of_mem_issues {specs : List Resource} {issue : Issue} (h : issue ∈ issues specs) :
    issue.problem.IsOfField :=
  isOfField_of_mem_issuesFrom h

lemma Resource.IsClean.isValid {r : Resource} (h : r.IsClean) : r.IsValid := by
  have hp := h.problems
  rw [Resource.problems, List.append_eq_nil_iff, List.append_eq_nil_iff] at hp
  exact ⟨isValid_of_identityProblems hp.1.1,
    fun ref href => isValid_of_identityProblems (h.references ref href)⟩

lemma isValid_of_issues {specs : List Resource} (h : issues specs = []) : ∀ s ∈ specs, s.IsValid :=
  fun s hs => (issues_eq_nil_iff.mp h s hs).isValid

/-! ### The names of a valid identity -/

lemma ne_slash_of_isSegmentChar {c : Char} (h : isSegmentChar c = true) : c ≠ '/' ∧ c ≠ '.' := by
  constructor <;> rintro rfl <;> exact absurd h (by decide)

lemma isName_of_isSegmentChar {s : String} (hne : s ≠ "")
    (h : ∀ c ∈ s.toList, isSegmentChar c = true) : Path.IsName s where
  ne_empty := hne
  ne_dot := by
    rintro rfl
    exact (ne_slash_of_isSegmentChar (h '.' (by simp))).2 rfl
  ne_dots := by
    rintro rfl
    exact (ne_slash_of_isSegmentChar (h '.' (by simp))).2 rfl
  no_slash := fun hc => (ne_slash_of_isSegmentChar (h _ hc)).1 rfl

variable {id : Identity}

lemma isSmall_of_mem_version {v : String} (h : isVersion v = true) :
    v ≠ "" ∧ ∀ c ∈ v.toList, isSmall c = true := by
  rw [isVersion] at h
  split at h
  · simp at h
  · next c cs hv =>
    rw [Bool.and_eq_true, List.all_eq_true] at h
    refine ⟨fun he => by simp [he] at hv, fun d hd => ?_⟩
    rw [hv] at hd
    rcases List.mem_cons.mp hd with rfl | hd
    · simp [isSmall, h.1]
    · exact h.2 d hd

lemma isAlphanum_of_mem_identifier {k : String} (h : isIdentifier k = true) :
    k ≠ "" ∧ ∀ c ∈ k.toList, c.isAlphanum = true := by
  rw [isIdentifier] at h
  split at h
  · simp at h
  · next c cs hk =>
    rw [Bool.and_eq_true, List.all_eq_true] at h
    refine ⟨fun he => by simp [he] at hk, fun d hd => ?_⟩
    rw [hk] at hd
    rcases List.mem_cons.mp hd with rfl | hd
    · simp [Char.isAlphanum, h.1]
    · exact h.2 d hd

lemma Resource.IsClean.isAlphanum_plural {r : Resource} (h : r.IsClean) :
    r.plural ≠ "" ∧ ∀ c ∈ r.plural.toList, c.isAlphanum = true := by
  have hp := h.problems
  rw [Resource.problems, List.append_eq_nil_iff, List.append_eq_nil_iff] at hp
  exact isAlphanum_of_mem_identifier
    (good_of_requiredProblem? (Option.toList_eq_nil_iff.mp hp.1.2))

lemma Identity.IsValid.isName_segment (h : id.IsValid) : Path.IsName (groupSegment id.group) :=
  isName_of_isSegmentChar (groupSegment_ne_empty h.group) fun _ => isSegmentChar_of_mem_groupSegment

lemma Identity.IsValid.isName_version (h : id.IsValid) : Path.IsName id.version :=
  isName_of_isSegmentChar (isSmall_of_mem_version h.version).1 fun c hc => by
    simp [isSegmentChar, (isSmall_of_mem_version h.version).2 c hc]

lemma Identity.IsValid.stem_ne_empty (h : id.IsValid) : stem id.kind ≠ "" := by
  intro he
  have hs := toList_stem (isAlphanum_of_mem_identifier h.kind).2
  rw [he] at hs
  exact (isAlphanum_of_mem_identifier h.kind).1 (by simpa using hs.symm)

lemma Identity.IsValid.isSmall_stem (h : id.IsValid) :
    ∀ c ∈ (stem id.kind).toList, isSmall c = true :=
  fun _ => isSmall_of_mem_stem (isAlphanum_of_mem_identifier h.kind).2

/-- Two valid identities with one text for their group-versions are of one group-version. -/
lemma Identity.IsValid.groupVersion_inj {other : Identity} (h : id.IsValid) (h' : other.IsValid) :
    id.groupVersion = other.groupVersion ↔ id.group = other.group ∧ id.version = other.version :=
  groupVersionLabel_inj h.isName_version.no_slash h'.isName_version.no_slash

end ClientGen.Spec
