import ClientGen.Proofs.Spec.Validity
import ClientGen.Proofs.Text.Cut
import Mathlib.Computability.Language

/-!
The grammar of the fields of a spec, and what is reported about those that break it. The texts of a
field are a regular language; a list of specs is a list of fields, each at its place, and its issues
are one for each field whose text is not in the language, in the order of the fields.
-/

namespace ClientGen.Spec

open Text
open scoped Computability

/-! ### The languages of the fields -/

def oneOf (p : Char → Prop) : Language Char := {w | ∃ c, p c ∧ w = [c]}

def range (first last : Char) : Language Char := oneOf fun c => first ≤ c ∧ c ≤ last

def letters : Language Char := range 'A' 'Z' + range 'a' 'z'

def digits : Language Char := range '0' '9'

/-- A letter, then letters and digits. -/
def identifiers : Language Char := letters * (letters + digits)∗

/-- A small letter, then small letters and digits. -/
def versions : Language Char := range 'a' 'z' * (range 'a' 'z' + digits)∗

variable {p q : Char → Prop} {w : List Char} {c : Char} {v : String}

lemma oneOf_add : oneOf p + oneOf q = oneOf fun c => p c ∨ q c := by
  ext w
  rw [Language.mem_add]
  constructor
  · rintro (⟨c, hc, rfl⟩ | ⟨c, hc, rfl⟩)
    · exact ⟨c, Or.inl hc, rfl⟩
    · exact ⟨c, Or.inr hc, rfl⟩
  · rintro ⟨c, hc | hc, rfl⟩
    · exact Or.inl ⟨c, hc, rfl⟩
    · exact Or.inr ⟨c, hc, rfl⟩

lemma mem_oneOf_mul_kstar :
    w ∈ oneOf p * (oneOf q)∗ ↔ ∃ c cs, w = c :: cs ∧ p c ∧ ∀ d ∈ cs, q d := by
  rw [Language.mem_mul]
  constructor
  · rintro ⟨_, ⟨c, hc, rfl⟩, cs, hcs, rfl⟩
    obtain ⟨words, rfl, hwords⟩ := Language.mem_kstar.mp hcs
    refine ⟨c, words.flatten, rfl, hc, fun d hd => ?_⟩
    obtain ⟨word, hword, hd⟩ := List.mem_flatten.mp hd
    obtain ⟨d', hq, rfl⟩ := hwords word hword
    rwa [List.mem_singleton.mp hd]
  · rintro ⟨c, cs, rfl, hc, hcs⟩
    refine ⟨[c], ⟨c, hc, rfl⟩, cs, Language.mem_kstar.mpr ⟨cs.map fun d => [d], ?_, ?_⟩, rfl⟩
    · rw [← List.flatMap_def, List.flatMap_singleton']
    · intro word hword
      obtain ⟨d, hd, rfl⟩ := List.mem_map.mp hword
      exact ⟨d, hcs d hd, rfl⟩

lemma range_iff {first last : Char} :
    first ≤ c ∧ c ≤ last ↔ first.toNat ≤ c.toNat ∧ c.toNat ≤ last.toNat := by
  rw [Char.le_def, Char.le_def, UInt32.le_iff_toNat_le, UInt32.le_iff_toNat_le]
  rfl

lemma upper_range : 'A' ≤ c ∧ c ≤ 'Z' ↔ c.isUpper = true :=
  range_iff.trans isUpper_iff.symm

lemma lower_range : 'a' ≤ c ∧ c ≤ 'z' ↔ c.isLower = true :=
  range_iff.trans isLower_iff.symm

lemma digit_range : '0' ≤ c ∧ c ≤ '9' ↔ c.isDigit = true :=
  range_iff.trans isDigit_iff.symm

lemma isAlpha_iff : c.isAlpha = true ↔ c.isUpper = true ∨ c.isLower = true := by
  change (c.isUpper || c.isLower) = true ↔ _
  rw [Bool.or_eq_true]

lemma letters_eq : letters = oneOf fun c => c.isAlpha = true := by
  simp only [letters, range, oneOf_add, upper_range, lower_range, isAlpha_iff]

lemma letters_add_digits : letters + digits = oneOf fun c => c.isAlphanum = true := by
  simp only [letters_eq, digits, range, oneOf_add, digit_range, isAlpha_iff, isAlphanum_iff,
    or_assoc]

lemma mem_identifiers : v.toList ∈ identifiers ↔ isIdentifier v = true := by
  rw [identifiers, letters_add_digits, letters_eq, mem_oneOf_mul_kstar, isIdentifier]
  rcases v.toList with _ | ⟨c, cs⟩
  · simp
  · simp [List.all_eq_true]

lemma mem_versions : v.toList ∈ versions ↔ isVersion v = true := by
  simp only [versions, digits, range, oneOf_add, mem_oneOf_mul_kstar, lower_range, digit_range,
    isVersion]
  rcases v.toList with _ | ⟨c, cs⟩
  · simp
  · simp [List.all_eq_true]

lemma exists_mem_letters : (∃ c ∈ v.toList, [c] ∈ letters + digits) ↔ hasName v = true := by
  rw [letters_add_digits, hasName, List.any_eq_true]
  refine exists_congr fun c => and_congr_right fun _ => ⟨?_, fun hc => ⟨c, hc, rfl⟩⟩
  rintro ⟨d, hd, he⟩
  rwa [List.singleton_inj.mp he]

def Field.Accepts : Field → String → Prop
  | .group, v => ∃ c ∈ v.toList, [c] ∈ letters + digits
  | .version, v => v.toList ∈ versions
  | .kind, v => v.toList ∈ identifiers
  | .plural, v => v.toList ∈ identifiers
  | .listKind, v => v = "" ∨ v.toList ∈ identifiers

def Field.accepts : Field → String → Bool
  | .group, v => hasName v
  | .version, v => isVersion v
  | .kind, v => isIdentifier v
  | .plural, v => isIdentifier v
  | .listKind, v => v.isEmpty || isIdentifier v

lemma Field.accepts_iff (field : Field) : field.accepts v = true ↔ field.Accepts v := by
  cases field with
  | group => exact exists_mem_letters.symm
  | version => exact mem_versions.symm
  | kind => exact mem_identifiers.symm
  | plural => exact mem_identifiers.symm
  | listKind => rw [accepts, Accepts, Bool.or_eq_true, String.isEmpty_iff, mem_identifiers]

instance (field : Field) (v : String) : Decidable (field.Accepts v) :=
  decidable_of_iff _ field.accepts_iff

/-! ### The fields of a list of specs -/

/-- A field with its text, and with the place of the spec or reference that it belongs to. -/
structure Asked where
  location : Location
  field : Field
  value : String

def Identity.fields (id : Identity) : List (Field × String) :=
  [(.group, id.group), (.version, id.version), (.kind, id.kind)]

/-- The fields of a spec itself, in order. A list kind may be absent. -/
def Resource.fields (r : Resource) : List (Field × String) :=
  r.identity.fields ++ (.plural, r.plural) :: r.listKind?.toList.map (Prod.mk .listKind)

def askedAt (location : Location) (fields : List (Field × String)) : List Asked :=
  fields.map fun x => ⟨location, x.1, x.2⟩

/-- The fields of a list of specs: for each spec its own, and then those of its references. -/
def askedOf (specs : List Resource) : List Asked :=
  specs.zipIdx.flatMap fun (r, i) => askedAt (.resource i) r.fields ++
    r.references.zipIdx.flatMap fun (ref, j) => askedAt (.reference i j) ref.identity.fields

structure Identity.IsGrammatical (id : Identity) : Prop where
  group : ∃ c ∈ id.group.toList, [c] ∈ letters + digits
  version : id.version.toList ∈ versions
  kind : id.kind.toList ∈ identifiers

/-- Every field of a spec and of its references is in its language. -/
structure Resource.IsGrammatical (r : Resource) : Prop where
  identity : r.identity.IsGrammatical
  plural : r.plural.toList ∈ identifiers
  listKind : ∀ kind ∈ r.listKind?, kind = "" ∨ kind.toList ∈ identifiers
  references : ∀ ref ∈ r.references, ref.identity.IsGrammatical

/-! ### What is reported -/

/-- A field is missing if its text is blank. A list kind is never missing. -/
def Asked.IsMissing (a : Asked) : Prop :=
  a.field ≠ .listKind ∧ Text.trim a.value = ""

instance (a : Asked) : Decidable a.IsMissing :=
  inferInstanceAs (Decidable (_ ∧ _))

/-- The problem of a text that is there and is not accepted. -/
def Field.malformed : Field → String → Problem
  | .group, v => .namelessGroup v
  | .version, v => .badVersion v
  | field, v => .badIdentifier field v

/-- The issue of a field with a text that is not accepted. -/
def Asked.issue (a : Asked) : Issue :=
  ⟨a.location, if a.IsMissing then .missing a.field else a.field.malformed a.value⟩

lemma trim_eq_empty_iff : Text.trim v = "" ↔ isBlankText v = true := by
  rw [Text.trim, ← String.toList_inj, String.toList_ofList, isBlankText, List.all_eq_true]
  exact trimWhere_eq_nil_iff

lemma not_isBlank_of_isAlphanum (h : c.isAlphanum = true) : isBlank c = false := by
  have hbound : 48 ≤ c.toNat ∧ c.toNat ≤ 122 := by
    rw [isAlphanum_iff, isUpper_iff, isLower_iff, isDigit_iff] at h
    omega
  simp only [isBlank, Bool.or_eq_false_iff, Bool.and_eq_false_iff, decide_eq_false_iff_not,
    beq_eq_false_iff_ne]
  omega

lemma Field.exists_isAlphanum {field : Field} (hfield : field ≠ .listKind)
    (h : field.accepts v = true) : ∃ c ∈ v.toList, c.isAlphanum = true := by
  have hany : ∀ {s : String}, s ≠ "" → (∀ c ∈ s.toList, c.isAlphanum = true) →
      ∃ c ∈ s.toList, c.isAlphanum = true := by
    intro s hne hall
    obtain ⟨c, cs, hs⟩ := List.exists_cons_of_ne_nil (String.toList_eq_nil_iff.not.mpr hne)
    have hmem : c ∈ s.toList := hs ▸ List.mem_cons_self
    exact ⟨c, hmem, hall c hmem⟩
  cases field with
  | group => simpa [accepts, hasName] using h
  | version =>
    refine hany (isSmall_of_mem_version h).1 fun c hc => ?_
    have hsmall := (isSmall_of_mem_version h).2 c hc
    rw [isSmall, Bool.or_eq_true] at hsmall
    rcases hsmall with hlower | hdigit
    · exact isAlphanum_iff.mpr (Or.inr (Or.inl hlower))
    · exact isAlphanum_iff.mpr (Or.inr (Or.inr hdigit))
  | kind => exact hany (isAlphanum_of_mem_identifier h).1 (isAlphanum_of_mem_identifier h).2
  | plural => exact hany (isAlphanum_of_mem_identifier h).1 (isAlphanum_of_mem_identifier h).2
  | listKind => exact absurd rfl hfield

lemma Field.not_blank {field : Field} (hfield : field ≠ .listKind)
    (h : field.accepts v = true) : isBlankText v = false := by
  obtain ⟨c, hc, halnum⟩ := field.exists_isAlphanum hfield h
  rw [isBlankText, List.all_eq_false]
  exact ⟨c, hc, by simp [not_isBlank_of_isAlphanum halnum]⟩

def reported (asked : List Asked) : List Issue :=
  (asked.filter fun a => ¬ a.field.Accepts a.value).map Asked.issue

lemma reported_append (as bs : List Asked) : reported (as ++ bs) = reported as ++ reported bs := by
  rw [reported, List.filter_append, List.map_append]
  rfl

lemma reported_one (location : Location) (field : Field) (v : String) :
    reported (askedAt location [(field, v)]) =
      if field.accepts v then [] else [Asked.issue ⟨location, field, v⟩] := by
  have h := field.accepts_iff (v := v)
  by_cases ha : field.accepts v = true
  · simp [reported, askedAt, ha, h.mp ha]
  · simp [reported, askedAt, ha, mt h.mpr ha]

lemma reported_required (location : Location) (field : Field) (hfield : field ≠ .listKind)
    (v : String) : reported (askedAt location [(field, v)]) =
      (requiredProblem? field v (field.accepts v) (field.malformed v)).toList.map
        (Issue.mk location) := by
  rw [reported_one, requiredProblem?]
  by_cases hb : isBlankText v = true
  · -- a blank text is not accepted either, so it has this one issue only
    have hno : field.accepts v = false := by
      by_contra ha
      rw [Field.not_blank hfield (by simpa using ha)] at hb
      cases hb
    have hmissing : Asked.IsMissing ⟨location, field, v⟩ := ⟨hfield, trim_eq_empty_iff.mpr hb⟩
    simp [hno, hb, Asked.issue, hmissing]
  · have hthere : ¬ Asked.IsMissing ⟨location, field, v⟩ := fun hm => hb (trim_eq_empty_iff.mp hm.2)
    rw [if_neg hb, Asked.issue, if_neg hthere]
    split <;> rfl

lemma reported_listKind (location : Location) (kind? : Option String) :
    reported (askedAt location (kind?.toList.map (Prod.mk .listKind))) =
      (listKindProblem? kind?).toList.map (Issue.mk location) := by
  rcases kind? with _ | kind
  · rfl
  · have hthere : ¬ Asked.IsMissing ⟨location, .listKind, kind⟩ := fun hm => hm.1 rfl
    rw [Option.toList_some, List.map_singleton, reported_one, listKindProblem?, Asked.issue,
      if_neg hthere, Field.accepts]
    split <;> rfl

lemma reported_identity (location : Location) (id : Identity) :
    reported (askedAt location id.fields) = (identityProblems id).map (Issue.mk location) := by
  have hgroup := reported_required location .group (by decide) id.group
  have hversion := reported_required location .version (by decide) id.version
  have hkind := reported_required location .kind (by decide) id.kind
  rw [identityProblems, List.map_append, List.map_append]
  change reported (askedAt location [_] ++ askedAt location [_] ++ askedAt location [_]) = _
  rw [reported_append, reported_append, hgroup, hversion, hkind]
  rfl

lemma reported_resource (location : Location) (r : Resource) :
    reported (askedAt location r.fields) = r.problems.map (Issue.mk location) := by
  have hplural := reported_required location .plural (by decide) r.plural
  have hsplit : askedAt location r.fields = askedAt location r.identity.fields ++
      (askedAt location [(.plural, r.plural)] ++
        askedAt location (r.listKind?.toList.map (Prod.mk .listKind))) := by
    simp [askedAt, Resource.fields]
  rw [hsplit, reported_append, reported_append, reported_identity, hplural, reported_listKind,
    Resource.problems, List.map_append, List.map_append, List.append_assoc]
  rfl

lemma reported_references (index sub : Nat) (refs : List Reference) :
    reported ((refs.zipIdx sub).flatMap fun (ref, j) =>
      askedAt (.reference index j) ref.identity.fields) = referenceIssues index sub refs := by
  induction refs generalizing sub with
  | nil => rfl
  | cons r rs ih =>
    rw [List.zipIdx_cons, List.flatMap_cons, reported_append, ih, reported_identity,
      referenceIssues]

lemma reported_from (index : Nat) (specs : List Resource) :
    reported ((specs.zipIdx index).flatMap fun (r, i) => askedAt (.resource i) r.fields ++
      r.references.zipIdx.flatMap fun (ref, j) => askedAt (.reference i j) ref.identity.fields) =
        issuesFrom index specs := by
  induction specs generalizing index with
  | nil => rfl
  | cons r rs ih =>
    rw [List.zipIdx_cons, List.flatMap_cons, reported_append, ih, reported_append,
      reported_resource, reported_references, issuesFrom, Resource.issues]

/-! ### What is accepted -/

lemma requiredProblem?_eq_none_iff (field : Field) (hfield : field ≠ .listKind) {p : Problem} :
    requiredProblem? field v (field.accepts v) p = none ↔ field.Accepts v := by
  rw [← field.accepts_iff]
  refine ⟨good_of_requiredProblem?, fun h => ?_⟩
  rw [requiredProblem?, if_neg (by simp [Field.not_blank hfield h]), if_pos h]

lemma identityProblems_eq_nil_iff {id : Identity} :
    identityProblems id = [] ↔ id.IsGrammatical := by
  rw [identityProblems, List.append_eq_nil_iff, List.append_eq_nil_iff, Option.toList_eq_nil_iff,
    Option.toList_eq_nil_iff, Option.toList_eq_nil_iff]
  have hgroup := requiredProblem?_eq_none_iff (v := id.group) .group (by decide)
    (p := .namelessGroup id.group)
  have hversion := requiredProblem?_eq_none_iff (v := id.version) .version (by decide)
    (p := .badVersion id.version)
  have hkind := requiredProblem?_eq_none_iff (v := id.kind) .kind (by decide)
    (p := .badIdentifier .kind id.kind)
  exact ⟨fun h => ⟨hgroup.mp h.1.1, hversion.mp h.1.2, hkind.mp h.2⟩,
    fun h => ⟨⟨hgroup.mpr h.group, hversion.mpr h.version⟩, hkind.mpr h.kind⟩⟩

lemma listKindProblem?_eq_none_iff {kind? : Option String} :
    listKindProblem? kind? = none ↔ ∀ kind ∈ kind?, kind = "" ∨ kind.toList ∈ identifiers := by
  rcases kind? with _ | kind
  · simp [listKindProblem?]
  · have h := Field.accepts_iff .listKind (v := kind)
    have hall : (∀ k ∈ some kind, k = "" ∨ k.toList ∈ identifiers) ↔
        Field.Accepts .listKind kind :=
      ⟨fun hk => hk kind rfl, fun hk k he => Option.mem_some_iff.mp he ▸ hk⟩
    rw [hall, ← h, listKindProblem?, Field.accepts]
    split <;> simp_all

lemma Resource.isClean_iff {r : Resource} : r.IsClean ↔ r.IsGrammatical := by
  have hplural := requiredProblem?_eq_none_iff (v := r.plural) .plural (by decide)
    (p := .badIdentifier .plural r.plural)
  have hproblems : r.problems = [] ↔ (r.identity.IsGrammatical ∧ r.plural.toList ∈ identifiers) ∧
      ∀ kind ∈ r.listKind?, kind = "" ∨ kind.toList ∈ identifiers := by
    rw [Resource.problems, List.append_eq_nil_iff, List.append_eq_nil_iff,
      identityProblems_eq_nil_iff, Option.toList_eq_nil_iff, Option.toList_eq_nil_iff,
      listKindProblem?_eq_none_iff]
    exact and_congr_left fun _ => and_congr_right fun _ => hplural
  constructor
  · intro h
    obtain ⟨⟨hidentity, hplural⟩, hlistKind⟩ := hproblems.mp h.problems
    exact ⟨hidentity, hplural, hlistKind, fun ref href =>
      identityProblems_eq_nil_iff.mp (h.references ref href)⟩
  · intro h
    exact ⟨hproblems.mpr ⟨⟨h.identity, h.plural⟩, h.listKind⟩, fun ref href =>
      identityProblems_eq_nil_iff.mpr (h.references ref href)⟩

/-- **The fields of a list of specs.** Nothing is reported just if every field has the form that its
grammar asks for. In general there is one issue for each field that has not, in the order of the
fields, and it says that the field is missing just if its text is blank. -/
theorem issues_report (specs : List Resource) :
    (issues specs = [] ↔ ∀ s ∈ specs, s.IsGrammatical) ∧
      issues specs = reported (askedOf specs) ∧
      ∀ a : Asked, a.issue.location = a.location ∧ a.issue.problem.category =
        if a.IsMissing then .missingField else .invalidIdentifier := by
  refine ⟨?_, (reported_from 0 specs).symm, fun a => ⟨rfl, ?_⟩⟩
  · rw [issues_eq_nil_iff]
    exact forall₂_congr fun s _ => s.isClean_iff
  · rw [Asked.issue]
    split
    · rfl
    · rcases a with ⟨location, field, v⟩
      cases field <;> rfl

end ClientGen.Spec
