import ClientGen.Proofs.Naming.Spelling

/-!
Texts that can be names in generated code: words of letters, digits and underscores that do not
begin with a digit and are no keyword. What the conversions of a text give is made like a word, and
it begins as the text does. None of them looks at keywords. So a keyword is avoided only where
something stands in a name that no keyword has.
-/

namespace ClientGen.Naming

open Text

/-- What cannot be a name although it is made like one. -/
def keywords : List String :=
  ["Self", "abstract", "as", "async", "await", "become", "box", "break", "const", "continue",
    "crate", "do", "dyn", "else", "enum", "extern", "false", "final", "fn", "for", "gen", "if",
    "impl", "in", "let", "loop", "macro", "match", "mod", "move", "mut", "override", "priv", "pub",
    "ref", "return", "self", "static", "struct", "super", "trait", "true", "try", "type", "typeof",
    "unsafe", "unsized", "use", "virtual", "where", "while", "yield"]

def isLegalChar (c : Char) : Bool := c.isAlphanum || c == '_'

def startsWithLetter (s : String) : Bool := s.toList.head?.any Char.isAlpha

/-- The first ASCII letter or digit of a group in lower case is a letter. -/
def groupStartsWithLetter (group : String) : Bool :=
  ((lower group).toList.find? Char.isAlphanum).any Char.isAlpha

def startsWithDigit (s : String) : Bool := s.toList.head?.any Char.isDigit

/-- ASCII letters, digits and underscores, and at least one of them. -/
structure IsWord (s : String) : Prop where
  ne_empty : s ≠ ""
  chars : ∀ c ∈ s.toList, isLegalChar c = true

/-- A text that can be the name of a module, a function or a type. -/
structure IsLegal (s : String) : Prop extends IsWord s where
  no_digit : startsWithDigit s = false
  no_keyword : s ∉ keywords

/-- A word that is a legal name unless it is a keyword. -/
structure IsLettered (s : String) : Prop extends IsWord s where
  letter : startsWithLetter s = true

variable {s t : String} {c : Char} {cs : List Char}

instance (s : String) : Decidable (IsWord s) :=
  decidable_of_iff (s ≠ "" ∧ s.toList.all isLegalChar = true)
    ⟨fun h => ⟨h.1, List.all_eq_true.mp h.2⟩, fun h => ⟨h.ne_empty, List.all_eq_true.mpr h.chars⟩⟩

instance (s : String) : Decidable (IsLegal s) :=
  decidable_of_iff (IsWord s ∧ startsWithDigit s = false ∧ s ∉ keywords)
    ⟨fun h => ⟨h.1, h.2.1, h.2.2⟩, fun h => ⟨h.toIsWord, h.no_digit, h.no_keyword⟩⟩

/-! ### Words -/

lemma isLegalChar_of_isAlphanum (h : c.isAlphanum = true) : isLegalChar c = true := by
  simp [isLegalChar, h]

lemma isLegalChar_of_isSegmentChar (h : isSegmentChar c = true) : isLegalChar c = true := by
  rw [isSegmentChar, Bool.or_eq_true] at h
  rcases h with h | h
  · exact isLegalChar_of_isAlphanum (isAlphanum_of_isSmall h)
  · simp [isLegalChar, h]

lemma isAlpha_cases (h : c.isAlpha = true) : c.isUpper = true ∨ c.isLower = true := by
  rwa [← Bool.or_eq_true]

lemma isAlphanum_of_isAlpha (h : c.isAlpha = true) : c.isAlphanum = true := by
  simp [Char.isAlphanum, h]

lemma IsWord.append (hs : IsWord s) (ht : ∀ c ∈ t.toList, isLegalChar c = true) :
    IsWord (s ++ t) where
  ne_empty := by simp [hs.ne_empty]
  chars := by
    intro c hc
    rw [String.toList_append, List.mem_append] at hc
    exact hc.elim (hs.chars c) (ht c)

lemma startsWithLetter_iff :
    startsWithLetter s = true ↔ ∃ c cs, s.toList = c :: cs ∧ c.isAlpha = true := by
  rw [startsWithLetter, Option.any_eq_true]
  simp only [List.head?_eq_some_iff, exists_and_right]

lemma IsLettered.append (hs : IsLettered s) (ht : ∀ c ∈ t.toList, isLegalChar c = true) :
    IsLettered (s ++ t) where
  toIsWord := hs.toIsWord.append ht
  letter := by
    obtain ⟨c, cs, hcs, hc⟩ := startsWithLetter_iff.mp hs.letter
    exact startsWithLetter_iff.mpr ⟨c, cs ++ t.toList, by rw [String.toList_append, hcs]; rfl, hc⟩

lemma isLettered_of_cons (h : s.toList = c :: cs) (hc : c.isAlpha = true)
    (hcs : ∀ d ∈ cs, isLegalChar d = true) : IsLettered s where
  ne_empty := by
    rintro rfl
    cases h
  chars := by
    rw [h, List.forall_mem_cons]
    exact ⟨isLegalChar_of_isAlphanum (isAlphanum_of_isAlpha hc), hcs⟩
  letter := startsWithLetter_iff.mpr ⟨c, cs, h, hc⟩

/-! ### Keywords -/

lemma IsLettered.isLegal_iff (h : IsLettered s) : IsLegal s ↔ s ∉ keywords := by
  refine ⟨IsLegal.no_keyword, fun hk => ⟨h.toIsWord, ?_, hk⟩⟩
  obtain ⟨c, cs, hcs, hc⟩ := startsWithLetter_iff.mp h.letter
  rw [startsWithDigit, hcs, List.head?_cons, Option.any_some, ← Bool.not_eq_true, isDigit_iff]
  rcases isAlpha_cases hc with hc | hc
  · rw [isUpper_iff] at hc
    omega
  · rw [isLower_iff] at hc
    omega

example : IsLegal "http_route" ∧ ¬ IsLegal "type" ∧ ¬ IsLegal "2d" ∧ ¬ IsLegal "a-b" := by decide

/-- No keyword holds an underscore. -/
lemma IsLettered.isLegal_of_underscore (h : IsLettered s) (hs : '_' ∈ s.toList) : IsLegal s := by
  have hnone : ∀ k ∈ keywords, '_' ∉ k.toList := by decide
  exact h.isLegal_iff.mpr fun hk => hnone s hk hs

lemma IsLettered.isLegal_of_suffix (h : IsLettered (s ++ t))
    (ht : ∀ k ∈ keywords, ¬ t.toList <:+ k.toList) : IsLegal (s ++ t) := by
  refine h.isLegal_iff.mpr fun hk => ht _ hk ?_
  rw [String.toList_append]
  exact List.suffix_append ..

/-! ### Digits -/

lemma startsWithDigit_iff :
    startsWithDigit s = true ↔ ∃ c cs, s.toList = c :: cs ∧ c.isDigit = true := by
  rw [startsWithDigit, Option.any_eq_true]
  simp only [List.head?_eq_some_iff, exists_and_right]

lemma startsWithDigit_append (h : startsWithDigit s = true) (t : String) :
    startsWithDigit (s ++ t) = true := by
  obtain ⟨c, cs, hcs, hc⟩ := startsWithDigit_iff.mp h
  exact startsWithDigit_iff.mpr ⟨c, cs ++ t.toList, by rw [String.toList_append, hcs]; rfl, hc⟩

lemma not_isLegal_of_startsWithDigit (h : startsWithDigit s = true) : ¬ IsLegal s :=
  fun hs => Bool.false_ne_true (hs.no_digit.symm.trans h)

/-! ### Pascal case -/

lemma words_cons (hc : c.isAlphanum = true) (cs : List Char) :
    ∃ w ws, words (c :: cs) = (c :: w) :: ws := by
  obtain ⟨w, ws, hcut⟩ := List.exists_cons_of_ne_nil (cut_ne_nil (fun c => !c.isAlphanum) cs)
  refine ⟨w, ws.filter fun w => !w.isEmpty, ?_⟩
  simp [words, cut, hc, hcut]

lemma head?_pascal (h : s.toList = c :: cs) (hc : c.isAlphanum = true) :
    (pascal s).toList.head? = some c.toUpper := by
  obtain ⟨w, ws, hwords⟩ := words_cons hc cs
  rw [toList_pascal, h, hwords]
  rfl

lemma isUpper_toUpper (h : c.isAlpha = true) : c.toUpper.isUpper = true :=
  ascii_forall (p := fun c => c.isAlpha = true → c.toUpper.isUpper = true) (by decide)
    (ascii_of_isAlphanum (isAlphanum_of_isAlpha h)) h

lemma isAlpha_toLower (h : c.isAlpha = true) : c.toLower.isAlpha = true :=
  ascii_forall (p := fun c => c.isAlpha = true → c.toLower.isAlpha = true) (by decide)
    (ascii_of_isAlphanum (isAlphanum_of_isAlpha h)) h

lemma isLettered_pascal (h : startsWithLetter s = true) : IsLettered (pascal s) := by
  obtain ⟨c, cs, hcs, hc⟩ := startsWithLetter_iff.mp h
  obtain ⟨ds, hds⟩ := List.head?_eq_some_iff.mp (head?_pascal hcs (isAlphanum_of_isAlpha hc))
  have halpha : c.toUpper.isAlpha = true := Bool.or_eq_true_iff.mpr (Or.inl (isUpper_toUpper hc))
  refine isLettered_of_cons hds halpha fun d hd => isLegalChar_of_isAlphanum ?_
  exact isAlphanum_of_mem_pascal (hds ▸ List.mem_cons_of_mem _ hd)

lemma startsWithDigit_pascal (h : startsWithDigit s = true) :
    startsWithDigit (pascal s) = true := by
  obtain ⟨c, cs, hcs, hc⟩ := startsWithDigit_iff.mp h
  have halnum : c.isAlphanum = true := by simp [Char.isAlphanum, hc]
  have hfixed : c.isDigit = true → c.toUpper = c :=
    ascii_forall (p := fun c => c.isDigit = true → c.toUpper = c) (by decide)
      (ascii_of_isAlphanum halnum)
  rw [startsWithDigit, head?_pascal hcs halnum, hfixed hc]
  exact hc

lemma toUpper_eq_iff {d : Char} (hc : c.isAlphanum = true) (hd : d.isUpper = true) :
    c.toUpper = d ↔ c = d ∨ c = d.toLower := by
  have hascii : d.toNat < 128 := by
    rw [isUpper_iff] at hd
    omega
  have hfixed : d.isUpper = true → d.toUpper = d ∧ d.toLower.toUpper = d :=
    ascii_forall (p := fun d => d.isUpper = true → d.toUpper = d ∧ d.toLower.toUpper = d)
      (by decide) hascii
  have hback : c.toUpper = c ∨ c.toUpper.toLower = c :=
    ascii_forall (p := fun c => c.toUpper = c ∨ c.toUpper.toLower = c) (by decide)
      (ascii_of_isAlphanum hc)
  constructor
  · rintro rfl
    exact hback.imp Eq.symm Eq.symm
  · rintro (rfl | rfl)
    · exact (hfixed hd).1
    · exact (hfixed hd).2

lemma pascal_eq_iff (d : Char) (ds : List Char)
    (hs : s ≠ "" ∧ ∀ c ∈ s.toList, c.isAlphanum = true) (hd : d.isUpper = true) :
    pascal s = String.ofList (d :: ds) ↔
      s = String.ofList (d :: ds) ∨ s = String.ofList (d.toLower :: ds) := by
  obtain ⟨c, cs, hcs⟩ := List.exists_cons_of_ne_nil (String.toList_eq_nil_iff.not.mpr hs.1)
  have hc : c.isAlphanum = true := hs.2 c (hcs ▸ List.mem_cons_self)
  simp only [← String.toList_inj, toList_pascal_of_isAlphanum hs.2, hcs, List.modifyHead_cons,
    String.toList_ofList, List.cons.injEq, toUpper_eq_iff hc hd, or_and_right]

/-- `Self` is the only keyword in Pascal case. -/
lemma pascal_mem_keywords (h : startsWithLetter s = true) (hk : pascal s ∈ keywords) :
    pascal s = "Self" := by
  have hcapital : ∀ k ∈ keywords, k.toList.head?.any Char.isUpper = true → k = "Self" := by decide
  obtain ⟨c, cs, hcs, hc⟩ := startsWithLetter_iff.mp h
  refine hcapital _ hk ?_
  rw [head?_pascal hcs (isAlphanum_of_isAlpha hc), Option.any_some]
  exact isUpper_toUpper hc

/-! ### Groups -/

lemma head?_groupSegment (group : String) :
    (groupSegment group).toList.head? = (lower group).toList.find? Char.isAlphanum := by
  have hkept : (fun c : Char => !c == '_') ∘ (fun c => if c.isAlphanum then c else '_') =
      Char.isAlphanum := by
    funext c
    by_cases hc : c.isAlphanum = true
    · have hne : c ≠ '_' := by
        rintro rfl
        exact absurd hc (by decide)
      simp [hc, hne]
    · simp [hc]
  rw [groupSegment, String.toList_ofList, head?_trimWhere, List.find?_map, hkept]
  rcases hf : (lower group).toList.find? Char.isAlphanum with _ | c
  · rfl
  · have hc := List.find?_some hf
    simp [hc]

lemma startsWithLetter_groupSegment (group : String) :
    startsWithLetter (groupSegment group) = groupStartsWithLetter group := by
  rw [startsWithLetter, head?_groupSegment, groupStartsWithLetter]

lemma startsWithDigit_groupSegment {group : String} (h : group.toList.any Char.isAlphanum = true)
    (hletter : groupStartsWithLetter group ≠ true) :
    startsWithDigit (groupSegment group) = true := by
  obtain ⟨c, cs, hcs⟩ := List.exists_cons_of_ne_nil
    (String.toList_eq_nil_iff.not.mpr (groupSegment_ne_empty h))
  have hfind : (lower group).toList.find? Char.isAlphanum = some c := by
    rw [← head?_groupSegment, hcs, List.head?_cons]
  have halpha : ¬ c.isAlpha = true := by rwa [groupStartsWithLetter, hfind] at hletter
  have halnum := List.find?_some hfind
  rw [Char.isAlphanum, Bool.or_eq_true] at halnum
  exact startsWithDigit_iff.mpr ⟨c, cs, hcs, halnum.resolve_left halpha⟩

lemma isWord_groupSegment {group : String} (h : group.toList.any Char.isAlphanum = true) :
    IsWord (groupSegment group) where
  ne_empty := groupSegment_ne_empty h
  chars _ hc := isLegalChar_of_isSegmentChar (isSegmentChar_of_mem_groupSegment hc)

end ClientGen.Naming
