import ClientGen.Text.Case
import Mathlib.Data.List.Basic
import Mathlib.Tactic.Lemma

/-!
Lower case of ASCII text is taken character by character, and no lower case of any text holds an
ASCII capital.
-/

namespace ClientGen.Text

lemma isUpper_iff {c : Char} : c.isUpper = true ↔ 65 ≤ c.toNat ∧ c.toNat ≤ 90 := by
  change decide (c.val ≥ 'A'.val ∧ c.val ≤ 'Z'.val) = true ↔ _
  simp [UInt32.le_iff_toNat_le, ← Char.toNat_val]

lemma isLower_iff {c : Char} : c.isLower = true ↔ 97 ≤ c.toNat ∧ c.toNat ≤ 122 := by
  change (decide (c.val ≥ 'a'.val) && decide (c.val ≤ 'z'.val)) = true ↔ _
  simp [UInt32.le_iff_toNat_le, ← Char.toNat_val]

lemma isDigit_iff {c : Char} : c.isDigit = true ↔ 48 ≤ c.toNat ∧ c.toNat ≤ 57 := by
  simp [Char.isDigit, UInt32.le_iff_toNat_le, ← Char.toNat_val]

lemma isAlphanum_iff {c : Char} :
    c.isAlphanum = true ↔ c.isUpper = true ∨ c.isLower = true ∨ c.isDigit = true := by
  change (c.isUpper || c.isLower || c.isDigit) = true ↔ _
  simp [or_assoc]

/-- A small ASCII letter or a digit. -/
def isSmall (c : Char) : Bool := c.isLower || c.isDigit

lemma isSmall_iff {c : Char} :
    isSmall c = true ↔ 97 ≤ c.toNat ∧ c.toNat ≤ 122 ∨ 48 ≤ c.toNat ∧ c.toNat ≤ 57 := by
  simp [isSmall, isLower_iff, isDigit_iff]

lemma isSmall_of_isAlphanum {c : Char} (h : c.isAlphanum = true) (hu : c.isUpper = false) :
    isSmall c = true := by
  rcases isAlphanum_iff.mp h with h | h | h
  · simp [h] at hu
  · simp [isSmall, h]
  · simp [isSmall, h]

lemma isAlphanum_of_isSmall {c : Char} (h : isSmall c = true) : c.isAlphanum = true := by
  rw [isSmall, Bool.or_eq_true] at h
  exact isAlphanum_iff.mpr (Or.inr h)

/-- What holds of every ASCII character can be settled by looking at each of them. -/
lemma ascii_forall {p : Char → Prop} (h : ∀ n < 128, p (Char.ofNat n)) {c : Char}
    (hc : c.toNat < 128) : p c := by
  simpa using h c.toNat hc

lemma ascii_of_isAlphanum {c : Char} (h : c.isAlphanum = true) : c.toNat < 128 := by
  rw [isAlphanum_iff, isUpper_iff, isLower_iff, isDigit_iff] at h
  omega

lemma isSmall_toLower {c : Char} (h : c.isAlphanum = true) : isSmall c.toLower = true :=
  ascii_forall (p := fun c => c.isAlphanum = true → isSmall c.toLower = true) (by decide)
    (ascii_of_isAlphanum h) h

lemma isAlphanum_toUpper {c : Char} (h : c.isAlphanum = true) : c.toUpper.isAlphanum = true :=
  ascii_forall (p := fun c => c.isAlphanum = true → c.toUpper.isAlphanum = true) (by decide)
    (ascii_of_isAlphanum h) h

lemma isLower_of_isUpper {c : Char} (h : c.isUpper = true) : c.isLower = false := by
  rw [isUpper_iff] at h
  rw [← Bool.not_eq_true, isLower_iff]
  omega

lemma isLower_toUpper {c : Char} (h : c.isAlphanum = true) : c.toUpper.isLower = false :=
  ascii_forall (p := fun c => c.toUpper.isLower = false) (by decide) (ascii_of_isAlphanum h)

lemma toUpper_of_not_lower {c : Char} (h : c.isAlphanum = true) (hl : c.isLower = false) :
    c.toUpper = c :=
  ascii_forall (p := fun c => c.isLower = false → c.toUpper = c) (by decide)
    (ascii_of_isAlphanum h) hl

lemma toLower_toUpper {c : Char} (h : c.isAlphanum = true) : c.toUpper.toLower = c.toLower :=
  ascii_forall (p := fun c => c.toUpper.toLower = c.toLower) (by decide) (ascii_of_isAlphanum h)

lemma toUpper_toLower {c : Char} (h : c.isAlphanum = true) : c.toLower.toUpper = c.toUpper :=
  ascii_forall (p := fun c => c.toLower.toUpper = c.toUpper) (by decide) (ascii_of_isAlphanum h)

lemma upperChar_ascii {c : Char} (h : c.toNat < 128) : upperChar c = [c.toUpper] := by
  rw [upperChar, if_pos h]

lemma lowerChar_ascii {c : Char} (h : c.toNat < 128) : lowerChar c = [c.toLower] := by
  simp [lowerChar, h]

lemma ne_sigma {c : Char} (h : c.toNat < 128) : ¬(c == 'Σ') = true :=
  ascii_forall (p := fun c => ¬(c == 'Σ') = true) (by decide) h

lemma lowerFrom_ascii (seen cs : List Char) (h : ∀ c ∈ cs, c.toNat < 128) :
    lowerFrom seen cs = cs.map Char.toLower := by
  induction cs generalizing seen with
  | nil => rfl
  | cons c cs ih =>
    have hc := h c (by simp)
    rw [lowerFrom, ih (c :: seen) fun d hd => h d (by simp [hd]), if_neg (ne_sigma hc),
      lowerChar_ascii hc]
    rfl

lemma toLower_mem_lowerFrom {seen cs : List Char} {c : Char} (hc : c ∈ cs) (h : c.toNat < 128) :
    c.toLower ∈ lowerFrom seen cs := by
  induction cs generalizing seen with
  | nil => simp at hc
  | cons d cs ih =>
    rw [lowerFrom, List.mem_append]
    rcases List.mem_cons.mp hc with rfl | hc
    · left
      rw [if_neg (ne_sigma h), lowerChar_ascii h, List.mem_singleton]
    · exact Or.inr (ih hc)

lemma toList_lower {s : String} (h : ∀ c ∈ s.toList, c.toNat < 128) :
    (lower s).toList = s.toList.map Char.toLower := by
  rw [lower, String.toList_ofList, lowerFrom_ascii _ _ h]

lemma toLower_of_not_upper {c : Char} (h : c.isUpper = false) : c.toLower = c :=
  dif_neg (of_decide_eq_false h)

lemma lower_eq_self {s : String} (h : ∀ c ∈ s.toList, c.toNat < 128 ∧ c.isUpper = false) :
    lower s = s := by
  refine String.toList_injective ?_
  rw [toList_lower fun c hc => (h c hc).1, List.map_congr_left fun c hc =>
    toLower_of_not_upper (h c hc).2, List.map_id']

lemma lowerChar_toLower (c : Char) : lowerChar c.toLower = lowerChar c := by
  by_cases hu : c.isUpper = true
  · have hc : c.toNat < 128 := by
      rw [isUpper_iff] at hu
      omega
    have hlow : c.toLower.toNat < 128 ∧ c.toLower.toLower = c.toLower :=
      ascii_forall (p := fun c => c.toLower.toNat < 128 ∧ c.toLower.toLower = c.toLower)
        (by decide) hc
    rw [lowerChar_ascii hc, lowerChar_ascii hlow.1, hlow.2]
  · rw [toLower_of_not_upper (Bool.not_eq_true _ ▸ hu)]

lemma ascii_of_isSmall {c : Char} (h : isSmall c = true) : c.toNat < 128 ∧ c.isUpper = false := by
  rw [isSmall_iff] at h
  rw [← Bool.not_eq_true, isUpper_iff]
  omega

/-! ### No capitals -/

lemma shifted?_some {ranges : List (Nat × Nat × Nat × Nat)} {n m : Nat}
    (h : shifted? ranges n = some m) : ∃ r ∈ ranges, r.2.2.2 ≤ m := by
  induction ranges with
  | nil => simp [shifted?] at h
  | cons r rest ih =>
    obtain ⟨first, last, step, target⟩ := r
    rw [shifted?] at h
    split at h
    · obtain rfl := Option.some.inj h
      exact ⟨_, List.mem_cons_self, by simp⟩
    · obtain ⟨r, hr, hle⟩ := ih h
      exact ⟨r, List.mem_cons_of_mem _ hr, hle⟩

lemma expansion?_some {table : List (Nat × List Nat)} {n : Nat} {image : List Nat}
    (h : expansion? table n = some image) : ∃ e ∈ table, e.2 = image := by
  induction table with
  | nil => simp [expansion?] at h
  | cons e rest ih =>
    obtain ⟨m, image'⟩ := e
    rw [expansion?] at h
    split at h
    · exact ⟨_, List.mem_cons_self, Option.some.inj h⟩
    · obtain ⟨e, he, heq⟩ := ih h
      exact ⟨e, List.mem_cons_of_mem _ he, heq⟩

lemma lowering_target : ∀ r ∈ CaseTable.lowering, 90 < r.2.2.2 := by decide +kernel

lemma loweringExpansions_image : ∀ e ∈ CaseTable.loweringExpansions, ∀ n ∈ e.2, 90 < n := by
  decide +kernel

lemma isUpper_ofNat {n : Nat} (h : 90 < n) : (Char.ofNat n).isUpper = false := by
  have hn : (Char.ofNat n).toNat = n ∨ (Char.ofNat n).toNat = 0 := by
    by_cases hv : n.isValidChar
    · left
      rw [Char.ofNat, dif_pos hv]
      rfl
    · exact Or.inr (by simp [Char.ofNat, hv, Char.toNat])
  rw [← Bool.not_eq_true, isUpper_iff]
  omega

lemma isUpper_toLower {c : Char} (h : c.toNat < 128) : c.toLower.isUpper = false :=
  ascii_forall (p := fun c => c.toLower.isUpper = false) (by decide) h

lemma isUpper_lowerChar {c d : Char} (h : d ∈ lowerChar c) : d.isUpper = false := by
  unfold lowerChar at h
  split at h
  · next hc =>
    obtain rfl := List.mem_singleton.mp h
    exact isUpper_toLower hc
  · next hc =>
    split at h
    · next n hn =>
      obtain ⟨r, hr, hle⟩ := shifted?_some hn
      obtain rfl := List.mem_singleton.mp h
      exact isUpper_ofNat (Nat.lt_of_lt_of_le (lowering_target r hr) hle)
    · split at h
      · next image hi =>
        obtain ⟨e, he, rfl⟩ := expansion?_some hi
        obtain ⟨n, hn, rfl⟩ := List.mem_map.mp h
        exact isUpper_ofNat (loweringExpansions_image e he n hn)
      · obtain rfl := List.mem_singleton.mp h
        rw [← Bool.not_eq_true, isUpper_iff]
        omega

lemma isUpper_lowerFrom {seen cs : List Char} {d : Char} (h : d ∈ lowerFrom seen cs) :
    d.isUpper = false := by
  induction cs generalizing seen with
  | nil => simp [lowerFrom] at h
  | cons c cs ih =>
    rw [lowerFrom, List.mem_append] at h
    rcases h with h | h
    · split at h
      · obtain rfl := List.mem_singleton.mp h
        split <;> decide
      · exact isUpper_lowerChar h
    · exact ih h

lemma isUpper_lower {s : String} {d : Char} (h : d ∈ (lower s).toList) : d.isUpper = false := by
  rw [lower, String.toList_ofList] at h
  exact isUpper_lowerFrom h

end ClientGen.Text
