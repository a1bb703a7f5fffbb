import ClientGen.Proofs.Text.Order
import Mathlib.Data.List.Sort

/-!
The order of texts by code point is the order of their bytes in UTF-8. So a list that is sorted by
the bytes of its keys is in the order of its keys.
-/

namespace ClientGen.Text

def bytes (s : String) : List UInt8 := s.toUTF8.data.toList

lemma bytes_eq (s : String) : bytes s = s.toList.flatMap String.utf8EncodeChar := by
  have h : s.toList.utf8Encode.data.toList = s.toList.flatMap String.utf8EncodeChar :=
    List.toList_data_toByteArray
  rw [String.utf8Encode_toList] at h
  exact h

lemma codePoint_lt (c : Char) : c.val.toNat < 0x110000 := by
  have h := c.valid
  simp only [UInt32.isValidChar, Nat.isValidChar] at h
  omega

/-- The bytes of a character come before those of a later one, whatever follows. -/
lemma encode_lt_encode {c d : Char} (h : c.toNat < d.toNat) (xs ys : List UInt8) :
    String.utf8EncodeChar c ++ xs < String.utf8EncodeChar d ++ ys := by
  have hc := codePoint_lt c
  have hd := codePoint_lt d
  change c.val.toNat < d.val.toNat at h
  unfold String.utf8EncodeChar
  dsimp only
  -- the first byte tells how many there are, and more of them stand for later characters
  split_ifs <;>
    simp only [List.cons_append, List.nil_append, List.cons_lt_cons_iff, UInt8.lt_iff_toNat_lt,
      ← UInt8.toNat_inj, UInt8.toNat_ofNat'] <;>
    simp (disch := omega) only [Nat.mod_eq_of_lt] <;>
    omega

lemma break_not_mem_encode {c : Char} (h : c ≠ '\n') : 10 ∉ String.utf8EncodeChar c := by
  have hc := codePoint_lt c
  have hne : c.val.toNat ≠ 10 := fun hbreak => h (Char.toNat_inj.mp hbreak)
  have hten : (10 : UInt8).toNat = 10 := rfl
  unfold String.utf8EncodeChar
  dsimp only
  -- the bytes of a character that has several are all above those of characters that have one
  split_ifs <;>
    simp only [List.mem_cons, List.not_mem_nil, or_false, ← UInt8.toNat_inj, UInt8.toNat_ofNat',
      hten] <;>
    simp (disch := omega) only [Nat.mod_eq_of_lt] <;>
    omega

lemma count_encode (c : Char) : (String.utf8EncodeChar c).count 10 = [c].count '\n' := by
  by_cases h : c = '\n'
  · rw [h]
    rfl
  · rw [List.count_eq_zero.mpr (break_not_mem_encode h),
      List.count_eq_zero.mpr fun hmem => h (List.mem_singleton.mp hmem).symm]

lemma count_bytes (s : String) : (bytes s).count 10 = s.toList.count '\n' := by
  rw [bytes_eq]
  induction s.toList with
  | nil => rfl
  | cons c cs ih =>
    rw [List.flatMap_cons, List.count_append, ih, count_encode, ← List.count_append,
      List.singleton_append]

lemma append_left_lt_iff {xs as bs : List UInt8} : xs ++ as < xs ++ bs ↔ as < bs := by
  induction xs with
  | nil => rfl
  | cons x xs ih => rw [List.cons_append, List.cons_append, List.cons_lt_cons_self, ih]

lemma charsBefore_iff_encode_lt {as bs : List Char} : charsBefore as bs = true ↔
    as.flatMap String.utf8EncodeChar < bs.flatMap String.utf8EncodeChar := by
  induction as generalizing bs with
  | nil =>
    rcases bs with _ | ⟨b, bs⟩
    · simp [charsBefore]
    · obtain ⟨x, xs, hx⟩ := List.exists_cons_of_ne_nil (String.utf8EncodeChar_ne_nil (c := b))
      simp [charsBefore, hx]
  | cons a as ih =>
    rcases bs with _ | ⟨b, bs⟩
    · simp [charsBefore]
    rw [List.flatMap_cons, List.flatMap_cons, charsBefore]
    rcases Nat.lt_trichotomy a.toNat b.toNat with hlt | heq | hgt
    · simp [hlt, encode_lt_encode hlt]
    · obtain rfl := Char.toNat_inj.mp heq
      simp only [Nat.lt_irrefl, decide_false, Bool.false_or, beq_self_eq_true, Bool.true_and]
      rw [ih]
      exact append_left_lt_iff.symm
    · have hba := encode_lt_encode hgt (bs.flatMap String.utf8EncodeChar)
        (as.flatMap String.utf8EncodeChar)
      have hne : a.toNat ≠ b.toNat := Nat.ne_of_gt hgt
      simp [Nat.lt_asymm hgt, hne, List.lt_asymm hba]

/-- **Two orders.** A text comes before another one by code points just when its bytes do. -/
theorem before_iff_bytes_lt {s t : String} : before s t = true ↔ bytes s < bytes t := by
  rw [bytes_eq, bytes_eq, before, charsBefore_iff_encode_lt]

variable {α : Type} (key : α → String)

/-- The keys of two elements are equal or in the order of their bytes. -/
def NotAfter (a b : α) : Prop := bytes (key a) ≤ bytes (key b)

instance : DecidableRel (NotAfter key) := fun a b =>
  inferInstanceAs (Decidable (bytes (key a) ≤ bytes (key b)))

instance : IsTrans α (NotAfter key) := ⟨fun _ _ _ => List.le_trans⟩

instance : Std.Total (NotAfter key) := ⟨fun _ _ => List.le_total _ _⟩

/-- A list in ascending order of the bytes of its keys. -/
def ascending (as : List α) : List α := as.insertionSort (NotAfter key)

variable {key}

lemma mem_ascending {as : List α} {a : α} : a ∈ ascending key as ↔ a ∈ as :=
  List.mem_insertionSort _

lemma sorted_ascending {as : List α} (h : (as.map key).Nodup) : Sorted key (ascending key as) := by
  have hperm : (ascending key as).Perm as := List.perm_insertionSort _ as
  have hnodup := List.pairwise_map.mp ((hperm.map key).nodup_iff.mpr h)
  refine ((List.pairwise_insertionSort (NotAfter key) as).and hnodup).imp fun {a b} hab => ?_
  obtain ⟨hle, hne⟩ := hab
  -- what is not before is behind or equal
  by_contra hnot
  refine hne (before_total (by simpa using hnot) ?_)
  rw [← Bool.not_eq_true, before_iff_bytes_lt]
  exact List.not_lt.mpr hle

end ClientGen.Text
