import ClientGen.Text.Order
import Mathlib.Data.List.Basic
import Mathlib.Tactic.Lemma

/-!
The order of texts is a strict linear order, and a list that is kept in the order of a key holds
each key once. Lookup, insertion and change by key are settled here through membership alone.
-/

namespace ClientGen.Text

lemma charsBefore_irrefl (as : List Char) : charsBefore as as = false := by
  induction as with
  | nil => rfl
  | cons a as ih => simp [charsBefore, ih]

lemma charsBefore_trans {as bs cs : List Char} (hab : charsBefore as bs = true)
    (hbc : charsBefore bs cs = true) : charsBefore as cs = true := by
  induction as generalizing bs cs with
  | nil =>
    rcases cs with _ | ⟨c, cs⟩
    · rcases bs with _ | ⟨b, bs⟩ <;> simp [charsBefore] at hbc
    · rfl
  | cons a as ih =>
    rcases bs with _ | ⟨b, bs⟩
    · simp [charsBefore] at hab
    rcases cs with _ | ⟨c, cs⟩
    · simp [charsBefore] at hbc
    simp only [charsBefore, Bool.or_eq_true, Bool.and_eq_true, decide_eq_true_eq,
      beq_iff_eq] at hab hbc ⊢
    rcases hab with hab | ⟨hab, hab'⟩ <;> rcases hbc with hbc | ⟨hbc, hbc'⟩
    · exact Or.inl (by omega)
    · exact Or.inl (by omega)
    · exact Or.inl (by omega)
    · exact Or.inr ⟨by omega, ih hab' hbc'⟩

lemma charsBefore_total {as bs : List Char} (hab : charsBefore as bs = false)
    (hba : charsBefore bs as = false) : as = bs := by
  induction as generalizing bs with
  | nil =>
    rcases bs with _ | ⟨b, bs⟩
    · rfl
    · simp [charsBefore] at hab
  | cons a as ih =>
    rcases bs with _ | ⟨b, bs⟩
    · simp [charsBefore] at hba
    simp only [charsBefore, Bool.or_eq_false_iff, decide_eq_false_iff_not,
      Bool.and_eq_false_imp, beq_iff_eq] at hab hba
    have hn : a.toNat = b.toNat := by omega
    rw [Char.toNat_inj.mp hn, ih (hab.2 hn) (hba.2 hn.symm)]

lemma before_irrefl (s : String) : before s s = false := charsBefore_irrefl _

lemma before_trans {s t u : String} (hst : before s t = true) (htu : before t u = true) :
    before s u = true :=
  charsBefore_trans hst htu

lemma before_total {s t : String} (hst : before s t = false) (hts : before t s = false) : s = t :=
  String.toList_injective (charsBefore_total hst hts)

lemma ne_of_before {s t : String} (h : before s t = true) : s ≠ t := by
  rintro rfl
  rw [before_irrefl] at h
  contradiction

lemma before_asymm {s t : String} (h : before s t = true) : ¬ before t s = true := fun h' =>
  ne_of_before (before_trans h h') rfl

lemma order_eq_iff {s t : String} : order s t = .eq ↔ s = t := by
  rw [order]
  split
  · next h => simp [ne_of_before h]
  · split <;> simp_all

lemma charsBefore_append_left (as bs cs : List Char) :
    charsBefore (as ++ bs) (as ++ cs) = charsBefore bs cs := by
  induction as with
  | nil => rfl
  | cons a as ih => simp [charsBefore, ih]

/-- Texts with a common beginning are in the order of their rests. -/
lemma before_append_left (s t u : String) : before (s ++ t) (s ++ u) = before t u := by
  rw [before, String.toList_append, String.toList_append, charsBefore_append_left, before]

lemma charsBefore_append_right {as bs : List Char} (h : charsBefore as bs = true)
    (hp : ¬ as <+: bs) (cs ds : List Char) : charsBefore (as ++ cs) (bs ++ ds) = true := by
  induction as generalizing bs with
  | nil => exact absurd List.nil_prefix hp
  | cons a as ih =>
    rcases bs with _ | ⟨b, bs⟩
    · simp [charsBefore] at h
    simp only [charsBefore, List.cons_append, Bool.or_eq_true, Bool.and_eq_true, decide_eq_true_eq,
      beq_iff_eq] at h ⊢
    refine h.imp id fun ⟨hn, hrest⟩ => ⟨hn, ih hrest fun hp' => hp ?_⟩
    rw [Char.toNat_inj.mp hn]
    exact List.cons_prefix_cons.mpr ⟨rfl, hp'⟩

lemma before_append_right {s t : String} (h : before s t = true) (hp : ¬ s.toList <+: t.toList)
    (u v : String) : before (s ++ u) (t ++ v) = true := by
  rw [before, String.toList_append, String.toList_append]
  exact charsBefore_append_right h hp _ _

/-! ### Lists in the order of a key -/

variable {α : Type} {key : α → String}

/-- The keys of a list ascend, so no two are equal. -/
def Sorted (key : α → String) (as : List α) : Prop :=
  as.Pairwise fun a b => before (key a) (key b) = true

lemma Sorted.eq_of_key {as : List α} (h : Sorted key as) {a b : α} (ha : a ∈ as) (hb : b ∈ as)
    (hk : key a = key b) : a = b := by
  induction as with
  | nil => simp at ha
  | cons c cs ih =>
    obtain ⟨hc, hcs⟩ := List.pairwise_cons.mp h
    rcases List.mem_cons.mp ha with rfl | ha' <;> rcases List.mem_cons.mp hb with rfl | hb'
    · rfl
    · exact absurd hk (ne_of_before (hc b hb'))
    · exact absurd hk.symm (ne_of_before (hc a ha'))
    · exact ih hcs ha' hb'

lemma Sorted.nodup {as : List α} (h : Sorted key as) : as.Nodup :=
  h.imp fun hab heq => ne_of_before hab (congrArg key heq)

lemma Sorted.eq_of_mem_iff {as bs : List α} (ha : Sorted key as) (hb : Sorted key bs)
    (h : ∀ x, x ∈ as ↔ x ∈ bs) : as = bs := by
  have hperm : as.Perm bs := (List.perm_ext_iff_of_nodup ha.nodup hb.nodup).mpr h
  exact hperm.eq_of_pairwise (fun x y _ _ hxy hyx => absurd hyx (before_asymm hxy)) ha hb

lemma findByKey?_eq_some_iff {as : List α} (h : Sorted key as) {k : String} {a : α} :
    findByKey? key k as = some a ↔ a ∈ as ∧ key a = k := by
  constructor
  · intro hf
    exact ⟨List.mem_of_find?_eq_some hf, by simpa using List.find?_some hf⟩
  · rintro ⟨ha, rfl⟩
    rcases hf : findByKey? key (key a) as with _ | b
    · have := List.find?_eq_none.mp hf a ha
      simp at this
    · have hb : key b = key a := by simpa using List.find?_some hf
      rw [h.eq_of_key (List.mem_of_find?_eq_some hf) ha hb]

lemma findByKey?_eq_none_iff {as : List α} {k : String} :
    findByKey? key k as = none ↔ ∀ a ∈ as, key a ≠ k := by
  simp [findByKey?, List.find?_eq_none]

lemma mem_insertByKey {as : List α} {a : α} (hne : ∀ b ∈ as, key b ≠ key a) {x : α} :
    x ∈ insertByKey key a as ↔ x = a ∨ x ∈ as := by
  induction as with
  | nil => simp [insertByKey]
  | cons b bs ih =>
    have hb : key a ≠ key b := fun h => hne b (by simp) h.symm
    have ih' := ih fun c hc => hne c (List.mem_cons_of_mem _ hc)
    by_cases hlt : before (key a) (key b) = true
    · simp [insertByKey, hlt]
    · rw [insertByKey, if_neg hlt, if_neg (by simpa using hb), List.mem_cons, ih', List.mem_cons]
      tauto

lemma sorted_insertByKey {as : List α} (h : Sorted key as) {a : α}
    (hne : ∀ b ∈ as, key b ≠ key a) : Sorted key (insertByKey key a as) := by
  induction as with
  | nil => simp [insertByKey, Sorted]
  | cons b bs ih =>
    obtain ⟨hb, hbs⟩ := List.pairwise_cons.mp h
    have hne' : ∀ c ∈ bs, key c ≠ key a := fun c hc => hne c (List.mem_cons_of_mem _ hc)
    have hab : key a ≠ key b := fun h => hne b (by simp) h.symm
    by_cases hlt : before (key a) (key b) = true
    · rw [insertByKey, if_pos hlt]
      refine List.pairwise_cons.mpr ⟨fun c hc => ?_, h⟩
      rcases List.mem_cons.mp hc with rfl | hc
      · exact hlt
      · exact before_trans hlt (hb c hc)
    · rw [insertByKey, if_neg hlt, if_neg (by simpa using hab)]
      refine List.pairwise_cons.mpr ⟨fun c hc => ?_, ih hbs hne'⟩
      rcases (mem_insertByKey hne').mp hc with rfl | hc
      · -- not before and not equal leaves the other order
        by_contra hba
        exact hab (before_total (by simpa using hlt) (by simpa using hba))
      · exact hb c hc

lemma sorted_map {β : Type} {key' : β → String} {f : α → β} {as : List α} (h : Sorted key as)
    (hf : ∀ a ∈ as, key' (f a) = key a) : Sorted key' (as.map f) := by
  refine List.pairwise_map.mpr (h.imp_of_mem fun {a b} ha hb hab => ?_)
  rw [hf a ha, hf b hb]
  exact hab

lemma mem_modifyByKey {as : List α} {k : String} {f : α → α} {x : α} :
    x ∈ modifyByKey key k f as ↔ ∃ a ∈ as, (if key a = k then f a else a) = x := by
  simp [modifyByKey]

lemma sorted_modifyByKey {as : List α} (h : Sorted key as) {k : String} {f : α → α}
    (hf : ∀ a ∈ as, key (f a) = key a) : Sorted key (modifyByKey key k f as) :=
  sorted_map h fun a ha => by split <;> simp [hf a ha]

end ClientGen.Text
