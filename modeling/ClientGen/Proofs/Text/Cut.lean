import ClientGen.Text.Cut
import Mathlib.Data.List.DropRight
import Mathlib.Tactic.Lemma

/-!
Cutting, splitting and trimming. There is always a piece, a text without separators is its only
piece, and the pieces have no separators, but all other characters of the text. Where the separator
is a text, splitting undoes joining for pieces in which the separator does not even begin. Trimming
leaves a list that begins and ends with nothing to trim, and changes no such list.
-/

namespace ClientGen.Text

/-! ### Cutting -/

section Cut

variable (sep : Char → Bool)

lemma cut_ne_nil (cs : List Char) : cut sep cs ≠ [] := by
  induction cs with
  | nil => simp [cut]
  | cons c cs ih =>
    rw [cut]
    split
    · simp
    · simpa using ih

lemma cut_append {c : Char} (hc : sep c = true) (as bs : List Char) :
    cut sep (as ++ c :: bs) = cut sep as ++ cut sep bs := by
  induction as with
  | nil => simp [cut, hc]
  | cons a as ih =>
    rw [List.cons_append, cut, cut, ih]
    split
    · rfl
    · obtain ⟨w, ws, hw⟩ := List.exists_cons_of_ne_nil (cut_ne_nil sep as)
      rw [hw]
      rfl

lemma cut_of_not_sep {cs : List Char} (h : ∀ c ∈ cs, sep c = false) : cut sep cs = [cs] := by
  induction cs with
  | nil => rfl
  | cons c cs ih =>
    rw [cut, ih fun d hd => h d (by simp [hd]), h c (by simp)]
    rfl

lemma not_sep_of_mem_cut {cs w : List Char} (h : w ∈ cut sep cs) : ∀ c ∈ w, sep c = false := by
  induction cs generalizing w with
  | nil =>
    rw [cut, List.mem_singleton] at h
    simp [h]
  | cons d cs ih =>
    rw [cut] at h
    split at h
    · rcases List.mem_cons.mp h with rfl | h
      · simp
      · exact ih h
    · next hd =>
      obtain ⟨v, vs, hv⟩ := List.exists_cons_of_ne_nil (cut_ne_nil sep cs)
      rw [hv, List.modifyHead_cons] at h
      rcases List.mem_cons.mp h with rfl | h
      · intro c hc
        rcases List.mem_cons.mp hc with rfl | hc
        · simpa using hd
        · exact ih (hv ▸ List.mem_cons_self) c hc
      · exact ih (hv ▸ List.mem_cons_of_mem _ h)

lemma flatten_modifyHead_cons (c : Char) {pieces : List (List Char)} (h : pieces ≠ []) :
    (pieces.modifyHead (c :: ·)).flatten = c :: pieces.flatten := by
  cases pieces with
  | nil => exact absurd rfl h
  | cons p ps => rfl

lemma flatten_cut (cs : List Char) : (cut sep cs).flatten = cs.filter fun c => !sep c := by
  induction cs with
  | nil => rfl
  | cons c cs ih =>
    rw [cut]
    split
    · next h => simp [h, ih]
    · next h => rw [flatten_modifyHead_cons c (cut_ne_nil sep cs), ih]; simp [h]

end Cut

/-! ### Splitting at a text -/

section Split

open String.Slice.Pattern.Model

variable {sep : String}

/-- With `sep` behind it, the text holds `sep` at its end alone. -/
def IsPiece (sep t : String) : Prop :=
  ∀ before behind : String, t ++ sep = before ++ sep ++ behind → behind = ""

lemma isPiece_of_not_mem {c : Char} {t : String} (hsep : sep.toList.head? = some c)
    (h : c ∉ t.toList) : IsPiece sep t := by
  intro before behind heq
  obtain ⟨cs, hcs⟩ := List.head?_eq_some_iff.mp hsep
  have hchars := congrArg String.toList heq
  simp only [String.toList_append, hcs, List.append_assoc] at hchars
  rw [← String.toList_eq_nil_iff]
  rcases List.append_eq_append_iff.mp hchars with ⟨extra, -, hextra⟩ | ⟨extra, hextra, hrest⟩
  · -- `sep` is found behind the text, so there is no room left
    have hlength := congrArg List.length hextra
    simp only [List.length_append, List.length_cons] at hlength
    exact List.eq_nil_of_length_eq_zero (by omega)
  · rcases extra with _ | ⟨d, extra⟩
    · simpa using hrest
    · obtain rfl : c = d := by simpa using congrArg List.head? hrest
      exact absurd (by simp [hextra]) h

lemma IsPiece.eq_empty {before t rest behind : String} (ht : IsPiece sep (before ++ t))
    (h : t ++ sep ++ rest = sep ++ behind) : t = "" := by
  have hchars := congrArg String.toList h
  simp only [String.toList_append] at hchars
  have hlength : sep.toList.length ≤ (t.toList ++ sep.toList).length := by simp
  obtain ⟨extra, hextra⟩ := List.prefix_of_prefix_length_le (List.prefix_append _ behind.toList)
    (hchars ▸ List.prefix_append _ _) hlength
  have hsep : t ++ sep = sep ++ String.ofList extra := by
    rw [← String.toList_inj]
    simpa using hextra.symm
  have hnone := ht before (String.ofList extra) (by
    rw [String.append_assoc, hsep, String.append_assoc])
  rw [hnone, String.append_empty] at hsep
  simpa using hsep

/-- Nothing is found before the end of a piece, whether `sep` or nothing follows it. -/
lemma IsPiece.not_matchesAt {s : String.Slice} {start stop p : s.Pos} {front t tail : String}
    (ht : IsPiece sep t) (hstart : start.Splits front (t ++ tail))
    (hstop : stop.Splits (front ++ t) tail) (htail : ∃ extra rest, tail ++ extra = sep ++ rest)
    (hle : start ≤ p) (hlt : p < stop) : ¬ MatchesAt sep p := by
  intro hmatch
  obtain ⟨u, v, hp⟩ := ForwardStringSearcher.matchesAt_iff_splits.mp hmatch
  obtain ⟨t₁, hu, ht₁⟩ := (hstart.le_iff_exists_eq_append hp).mp hle
  obtain ⟨t₂, hne, hu', ht₂⟩ := (hp.lt_iff_exists_eq_append hstop).mp hlt
  obtain ⟨extra, rest, hextra⟩ := htail
  have hsplit : t = t₁ ++ t₂ := by
    rw [hu, String.append_assoc] at hu'
    simpa using hu'
  subst hsplit
  have hfound : t₂ ++ sep ++ rest = sep ++ (v ++ extra) := by
    rw [String.append_assoc, ← hextra, ← String.append_assoc, ← ht₂, String.append_assoc]
  exact hne (ht.eq_empty hfound)

lemma copy_subslice {s : String.Slice} {start stop : s.Pos} {front t tail : String}
    (hstart : start.Splits front (t ++ tail)) (hstop : stop.Splits (front ++ t) tail)
    (hle : start ≤ stop) : (s.subslice start stop hle).toSlice.copy = t := by
  obtain ⟨h, hcopy⟩ := String.Slice.copy_slice_eq_iff_splits.mpr ⟨front, tail, hstart, hstop⟩
  exact hcopy

lemma copy_split_of_splits [StrictPatternModel sep] {s : String.Slice} {start : s.Pos}
    {front : String} {ts : List String} (hne : ts ≠ []) (hts : ∀ t ∈ ts, IsPiece sep t)
    (hstart : start.Splits front (sep.intercalate ts)) :
    (String.Slice.Pattern.Model.split sep start start (String.Slice.Pos.le_refl _)).map
      (·.toSlice.copy) = ts := by
  induction ts generalizing start front with
  | nil => exact absurd rfl hne
  | cons t rest ih =>
    have ht := hts t List.mem_cons_self
    by_cases hrest : rest = []
    · subst hrest
      rw [String.intercalate_singleton, ← String.append_empty (s := t)] at hstart
      have hend : s.endPos.Splits (front ++ t) "" :=
        String.Slice.splits_endPos_iff.mpr ⟨by simpa using hstart.eq_append.symm, rfl⟩
      have hle := (hstart.le_iff_exists_eq_append hend).mpr ⟨t, rfl, rfl⟩
      have hnone := fun p => ht.not_matchesAt (p := p) hstart hend ⟨sep, "", by simp⟩
      rw [split_eq_of_not_matchesAt _ hle hnone, split_endPos, List.map_singleton,
        copy_subslice hstart hend]
    · rw [String.intercalate_cons_of_ne_nil hrest, String.append_assoc] at hstart
      -- where the piece ends, and where `sep` ends behind it
      have hmid := hstart.splits_rotateRight
      have hstop := hmid.splits_rotateRight
      have hle := (hstart.le_iff_exists_eq_append hmid).mpr ⟨t, rfl, rfl⟩
      have hnone := fun p => ht.not_matchesAt (p := p) hstart hmid ⟨"", _, String.append_empty⟩
      have hmatch : IsLongestMatchAt sep hstart.rotateRight hmid.rotateRight :=
        ForwardStringSearcher.isLongestMatchAt_iff_splits.mpr ⟨_, _, hmid, hstop⟩
      rw [split_eq_of_not_matchesAt _ hle hnone, split_eq_of_isLongestMatchAt hmatch,
        List.map_cons, ih hrest (fun u hu => hts u (List.mem_cons_of_mem _ hu)) hstop,
        copy_subslice hstart hmid]

lemma split_intercalate (hsep : sep ≠ "") {ts : List String} (hts : ∀ t ∈ ts, IsPiece sep t) :
    ((sep.intercalate ts).split sep).toList.map (·.copy) = if ts = [] then [""] else ts := by
  have := ForwardStringSearcher.strictPatternModel hsep
  have := ForwardStringSearcher.lawfulToForwardSearcherModel hsep
  split
  · next hnil => rw [hnil, String.intercalate_nil, String.toList_split_empty]
  · next hne =>
    rw [String.split_eq_split_toSlice, String.Slice.toList_split_eq_splitToSubslice,
      String.Slice.Pattern.toList_splitToSubslice_eq_modelSplit, List.map_map]
    exact copy_split_of_splits hne hts (String.Slice.splits_startPos_iff.mpr ⟨rfl, by simp⟩)

end Split

/-! ### Trimming -/

variable {p : Char → Bool} {cs : List Char}

/-- Neither the first nor the last character satisfies `p`. -/
def Bare (p : Char → Bool) (cs : List Char) : Prop :=
  (∀ c, cs.head? = some c → p c = false) ∧ ∀ c, cs.getLast? = some c → p c = false

lemma trimWhere_eq (p : Char → Bool) (cs : List Char) :
    trimWhere p cs = (cs.dropWhile p).rdropWhile p := rfl

lemma mem_of_mem_trimWhere {c : Char} (h : c ∈ trimWhere p cs) : c ∈ cs :=
  List.dropWhile_subset p ((List.rdropWhile_prefix p _).subset h)

lemma trimWhere_eq_nil_iff : trimWhere p cs = [] ↔ ∀ c ∈ cs, p c = true := by
  rw [trimWhere_eq, List.rdropWhile_eq_nil_iff]
  constructor
  · intro h c hc
    rw [← List.takeWhile_append_dropWhile (p := p) (l := cs), List.mem_append] at hc
    rcases hc with hc | hc
    · exact List.mem_takeWhile_imp hc
    · exact h c hc
  · exact fun h c hc => h c (List.dropWhile_subset p hc)

lemma bare_trimWhere (p : Char → Bool) (cs : List Char) : Bare p (trimWhere p cs) := by
  rw [trimWhere_eq]
  constructor
  · intro c hc
    obtain ⟨rest, hrest⟩ := List.rdropWhile_prefix p (cs.dropWhile p)
    have hhead : (cs.dropWhile p).head? = some c := by
      rw [← hrest, List.head?_append, hc]; rfl
    have := List.head?_dropWhile_not p cs
    rw [hhead] at this
    simpa using this
  · intro c hc
    have hne : (cs.dropWhile p).rdropWhile p ≠ [] := fun h => by simp [h] at hc
    have hlast := List.rdropWhile_last_not p (cs.dropWhile p) hne
    rw [List.getLast?_eq_some_getLast hne, Option.some.injEq] at hc
    simpa [hc] using hlast

lemma head?_trimWhere (p : Char → Bool) (cs : List Char) :
    (trimWhere p cs).head? = cs.find? fun c => !p c := by
  have hdrop : (cs.find? fun c => !p c) = (cs.dropWhile p).head? := by
    simp [List.find?_eq_head?_dropWhile_not]
  rw [hdrop, trimWhere_eq]
  obtain ⟨rest, hrest⟩ := List.rdropWhile_prefix p (cs.dropWhile p)
  by_cases hnil : (cs.dropWhile p).rdropWhile p = []
  · -- what is left begins with a character to keep, unless nothing is left
    have hall := List.rdropWhile_eq_nil_iff.mp hnil
    have hnot := List.head?_dropWhile_not p cs
    rw [hnil]
    rcases hd : cs.dropWhile p with _ | ⟨c, ds⟩
    · rfl
    · rw [hd] at hall hnot
      simp [hall c List.mem_cons_self] at hnot
  · rw [← congrArg List.head? hrest, List.head?_append_of_ne_nil _ hnil]

lemma trimWhere_of_bare (h : Bare p cs) : trimWhere p cs = cs := by
  have hdrop : cs.dropWhile p = cs := by
    rcases cs with _ | ⟨c, cs⟩
    · rfl
    · rw [List.dropWhile_cons_of_neg (by simp [h.1 c rfl])]
  rw [trimWhere_eq, hdrop, List.rdropWhile_eq_self_iff]
  intro hne
  simp [h.2 _ (List.getLast?_eq_some_getLast hne)]

end ClientGen.Text
