import ClientGen.Naming.Words
import ClientGen.Proofs.Naming.Module
import ClientGen.Proofs.Text.Cut

/-!
Snake case keeps the letters and digits of a text, in lower case and in order. It adds nothing but
underscores, so two kinds with one snake case have one stem. It puts single underscores between
small letters and digits, and a text of this form is its own snake case: its words are what stands
between the underscores, and without capitals no part begins inside of a word.
-/

namespace ClientGen.Naming

open Text

lemma flatten_words (cs : List Char) : (words cs).flatten = cs.filter Char.isAlphanum := by
  have hfilter : (cs.filter fun c => !(!c.isAlphanum)) = cs.filter Char.isAlphanum :=
    List.filter_congr fun c _ => Bool.not_not _
  rw [words, List.flatten_filter_not_isEmpty, flatten_cut, hfilter]

lemma isAlphanum_of_mem_words {cs w : List Char} (h : w ∈ words cs) :
    ∀ c ∈ w, c.isAlphanum = true := by
  intro c hc
  have hmem : c ∈ (words cs).flatten := List.mem_flatten.mpr ⟨w, h, hc⟩
  rw [flatten_words] at hmem
  exact (List.mem_filter.mp hmem).2

lemma toList_upperFirst {cs : List Char} (h : ∀ c ∈ cs, c.isAlphanum = true) :
    (upperFirst (String.ofList cs)).toList = cs.modifyHead Char.toUpper := by
  cases cs with
  | nil => rfl
  | cons c cs => simp [upperFirst, upperChar_ascii (ascii_of_isAlphanum (h c List.mem_cons_self))]

lemma toList_pascal (s : String) :
    (pascal s).toList = (words s.toList).flatMap fun w => w.modifyHead Char.toUpper := by
  rw [pascal, String.toList_join, List.flatMap_map]
  exact List.flatMap_congr fun w hw => toList_upperFirst (isAlphanum_of_mem_words hw)

lemma isAlphanum_of_mem_modifyHead {f : Char → Char} {cs : List Char}
    (hf : ∀ c, c.isAlphanum = true → (f c).isAlphanum = true)
    (h : ∀ c ∈ cs, c.isAlphanum = true) : ∀ c ∈ cs.modifyHead f, c.isAlphanum = true := by
  cases cs with
  | nil => exact h
  | cons c cs =>
    obtain ⟨hc, hcs⟩ := List.forall_mem_cons.mp h
    exact List.forall_mem_cons.mpr ⟨hf c hc, hcs⟩

lemma isAlphanum_of_mem_pascal {s : String} {c : Char} (h : c ∈ (pascal s).toList) :
    c.isAlphanum = true := by
  rw [toList_pascal, List.mem_flatMap] at h
  obtain ⟨w, hw, hc⟩ := h
  exact isAlphanum_of_mem_modifyHead (fun _ => isAlphanum_toUpper) (isAlphanum_of_mem_words hw) c hc

/-! ### Between the underscores -/

/-- A text without its underscores. -/
def squeeze (cs : List Char) : List Char := cs.filter (· != '_')

lemma squeeze_append (as bs : List Char) : squeeze (as ++ bs) = squeeze as ++ squeeze bs :=
  List.filter_append ..

lemma squeeze_eq_self {cs : List Char} (h : ∀ c ∈ cs, isSmall c = true) : squeeze cs = cs := by
  refine List.filter_eq_self.mpr fun c hc => ?_
  rw [bne_iff_ne]
  rintro rfl
  exact absurd (h _ hc) (by decide)

lemma squeeze_toLower {c : Char} (h : c.isAlphanum = true) : squeeze [c.toLower] = [c.toLower] :=
  squeeze_eq_self (by simpa using isSmall_toLower h)

lemma squeeze_snakeTail {before : Char} {cs : List Char} (h : ∀ c ∈ cs, c.isAlphanum = true) :
    squeeze (snakeTail before cs) = cs.map Char.toLower := by
  induction cs generalizing before with
  | nil => rfl
  | cons c cs ih =>
    have hc := squeeze_toLower (h c (by simp))
    rw [snakeTail, squeeze_append, ih fun d hd => h d (by simp [hd]), List.map_cons]
    split
    · exact congrArg (· ++ cs.map Char.toLower) hc
    · exact congrArg (· ++ cs.map Char.toLower) hc

lemma squeeze_snakeWord {w : List Char} (h : ∀ c ∈ w, c.isAlphanum = true) :
    squeeze (snakeWord w) = w.map Char.toLower := by
  cases w with
  | nil => rfl
  | cons c cs =>
    have hc := squeeze_toLower (h c (by simp))
    rw [snakeWord, ← List.singleton_append, squeeze_append, hc,
      squeeze_snakeTail fun d hd => h d (by simp [hd])]
    rfl

lemma squeeze_intercalate_underscore (pieces : List (List Char)) :
    squeeze (List.intercalate ['_'] pieces) = (pieces.map squeeze).flatten := by
  induction pieces with
  | nil => rfl
  | cons p ps ih =>
    by_cases h : ps = []
    · subst h
      simp
    · have hsep : squeeze ['_'] = [] := rfl
      rw [List.intercalate_cons_of_ne_nil h, squeeze_append, squeeze_append, hsep, ih,
        List.append_nil, List.map_cons, List.flatten_cons]

/-- **Snake case keeps letters and digits.** Without its underscores, the snake case of any text
is what the text has of ASCII letters and digits, in lower case. -/
theorem squeeze_snake (s : String) :
    squeeze (snake s).toList = (s.toList.filter Char.isAlphanum).map Char.toLower := by
  have hwords : ∀ w ∈ words s.toList, (squeeze ∘ snakeWord) w = w.map Char.toLower :=
    fun w hw => squeeze_snakeWord (isAlphanum_of_mem_words hw)
  rw [snake, String.toList_ofList, squeeze_intercalate_underscore, List.map_map,
    List.map_congr_left hwords, ← List.map_flatten, flatten_words]

lemma isSegmentChar_of_mem_snake {s : String} {c : Char} (h : c ∈ (snake s).toList) :
    isSegmentChar c = true := by
  by_cases hc : c = '_'
  · rw [hc]
    rfl
  · have hmem : c ∈ squeeze (snake s).toList := List.mem_filter.mpr ⟨h, by simpa using hc⟩
    rw [squeeze_snake] at hmem
    obtain ⟨d, hd, rfl⟩ := List.mem_map.mp hmem
    rw [isSegmentChar, isSmall_toLower (List.mem_filter.mp hd).2, Bool.true_or]

/-- Kinds with one snake case have one stem. -/
lemma stem_eq_of_snake_eq {kind kind' : String} (h : ∀ c ∈ kind.toList, c.isAlphanum = true)
    (h' : ∀ c ∈ kind'.toList, c.isAlphanum = true) (hs : snake kind = snake kind') :
    stem kind = stem kind' := by
  refine String.toList_injective ?_
  have hbare := congrArg (fun t => squeeze t.toList) hs
  simp only [squeeze_snake, List.filter_eq_self.mpr h, List.filter_eq_self.mpr h'] at hbare
  rw [toList_stem h, toList_stem h', hbare]

/-! ### The form of snake case -/

/-- Small letters and digits, at least one, and single underscores between them. -/
inductive IsSnake : List Char → Prop where
  | single {c} (hc : isSmall c = true) : IsSnake [c]
  | cons {c cs} (hc : isSmall c = true) (h : IsSnake cs) : IsSnake (c :: cs)
  | underscore {c cs} (hc : isSmall c = true) (h : IsSnake cs) : IsSnake (c :: '_' :: cs)

section Form

variable {s : String} {c : Char} {cs ds : List Char}

lemma ne_underscore_of_isSmall (h : isSmall c = true) : c ≠ '_' := by
  rintro rfl
  exact absurd h (by decide)

lemma IsSnake.ne_nil (h : IsSnake cs) : cs ≠ [] := by
  cases h <;> exact List.cons_ne_nil _ _

lemma IsSnake.first (h : IsSnake cs) : cs.head? ≠ some '_' := by
  cases h with
  | single hc => simpa using ne_underscore_of_isSmall hc
  | cons hc _ => simpa using ne_underscore_of_isSmall hc
  | underscore hc _ => simpa using ne_underscore_of_isSmall hc

lemma IsSnake.last (h : IsSnake cs) : cs.getLast? ≠ some '_' := by
  induction h with
  | single hc => simpa using ne_underscore_of_isSmall hc
  | cons _ h ih => rwa [List.getLast?_cons_of_ne_nil h.ne_nil]
  | underscore _ h ih =>
    rwa [List.getLast?_cons_cons, List.getLast?_cons_of_ne_nil h.ne_nil]

lemma doubled_cons : ['_', '_'] <:+: c :: cs ↔
    (c = '_' ∧ cs.head? = some '_') ∨ ['_', '_'] <:+: cs := by
  have hone : ['_'] <+: cs ↔ cs.head? = some '_' := by
    cases cs <;> simp [eq_comm]
  rw [List.infix_cons_iff, List.cons_prefix_cons, hone, eq_comm]

lemma IsSnake.not_doubled (h : IsSnake cs) : ¬ ['_', '_'] <:+: cs := by
  induction h with
  | single hc => simp [doubled_cons]
  | cons hc _ ih => simp [doubled_cons, ne_underscore_of_isSmall hc, ih]
  | underscore hc h ih => simp [doubled_cons, ne_underscore_of_isSmall hc, h.first, ih]

lemma IsSnake.join (hc : IsSnake cs) (hd : IsSnake ds) : IsSnake (cs ++ '_' :: ds) := by
  induction hc with
  | single hc => exact .underscore hc hd
  | cons hc _ ih => exact .cons hc ih
  | underscore hc _ ih => exact .underscore hc ih

/-! ### What snake case gives -/

lemma isSnake_cons_snakeTail {before : Char} (hc : isSmall c = true)
    (h : ∀ d ∈ cs, d.isAlphanum = true) : IsSnake (c :: snakeTail before cs) := by
  induction cs generalizing c before with
  | nil => exact .single hc
  | cons d cs ih =>
    obtain ⟨hd, hcs⟩ := List.forall_mem_cons.mp h
    have hrest : IsSnake (d.toLower :: snakeTail d cs) := ih (isSmall_toLower hd) hcs
    rw [snakeTail]
    split
    · exact .underscore hc hrest
    · exact .cons hc hrest

lemma ne_nil_of_mem_words {w : List Char} (h : w ∈ words cs) : w ≠ [] := by
  simpa using (List.mem_filter.mp h).2

lemma isSnake_snakeWord {w : List Char} (h : w ∈ words cs) : IsSnake (snakeWord w) := by
  have hall := isAlphanum_of_mem_words h
  cases w with
  | nil => exact absurd rfl (ne_nil_of_mem_words h)
  | cons c w =>
    obtain ⟨hc, hw⟩ := List.forall_mem_cons.mp hall
    exact isSnake_cons_snakeTail (isSmall_toLower hc) hw

lemma isSnake_intercalate {pieces : List (List Char)} (hne : pieces ≠ [])
    (h : ∀ p ∈ pieces, IsSnake p) : IsSnake (List.intercalate ['_'] pieces) := by
  induction pieces with
  | nil => exact absurd rfl hne
  | cons p ps ih =>
    obtain ⟨hp, hps⟩ := List.forall_mem_cons.mp h
    by_cases hnil : ps = []
    · rwa [hnil, List.intercalate_singleton]
    · rw [List.intercalate_cons_of_ne_nil hnil, List.append_assoc, List.singleton_append]
      exact hp.join (ih hnil hps)

lemma isSnake_snake (s : String) : snake s = "" ∨ IsSnake (snake s).toList := by
  by_cases hnil : words s.toList = []
  · left
    rw [snake, hnil]
    rfl
  · right
    rw [snake, String.toList_ofList]
    exact isSnake_intercalate (by simpa using hnil)
      (List.forall_mem_map.mpr fun w hw => isSnake_snakeWord hw)

/-- No underscore stands at an end of a snake case, and none beside another one. -/
lemma snake_separated (s : String) : (snake s).toList.head? ≠ some '_' ∧
    (snake s).toList.getLast? ≠ some '_' ∧ ¬ ['_', '_'] <:+: (snake s).toList := by
  rcases isSnake_snake s with h | h
  · simp [h]
  · exact ⟨h.first, h.last, h.not_doubled⟩

/-! ### What is its own snake case -/

lemma toLower_of_isSmall (h : isSmall c = true) : c.toLower = c :=
  toLower_of_not_upper (ascii_of_isSmall h).2

lemma snakeTail_eq_self {before : Char} (h : ∀ c ∈ cs, isSmall c = true) :
    snakeTail before cs = cs := by
  induction cs generalizing before with
  | nil => rfl
  | cons c cs ih =>
    obtain ⟨hc, hcs⟩ := List.forall_mem_cons.mp h
    have hbegins : beginsPart before c cs.head? = false := by
      simp [beginsPart, (ascii_of_isSmall hc).2]
    rw [snakeTail, hbegins, ih hcs, toLower_of_isSmall hc]
    rfl

lemma snakeWord_eq_self (h : ∀ c ∈ cs, isSmall c = true) : snakeWord cs = cs := by
  cases cs with
  | nil => rfl
  | cons c cs =>
    obtain ⟨hc, hcs⟩ := List.forall_mem_cons.mp h
    rw [snakeWord, snakeTail_eq_self hcs, toLower_of_isSmall hc]

lemma intercalate_modifyHead_cons {pieces : List (List Char)} (h : pieces ≠ []) :
    List.intercalate ['_'] (pieces.modifyHead (c :: ·)) = c :: List.intercalate ['_'] pieces := by
  cases pieces with
  | nil => exact absurd rfl h
  | cons p ps => cases ps <;> simp

lemma IsSnake.cut (h : IsSnake cs) :
    (∀ w ∈ Text.cut (fun c => !c.isAlphanum) cs, w ≠ [] ∧ ∀ c ∈ w, isSmall c = true) ∧
      List.intercalate ['_'] (Text.cut (fun c => !c.isAlphanum) cs) = cs := by
  induction h with
  | single hc => simp [Text.cut, isAlphanum_of_isSmall hc, hc]
  | @cons c cs hc _ ih =>
    obtain ⟨hpieces, heq⟩ := ih
    rw [Text.cut, if_neg (by simp [isAlphanum_of_isSmall hc])]
    refine ⟨?_, by rw [intercalate_modifyHead_cons (cut_ne_nil _ _), heq]⟩
    obtain ⟨w, ws, hcut⟩ := List.exists_cons_of_ne_nil (cut_ne_nil (fun c => !c.isAlphanum) cs)
    rw [hcut, List.forall_mem_cons] at hpieces
    rw [hcut, List.modifyHead_cons, List.forall_mem_cons]
    exact ⟨⟨List.cons_ne_nil c w, List.forall_mem_cons.mpr ⟨hc, hpieces.1.2⟩⟩, hpieces.2⟩
  | @underscore c cs hc _ ih =>
    have hcut : Text.cut (fun c => !c.isAlphanum) (c :: '_' :: cs) =
        [c] :: Text.cut (fun c => !c.isAlphanum) cs := by
      simp [Text.cut, isAlphanum_of_isSmall hc]
    rw [hcut, List.forall_mem_cons, List.intercalate_cons_of_ne_nil (cut_ne_nil _ _), ih.2]
    exact ⟨⟨by simpa using hc, ih.1⟩, rfl⟩

lemma IsSnake.snake_eq_self (h : IsSnake s.toList) : snake s = s := by
  obtain ⟨hpieces, heq⟩ := h.cut
  have hwords : words s.toList = Text.cut (fun c => !c.isAlphanum) s.toList :=
    List.filter_eq_self.mpr fun w hw => by simpa using (hpieces w hw).1
  refine String.toList_injective ?_
  rw [snake, String.toList_ofList, hwords,
    List.map_congr_left fun w hw => snakeWord_eq_self (hpieces w hw).2, List.map_id', heq]

/-- **Normal form.** A text is its own snake case just if it is empty or in snake case. -/
theorem snake_eq_self_iff : snake s = s ↔ s = "" ∨ IsSnake s.toList := by
  refine ⟨fun h => h ▸ isSnake_snake s, ?_⟩
  rintro (rfl | h)
  · rfl
  · exact h.snake_eq_self

lemma snake_snake (s : String) : snake (snake s) = snake s :=
  snake_eq_self_iff.mpr (isSnake_snake s)

end Form

end ClientGen.Naming
