import ClientGen.Proofs.Naming.Words

/-!
What the conversions of a text tell about its spelling. A text of ASCII letters and digits is one
word; its snake case is its letters and digits in lower case, with an underscore wherever a part
begins. So the snake case tells the letters without their case, and where the parts begin. Pascal
case runs the words of a text together and changes nothing but the first character of each, and
camel case is Pascal case but for its first character; each of the two can be told from the other.
-/

namespace ClientGen.Naming

open Text

/-- For each letter or digit behind `before`, whether a part begins there. -/
def partStarts (before : Char) : List Char → List Bool
  | [] => []
  | c :: cs => beginsPart before c cs.head? :: partStarts c cs

/-- For each letter or digit of a word but the first one, whether a part begins there. -/
def startsOf : List Char → List Bool
  | [] => []
  | c :: cs => partStarts c cs

/-- Two texts have the same letters and digits but for case, and their parts begin at the same
places. -/
def SpelledAlike (s t : String) : Prop :=
  s.toList.map Char.toLower = t.toList.map Char.toLower ∧ startsOf s.toList = startsOf t.toList

instance : DecidableRel SpelledAlike := fun _ _ => inferInstanceAs (Decidable (_ ∧ _))

/-! ### One word -/

lemma toLower_ne_underscore {c : Char} (h : c.isAlphanum = true) : c.toLower ≠ '_' :=
  ne_underscore_of_isSmall (isSmall_toLower h)

@[simp] lemma snakeTail_nil (b : Char) : snakeTail b [] = [] := rfl

@[simp] lemma snakeTail_eq_nil_iff {b : Char} {cs : List Char} : snakeTail b cs = [] ↔ cs = [] := by
  cases cs with
  | nil => simp
  | cons c cs =>
    rw [snakeTail]
    split <;> simp

lemma snakeTail_eq_iff {b b' : Char} {cs ds : List Char} (hc : ∀ c ∈ cs, c.isAlphanum = true)
    (hd : ∀ d ∈ ds, d.isAlphanum = true) : snakeTail b cs = snakeTail b' ds ↔
      cs.map Char.toLower = ds.map Char.toLower ∧ partStarts b cs = partStarts b' ds := by
  induction cs generalizing b b' ds with
  | nil =>
    rw [snakeTail_nil, eq_comm, snakeTail_eq_nil_iff]
    cases ds <;> simp [partStarts]
  | cons c cs ih =>
    cases ds with
    | nil => simp
    | cons d ds =>
      have hrest : snakeTail c cs = snakeTail d ds ↔
          cs.map Char.toLower = ds.map Char.toLower ∧ partStarts c cs = partStarts d ds :=
        ih (fun x hx => hc x (List.mem_cons_of_mem c hx)) fun x hx =>
          hd x (List.mem_cons_of_mem d hx)
      have hcl := toLower_ne_underscore (hc c (by simp))
      have hdl := toLower_ne_underscore (hd d (by simp))
      rw [snakeTail, snakeTail, partStarts, partStarts]
      -- a part that begins on one side only meets an underscore with a letter
      rcases beginsPart b c cs.head? <;> rcases beginsPart b' d ds.head?
      · simp [hrest, and_assoc]
      · simp [hcl]
      · simp [hdl.symm]
      · simp [hrest, and_assoc]

lemma snakeWord_eq_iff {cs ds : List Char} (hc : ∀ c ∈ cs, c.isAlphanum = true)
    (hd : ∀ d ∈ ds, d.isAlphanum = true) : snakeWord cs = snakeWord ds ↔
      cs.map Char.toLower = ds.map Char.toLower ∧ startsOf cs = startsOf ds := by
  cases cs with
  | nil => cases ds <;> simp [snakeWord, startsOf]
  | cons c cs =>
    cases ds with
    | nil => simp [snakeWord]
    | cons d ds =>
      have htail : snakeTail c cs = snakeTail d ds ↔
          cs.map Char.toLower = ds.map Char.toLower ∧ partStarts c cs = partStarts d ds :=
        snakeTail_eq_iff (fun x hx => hc x (List.mem_cons_of_mem c hx)) fun x hx =>
          hd x (List.mem_cons_of_mem d hx)
      simp [snakeWord, startsOf, htail, and_assoc]

/-! ### Texts of letters and digits -/

lemma words_eq_singleton {cs : List Char} (hne : cs ≠ []) (h : ∀ c ∈ cs, c.isAlphanum = true) :
    words cs = [cs] := by
  rw [words, cut_of_not_sep _ fun c hc => by rw [h c hc]; rfl]
  simp [hne]

lemma toList_snake {s : String} (h : s ≠ "" ∧ ∀ c ∈ s.toList, c.isAlphanum = true) :
    (snake s).toList = snakeWord s.toList := by
  rw [snake, String.toList_ofList, words_eq_singleton (String.toList_eq_nil_iff.not.mpr h.1) h.2,
    List.map_singleton, List.intercalate_singleton]

/-- **Snake case tells the spelling.** Two texts of letters and digits have one snake case just if
they are spelled alike. -/
theorem snake_eq_iff {s t : String} (h : s ≠ "" ∧ ∀ c ∈ s.toList, c.isAlphanum = true)
    (h' : t ≠ "" ∧ ∀ c ∈ t.toList, c.isAlphanum = true) :
    snake s = snake t ↔ SpelledAlike s t := by
  rw [← String.toList_inj, toList_snake h, toList_snake h', snakeWord_eq_iff h.2 h'.2]
  rfl

example : SpelledAlike "Pods" "pods" ∧ SpelledAlike "HTTPServers" "httpServers" ∧
    ¬ SpelledAlike "ReplicaSets" "Replicasets" := by decide

/-! ### Pascal and camel case -/

section Pascal

variable {s : String} {c : Char} {cs : List Char}

lemma toList_lowerFirst (h : ∀ c ∈ s.toList, c.isAlphanum = true) :
    (lowerFirst s).toList = s.toList.modifyHead Char.toLower := by
  rw [lowerFirst]
  split
  · next hs => rw [hs]; rfl
  · next c cs hs =>
    rw [hs] at h
    rw [hs, lowerChar_ascii (ascii_of_isAlphanum (h c List.mem_cons_self)), String.toList_ofList]
    rfl

lemma toList_camel (s : String) : (camel s).toList = (pascal s).toList.modifyHead Char.toLower :=
  toList_lowerFirst fun _ hc => isAlphanum_of_mem_pascal hc

lemma toList_pascal_of_isAlphanum (h : ∀ c ∈ s.toList, c.isAlphanum = true) :
    (pascal s).toList = s.toList.modifyHead Char.toUpper := by
  rw [toList_pascal]
  by_cases hnil : s.toList = []
  · rw [hnil]; rfl
  · rw [words_eq_singleton hnil h, List.flatMap_singleton]

lemma map_toLower_pascal (s : String) :
    (pascal s).toList.map Char.toLower = (s.toList.filter Char.isAlphanum).map Char.toLower := by
  have hword : ∀ w ∈ words s.toList,
      (w.modifyHead Char.toUpper).map Char.toLower = w.map Char.toLower := by
    intro w hw
    cases w with
    | nil => rfl
    | cons c w =>
      have hc := isAlphanum_of_mem_words hw c List.mem_cons_self
      rw [List.modifyHead_cons, List.map_cons, List.map_cons, toLower_toUpper hc]
  rw [toList_pascal, List.map_flatMap, List.flatMap_congr hword, ← flatten_words, List.map_flatten,
    List.flatMap_def]

lemma pascal_eq_empty_iff : pascal s = "" ↔ ∀ c ∈ s.toList, c.isAlphanum = false := by
  rw [← String.toList_eq_nil_iff, ← List.map_eq_nil_iff, map_toLower_pascal, List.map_eq_nil_iff,
    List.filter_eq_nil_iff]
  simp

lemma camel_eq_empty_iff : camel s = "" ↔ pascal s = "" := by
  rw [← String.toList_eq_nil_iff, toList_camel, List.modifyHead_eq_nil_iff,
    String.toList_eq_nil_iff]

lemma isLower_of_head?_pascal (h : (pascal s).toList.head? = some c) : c.isLower = false := by
  rw [toList_pascal] at h
  rcases hwords : words s.toList with _ | ⟨w, ws⟩
  · rw [hwords] at h
    cases h
  · have hw : w ∈ words s.toList := hwords ▸ List.mem_cons_self
    obtain ⟨d, w, rfl⟩ := List.exists_cons_of_ne_nil (ne_nil_of_mem_words hw)
    rw [hwords, List.flatMap_cons, List.modifyHead_cons, List.cons_append, List.head?_cons] at h
    obtain rfl := Option.some.inj h
    exact isLower_toUpper (isAlphanum_of_mem_words hw d List.mem_cons_self)

/-- **Pascal case as a form.** The texts that are their own Pascal case are made of letters and
digits and begin with no small letter. -/
theorem pascal_eq_self_iff : pascal s = s ↔
    (∀ c ∈ s.toList, c.isAlphanum = true) ∧ ∀ c, s.toList.head? = some c → c.isLower = false := by
  constructor
  · intro h
    exact ⟨fun c hc => isAlphanum_of_mem_pascal (h.symm ▸ hc),
      fun c hc => isLower_of_head?_pascal (h.symm ▸ hc)⟩
  · rintro ⟨hall, hfirst⟩
    refine String.toList_injective ?_
    rw [toList_pascal_of_isAlphanum hall]
    rcases hs : s.toList with _ | ⟨c, cs⟩
    · rfl
    · rw [hs] at hall hfirst
      rw [List.modifyHead_cons, toUpper_of_not_lower (hall c List.mem_cons_self) (hfirst c rfl)]

lemma pascal_pascal (s : String) : pascal (pascal s) = pascal s :=
  pascal_eq_self_iff.mpr
    ⟨fun _ hc => isAlphanum_of_mem_pascal hc, fun _ hc => isLower_of_head?_pascal hc⟩

lemma isAlphanum_of_mem_camel (h : c ∈ (camel s).toList) : c.isAlphanum = true := by
  rw [toList_camel] at h
  exact isAlphanum_of_mem_modifyHead (fun _ hc => isAlphanum_of_isSmall (isSmall_toLower hc))
    (fun _ => isAlphanum_of_mem_pascal) c h

/-- Only the first character of a camel case is not that of the Pascal case. -/
lemma pascal_camel (s : String) : pascal (camel s) = pascal s := by
  refine String.toList_injective ?_
  rw [toList_pascal_of_isAlphanum fun _ hc => isAlphanum_of_mem_camel hc, toList_camel]
  rcases hp : (pascal s).toList with _ | ⟨c, cs⟩
  · rfl
  · have hc : c.isAlphanum = true := isAlphanum_of_mem_pascal (hp ▸ List.mem_cons_self)
    have hfirst : c.isLower = false := isLower_of_head?_pascal (congrArg List.head? hp)
    rw [List.modifyHead_cons, List.modifyHead_cons, toUpper_toLower hc,
      toUpper_of_not_lower hc hfirst]

/-- **Pascal and camel case.** Each conversion undoes the other and changes nothing when it is made
again. Both give letters and digits, and nothing just for texts without any. A text that begins with
a capital and goes on with letters and digits is its own Pascal case. -/
theorem pascal_camel_agree (s : String) :
    (pascal (pascal s) = pascal s ∧ camel (camel s) = camel s) ∧
    (pascal (camel s) = pascal s ∧ camel (pascal s) = camel s) ∧
    (∀ c ∈ (pascal s).toList ++ (camel s).toList, c.isAlphanum = true) ∧
    ((pascal s = "" ↔ ∀ c ∈ s.toList, c.isAlphanum = false) ∧
      (camel s = "" ↔ ∀ c ∈ s.toList, c.isAlphanum = false)) ∧
    ∀ c cs, s.toList = c :: cs → c.isUpper = true → (∀ d ∈ cs, d.isAlphanum = true) →
      pascal s = s := by
  have hcamel : camel (pascal s) = camel s := by rw [camel, pascal_pascal, camel]
  refine ⟨⟨pascal_pascal s, ?_⟩, ⟨pascal_camel s, hcamel⟩, ?_, ?_, ?_⟩
  · rw [camel, pascal_camel, camel]
  · exact List.forall_mem_append.mpr
      ⟨fun _ hc => isAlphanum_of_mem_pascal hc, fun _ hc => isAlphanum_of_mem_camel hc⟩
  · exact ⟨pascal_eq_empty_iff, camel_eq_empty_iff.trans pascal_eq_empty_iff⟩
  · intro c cs hs hc hcs
    refine pascal_eq_self_iff.mpr ⟨?_, ?_⟩
    · rw [hs, List.forall_mem_cons]
      exact ⟨isAlphanum_iff.mpr (Or.inl hc), hcs⟩
    · rw [hs]
      rintro _ ⟨rfl⟩
      exact isLower_of_isUpper hc

theorem pascal_camel_httpRoute : "HTTPRoute2".toList = 'H' :: "TTPRoute2".toList ∧
    'H'.isUpper = true ∧ (∀ d ∈ "TTPRoute2".toList, d.isAlphanum = true) ∧
    pascal "HTTPRoute2" = "HTTPRoute2" ∧ camel "HTTPRoute2" = "hTTPRoute2" ∧
    pascal "hTTPRoute2" = "HTTPRoute2" := by
  have hcamel : camel "HTTPRoute2" = "hTTPRoute2" := by decide +kernel
  obtain ⟨-, ⟨hback, -⟩, -, -, hself⟩ := pascal_camel_agree "HTTPRoute2"
  have hrest : ∀ d ∈ "TTPRoute2".toList, d.isAlphanum = true := List.all_eq_true.mp (by decide)
  have hpascal : pascal "HTTPRoute2" = "HTTPRoute2" :=
    hself 'H' "TTPRoute2".toList (by decide) (by decide) hrest
  exact ⟨by decide, by decide, hrest, hpascal, hcamel, by rw [← hcamel, hback, hpascal]⟩

end Pascal

end ClientGen.Naming
