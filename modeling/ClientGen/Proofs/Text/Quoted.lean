import ClientGen.Proofs.Text.Bytes
import ClientGen.Text.Quoted
import Mathlib.Data.List.DropRight

/-!
Quoted literals mean what they are made of. Each escape is read back as its character, whatever
follows it. All characters of a literal show as themselves, so that it stands on one line, and the
double quotes inside it are those that a backslash escapes.
-/

namespace ClientGen.Text

/-! ### Hexadecimal digits -/

lemma hexValue_hexDigit : ∀ n < 16, hexValue? (hexDigit n) = some n := by decide

lemma hexDigit_ne : ∀ n < 16, hexDigit n ≠ '}' ∧ hexDigit n ≠ '_' ∧ hexDigit n ≠ '"' := by
  decide

lemma isHidden_hexDigit : ∀ n < 16, isHidden (hexDigit n) = false := by decide

lemma exists_of_mem_hexDigits {n : Nat} {c : Char} (h : c ∈ hexDigits n) :
    ∃ d < 16, c = hexDigit d := by
  induction n using hexDigits.induct with
  | case1 n hn =>
    rw [hexDigits, if_pos hn, List.mem_singleton] at h
    exact ⟨n, hn, h⟩
  | case2 n hn ih =>
    rw [hexDigits, if_neg hn, List.mem_append, List.mem_singleton] at h
    rcases h with h | h
    · exact ih h
    · exact ⟨n % 16, Nat.mod_lt _ (by decide), h⟩

lemma readBody?_hexDigit {d : Nat} (hd : d < 16) {count : Nat} (hcount : count < 6) (value : Nat)
    (cs : List Char) : readBody? (.digits count value) (hexDigit d :: cs) =
      readBody? (.digits (count + 1) (16 * value + d)) cs := by
  obtain ⟨hbrace, hline, -⟩ := hexDigit_ne d hd
  rw [readBody?, if_neg (by simpa using hbrace), if_neg (by simpa using hline),
    hexValue_hexDigit d hd]
  exact if_pos hcount

lemma readBody?_hexDigits {k n : Nat} (hk : k < 6) (hn : n < Nat.pow 16 (k + 1))
    (cs : List Char) :
    ∃ count, 0 < count ∧ count ≤ k + 1 ∧
      readBody? (.digits 0 0) (hexDigits n ++ cs) = readBody? (.digits count n) cs := by
  induction k generalizing n cs with
  | zero =>
    have hsmall : n < 16 := hn
    rw [hexDigits, if_pos hsmall]
    exact ⟨1, by decide, by decide, by simpa using readBody?_hexDigit hsmall (by decide) 0 cs⟩
  | succ k ih =>
    by_cases hsmall : n < 16
    · rw [hexDigits, if_pos hsmall]
      exact ⟨1, by decide, by omega, by simpa using readBody?_hexDigit hsmall (by decide) 0 cs⟩
    · have hdiv : n / 16 < Nat.pow 16 (k + 1) := Nat.div_lt_of_lt_mul (Nat.mul_comm .. ▸ hn)
      obtain ⟨count, hpos, hle, hread⟩ := ih (by omega) hdiv (hexDigit (n % 16) :: cs)
      refine ⟨count + 1, by omega, by omega, ?_⟩
      rw [hexDigits, if_neg hsmall, List.append_assoc, List.singleton_append, hread,
        readBody?_hexDigit (Nat.mod_lt _ (by decide)) (by omega), Nat.div_add_mod]

/-! ### Escapes -/

/-- What stands behind the backslash of an escape by a letter. -/
def escapeLetters : List Char := ['0', 't', 'r', 'n', '"', '\\']

lemma of_mem_escapeLetters {letter : Char} (h : letter ∈ escapeLetters) :
    letter ∉ ['u', 'x', '\n'] ∧ isHidden letter = false := by
  simp only [escapeLetters, List.mem_cons, List.not_mem_nil, or_false] at h
  rcases h with rfl | rfl | rfl | rfl | rfl | rfl <;> decide

lemma escape_cases (c : Char) :
    (∃ letter ∈ escapeLetters, escape c = ['\\', letter] ∧ meantBy? letter = some c) ∨
    escape c = '\\' :: 'u' :: '{' :: (hexDigits c.toNat ++ ['}']) ∨
    (escape c = [c] ∧ isHidden c = false ∧ c ∉ ['"', '\\']) := by
  by_cases hnul : c = '\x00'
  · exact Or.inl ⟨'0', by subst hnul; decide⟩
  by_cases htab : c = '\t'
  · exact Or.inl ⟨'t', by subst htab; decide⟩
  by_cases hreturn : c = '\r'
  · exact Or.inl ⟨'r', by subst hreturn; decide⟩
  by_cases hbreak : c = '\n'
  · exact Or.inl ⟨'n', by subst hbreak; decide⟩
  by_cases hquote : c = '"'
  · exact Or.inl ⟨'"', by subst hquote; decide⟩
  by_cases hslash : c = '\\'
  · exact Or.inl ⟨'\\', by subst hslash; decide⟩
  by_cases hhidden : isHidden c = true
  · exact Or.inr (Or.inl (by
      simp [escape, hnul, htab, hreturn, hbreak, hquote, hslash, hhidden]))
  · exact Or.inr (Or.inr (by
      simp [escape, hnul, htab, hreturn, hbreak, hquote, hslash, hhidden]))

lemma readBody?_escape (c : Char) (cs : List Char) :
    readBody? (.plain false) (escape c ++ cs) = (readBody? (.plain false) cs).map (c :: ·) := by
  rcases escape_cases c with ⟨letter, hmem, hescape, hmeant⟩ | hescape | ⟨hescape, hshown, hc⟩
  · have hletter := (of_mem_escapeLetters hmem).1
    simp only [List.mem_cons, List.not_mem_nil, or_false, not_or] at hletter
    rw [hescape]
    change readBody? .escaped (letter :: cs) = _
    rw [readBody?]
    simp [hletter, hmeant]
  · have hsix : c.toNat < Nat.pow 16 6 := Nat.lt_trans (codePoint_lt c) (by decide)
    obtain ⟨count, hpos, -, hread⟩ := readBody?_hexDigits (by decide) hsix ('}' :: cs)
    have hvalid : c.toNat.isValidChar := c.valid
    rw [hescape]
    change readBody? (.digits 0 0) ((hexDigits c.toNat ++ ['}']) ++ cs) = _
    rw [List.append_assoc, List.singleton_append, hread, readBody?, if_pos (beq_self_eq_true _),
      if_pos (by simpa using ⟨hpos, hvalid⟩), Char.ofNat_toNat]
  · simp only [List.mem_cons, List.not_mem_nil, or_false, not_or] at hc
    have hreturn : c ≠ '\r' := by
      rintro rfl
      exact absurd hshown (by decide)
    rw [hescape, List.singleton_append, readBody?]
    simp [hc, hreturn]

/-- Reading a literal gives the text that it was made of. -/
theorem unquote?_quote (s : String) : unquote? (quote s) = some s := by
  have hbody : ∀ cs : List Char,
      readBody? (.plain false) (cs.flatMap escape ++ ['"']) = some cs := by
    intro cs
    induction cs with
    | nil => rfl
    | cons c cs ih => rw [List.flatMap_cons, List.append_assoc, readBody?_escape, ih]; rfl
  rw [quote, unquote?, String.toList_ofList]
  change (if ('"' == '"') = true then
    (readBody? (.plain false) (s.toList.flatMap escape ++ ['"'])).map String.ofList else none) = _
  rw [hbody, if_pos (beq_self_eq_true _), Option.map_some, String.ofList_toList]

/-! ### One line -/

lemma isHidden_of_mem_escape {c d : Char} (h : d ∈ escape c) : isHidden d = false := by
  rcases escape_cases c with ⟨letter, hmem, hescape, -⟩ | hescape | ⟨hescape, hshown, -⟩
  · rw [hescape, List.mem_cons, List.mem_singleton] at h
    rcases h with rfl | rfl
    · decide
    · exact (of_mem_escapeLetters hmem).2
  · simp only [hescape, List.mem_cons, List.mem_append, List.not_mem_nil, or_false] at h
    rcases h with rfl | rfl | rfl | h | rfl
    · decide
    · decide
    · decide
    · obtain ⟨n, hn, rfl⟩ := exists_of_mem_hexDigits h
      exact isHidden_hexDigit n hn
    · decide
  · rw [hescape, List.mem_singleton] at h
    rwa [h]

lemma isHidden_of_mem_quote {s : String} {d : Char} (h : d ∈ (quote s).toList) :
    isHidden d = false := by
  rw [quote, String.toList_ofList, List.mem_append, List.mem_cons, List.mem_flatMap,
    List.mem_singleton] at h
  rcases h with (rfl | ⟨c, -, hc⟩) | rfl
  · decide
  · exact isHidden_of_mem_escape hc
  · decide

lemma not_mem_quote (s : String) : '\n' ∉ (quote s).toList ∧ '\r' ∉ (quote s).toList :=
  ⟨fun h => absurd (isHidden_of_mem_quote h) (by decide),
    fun h => absurd (isHidden_of_mem_quote h) (by decide)⟩

/-- Where a line can end: at a line feed, vertical tab, form feed, carriage return, next line, line
separator or paragraph separator. -/
def lineEnds : List Nat := [0x0a, 0x0b, 0x0c, 0x0d, 0x85, 0x2028, 0x2029]

def isLineEnd (c : Char) : Bool := lineEnds.contains c.toNat

lemma isHidden_of_isLineEnd {c : Char} (h : isLineEnd c = true) : isHidden c = true := by
  have hall : lineEnds.all (fun n => isHidden (Char.ofNat n)) = true := by decide +kernel
  have := List.all_eq_true.mp hall _ (List.contains_iff_mem.mp h)
  rwa [Char.ofNat_toNat] at this

/-! ### Quotes inside -/

/-- The backslashes that a character has right before it. -/
def slashes (before : List Char) : Nat := (before.rtakeWhile (· == '\\')).length

/-- A character is escaped if the backslashes before it do not pair off among themselves. -/
def Escapes (before : List Char) : Prop := slashes before % 2 = 1

lemma slashes_concat (before : List Char) : slashes (before ++ ['\\']) = slashes before + 1 := by
  rw [slashes, List.rtakeWhile_concat_pos _ _ _ (by decide), List.length_append]
  rfl

lemma slashes_concat_of_ne {c : Char} (hc : c ≠ '\\') (before : List Char) :
    slashes (before ++ [c]) = 0 := by
  rw [slashes, List.rtakeWhile_concat_neg _ _ _ (by simpa using hc)]
  rfl

/-- The escape of a character leaves no backslash that could escape what follows it. -/
lemma slashes_escape {before : List Char} (h : slashes before % 2 = 0) (c : Char) :
    slashes (before ++ escape c) % 2 = 0 := by
  rcases escape_cases c with ⟨letter, -, hescape, -⟩ | hescape | ⟨hescape, -, hc⟩
  · have hsplit : before ++ escape c = (before ++ ['\\']) ++ [letter] := by simp [hescape]
    rw [hsplit]
    by_cases hletter : letter = '\\'
    · rw [hletter, slashes_concat, slashes_concat]
      omega
    · rw [slashes_concat_of_ne hletter]
  · have hsplit : before ++ escape c =
        (before ++ '\\' :: 'u' :: '{' :: hexDigits c.toNat) ++ ['}'] := by simp [hescape]
    rw [hsplit, slashes_concat_of_ne (by decide)]
  · simp only [List.mem_cons, List.not_mem_nil, or_false, not_or] at hc
    rw [hescape, slashes_concat_of_ne hc.2]

lemma slashes_flatMap_escape {before : List Char} (h : slashes before % 2 = 0) (cs : List Char) :
    slashes (before ++ cs.flatMap escape) % 2 = 0 := by
  induction cs generalizing before with
  | nil => simpa using h
  | cons c cs ih =>
    rw [List.flatMap_cons, ← List.append_assoc]
    exact ih (slashes_escape h c)

lemma eq_of_escape_eq {c : Char} {before behind : List Char}
    (h : escape c = before ++ '"' :: behind) : before = ['\\'] := by
  have hmem : '"' ∈ escape c := by simp [h]
  rcases escape_cases c with ⟨letter, -, hescape, -⟩ | hescape | ⟨hescape, -, hc⟩
  · rw [hescape] at h
    rcases before with _ | ⟨a, _ | ⟨b, before⟩⟩
    · simp at h
    · obtain rfl : '\\' = a := by simpa using congrArg List.head? h
      rfl
    · simp at h
  · have hdigits : '"' ∉ hexDigits c.toNat := by
      intro hdigit
      obtain ⟨n, hn, heq⟩ := exists_of_mem_hexDigits hdigit
      exact (hexDigit_ne n hn).2.2 heq.symm
    simp [hescape, hdigits] at hmem
  · rw [hescape, List.mem_singleton] at hmem
    exact absurd (by simp [← hmem]) hc

/-- Among the escapes of characters all double quotes are escaped, whatever stands before, if it has
no backslash left. -/
lemma escapes_of_flatMap_escape {read before behind cs : List Char} (h : slashes read % 2 = 0)
    (heq : cs.flatMap escape = before ++ '"' :: behind) : Escapes (read ++ before) := by
  -- the quote is in what follows the first escape, or in this escape itself
  induction cs generalizing read before with
  | nil => simp at heq
  | cons c cs ih =>
    rw [List.flatMap_cons] at heq
    rcases List.append_eq_append_iff.mp heq with ⟨extra, hbefore, hrest⟩ | ⟨extra, hescape, hrest⟩
    · rw [hbefore, ← List.append_assoc]
      exact ih (slashes_escape h c) hrest
    · rcases extra with _ | ⟨d, extra⟩
      · rw [List.append_nil] at hescape
        have hnext : cs.flatMap escape = [] ++ '"' :: behind := hrest.symm
        have := ih (slashes_escape h c) hnext
        rwa [List.append_nil, hescape] at this
      · obtain rfl : '"' = d := by simpa using congrArg List.head? hrest
        rw [eq_of_escape_eq hescape, Escapes, slashes_concat]
        omega

/-- **Quoted literals.** A literal stands on one line. It begins with a double quote and ends with
one that is not escaped, while all that stand between them are. Reading it gives the text that it
was made of, so that different texts have different literals. -/
theorem quote_faithful (s : String) :
    (∀ c ∈ (quote s).toList, isLineEnd c = false) ∧
    (∃ body, (quote s).toList = '"' :: body ++ ['"'] ∧ ¬ Escapes body ∧
      ∀ before behind, body = before ++ '"' :: behind → Escapes before) ∧
    unquote? (quote s) = some s ∧
    Function.Injective quote := by
  have hread : slashes [] % 2 = 0 := rfl
  refine ⟨fun c hc => ?_, ⟨s.toList.flatMap escape, ?_, ?_, fun before behind h => ?_⟩,
    unquote?_quote s, fun a b h => ?_⟩
  · have hshown := isHidden_of_mem_quote hc
    exact Bool.eq_false_iff.mpr fun hend => by simp [isHidden_of_isLineEnd hend] at hshown
  · rw [quote, String.toList_ofList]
  · have heven : slashes (s.toList.flatMap escape) % 2 = 0 := slashes_flatMap_escape hread s.toList
    rw [Escapes]
    omega
  · exact escapes_of_flatMap_escape hread h
  · rw [← Option.some.injEq, ← unquote?_quote a, h, unquote?_quote]

theorem quote_faithful_bell :
    quote "\x071\"" = "\"\\u\x7b7\x7d1\\\"\"" ∧ isLineEnd '1' = false ∧
    Escapes ['\\', 'u', '{', '7', '}', '1', '\\'] ∧
    unquote? (quote "\x071\"") = some "\x071\"" := by
  have htext : quote "\x071\"" = "\"\\u\x7b7\x7d1\\\"\"" := by decide +kernel
  obtain ⟨hline, ⟨body, hbody, -, hquotes⟩, hread, -⟩ := quote_faithful "\x071\""
  have hinside : body = ['\\', 'u', '{', '7', '}', '1', '\\'] ++ '"' :: [] := by
    rw [htext] at hbody
    exact (List.append_cancel_right (List.cons.inj hbody).2).symm
  exact ⟨htext, hline '1' (by rw [htext]; decide), hquotes _ _ hinside, hread⟩

end ClientGen.Text
