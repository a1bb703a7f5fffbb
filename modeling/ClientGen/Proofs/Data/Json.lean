import ClientGen.Data.Json
import ClientGen.Proofs.Text.Case
import ClientGen.Proofs.Text.Quoted
import Mathlib.Data.List.TakeWhile

/-!
Reading a JSON text gives the value that it was made of. A value is spelled by tokens: the text of
the value is read as these tokens, whatever follows it, and gathering them gives the value back,
whatever lists and objects are open around it.
-/

namespace ClientGen.Data.Json

open Text

/-! ### Tokens -/

mutual

def tokens : Json → List Token
  | .null => [.null]
  | .bool b => [.bool b]
  | .number literal => [.number literal]
  | .text s => [.text (some s)]
  | .brokenText => [.text none]
  | .list [] => [.openList, .closeList]
  | .list (v :: vs) => .openList :: tokens v ++ itemTokens vs
  | .object [] => [.openObject, .closeObject]
  | .object ((key, v) :: fs) => .openObject :: .text key :: .colon :: tokens v ++ fieldTokens fs

/-- The tokens of the further items of a list, and of its end. -/
def itemTokens : List Json → List Token
  | [] => [.closeList]
  | v :: vs => .comma :: tokens v ++ itemTokens vs

/-- The tokens of the further fields of an object, and of its end. -/
def fieldTokens : List (Option String × Json) → List Token
  | [] => [.closeObject]
  | (key, v) :: fs => .comma :: .text key :: .colon :: tokens v ++ fieldTokens fs

end

/-! ### Gathering -/

variable {stack : List Frame} {expected : Expected} {t : Token} {ts : List Token}

lemma gatherAll?_cons : gatherAll? stack expected (t :: ts) =
    (gather? stack expected t).bind fun s => gatherAll? s.1 s.2 ts := by
  rw [gatherAll?]
  rcases gather? stack expected t with _ | ⟨stack', expected'⟩ <;> rfl

lemma exists_tokens (v : Json) : ∃ t ts, tokens v = t :: ts ∧ t ≠ .closeList := by
  rcases v with _ | _ | _ | _ | _ | (_ | _) | (_ | _)
  all_goals exact ⟨_, _, rfl, Token.noConfusion⟩

lemma gatherAll?_item (v : Json) (ts : List Token) :
    gatherAll? stack .item (tokens v ++ ts) = gatherAll? stack .value (tokens v ++ ts) := by
  obtain ⟨t, rest, htokens, hne⟩ := exists_tokens v
  have hsame : gather? stack .item t = gather? stack .value t := by
    simp only [gather?]
    split
    · exact absurd rfl hne
    · rfl
  rw [htokens, List.cons_append, gatherAll?_cons, gatherAll?_cons, hsame]

mutual

lemma gatherAll?_tokens : ∀ (v : Json) (stack : List Frame) (ts : List Token),
    gatherAll? stack .value (tokens v ++ ts) = gatherAll? stack (.next v) ts
  | .null, _, _ => rfl
  | .bool _, _, _ => rfl
  | .number _, _, _ => rfl
  | .text _, _, _ => rfl
  | .brokenText, _, _ => rfl
  | .list [], _, _ => rfl
  | .list (v :: vs), stack, ts => calc
      gatherAll? stack .value (tokens (.list (v :: vs)) ++ ts)
        = gatherAll? (.list [] :: stack) .item (tokens v ++ (itemTokens vs ++ ts)) := by
          rw [tokens, List.append_assoc]; rfl
      _ = gatherAll? (.list [] :: stack) (.next v) (itemTokens vs ++ ts) := by
          rw [gatherAll?_item, gatherAll?_tokens v]
      _ = gatherAll? stack (.next (.list (v :: vs))) ts := gatherAll?_itemTokens vs v [] stack ts
  | .object [], _, _ => rfl
  | .object ((key, v) :: fs), stack, ts => calc
      gatherAll? stack .value (tokens (.object ((key, v) :: fs)) ++ ts)
        = gatherAll? (.object [] key :: stack) .value (tokens v ++ (fieldTokens fs ++ ts)) := by
          rw [tokens, List.append_assoc]; rfl
      _ = gatherAll? (.object [] key :: stack) (.next v) (fieldTokens fs ++ ts) :=
          gatherAll?_tokens v _ _
      _ = gatherAll? stack (.next (.object ((key, v) :: fs))) ts :=
          gatherAll?_fieldTokens fs v [] key stack ts

lemma gatherAll?_itemTokens : ∀ (vs : List Json) (v : Json) (items : List Json)
    (stack : List Frame) (ts : List Token),
    gatherAll? (.list items :: stack) (.next v) (itemTokens vs ++ ts) =
      gatherAll? stack (.next (.list (items.reverse ++ v :: vs))) ts
  | [], v, items, stack, ts => by
    rw [← List.reverse_cons]
    rfl
  | w :: vs, v, items, stack, ts => calc
      gatherAll? (.list items :: stack) (.next v) (itemTokens (w :: vs) ++ ts)
        = gatherAll? (.list (v :: items) :: stack) .value (tokens w ++ (itemTokens vs ++ ts)) := by
          rw [itemTokens, List.append_assoc]; rfl
      _ = gatherAll? stack (.next (.list ((v :: items).reverse ++ w :: vs))) ts := by
          rw [gatherAll?_tokens w, gatherAll?_itemTokens vs w]
      _ = _ := by rw [List.reverse_cons, List.append_assoc]; rfl

lemma gatherAll?_fieldTokens : ∀ (fs : List (Option String × Json)) (v : Json)
    (before : List (Option String × Json)) (key : Option String) (stack : List Frame)
    (ts : List Token),
    gatherAll? (.object before key :: stack) (.next v) (fieldTokens fs ++ ts) =
      gatherAll? stack (.next (.object (before.reverse ++ (key, v) :: fs))) ts
  | [], v, before, key, stack, ts => by
    rw [← List.reverse_cons]
    rfl
  | (key', w) :: fs, v, before, key, stack, ts => calc
      gatherAll? (.object before key :: stack) (.next v) (fieldTokens ((key', w) :: fs) ++ ts)
        = gatherAll? (.object ((key, v) :: before) key' :: stack) .value
            (tokens w ++ (fieldTokens fs ++ ts)) := by
          rw [fieldTokens, List.append_assoc]; rfl
      _ = gatherAll? stack
            (.next (.object (((key, v) :: before).reverse ++ (key', w) :: fs))) ts := by
          rw [gatherAll?_tokens w, gatherAll?_fieldTokens fs w]
      _ = _ := by rw [List.reverse_cons, List.append_assoc]; rfl

end

/-! ### Reading strings -/

variable {done : List Token} {c : Char} {cs chars rest : List Char}

/-- The forms of a character in a string: a letter that means it, its number, or the character
itself. -/
lemma escape_cases (c : Char) :
    (∃ letter, escape c = ['\\', letter] ∧ letter ≠ 'u' ∧ escaped? letter = some c) ∨
    (c.toNat < 32 ∧ escape c = ['\\', 'u', '0', '0', hexDigit (c.toNat / 16),
      hexDigit (c.toNat % 16)]) ∨
    (escape c = [c] ∧ c ≠ '"' ∧ c ≠ '\\' ∧ ¬ c.toNat < 32) := by
  by_cases hquote : c = '"'
  · exact Or.inl ⟨'"', by subst hquote; decide⟩
  by_cases hslash : c = '\\'
  · exact Or.inl ⟨'\\', by subst hslash; decide⟩
  by_cases hback : c = '\x08'
  · exact Or.inl ⟨'b', by subst hback; decide⟩
  by_cases hfeed : c = '\x0c'
  · exact Or.inl ⟨'f', by subst hfeed; decide⟩
  by_cases hbreak : c = '\n'
  · exact Or.inl ⟨'n', by subst hbreak; decide⟩
  by_cases hreturn : c = '\r'
  · exact Or.inl ⟨'r', by subst hreturn; decide⟩
  by_cases htab : c = '\t'
  · exact Or.inl ⟨'t', by subst htab; decide⟩
  by_cases hsmall : c.toNat < 32
  · exact Or.inr (Or.inl ⟨hsmall, by
      simp [escape, hquote, hslash, hback, hfeed, hbreak, hreturn, htab, hsmall]⟩)
  · exact Or.inr (Or.inr ⟨by
      simp [escape, hquote, hslash, hback, hfeed, hbreak, hreturn, htab, hsmall], hquote, hslash,
      hsmall⟩)

/-- A string of which these characters are read, last first. -/
def reading (chars : List Char) : Reading := .string ⟨chars, none, true⟩

lemma tokensFrom_unit {p : Partial} {missing value d : Nat} (hd : d < 16) :
    tokensFrom (.unit p (missing + 2) value) done (hexDigit d :: cs) =
      tokensFrom (.unit p (missing + 1) (16 * value + d)) done cs := by
  simp [tokensFrom, Reading.step?, hexValue_hexDigit d hd]

lemma tokensFrom_lastUnit {p : Partial} {value d : Nat} (hd : d < 16) :
    tokensFrom (.unit p 1 value) done (hexDigit d :: cs) =
      tokensFrom (.string (p.addUnit (16 * value + d))) done cs := by
  simp [tokensFrom, Reading.step?, hexValue_hexDigit d hd]

lemma addUnit_eq (chars : List Char) {c : Char} (h : c.toNat < 32) :
    Partial.addUnit ⟨chars, none, true⟩ c.toNat = ⟨c :: chars, none, true⟩ := by
  have hleading : ¬ 0xd800 ≤ c.toNat := by omega
  have htrailing : ¬ 0xdc00 ≤ c.toNat := by omega
  simp [Partial.addUnit, hleading, htrailing]

lemma tokensFrom_escape (c : Char) (chars cs : List Char) (done : List Token) :
    tokensFrom (reading chars) done (escape c ++ cs) =
      tokensFrom (reading (c :: chars)) done cs := by
  rcases escape_cases c with ⟨letter, hescape, hu, hmeant⟩ | ⟨hsmall, hescape⟩ |
    ⟨hescape, hquote, hslash, hlarge⟩
  · have hstep : Reading.step? (.escape ⟨chars, none, true⟩) letter =
        some (reading (c :: chars), []) := by
      simp [Reading.step?, hu, hmeant, reading, Partial.add]
    rw [hescape]
    change tokensFrom (.escape ⟨chars, none, true⟩) done (letter :: cs) = _
    rw [tokensFrom, hstep]
    rfl
  · have hzero : '0' = hexDigit 0 := rfl
    have hvalue : 16 * (16 * (16 * (16 * 0 + 0) + 0) + c.toNat / 16) + c.toNat % 16 = c.toNat := by
      omega
    rw [hescape]
    change tokensFrom (.unit ⟨chars, none, true⟩ 4 0) done ('0' :: '0' :: _ :: _ :: cs) = _
    rw [hzero, tokensFrom_unit (by decide), tokensFrom_unit (by decide),
      tokensFrom_unit (by omega), tokensFrom_lastUnit (by omega), hvalue, addUnit_eq chars hsmall]
    rfl
  · have hstep : Reading.step? (reading chars) c = some (reading (c :: chars), []) := by
      simp [Reading.step?, reading, Partial.add, hquote, hslash, hlarge]
    rw [hescape, List.singleton_append, tokensFrom, hstep]
    rfl

lemma tokensFrom_renderText (s : String) (done : List Token) (rest : List Char) :
    tokensFrom .gap done (renderText s ++ rest) =
      tokensFrom .gap (.text (some s) :: done) rest := by
  have hchars : ∀ cs chars : List Char,
      tokensFrom (reading chars) done (cs.flatMap escape ++ '"' :: rest) =
        tokensFrom .gap (.text (some (String.ofList (chars.reverse ++ cs))) :: done) rest := by
    intro cs
    induction cs with
    | nil =>
      intro chars
      rw [List.append_nil]
      rfl
    | cons c cs ih =>
      intro chars
      rw [List.flatMap_cons, List.append_assoc, tokensFrom_escape, ih, List.reverse_cons,
        List.append_assoc]
      rfl
  rw [renderText, List.append_assoc]
  change tokensFrom (reading []) done (s.toList.flatMap escape ++ '"' :: rest) = _
  rw [hchars, List.reverse_nil, List.nil_append, String.ofList_toList]

/-! ### Reading words and numbers -/

/-- A text goes on with no character of a number or a word. -/
def Ends (rest : List Char) : Prop := ∀ c, rest.head? = some c → isRun c = false

lemma start?_of_isRun (h : isRun c = true) : start? c = some (.run [c], []) := by
  have hascii : c.toNat < 128 := by
    simp only [isRun, Bool.or_eq_true, beq_iff_eq] at h
    rcases h with ((h | rfl) | rfl) | rfl
    · exact ascii_of_isAlphanum h
    · decide
    · decide
    · decide
  have hmarks : isRun c = true → isGap c = false ∧ (c == '"') = false :=
    ascii_forall (p := fun c => isRun c = true → isGap c = false ∧ (c == '"') = false) (by decide)
      hascii
  obtain ⟨hgap, hquote⟩ := hmarks h
  simp [start?, hgap, hquote, h]

lemma tokensFrom_ends (hrest : Ends rest) {t : Token} (ht : runToken? chars.reverse = some t) :
    tokensFrom (.run chars) done rest = tokensFrom .gap (t :: done) rest := by
  rcases rest with _ | ⟨c, rest⟩
  · simp [tokensFrom, Reading.end?, ht]
  · have hc : isRun c = false := hrest c rfl
    rw [tokensFrom, tokensFrom]
    simp only [Reading.step?, hc, ht]
    rcases start? c with _ | ⟨next, ts⟩
    · rfl
    · simp

lemma tokensFrom_word {word : List Char} (hword : ∀ c ∈ word, isRun c = true) (hrest : Ends rest)
    {t : Token} (ht : runToken? word = some t) :
    tokensFrom .gap done (word ++ rest) = tokensFrom .gap (t :: done) rest := by
  have hmore : ∀ cs chars : List Char, (∀ c ∈ cs, isRun c = true) →
      tokensFrom (.run chars) done (cs ++ rest) =
        tokensFrom (.run (cs.reverse ++ chars)) done rest := by
    intro cs
    induction cs with
    | nil => exact fun chars _ => rfl
    | cons c cs ih =>
      intro chars h
      obtain ⟨hc, hcs⟩ := List.forall_mem_cons.mp h
      have hstep : Reading.step? (.run chars) c = some (.run (c :: chars), []) := by
        simp [Reading.step?, hc]
      rw [List.cons_append, tokensFrom, hstep, List.reverse_cons, List.append_assoc]
      exact ih (c :: chars) hcs
  rcases word with _ | ⟨c, cs⟩
  · cases ht
  · obtain ⟨hc, hcs⟩ := List.forall_mem_cons.mp hword
    rw [List.cons_append, tokensFrom]
    simp only [Reading.step?, start?_of_isRun hc]
    change tokensFrom (.run [c]) done (cs ++ rest) = _
    rw [hmore cs [c] hcs]
    exact tokensFrom_ends hrest (by simpa using ht)

lemma isRun_of_isDigit (h : c.isDigit = true) : isRun c = true := by
  simp [isRun, isAlphanum_iff, h]

lemma isRun_of_isExponentPart {cs : List Char} (h : isExponentPart cs = true) :
    ∀ c ∈ cs, isRun c = true := by
  rcases cs with _ | ⟨e, cs⟩
  · simp
  simp only [isExponentPart, Bool.and_eq_true, Bool.or_eq_true, beq_iff_eq] at h
  obtain ⟨⟨he, -⟩, hdigits⟩ := h
  have hmark : isRun e = true := by
    rcases he with rfl | rfl <;> rfl
  refine List.forall_mem_cons.mpr ⟨hmark, ?_⟩
  split at hdigits
  · exact List.forall_mem_cons.mpr ⟨rfl, fun d hd =>
      isRun_of_isDigit (List.all_eq_true.mp hdigits d hd)⟩
  · exact List.forall_mem_cons.mpr ⟨rfl, fun d hd =>
      isRun_of_isDigit (List.all_eq_true.mp hdigits d hd)⟩
  · exact fun d hd => isRun_of_isDigit (List.all_eq_true.mp hdigits d hd)

lemma isRun_of_digits {cs : List Char} (h : ∀ c ∈ (digits cs).2, isRun c = true) :
    ∀ c ∈ cs, isRun c = true := by
  intro c hc
  rw [← List.takeWhile_append_dropWhile (p := Char.isDigit) (l := cs), List.mem_append] at hc
  rcases hc with hc | hc
  · exact isRun_of_isDigit (List.mem_takeWhile_imp hc)
  · exact h c hc

lemma isRun_of_isNumber {literal : List Char} (h : isNumber literal = true) :
    ∀ c ∈ literal, isRun c = true := by
  have hfraction : ∀ cs, isFraction cs = true → ∀ c ∈ cs, isRun c = true := by
    intro cs hcs
    unfold isFraction at hcs
    split at hcs
    · refine List.forall_mem_cons.mpr ⟨rfl, isRun_of_digits ?_⟩
      exact isRun_of_isExponentPart (Bool.and_eq_true_iff.mp hcs).2
    · exact isRun_of_isExponentPart hcs
  simp only [isNumber, Bool.and_eq_true] at h
  split at h
  · exact List.forall_mem_cons.mpr ⟨rfl, isRun_of_digits (hfraction _ h.2)⟩
  · exact isRun_of_digits (hfraction _ h.2)

lemma runToken?_number {literal : List Char} (h : isNumber literal = true) :
    runToken? literal = some (.number literal) := by
  have hne : ∀ word : List Char, isNumber word = false → literal ≠ word :=
    fun word hword heq => by simp [heq, hword] at h
  simp [runToken?, h, hne ['n', 'u', 'l', 'l'] rfl, hne ['t', 'r', 'u', 'e'] rfl,
    hne ['f', 'a', 'l', 's', 'e'] rfl]

/-! ### Reading what is printed -/

/-- The numbers of a value are spelled as numbers. -/
inductive IsSpelled : Json → Prop where
  | null : IsSpelled .null
  | bool (b : Bool) : IsSpelled (.bool b)
  | number {literal : List Char} (h : isNumber literal = true) : IsSpelled (.number literal)
  | text (s : String) : IsSpelled (.text s)
  | brokenText : IsSpelled .brokenText
  | list {items : List Json} (h : ∀ v ∈ items, IsSpelled v) : IsSpelled (.list items)
  | object {fields : List (Option String × Json)} (h : ∀ f ∈ fields, IsSpelled f.2) :
    IsSpelled (.object fields)

lemma ends_renderItems (vs : List Json) (rest : List Char) : Ends (renderItems vs ++ rest) := by
  rcases vs with _ | ⟨v, vs⟩
  all_goals
    rintro c ⟨⟩
    rfl

lemma ends_renderFields (fs : List (Option String × Json)) (rest : List Char) :
    Ends (renderFields fs ++ rest) := by
  rcases fs with _ | ⟨⟨key, v⟩, fs⟩
  all_goals
    rintro c ⟨⟩
    rfl

lemma tokensFrom_renderKey (key : Option String) (done : List Token) (rest : List Char) :
    tokensFrom .gap done (renderKey key ++ ':' :: rest) =
      tokensFrom .gap (.colon :: .text key :: done) rest := by
  rcases key with _ | key
  · rfl
  · rw [renderKey, tokensFrom_renderText]
    rfl

mutual

/-- The text of a value is read as its tokens, unless the text goes on like a word. -/
lemma tokensFrom_render : ∀ (v : Json), IsSpelled v → ∀ (done : List Token) {rest : List Char},
    Ends rest → tokensFrom .gap done (render v ++ rest) =
      tokensFrom .gap ((tokens v).reverse ++ done) rest
  | .null, _, _, _, hrest => tokensFrom_word (List.all_eq_true.mp rfl) hrest rfl
  | .bool true, _, _, _, hrest => tokensFrom_word (List.all_eq_true.mp rfl) hrest rfl
  | .bool false, _, _, _, hrest => tokensFrom_word (List.all_eq_true.mp rfl) hrest rfl
  | .number literal, .number h, _, _, hrest =>
    tokensFrom_word (isRun_of_isNumber h) hrest (runToken?_number h)
  | .text s, _, done, rest, _ => tokensFrom_renderText s done rest
  | .brokenText, _, _, _, _ => rfl
  | .list [], _, _, _, _ => rfl
  | .list (v :: vs), .list h, done, rest, _ => calc
      tokensFrom .gap done (render (.list (v :: vs)) ++ rest)
        = tokensFrom .gap (.openList :: done) (render v ++ (renderItems vs ++ rest)) := by
          rw [render, List.append_assoc]; rfl
      _ = tokensFrom .gap ((itemTokens vs).reverse ++ ((tokens v).reverse ++ .openList :: done))
            rest := by
          obtain ⟨hv, hvs⟩ := List.forall_mem_cons.mp h
          rw [tokensFrom_render v hv _ (ends_renderItems vs rest), tokensFrom_renderItems vs hvs]
      _ = tokensFrom .gap ((tokens (.list (v :: vs))).reverse ++ done) rest := by
          simp [tokens]
  | .object [], _, _, _, _ => rfl
  | .object ((key, v) :: fs), .object h, done, rest, _ => calc
      tokensFrom .gap done (render (.object ((key, v) :: fs)) ++ rest)
        = tokensFrom .gap (.openObject :: done)
            (renderKey key ++ ':' :: (render v ++ (renderFields fs ++ rest))) := by
          rw [render, List.append_assoc, List.append_assoc]; rfl
      _ = tokensFrom .gap ((fieldTokens fs).reverse ++ ((tokens v).reverse ++
            .colon :: .text key :: .openObject :: done)) rest := by
          obtain ⟨hv, hfs⟩ := List.forall_mem_cons.mp h
          rw [tokensFrom_renderKey, tokensFrom_render v hv _ (ends_renderFields fs rest),
            tokensFrom_renderFields fs hfs]
      _ = tokensFrom .gap ((tokens (.object ((key, v) :: fs))).reverse ++ done) rest := by
          simp [tokens]

lemma tokensFrom_renderItems : ∀ (vs : List Json), (∀ v ∈ vs, IsSpelled v) →
    ∀ (done : List Token) (rest : List Char), tokensFrom .gap done (renderItems vs ++ rest) =
      tokensFrom .gap ((itemTokens vs).reverse ++ done) rest
  | [], _, _, _ => rfl
  | v :: vs, h, done, rest => calc
      tokensFrom .gap done (renderItems (v :: vs) ++ rest)
        = tokensFrom .gap (.comma :: done) (render v ++ (renderItems vs ++ rest)) := by
          rw [renderItems, List.append_assoc]; rfl
      _ = tokensFrom .gap ((itemTokens vs).reverse ++ ((tokens v).reverse ++ .comma :: done))
            rest := by
          obtain ⟨hv, hvs⟩ := List.forall_mem_cons.mp h
          rw [tokensFrom_render v hv _ (ends_renderItems vs rest), tokensFrom_renderItems vs hvs]
      _ = tokensFrom .gap ((itemTokens (v :: vs)).reverse ++ done) rest := by
          simp [itemTokens]

lemma tokensFrom_renderFields : ∀ (fs : List (Option String × Json)),
    (∀ f ∈ fs, IsSpelled f.2) → ∀ (done : List Token) (rest : List Char),
    tokensFrom .gap done (renderFields fs ++ rest) =
      tokensFrom .gap ((fieldTokens fs).reverse ++ done) rest
  | [], _, _, _ => rfl
  | (key, v) :: fs, h, done, rest => calc
      tokensFrom .gap done (renderFields ((key, v) :: fs) ++ rest)
        = tokensFrom .gap (.comma :: done)
            (renderKey key ++ ':' :: (render v ++ (renderFields fs ++ rest))) := by
          rw [renderFields, List.append_assoc, List.append_assoc]; rfl
      _ = tokensFrom .gap ((fieldTokens fs).reverse ++ ((tokens v).reverse ++
            .colon :: .text key :: .comma :: done)) rest := by
          obtain ⟨hv, hfs⟩ := List.forall_mem_cons.mp h
          rw [tokensFrom_renderKey, tokensFrom_render v hv _ (ends_renderFields fs rest),
            tokensFrom_renderFields fs hfs]
      _ = tokensFrom .gap ((fieldTokens ((key, v) :: fs)).reverse ++ done) rest := by
          simp [fieldTokens]

end

lemma parse?_print {v : Json} (h : IsSpelled v) : parse? (print v) = some v := by
  have hends : Ends [] := fun _ hc => by cases hc
  have htokens : tokens? (print v) = some (tokens v) := by
    simpa [tokens?, print, tokensFrom, Reading.end?] using tokensFrom_render v h [] hends
  have hgather := gatherAll?_tokens v [] []
  rw [List.append_nil] at hgather
  rw [parse?, htokens, Option.bind_some, hgather]
  rfl

end ClientGen.Data.Json
