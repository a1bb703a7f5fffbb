import ClientGen.Proofs.Template.Piece
import ClientGen.Proofs.Text.Cut
import ClientGen.Proofs.Text.Quoted
import ClientGen.Template.Set
import Mathlib.Algebra.GroupWithZero.Nat

/-!
The lines of a text. A text that ends with a line break has one line for each of its line breaks,
and lines behind a line break are lines of the whole. For a template the line breaks are counted in
its fixed text once, and what is filled in adds its own, unless it is a literal.
-/

namespace ClientGen.Template

def breaks (s : String) : Nat := s.toList.count '\n'

@[simp] lemma breaks_append (s t : String) : breaks (s ++ t) = breaks s + breaks t := by
  rw [breaks, String.toList_append, List.count_append, breaks, breaks]

lemma breaks_eq_zero_iff {s : String} : breaks s = 0 ↔ '\n' ∉ s.toList := List.count_eq_zero

lemma breaks_join (ss : List String) : breaks (String.join ss) = (ss.map breaks).sum := by
  induction ss with
  | nil => rfl
  | cons s ss ih => rw [String.join_cons, breaks_append, ih, List.map_cons, List.sum_cons]

/-- The text of a line, to whose end a carriage return belongs. -/
def lineText (cs : List Char) : String :=
  String.ofList (if cs.getLast? == some '\r' then cs.dropLast else cs)

lemma linesOf_append_break (s : String) :
    linesOf (s ++ "\n") = (Text.cut (· == '\n') s.toList).map lineText := by
  have hends : (s ++ "\n").endsWith "\n" = true := by
    rw [← String.endsWith_toSlice, String.Slice.endsWith_string_iff]
    simp
  have hcut : Text.cut (· == '\n') (s ++ "\n").toList = Text.cut (· == '\n') s.toList ++ [[]] := by
    rw [String.toList_append]
    exact Text.cut_append _ rfl s.toList []
  rw [linesOf, hcut, hends]
  simp [lineText]

lemma length_cut (sep : Char → Bool) (cs : List Char) :
    (Text.cut sep cs).length = cs.countP sep + 1 := by
  induction cs with
  | nil => rfl
  | cons c cs ih =>
    rw [Text.cut, List.countP_cons]
    split
    · rw [List.length_cons, ih]
    · rw [List.length_modifyHead, ih, Nat.add_zero]

lemma length_linesOf (s : String) : (linesOf (s ++ "\n")).length = breaks (s ++ "\n") := by
  rw [linesOf_append_break, List.length_map, length_cut, breaks_append]
  rfl

def IsLine (s : String) : Prop := '\n' ∉ s.toList ∧ '\r' ∉ s.toList

instance (s : String) : Decidable (IsLine s) := instDecidableAnd

lemma IsLine.append {s t : String} (hs : IsLine s) (ht : IsLine t) : IsLine (s ++ t) := by
  rw [IsLine, String.toList_append, List.mem_append, List.mem_append]
  exact ⟨not_or_intro hs.1 ht.1, not_or_intro hs.2 ht.2⟩

lemma linesOf_append_line (s : String) {line : String} (h : IsLine line) :
    linesOf (s ++ "\n" ++ line ++ "\n") = linesOf (s ++ "\n") ++ [line] := by
  have hline : lineText line.toList = line := by
    rw [lineText, if_neg, String.ofList_toList]
    intro hlast
    rw [beq_iff_eq] at hlast
    exact h.2 (List.mem_of_getLast? hlast)
  have hsep : ∀ c ∈ line.toList, (c == '\n') = false := by
    intro c hc
    simpa using fun heq : c = '\n' => h.1 (heq ▸ hc)
  have hcut : Text.cut (· == '\n') (s ++ "\n" ++ line).toList =
      Text.cut (· == '\n') s.toList ++ [line.toList] := by
    rw [String.toList_append, String.toList_append, List.append_assoc]
    refine (Text.cut_append _ rfl s.toList line.toList).trans ?_
    rw [Text.cut_of_not_sep _ hsep]
  rw [linesOf_append_break, hcut, List.map_append, ← linesOf_append_break, List.map_cons, hline]
  rfl

lemma linesOf_append_ofLines (s : String) {lines : List String} (h : ∀ l ∈ lines, IsLine l) :
    linesOf (s ++ "\n" ++ ofLines lines) = linesOf (s ++ "\n") ++ lines := by
  induction lines generalizing s with
  | nil => rw [show ofLines [] = "" from rfl, String.append_empty, List.append_nil]
  | cons l lines ih =>
    have hcons : s ++ "\n" ++ ofLines (l :: lines) =
        s ++ "\n" ++ l ++ "\n" ++ ofLines lines := by
      simp only [ofLines, List.foldr_cons, String.append_assoc]
    rw [hcons, ih _ fun m hm => h m (List.mem_cons_of_mem _ hm),
      linesOf_append_line s (h l List.mem_cons_self), List.append_assoc, List.singleton_append]

/-! ### Line breaks of pieces -/

/-- The line breaks in the fixed text of pieces, outside of choices and loops. They are counted in
bytes, which a text has at hand. -/
def fixedBreaks (ps : List Piece) : Nat :=
  (ps.map fun
    | .text s => (Text.bytes s).count 10
    | _ => 0).sum

/-- The paths of the texts that pieces fill in as they are, outside of choices and loops. -/
def gapsOf (ps : List Piece) : List FieldPath :=
  ps.filterMap fun
    | .gap p => some p
    | _ => none

def breaksAt (paths : List FieldPath) (values : Values) : Nat :=
  (paths.map fun p => breaks (p.textIn values)).sum

/-- What is known without values of pieces with one loop: the line breaks in their fixed text and
the gaps that may add others, around the loop and inside of it. -/
structure Outline where
  fixed : Nat
  gaps : List FieldPath
  /-- The name of an element, and the path of the list that the loop runs through. -/
  element : String
  items : FieldPath
  bodyFixed : Nat
  bodyGaps : List FieldPath
  deriving DecidableEq

/-- A piece is a choice or a loop. -/
def Piece.isBranching : Piece → Bool
  | .choice _ _ _ => true
  | .each _ _ _ => true
  | _ => false

/-- The outline of pieces, if they have one loop and nothing else that branches. -/
def outline? (ps : List Piece) : Option Outline :=
  match ps.filter Piece.isBranching with
  | [.each element items body] =>
    if body.any Piece.isBranching then none
    else some ⟨fixedBreaks ps, gapsOf ps, element, items, fixedBreaks body, gapsOf body⟩
  | _ => none

lemma breaks_quote (s : String) : breaks (Text.quote s) = 0 :=
  breaks_eq_zero_iff.mpr (Text.not_mem_quote s).1

/-- Line breaks come from the fixed text, from gaps, and from what branches. -/
lemma breaks_fillAll (ps : List Piece) (values : Values) : breaks (fillAll ps values) =
    fixedBreaks ps + breaksAt (gapsOf ps) values +
      ((ps.filter Piece.isBranching).map fun p => breaks (p.fill values)).sum := by
  induction ps with
  | nil => rfl
  | cons p ps ih =>
    rw [fillAll, breaks_append, ih]
    cases p with
    | text s =>
      have hs : (Text.bytes s).count 10 = breaks s := Text.count_bytes s
      simp [Piece.fill, fixedBreaks, gapsOf, Piece.isBranching, hs]
      omega
    | gap p =>
      simp [Piece.fill, fixedBreaks, gapsOf, Piece.isBranching, breaksAt]
      omega
    | quoted p => simp [Piece.fill, fixedBreaks, gapsOf, Piece.isBranching, breaks_quote]
    | choice p yes no =>
      rw [List.filter_cons_of_pos (by rfl), List.map_cons, List.sum_cons]
      simp [fixedBreaks, gapsOf]
      omega
    | each name p body =>
      rw [List.filter_cons_of_pos (by rfl), List.map_cons, List.sum_cons]
      simp [fixedBreaks, gapsOf]
      omega

lemma breaks_of_outline {ps : List Piece} {o : Outline} (h : outline? ps = some o)
    (values : Values) : breaks (fillAll ps values) = o.fixed + breaksAt o.gaps values +
      ((o.items.itemsIn values).map fun v =>
        o.bodyFixed + breaksAt o.bodyGaps (values.enter o.element v)).sum := by
  rw [outline?] at h
  split at h
  · next element items body hloop =>
    split at h
    · cases h
    · next hbody =>
      rw [Option.some.injEq] at h
      have hflat : body.filter Piece.isBranching = [] := by simpa using hbody
      rw [breaks_fillAll, hloop, ← h]
      simp only [List.map_cons, List.map_nil, List.sum_cons, List.sum_nil, Nat.add_zero, Piece.fill,
        breaks_join, List.map_map]
      refine congrArg _ (congrArg List.sum (List.map_congr_left fun v _ => ?_))
      rw [Function.comp_apply, breaks_fillAll, hflat]
      rfl
  · cases h

end ClientGen.Template
