import ClientGen.Naming.Module
import ClientGen.Proofs.Text.Case
import ClientGen.Proofs.Text.Cut

/-!
The names of directories, files and modules. A segment is made of small letters, digits and
underscores, a stem of small letters and digits; module paths can be nested in one another without
any effect, and are split into the names that they were made of.
-/

namespace ClientGen.Naming

open Text

/-! ### Segments and stems -/

def isSegmentChar (c : Char) : Bool := isSmall c || c == '_'

lemma isSegmentChar_of_mem_groupSegment {group : String} {c : Char}
    (h : c ∈ (groupSegment group).toList) : isSegmentChar c = true := by
  rw [groupSegment, String.toList_ofList] at h
  obtain ⟨d, hd, rfl⟩ := List.mem_map.mp (mem_of_mem_trimWhere h)
  split
  · next ha => simp [isSegmentChar, isSmall_of_isAlphanum ha (isUpper_lower hd)]
  · rfl

lemma groupSegment_ne_empty {group : String} (h : group.toList.any Char.isAlphanum = true) :
    groupSegment group ≠ "" := by
  obtain ⟨c, hc, ha⟩ := List.any_eq_true.mp h
  have hs := isSmall_toLower ha
  have ha' : c.toLower.isAlphanum = true := isAlphanum_of_isSmall hs
  intro he
  have hnil : (groupSegment group).toList = [] := by rw [he]; rfl
  rw [groupSegment, String.toList_ofList, trimWhere_eq_nil_iff] at hnil
  have hmem : c.toLower ∈ (lower group).toList := by
    rw [lower, String.toList_ofList]
    exact toLower_mem_lowerFrom hc (ascii_of_isAlphanum ha)
  have := hnil _ (List.mem_map_of_mem hmem)
  rw [if_pos ha'] at this
  have hu : c.toLower = '_' := by simpa using this
  rw [hu] at hs
  exact absurd hs (by decide)

lemma toList_stem {kind : String} (h : ∀ c ∈ kind.toList, c.isAlphanum = true) :
    (stem kind).toList = kind.toList.map Char.toLower :=
  toList_lower fun c hc => ascii_of_isAlphanum (h c hc)

lemma isSmall_of_mem_stem {kind : String} (h : ∀ c ∈ kind.toList, c.isAlphanum = true) {c : Char}
    (hc : c ∈ (stem kind).toList) : isSmall c = true := by
  rw [toList_stem h] at hc
  obtain ⟨d, hd, rfl⟩ := List.mem_map.mp hc
  exact isSmall_toLower (h d hd)

lemma append_separator_inj {sep : Char} {as bs as' bs' : List Char} (h : sep ∉ bs) (h' : sep ∉ bs')
    (heq : as ++ sep :: bs = as' ++ sep :: bs') : as = as' ∧ bs = bs' := by
  have hrev := congrArg List.reverse heq
  simp only [List.reverse_append, List.reverse_cons, List.append_assoc, List.singleton_append]
    at hrev
  have hall : ∀ {cs : List Char}, sep ∉ cs → ∀ c ∈ cs.reverse, (c != sep) = true := by
    intro cs hn c hc
    rw [bne_iff_ne]
    rintro rfl
    exact hn (List.mem_reverse.mp hc)
  have htake := congrArg (List.takeWhile (· != sep)) hrev
  rw [List.takeWhile_append_of_pos (hall h), List.takeWhile_append_of_pos (hall h')] at htake
  have hbs : bs = bs' := by simpa using htake
  subst hbs
  simpa using heq

/-- The text of a group-version determines both, since no version holds a slash. -/
lemma groupVersionLabel_inj {g v g' v' : String} (h : '/' ∉ v.toList) (h' : '/' ∉ v'.toList) :
    groupVersionLabel g v = groupVersionLabel g' v' ↔ g = g' ∧ v = v' := by
  constructor
  · intro heq
    have := congrArg String.toList heq
    simp only [groupVersionLabel, String.toList_append, List.append_assoc] at this
    obtain ⟨hg, hv⟩ := append_separator_inj h h' this
    exact ⟨String.toList_injective hg, String.toList_injective hv⟩
  · rintro ⟨rfl, rfl⟩
    rfl

/-- The short name of a group-version determines its directory, since no version holds an
underscore. -/
lemma groupVersionAlias_inj {g v g' v' : String} (h : '_' ∉ v.toList) (h' : '_' ∉ v'.toList)
    (heq : groupVersionAlias g v = groupVersionAlias g' v') :
    groupSegment g = groupSegment g' ∧ v = v' := by
  have := congrArg String.toList heq
  simp only [groupVersionAlias, String.toList_append, List.append_assoc] at this
  obtain ⟨hg, hv⟩ := append_separator_inj h h' this
  exact ⟨String.toList_injective hg, String.toList_injective hv⟩

/-! ### Segments as a form -/

/-- What stands for a character of a group in lower case before the ends are trimmed. -/
def segmentChar (c : Char) : Char := if c.isAlphanum then c else '_'

lemma toList_groupSegment (group : String) : (groupSegment group).toList =
    trimWhere (· == '_') ((lowerFrom [] group.toList).map segmentChar) := by
  rw [groupSegment, lower, String.toList_ofList, String.toList_ofList]
  rfl

/-- A final sigma is no ASCII letter either, so what stands around a character does not count. -/
lemma map_lowerFrom (seen cs : List Char) : (lowerFrom seen cs).map segmentChar =
    cs.flatMap fun c => (lowerChar c).map segmentChar := by
  induction cs generalizing seen with
  | nil => rfl
  | cons c cs ih =>
    rw [lowerFrom, List.map_append, ih, List.flatMap_cons]
    split
    · next hc =>
      have hsigma : (lowerChar 'Σ').map segmentChar = ['_'] := by decide +kernel
      rw [eq_of_beq hc, hsigma]
      split <;> rfl
    · rfl

lemma groupSegment_congr {group other : String}
    (h : other.toList.map Char.toLower = group.toList.map Char.toLower) :
    groupSegment other = groupSegment group := by
  have hlower : ∀ cs : List Char, (cs.flatMap fun c => (lowerChar c).map segmentChar) =
      (cs.map Char.toLower).flatMap fun c => (lowerChar c).map segmentChar := by
    intro cs
    rw [List.flatMap_map]
    exact List.flatMap_congr fun c _ => by rw [lowerChar_toLower]
  refine String.toList_injective ?_
  rw [toList_groupSegment, toList_groupSegment, map_lowerFrom, map_lowerFrom, hlower, h, ← hlower]

lemma bare_groupSegment (group : String) : Bare (· == '_') (groupSegment group).toList := by
  rw [groupSegment, String.toList_ofList]
  exact bare_trimWhere _ _

lemma segmentChar_eq_self {c : Char} (h : isSegmentChar c = true) :
    (c.toNat < 128 ∧ c.isUpper = false) ∧ segmentChar c = c := by
  rw [isSegmentChar, Bool.or_eq_true] at h
  rcases h with h | h
  · exact ⟨ascii_of_isSmall h, if_pos (isAlphanum_of_isSmall h)⟩
  · obtain rfl := eq_of_beq h
    decide

lemma groupSegment_eq_self {s : String} (h : ∀ c ∈ s.toList, isSegmentChar c = true)
    (hb : Bare (· == '_') s.toList) : groupSegment s = s := by
  have hlower : lower s = s := lower_eq_self fun c hc => (segmentChar_eq_self (h c hc)).1
  have hkept : s.toList.map segmentChar = s.toList :=
    (List.map_congr_left fun c hc => (segmentChar_eq_self (h c hc)).2).trans (List.map_id' _)
  refine String.toList_injective ?_
  rw [groupSegment, String.toList_ofList, hlower]
  change trimWhere (· == '_') (s.toList.map segmentChar) = _
  rw [hkept, trimWhere_of_bare hb]

/-- **Segments.** The segment of a group is made of small letters, digits and underscores, with none
of these at an end. It is its own segment and does not depend on the case of ASCII letters, and it
is not empty if the group has an ASCII letter or digit. -/
theorem groupSegment_normal (group : String) :
    (∀ c ∈ (groupSegment group).toList, isSegmentChar c = true) ∧
    ((groupSegment group).toList.head? ≠ some '_' ∧
      (groupSegment group).toList.getLast? ≠ some '_') ∧
    groupSegment (groupSegment group) = groupSegment group ∧
    (∀ other : String, other.toList.map Char.toLower = group.toList.map Char.toLower →
      groupSegment other = groupSegment group) ∧
    ((∃ c ∈ group.toList, c.isAlphanum = true) → groupSegment group ≠ "") := by
  have hchars : ∀ c ∈ (groupSegment group).toList, isSegmentChar c = true := fun c hc =>
    isSegmentChar_of_mem_groupSegment hc
  have hbare := bare_groupSegment group
  refine ⟨hchars, ⟨fun h => ?_, fun h => ?_⟩, groupSegment_eq_self hchars hbare, ?_, ?_⟩
  · exact absurd (hbare.1 '_' h) (by decide)
  · exact absurd (hbare.2 '_' h) (by decide)
  · exact fun other h => groupSegment_congr h
  · rintro ⟨c, hc, halnum⟩
    exact groupSegment_ne_empty (List.any_eq_true.mpr ⟨c, hc, halnum⟩)

theorem groupSegment_capitals :
    "CUSTOM-gROUP.".toList.map Char.toLower = "Custom-Group.".toList.map Char.toLower ∧
    'C' ∈ "Custom-Group.".toList ∧ 'C'.isAlphanum = true ∧
    groupSegment "CUSTOM-gROUP." = groupSegment "Custom-Group." ∧
    groupSegment "Custom-Group." = "custom_group" ∧ groupSegment "Custom-Group." ≠ "" := by
  obtain ⟨-, -, -, hcase, hne⟩ := groupSegment_normal "Custom-Group."
  exact ⟨by decide, by decide, by decide, hcase "CUSTOM-gROUP." (by decide), by decide +kernel,
    hne ⟨'C', by decide, by decide⟩⟩

/-! ### Module paths -/

/-- The segments of a module path that count. -/
def segments (names : List String) : List String :=
  (names.map bareSegment).filter fun s => !s.isEmpty

lemma modulePath_eq (names : List String) : modulePath names = "::".intercalate (segments names) :=
  rfl

@[simp] lemma segments_append (xs ys : List String) :
    segments (xs ++ ys) = segments xs ++ segments ys := by
  simp [segments]

lemma bareSegment_of_bare {s : String} (h : Bare (· == ':') s.toList) : bareSegment s = s := by
  rw [bareSegment, trimWhere_of_bare h, String.ofList_toList]

lemma bare_bareSegment (s : String) : Bare (· == ':') (bareSegment s).toList := by
  rw [bareSegment, String.toList_ofList]
  exact bare_trimWhere _ _

lemma bare_of_mem_segments {names : List String} {s : String} (h : s ∈ segments names) :
    s ≠ "" ∧ Bare (· == ':') s.toList := by
  obtain ⟨hm, hne⟩ := List.mem_filter.mp h
  obtain ⟨t, -, rfl⟩ := List.mem_map.mp hm
  exact ⟨by simpa using hne, bare_bareSegment t⟩

lemma bare_append {p : Char → Bool} {as bs cs : List Char} (ha : as ≠ []) (hc : cs ≠ [])
    (hba : Bare p as) (hbc : Bare p cs) : Bare p (as ++ bs ++ cs) := by
  constructor
  · intro c h
    rw [List.append_assoc, List.head?_append_of_ne_nil _ ha] at h
    exact hba.1 c h
  · intro c h
    rw [List.getLast?_append_of_ne_nil _ hc] at h
    exact hbc.2 c h

lemma bare_intercalate {ss : List String} (hne : ss ≠ [])
    (h : ∀ s ∈ ss, s ≠ "" ∧ Bare (· == ':') s.toList) :
    "::".intercalate ss ≠ "" ∧ Bare (· == ':') ("::".intercalate ss).toList := by
  induction ss with
  | nil => exact absurd rfl hne
  | cons s rest ih =>
    obtain ⟨hs, hb⟩ := h s (by simp)
    by_cases hr : rest = []
    · subst hr
      simpa using ⟨hs, hb⟩
    obtain ⟨hs', hb'⟩ := ih hr fun t ht => h t (by simp [ht])
    rw [String.intercalate_cons_of_ne_nil hr]
    refine ⟨by simp [hs], ?_⟩
    rw [String.toList_append, String.toList_append]
    exact bare_append (String.toList_eq_nil_iff.not.mpr hs) (String.toList_eq_nil_iff.not.mpr hs')
      hb hb'

lemma mem_intercalate {sep : String} {ss : List String} {c : Char}
    (h : c ∈ (sep.intercalate ss).toList) : c ∈ sep.toList ∨ ∃ s ∈ ss, c ∈ s.toList := by
  induction ss with
  | nil => simp at h
  | cons s rest ih =>
    by_cases hr : rest = []
    · subst hr
      exact Or.inr ⟨s, List.mem_cons_self, by simpa using h⟩
    · rw [String.intercalate_cons_of_ne_nil hr, String.toList_append, String.toList_append,
        List.mem_append, List.mem_append] at h
      rcases h with (h | h) | h
      · exact Or.inr ⟨s, List.mem_cons_self, h⟩
      · exact Or.inl h
      · exact (ih h).imp_right fun ⟨t, ht, hc⟩ => ⟨t, List.mem_cons_of_mem _ ht, hc⟩

lemma mem_modulePath {names : List String} {c : Char} (h : c ∈ (modulePath names).toList) :
    c = ':' ∨ ∃ name ∈ names, c ∈ name.toList := by
  rw [modulePath_eq] at h
  rcases mem_intercalate h with h | ⟨s, hs, hc⟩
  · exact Or.inl (by simpa using h)
  · obtain ⟨name, hname, rfl⟩ := List.mem_map.mp (List.mem_filter.mp hs).1
    rw [bareSegment, String.toList_ofList] at hc
    exact Or.inr ⟨name, hname, mem_of_mem_trimWhere hc⟩

lemma bare_modulePath (names : List String) : Bare (· == ':') (modulePath names).toList := by
  by_cases hn : segments names = []
  · rw [modulePath_eq, hn, String.intercalate_nil]
    exact ⟨by simp, by simp⟩
  · exact (bare_intercalate hn fun s hs => bare_of_mem_segments hs).2

lemma segments_modulePath (names : List String) :
    segments [modulePath names] = if segments names = [] then [] else [modulePath names] := by
  by_cases hn : segments names = []
  · simp only [hn, if_true, modulePath_eq, String.intercalate_nil]
    rfl
  · obtain ⟨hne, hb⟩ := bare_intercalate hn fun s hs => bare_of_mem_segments hs
    rw [← modulePath_eq] at hne hb
    rw [if_neg hn, segments, List.map_singleton, bareSegment_of_bare hb]
    simp [hne]

lemma intercalate_nested (sep : String) (xs ys zs : List String) (hy : ys ≠ []) :
    sep.intercalate (xs ++ sep.intercalate ys :: zs) = sep.intercalate (xs ++ (ys ++ zs)) := by
  have hright : sep.intercalate (sep.intercalate ys :: zs) = sep.intercalate (ys ++ zs) := by
    by_cases hz : zs = []
    · simp [hz]
    · rw [String.intercalate_cons_of_ne_nil hz, String.intercalate_append_of_ne_nil hy hz]
  by_cases hx : xs = []
  · simpa [hx] using hright
  · rw [String.intercalate_append_of_ne_nil hx (by simp),
      String.intercalate_append_of_ne_nil hx (by simp [hy]), hright]

/-- **Nested module paths.** A module path among the segments of another one counts as its own
segments do. -/
theorem modulePath_nested (xs ys zs : List String) :
    modulePath (xs ++ modulePath ys :: zs) = modulePath (xs ++ (ys ++ zs)) := by
  have hsplit : segments (xs ++ modulePath ys :: zs)
      = segments xs ++ (segments [modulePath ys] ++ segments zs) := by
    rw [← segments_append, ← segments_append]
    rfl
  rw [modulePath_eq (xs ++ _), modulePath_eq (xs ++ _), hsplit, segments_modulePath]
  by_cases hy : segments ys = []
  · simp [hy]
  · rw [if_neg hy, List.singleton_append, segments_append, segments_append, modulePath_eq,
      intercalate_nested _ _ _ _ hy]

lemma modulePath_concat (ys : List String) (s : String) :
    modulePath [modulePath ys, s] = modulePath (ys ++ [s]) :=
  modulePath_nested [] ys [s]

lemma modulePath_cons_inj {root : String} {names names' : List String} (h : segments names ≠ [])
    (h' : segments names' ≠ []) (heq : modulePath (root :: names) = modulePath (root :: names')) :
    modulePath names = modulePath names' := by
  have hsplit : ∀ ns, segments (root :: ns) = segments [root] ++ segments ns := fun ns =>
    segments_append [root] ns
  rw [modulePath_eq, modulePath_eq, hsplit names, hsplit names'] at heq
  by_cases hroot : segments [root] = []
  · rwa [hroot] at heq
  · rw [String.intercalate_append_of_ne_nil hroot h, String.intercalate_append_of_ne_nil hroot h',
      String.append_right_inj] at heq
    exact heq

lemma bareSegment_of_not_mem {s : String} (h : ':' ∉ s.toList) : bareSegment s = s := by
  have hbare : ∀ c ∈ s.toList, (c == ':') = false := by
    intro c hc
    rw [beq_eq_false_iff_ne]
    rintro rfl
    exact h hc
  exact bareSegment_of_bare
    ⟨fun c hc => hbare c (List.mem_of_head? hc), fun c hc => hbare c (List.mem_of_getLast? hc)⟩

lemma segments_eq_self {names : List String} (h : ∀ s ∈ names, s ≠ "" ∧ ':' ∉ s.toList) :
    segments names = names := by
  have hkept : names.map bareSegment = names :=
    (List.map_congr_left fun s hs => bareSegment_of_not_mem (h s hs).2).trans (List.map_id' _)
  rw [segments, hkept, List.filter_eq_self]
  intro s hs
  simpa using (h s hs).1

/-- **Module paths.** A module path among the segments of another one counts as its own segments do.
No module path begins or ends with a colon. Names that are not empty and hold no colon are what
their module path is split into; of no names, the empty text is left. -/
theorem modulePath_flattens (xs ys zs : List String) :
    modulePath (xs ++ [modulePath ys] ++ zs) = modulePath (xs ++ ys ++ zs) ∧
    ((modulePath xs).toList.head? ≠ some ':' ∧ (modulePath xs).toList.getLast? ≠ some ':') ∧
    ((∀ s ∈ xs, s ≠ "" ∧ ':' ∉ s.toList) →
      ((modulePath xs).split "::").toList.map (·.copy) = if xs = [] then [""] else xs) := by
  have hbare := bare_modulePath xs
  refine ⟨by simpa using modulePath_nested xs ys zs, ⟨fun h => ?_, fun h => ?_⟩, fun h => ?_⟩
  · exact absurd (hbare.1 ':' h) (by decide)
  · exact absurd (hbare.2 ':' h) (by decide)
  · rw [modulePath_eq, segments_eq_self h]
    exact split_intercalate (by decide) fun s hs => isPiece_of_not_mem (by decide) (h s hs).2

theorem modulePath_client_flattens :
    (∀ s ∈ ["crate", "generated"], s ≠ "" ∧ ':' ∉ s.toList) ∧
    modulePath (["crate", "generated"] ++ [modulePath ["apps", "v1"]] ++ ["client"]) =
      "crate::generated::apps::v1::client" ∧
    ((modulePath ["crate", "generated"]).split "::").toList.map (·.copy) =
      ["crate", "generated"] := by
  have hnames : ∀ s ∈ ["crate", "generated"], s ≠ "" ∧ ':' ∉ s.toList := by decide
  obtain ⟨hnested, -, hsplit⟩ :=
    modulePath_flattens ["crate", "generated"] ["apps", "v1"] ["client"]
  exact ⟨hnames, hnested.trans (by decide), hsplit hnames⟩

/-- The module of a group-version determines its directory, since neither name holds a colon. -/
lemma groupVersionModule_inj {root g v g' v' : String}
    (hg : groupSegment g ≠ "") (hg' : groupSegment g' ≠ "")
    (hv : v ≠ "" ∧ ':' ∉ v.toList) (hv' : v' ≠ "" ∧ ':' ∉ v'.toList)
    (heq : groupVersionModule root g v = groupVersionModule root g' v') :
    groupSegment g = groupSegment g' ∧ v = v' := by
  have hcolon : ∀ group : String, ':' ∉ (groupSegment group).toList := fun group hc =>
    absurd (isSegmentChar_of_mem_groupSegment hc) (by decide)
  have hseg : segments [groupSegment g, v] = [groupSegment g, v] :=
    segments_eq_self (by simpa using ⟨⟨hg, hcolon g⟩, hv⟩)
  have hseg' : segments [groupSegment g', v'] = [groupSegment g', v'] :=
    segments_eq_self (by simpa using ⟨⟨hg', hcolon g'⟩, hv'⟩)
  have hbelow := modulePath_cons_inj (by rw [hseg]; simp) (by rw [hseg']; simp) heq
  rw [modulePath_eq, modulePath_eq, hseg, hseg'] at hbelow
  have hlist := congrArg String.toList hbelow
  simp only [String.intercalate_cons_cons, String.intercalate_singleton, String.toList_append]
    at hlist
  -- the last colon is the second one of the separator
  have hcons : ((groupSegment g).toList ++ [':']) ++ ':' :: v.toList =
      ((groupSegment g').toList ++ [':']) ++ ':' :: v'.toList := by simpa using hlist
  obtain ⟨hfront, hback⟩ := append_separator_inj hv.2 hv'.2 hcons
  exact ⟨String.toList_injective (List.append_cancel_right hfront), String.toList_injective hback⟩

end ClientGen.Naming
