import ClientGen.Disk.Lookup
import ClientGen.Naming.Module
import ClientGen.Proofs.Path.Components

/-!
The names that a path is walked by. They are its components, but for dots and for where the walk
begins. A path that ends in a name is walked to a directory first and then to this name; the paths
above such a path are again of this form, each a name shorter than the one before, down to where the
walk begins.
-/

namespace ClientGen.Path

/-- The names of a path, dots left out. -/
def steps (path : String) : List String := (pieces path.toList).map String.ofList

lemma components_eq (path : String) :
    components path = (lead path.toList).map String.ofList ++ steps path := by
  rw [components, steps, List.map_append]

lemma ofList_ne_dot (cs : List Char) : (String.ofList cs != ".") = (cs != ['.']) := by
  rw [Bool.eq_iff_iff, bne_iff_ne, bne_iff_ne, ← String.ofList_toList (s := "."), ne_eq, ne_eq,
    String.ofList_inj]
  rfl

lemma filter_names (path : String) : (names path).filter (· != ".") = steps path := by
  have hmap : ∀ ns : List (List Char),
      ((ns.filter fun n => !n.isEmpty).map String.ofList).filter (· != ".") =
        (ns.filter fun n => n != [] && n != ['.']).map String.ofList := by
    intro ns
    rw [List.filter_map, List.filter_filter]
    refine congrArg _ (List.filter_congr fun n _ => ?_)
    rw [Function.comp_apply, ofList_ne_dot, Bool.and_comm]
    cases n <;> rfl
  rw [names, steps, pieces, ← hmap]
  split
  · rw [List.filter_append]
    simp
  · rfl

/-! ### Where a path begins -/

lemma mem_pieces {cs n : List Char} (h : n ∈ pieces cs) : n ≠ [] ∧ n ≠ ['.'] ∧ '/' ∉ n := by
  obtain ⟨hn, hne⟩ := List.mem_filter.mp h
  simp only [Bool.and_eq_true, bne_iff_ne] at hne
  refine ⟨hne.1, hne.2, fun hs => ?_⟩
  simpa using Text.not_sep_of_mem_cut _ hn '/' hs

lemma isName_of_mem_steps {path n : String} (h : n ∈ steps path) (hup : n ≠ "..") : IsName n := by
  obtain ⟨cs, hcs, rfl⟩ := List.mem_map.mp h
  obtain ⟨hne, hdot, hs⟩ := mem_pieces hcs
  refine ⟨fun he => hne ?_, fun he => hdot ?_, hup, by rwa [String.toList_ofList]⟩
  · rw [← String.toList_ofList (l := cs), he]
    rfl
  · rw [← String.toList_ofList (l := cs), he]
    rfl

lemma isAbsolute_iff (path : String) :
    isAbsolute path = true ↔ (components path).head? = some "/" := by
  have hsteps : (steps path).head? ≠ some "/" := by
    intro h
    obtain ⟨cs, hcs, he⟩ := List.mem_map.mp (List.mem_of_head? h)
    refine (mem_pieces hcs).2.2 ?_
    rw [← String.toList_ofList (l := cs), he]
    exact List.mem_singleton_self _
  rw [components_eq, lead, isAbsolute, beq_iff_eq]
  rcases front_cases path.toList with ⟨hf, t, ht⟩ | ⟨hf, ht⟩ | ⟨hf, t, ht⟩ | hf
  · rw [hf, ht]
    simp
  · rw [hf, ht]
    simp
  · rw [hf, ht]
    simp
  · rw [hf, if_pos rfl, List.map_nil, List.nil_append]
    refine ⟨fun h => ?_, fun h => absurd h hsteps⟩
    obtain ⟨t, ht⟩ := List.head?_eq_some_iff.mp h
    rw [ht, front] at hf
    cases hf

/-- The components behind the root of an absolute path, and all components of another one. -/
def onward (cs : List String) : List String :=
  if cs.head? = some "/" then cs.tail else cs

lemma filter_onward (path : String) :
    (onward (components path)).filter (· != ".") = steps path := by
  have hsteps : (steps path).filter (· != ".") = steps path := by
    rw [← filter_names, List.filter_filter]
    simp
  have hback := isAbsolute_iff path
  rw [components_eq, lead] at hback ⊢
  rcases front_cases path.toList with ⟨hf, t, ht⟩ | ⟨hf, ht⟩ | ⟨hf, t, ht⟩ | hf
  · rw [hf] at hback ⊢
    simp [onward, hsteps]
  · rw [hf]
    simpa [onward] using hsteps
  · rw [hf]
    simpa [onward] using hsteps
  · rw [hf, if_pos rfl, List.map_nil, List.nil_append] at hback ⊢
    rw [onward, if_neg, hsteps]
    intro h
    obtain ⟨t, ht⟩ := List.head?_eq_some_iff.mp (beq_iff_eq.mp (hback.mpr h))
    rw [ht, front] at hf
    cases hf

lemma IsName.ne_root {name : String} (h : IsName name) : name ≠ "/" := by
  rintro rfl
  exact h.no_slash (by simp)

lemma head?_concat_eq_root_iff {cs : List String} {name : String} (h : name ≠ "/") :
    (cs ++ [name]).head? = some "/" ↔ cs.head? = some "/" := by
  cases cs <;> simp [h]

lemma onward_concat (cs : List String) {name : String} (h : name ≠ "/") :
    onward (cs ++ [name]) = onward cs ++ [name] := by
  rw [onward, onward]
  by_cases hc : cs.head? = some "/"
  · obtain ⟨t, rfl⟩ := List.head?_eq_some_iff.mp hc
    rfl
  · rw [if_neg hc, if_neg (by rwa [head?_concat_eq_root_iff h])]

/-! ### The last name -/

/-- A path ends in a name, with no slash behind it. -/
structure EndsIn (path name : String) : Prop where
  isName : IsName name
  text : ∃ before : List Char, (before = [] ∨ ∃ b, before = b ++ ['/']) ∧
    path.toList = before ++ name.toList

lemma endsIn_join (base : String) {name : String} (h : IsName name) :
    EndsIn (join base name) name := by
  refine ⟨h, ?_⟩
  rcases join_cases base h with ⟨-, hj⟩ | ⟨-, bs, -, hj⟩
  · exact ⟨[], Or.inl rfl, by rw [hj]; rfl⟩
  · exact ⟨bs ++ ['/'], Or.inr ⟨bs, rfl⟩, by rw [hj]; simp⟩

section EndsIn

variable {path name : String} (h : EndsIn path name)

include h

lemma EndsIn.ne_empty : path ≠ "" := by
  obtain ⟨before, -, ht⟩ := h.text
  rintro rfl
  have hn : name.toList = [] := (List.append_eq_nil_iff.mp ht.symm).2
  exact h.isName.ne_empty (String.toList_eq_nil_iff.mp hn)

lemma EndsIn.getLast?_ne_slash : path.toList.getLast? ≠ some '/' := by
  obtain ⟨before, -, ht⟩ := h.text
  have hne : name.toList ≠ [] := String.toList_eq_nil_iff.not.mpr h.isName.ne_empty
  rw [ht, List.getLast?_append, List.getLast?_eq_some_getLast hne, Option.some_or]
  intro hl
  exact h.isName.no_slash (Option.some.inj hl ▸ List.getLast_mem hne)

lemma EndsIn.exists_names : ∃ ns, names path = ns ++ [name] := by
  obtain ⟨before, hb, ht⟩ := h.text
  have hne : name.toList ≠ [] := String.toList_eq_nil_iff.not.mpr h.isName.ne_empty
  have hcut : Text.cut (· == '/') name.toList = [name.toList] := by
    refine Text.cut_of_not_sep _ fun c hc => ?_
    rw [beq_eq_false_iff_ne]
    rintro rfl
    exact h.isName.no_slash hc
  have hlast : (path.toList.getLast? == some '/') = false :=
    beq_eq_false_iff_ne.mpr h.getLast?_ne_slash
  rw [names, hlast]
  rcases hb with rfl | ⟨b, rfl⟩
  · rw [ht, List.nil_append, hcut]
    exact ⟨[], by simp [hne]⟩
  · rw [ht, List.append_assoc, List.singleton_append, Text.cut_append _ rfl, hcut]
    exact ⟨((Text.cut (· == '/') b).filter fun n => !n.isEmpty).map String.ofList, by simp [hne]⟩

lemma EndsIn.exists_join : ∃ base, path = join base name := by
  obtain ⟨before, hb, ht⟩ := h.text
  refine ⟨String.ofList before, String.toList_injective ?_⟩
  rw [ht, join, h.isName.not_absolute]
  rcases hb with rfl | ⟨b, rfl⟩ <;> simp

lemma EndsIn.names_eq : names path = (names path).dropLast ++ [name] := by
  obtain ⟨ns, hns⟩ := h.exists_names
  rw [hns, List.dropLast_concat]

lemma EndsIn.filter_dropLast {cs : List String} (hc : components path = cs ++ [name]) :
    (names path).dropLast.filter (· != ".") = (onward cs).filter (· != ".") := by
  have hsteps := filter_onward path
  have hnames := h.names_eq
  rw [hc, onward_concat cs h.isName.ne_root, ← filter_names, hnames, List.filter_append,
    List.filter_append] at hsteps
  exact (List.append_cancel_right hsteps).symm

lemma EndsIn.isAbsolute_iff {cs : List String} (hc : components path = cs ++ [name]) :
    isAbsolute path = true ↔ cs.head? = some "/" := by
  rw [Path.isAbsolute_iff, hc, head?_concat_eq_root_iff h.isName.ne_root]

end EndsIn

def temporaryName (name : String) : String := "." ++ name ++ ".kubegen-tmp"

lemma temporaryName_toList (name : String) :
    (temporaryName name).toList = '.' :: (name.toList ++ ".kubegen-tmp".toList) := by
  rw [temporaryName, String.toList_append, String.toList_append]
  rfl

lemma ne_temporaryName (name : String) : name ≠ temporaryName name := by
  intro h
  have hlength := congrArg List.length (temporaryName_toList name)
  rw [← h] at hlength
  simp only [List.length_cons, List.length_append] at hlength
  omega

lemma temporaryName_inj {name other : String} (h : temporaryName name = temporaryName other) :
    name = other := by
  have hlist := congrArg String.toList h
  rw [temporaryName_toList, temporaryName_toList] at hlist
  exact String.toList_injective (List.append_cancel_right (List.cons.inj hlist).2)

lemma IsName.temporaryName {name : String} (h : IsName name) : IsName (temporaryName name) := by
  have hl := temporaryName_toList name
  obtain ⟨c, cs, hc⟩ := List.exists_cons_of_ne_nil (String.toList_eq_nil_iff.not.mpr h.ne_empty)
  refine ⟨fun he => ?_, fun he => ?_, fun he => ?_, ?_⟩
  · rw [he] at hl
    cases hl
  · rw [he, hc] at hl
    cases hl
  · have hlength := congrArg List.length (he ▸ hl)
    rw [hc] at hlength
    simp at hlength
  · rw [hl, List.mem_cons, List.mem_append]
    rintro (hd | hn | ht)
    · exact absurd hd (by decide)
    · exact h.no_slash hn
    · exact absurd ht (by decide)

lemma EndsIn.fileName? {path name : String} (h : EndsIn path name) :
    fileName? path = some name := by
  obtain ⟨base, rfl⟩ := h.exists_join
  exact fileName?_join h.isName

lemma temporaryPath_eq {path name : String} (h : EndsIn path name) :
    Naming.temporaryPath path = withFileName path (temporaryName name) := by
  rw [Naming.temporaryPath, h.fileName?, Option.getD_some, temporaryName]

lemma EndsIn.temporary {path name : String} (h : EndsIn path name) :
    EndsIn (Naming.temporaryPath path) (Path.temporaryName name) := by
  rw [temporaryPath_eq h, withFileName, h.fileName?]
  exact endsIn_join _ h.isName.temporaryName

lemma components_temporaryPath {path name : String} {cs : List String} (h : EndsIn path name)
    (hc : components path = cs ++ [name]) :
    components (Naming.temporaryPath path) = cs ++ [Path.temporaryName name] := by
  rw [temporaryPath_eq h, components_withFileName h.fileName? h.isName.temporaryName, hc,
    List.dropLast_concat]

/-! ### The way up -/

/-- A path has nothing behind its last name. -/
def IsTrimmed (path : String) : Prop :=
  path.toList = front path.toList ++ (backward path).reverse

lemma front_append_drop (cs : List Char) : front cs ++ cs.drop (front cs).length = cs := by
  rcases front_cases cs with ⟨h, t, rfl⟩ | ⟨h, rfl⟩ | ⟨h, t, rfl⟩ | h <;> simp [h]

lemma trimEnd_trimEnd (r : List Char) : trimEnd (trimEnd r) = trimEnd r := by
  have hdot := trimEnd_ne_dot r
  have hslash := trimEnd_ne_slash r
  have hdots := trimEnd_ne_dot_slash r
  generalize trimEnd r = b at *
  rcases b with _ | ⟨c, _ | ⟨d, t⟩⟩
  · rfl
  · have hc : c ≠ '/' := fun he => hslash [] (by rw [he])
    have hd : c ≠ '.' := fun he => hdot (by rw [he])
    rw [trimEnd.eq_def]
    split <;> simp_all
  · have hc : c ≠ '/' := fun he => hslash (d :: t) (by rw [he])
    have hd : c = '.' → d ≠ '/' := fun he he' => hdots t (by rw [he, he'])
    rw [trimEnd.eq_def]
    split <;> simp_all

section Parent

variable {path above : String} (h : parent? path = some above)

include h

lemma parent?_cases : (front path.toList = ['.'] ∧ above = "") ∨
    (backward path ≠ [] ∧ front above.toList = front path.toList ∧ above.toList =
      front path.toList ++ (trimEnd (((backward path).dropWhile (· != '/')).drop 1)).reverse) := by
  simp only [parent?] at h
  split at h
  · split at h
    · next hf => exact Or.inl ⟨by simpa using hf, (Option.some.inj h).symm⟩
    · cases h
  · next hb =>
    obtain rfl := Option.some.inj h
    have hx : (trimEnd (((backward path).dropWhile (· != '/')).drop 1)).reverse
        <+: path.toList.drop (front path.toList).length := by
      rw [← List.reverse_suffix, List.reverse_reverse]
      exact (trimEnd_suffix _).trans ((List.drop_suffix _ _).trans
        ((List.dropWhile_suffix _).trans (trimEnd_suffix _)))
    rw [String.toList_ofList]
    exact Or.inr ⟨fun he => hb he,
      front_append_begins hx (by simpa using trimEnd_ne_dot _), rfl⟩

lemma isTrimmed_parent : IsTrimmed above := by
  rcases parent?_cases h with ⟨-, rfl⟩ | ⟨-, hfront, htext⟩
  · rfl
  · rw [IsTrimmed, backward, hfront, htext, List.drop_left, List.reverse_reverse, trimEnd_trimEnd]

lemma parent?_begins : above.toList <+: path.toList ∧ above.length < path.length := by
  have hsplit := front_append_drop path.toList
  have hlen := congrArg List.length hsplit
  rw [List.length_append] at hlen
  rw [← String.length_toList, ← String.length_toList]
  rcases parent?_cases h with ⟨hfront, rfl⟩ | ⟨hb, -, htext⟩
  · rw [hfront] at hlen
    exact ⟨List.nil_prefix, by simp only [List.length_singleton] at hlen; simp; omega⟩
  · have hup : ((backward path).dropWhile (· != '/')).drop 1 <:+ backward path :=
      (List.drop_suffix _ _).trans (List.dropWhile_suffix _)
    have hshort : (((backward path).dropWhile (· != '/')).drop 1).length <
        (backward path).length := by
      have := (List.dropWhile_suffix (l := backward path) (· != '/')).length_le
      have := List.length_pos_iff.mpr hb
      rw [List.length_drop]
      omega
    have htrim := trimEnd_suffix (((backward path).dropWhile (· != '/')).drop 1)
    have hback : backward path <:+ (path.toList.drop (front path.toList).length).reverse :=
      trimEnd_suffix _
    refine ⟨?_, ?_⟩
    · have hx := List.reverse_prefix.mpr (htrim.trans (hup.trans hback))
      rw [List.reverse_reverse] at hx
      have happend := (List.prefix_append_right_inj (front path.toList)).mpr hx
      rwa [hsplit, ← htext] at happend
    · have := htrim.length_le
      have := hback.length_le
      rw [List.length_reverse] at this
      rw [htext, List.length_append, List.length_reverse]
      omega

end Parent

lemma steps_eq_backward (path : String) :
    steps path = (pieces (backward path).reverse).map String.ofList := by
  rw [backward, pieces_trimEnd, List.reverse_reverse, pieces_drop_front]
  rfl

lemma IsTrimmed.endsIn {path : String} (ht : IsTrimmed path) (hb : backward path ≠ [])
    (hup : ".." ∉ components path) : ∃ name, EndsIn path name := by
  obtain ⟨r, hr⟩ : ∃ r, (backward path).dropWhile (· != '/') = r := ⟨_, rfl⟩
  obtain ⟨seg, hseg⟩ : ∃ seg, (backward path).takeWhile (· != '/') = seg := ⟨_, rfl⟩
  have hsplit : seg ++ r = backward path := by
    rw [← hseg, ← hr]
    exact List.takeWhile_append_dropWhile
  have hmem : String.ofList seg.reverse ∈ steps path := by
    rw [steps_eq_backward, pieces_backward hb, hseg]
    simp
  have hne : String.ofList seg.reverse ≠ ".." := by
    intro he
    exact hup (components_eq path ▸ List.mem_append_right _ (he ▸ hmem))
  have hname := isName_of_mem_steps hmem hne
  rw [IsTrimmed, ← hsplit, List.reverse_append, ← List.append_assoc] at ht
  refine ⟨_, hname, front path.toList ++ r.reverse, ?_, by rw [String.toList_ofList]; exact ht⟩
  rcases r with _ | ⟨c, r⟩
  · -- no slash is left, so the path begins with its name or with the root
    rw [List.reverse_nil, List.append_nil] at ht ⊢
    rcases front_cases path.toList with ⟨hf, -⟩ | ⟨hf, hp⟩ | ⟨hf, t, hp⟩ | hf
    · exact Or.inr ⟨[], hf⟩
    · rw [hf, hp] at ht
      have hnil : seg = [] := by simpa using ht
      exact absurd (by rw [hnil]; rfl) hname.ne_empty
    · rw [hf, hp] at ht
      have hs : '/' ∈ seg := by
        rw [← List.mem_reverse, ← (List.cons.inj ht : _ ∧ '/' :: t = seg.reverse).2]
        exact List.mem_cons_self
      exact absurd hs (hseg ▸ takeWhile_ne_slash _)
    · exact Or.inl hf
  · have hc : c = '/' := by
      have := List.head?_dropWhile_not (· != '/') (backward path)
      rw [hr] at this
      simpa using this
    exact Or.inr ⟨front path.toList ++ r.reverse, by simp [hc]⟩

/-- A path and the paths above it, nearest first, each one name longer than the one after it, down
to where the walk along them begins. They are listed with the components of the first one. -/
inductive Ladder : List String → List String → Prop
  | start {cs : List String} (h : cs = [] ∨ cs = ["/"]) : Ladder [] cs
  | here : Ladder ["."] ["."]
  | step {path name : String} {paths cs : List String} (h : EndsIn path name)
      (hc : components path = cs ++ [name]) (hl : Ladder paths cs) :
      Ladder (path :: paths) (cs ++ [name])

lemma IsTrimmed.cases_of_nil {path : String} (ht : IsTrimmed path) (hb : backward path = []) :
    path = "" ∨ path = "/" ∨ path = "." := by
  rw [IsTrimmed, hb, List.reverse_nil, List.append_nil] at ht
  rcases front_cases path.toList with ⟨hf, -⟩ | ⟨hf, -⟩ | ⟨hf, -⟩ | hf <;> rw [hf] at ht
  · exact Or.inr (Or.inl (String.toList_injective ht))
  · exact Or.inr (Or.inr (String.toList_injective ht))
  · exact Or.inr (Or.inr (String.toList_injective ht))
  · exact Or.inl (String.toList_injective ht)

lemma exists_parent {path : String} (hb : backward path ≠ []) :
    ∃ above, parent? path = some above := by
  rw [parent?]
  split
  · next h => exact absurd h hb
  · exact ⟨_, rfl⟩

lemma EndsIn.components_eq {path name : String} (h : EndsIn path name) :
    components path = (components path).dropLast ++ [name] := by
  have hdot : [name].filter (· != ".") = [name] := by simp [h.isName.ne_dot]
  rw [Path.components_eq, ← filter_names, h.names_eq, List.filter_append, hdot,
    ← List.append_assoc, List.dropLast_concat]

lemma IsTrimmed.ladder {k : Nat} {path : String} (ht : IsTrimmed path) (hk : path.length ≤ k)
    (hup : ".." ∉ components path) :
    Ladder ((ancestorsFrom k path).takeWhile fun p => !p.isEmpty && (parent? p).isSome)
      (components path) := by
  induction k generalizing path with
  | zero =>
    obtain rfl : path = "" := by
      rw [← String.toList_eq_nil_iff, ← List.length_eq_zero_iff, String.length_toList]
      omega
    exact .start (Or.inl rfl)
  | succ k ih =>
    by_cases hb : backward path = []
    · rcases ht.cases_of_nil hb with rfl | rfl | rfl
      · exact .start (Or.inl rfl)
      · exact .start (Or.inr rfl)
      · have hlist : (ancestorsFrom (k + 1) ".").takeWhile
            (fun p => !p.isEmpty && (parent? p).isSome) = ["."] := by
          have hparent : parent? "." = some "" := by decide
          have hend : parent? "" = none := by decide
          rcases k with _ | k <;> simp [ancestorsFrom, hparent, hend]
        rw [hlist]
        exact .here
    · obtain ⟨above, ha⟩ := exists_parent hb
      obtain ⟨name, hname⟩ := ht.endsIn hb hup
      have hc : components path = components above ++ [name] := by
        rw [components_parent ha]
        exact hname.components_eq
      have hup' : ".." ∉ components above := fun h => hup (hc ▸ List.mem_append_left _ h)
      have hlist : (ancestorsFrom (k + 1) path).takeWhile
          (fun p => !p.isEmpty && (parent? p).isSome) = path ::
            (ancestorsFrom k above).takeWhile fun p => !p.isEmpty && (parent? p).isSome := by
        simp [ancestorsFrom, ha, hname.ne_empty]
      rw [hlist, hc]
      exact .step hname hc (ih (isTrimmed_parent ha) (by have := (parent?_begins ha).2; omega) hup')

/-! ### Beside a file -/

lemma isTrimmed_join (base : String) {name : String} (h : IsName name) :
    IsTrimmed (join base name) := by
  obtain ⟨rest, hrest, hdrop⟩ := drop_front_join base h
  rw [IsTrimmed, backward, hdrop, h.trimEnd_eq hrest, ← hdrop, List.reverse_reverse,
    front_append_drop]

lemma parent?_of_backward {path : String} {name rest : List Char} (hname : '/' ∉ name)
    (h : backward path = name ++ '/' :: rest) :
    parent? path = some (String.ofList (front path.toList ++ (trimEnd rest).reverse)) := by
  have hup : ((backward path).dropWhile (· != '/')).drop 1 = rest := by
    rw [h, List.dropWhile_append_of_pos]
    · rfl
    · intro c hc
      rw [bne_iff_ne]
      rintro rfl
      exact hname hc
  simp only [parent?]
  split
  · next hnil =>
    rw [h] at hnil
    simp at hnil
  · rw [hup]

lemma parent?_join {base last name : String} (ht : IsTrimmed base) (hb : EndsIn base last)
    (h : IsName name) : parent? (join base name) = some base := by
  have hne : base.toList ≠ [] := String.toList_eq_nil_iff.not.mpr hb.ne_empty
  have htext : (join base name).toList = base.toList ++ '/' :: name.toList := by
    simp [join, h.not_absolute, hb.ne_empty, hb.getLast?_ne_slash]
  have hfront : front (join base name).toList = front base.toList := by
    rw [htext]
    exact front_append hne fun _ => ⟨_, rfl⟩
  obtain ⟨m, hm⟩ : ∃ m, (base.toList.drop (front base.toList).length).reverse = m := ⟨_, rfl⟩
  have hlength : (front base.toList).length ≤ base.toList.length := by
    have hsplit := congrArg List.length (front_append_drop base.toList)
    rw [List.length_append] at hsplit
    omega
  have hback : backward (join base name) = name.toList.reverse ++ '/' :: m := by
    rw [backward, hfront, htext, List.drop_append_of_le_length hlength, List.reverse_append,
      List.reverse_cons, List.append_assoc, List.singleton_append, hm,
      h.trimEnd_eq (Or.inr ⟨m, rfl⟩)]
  have htrim : trimEnd m = backward base := by rw [backward, hm]
  rw [parent?_of_backward (by simpa using h.no_slash) hback, htrim, hfront, ← ht,
    String.ofList_toList]

lemma temporaryPath_join {base last name : String} (ht : IsTrimmed base) (hb : EndsIn base last)
    (h : IsName name) :
    Naming.temporaryPath (join base name) = join base (temporaryName name) := by
  rw [temporaryPath_eq (endsIn_join base h), withFileName, fileName?_join h, parent?_join ht hb h,
    Option.getD_some]

end ClientGen.Path
