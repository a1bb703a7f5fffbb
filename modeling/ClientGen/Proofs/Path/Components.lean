import ClientGen.Path
import ClientGen.Proofs.Text.Cut
import Mathlib.Data.List.TakeWhile
import Mathlib.Tactic.Lemma

/-!
Paths as lists of components. Two texts with the same components name the same place wherever they
are used, and one path lies below another when its components go on from those of the other. What
joining, going up and exchanging the last name do to a path is settled here.
-/

namespace ClientGen.Path

/-- The texts between slashes, without empty ones and dots. -/
def pieces (cs : List Char) : List (List Char) :=
  (Text.cut (· == '/') cs).filter fun n => n != [] && n != ['.']

/-- The root or the leading dot, if there is one. -/
def lead (cs : List Char) : List (List Char) :=
  if front cs = [] then [] else [front cs]

/-- What a path is made of: its root or leading dot, if it has one, and then its names. -/
def components (path : String) : List String :=
  (lead path.toList ++ pieces path.toList).map String.ofList

/-- The components of a path behind those of `base`. -/
def below (base path : String) : List String :=
  (components path).drop (components base).length

/-- `a` is a directory on the way to `b`. -/
def IsAbove (a b : String) : Prop :=
  components a <+: components b ∧ components a ≠ components b

/-- A name that leads one step down. -/
structure IsName (name : String) : Prop where
  ne_empty : name ≠ ""
  ne_dot : name ≠ "."
  ne_dots : name ≠ ".."
  no_slash : '/' ∉ name.toList

@[simp] lemma pieces_nil : pieces [] = [] := rfl

@[simp] lemma pieces_dot : pieces ['.'] = [] := by decide

lemma pieces_append (as bs : List Char) : pieces (as ++ '/' :: bs) = pieces as ++ pieces bs := by
  rw [pieces, Text.cut_append _ rfl, List.filter_append]
  rfl

lemma pieces_slash (bs : List Char) : pieces ('/' :: bs) = pieces bs := pieces_append [] bs

lemma pieces_of_not_mem {cs : List Char} (h : '/' ∉ cs) (hne : cs ≠ []) (hdot : cs ≠ ['.']) :
    pieces cs = [cs] := by
  have hc : ∀ c ∈ cs, (c == '/') = false := by
    intro c hc
    rw [beq_eq_false_iff_ne]
    rintro rfl
    exact h hc
  rw [pieces, Text.cut_of_not_sep _ hc]
  simp [hne, hdot]

/-! ### The front of a path -/

lemma front_cases (cs : List Char) :
    (front cs = ['/'] ∧ ∃ t, cs = '/' :: t) ∨ (front cs = ['.'] ∧ cs = ['.']) ∨
      (front cs = ['.'] ∧ ∃ t, cs = '.' :: '/' :: t) ∨ front cs = [] := by
  rcases cs with _ | ⟨c, _ | ⟨d, t⟩⟩
  · simp [front]
  · by_cases hs : c = '/'
    · simp [hs, front]
    · by_cases hd : c = '.'
      · simp [hd, front]
      · simp [front, hs, hd]
  · by_cases hs : c = '/'
    · simp [hs, front]
    · by_cases hd : c = '.'
      · by_cases hs' : d = '/'
        · simp [hd, hs', front]
        · simp [front, hd, hs']
      · simp [front, hs, hd]

lemma front_append {as : List Char} (hne : as ≠ []) {bs : List Char}
    (hdot : as = ['.'] → ∃ t, bs = '/' :: t) : front (as ++ bs) = front as := by
  rcases as with _ | ⟨c, _ | ⟨d, t⟩⟩
  · exact absurd rfl hne
  · by_cases hd : c = '.'
    · subst hd
      obtain ⟨t, rfl⟩ := hdot rfl
      rfl
    · by_cases hs : c = '/'
      · simp [front, hs]
      · simp [front, hs, hd]
  · rcases front_cases (c :: d :: t) with ⟨h, u, hu⟩ | ⟨h, hu⟩ | ⟨h, u, hu⟩ | h
    · obtain ⟨rfl, rfl⟩ := List.cons.inj hu
      rfl
    · simp at hu
    · obtain ⟨rfl, hdt⟩ := List.cons.inj hu
      obtain ⟨rfl, rfl⟩ := List.cons.inj hdt
      rfl
    · simp only [front, List.cons_append] at h ⊢
      split at h <;> simp_all

lemma pieces_drop_front (cs : List Char) : pieces (cs.drop (front cs).length) = pieces cs := by
  rcases front_cases cs with ⟨h, t, rfl⟩ | ⟨h, rfl⟩ | ⟨h, t, rfl⟩ | h
  · rw [h]
    exact (pieces_slash t).symm
  · rw [h]
    simp
  · rw [h]
    exact (pieces_append [] t).trans (pieces_append ['.'] t).symm
  · simp [h]

/-! ### Joining -/

lemma IsName.not_absolute {name : String} (h : IsName name) : isAbsolute name = false := by
  rw [isAbsolute, beq_eq_false_iff_ne]
  intro hh
  exact h.no_slash (List.mem_of_head? hh)

lemma IsName.pieces_eq {name : String} (h : IsName name) : pieces name.toList = [name.toList] := by
  refine pieces_of_not_mem h.no_slash (String.toList_eq_nil_iff.not.mpr h.ne_empty) fun hd => ?_
  exact h.ne_dot (String.toList_injective hd)

lemma IsName.front_eq {name : String} (h : IsName name) : front name.toList = [] := by
  rcases front_cases name.toList with ⟨-, t, ht⟩ | ⟨-, ht⟩ | ⟨-, t, ht⟩ | h'
  · exact absurd (ht ▸ List.mem_cons_self) h.no_slash
  · exact absurd (String.toList_injective ht) h.ne_dot
  · exact absurd (by rw [ht]; simp) h.no_slash
  · exact h'

lemma join_cases (base : String) {name : String} (h : IsName name) :
    (base = "" ∧ join base name = name) ∨
      (base ≠ "" ∧ ∃ bs, (base.toList = bs ∨ base.toList = bs ++ ['/']) ∧
        (join base name).toList = bs ++ '/' :: name.toList) := by
  rw [join, h.not_absolute]
  by_cases he : base = ""
  · exact Or.inl ⟨he, by simp [he]⟩
  refine Or.inr ⟨he, ?_⟩
  by_cases hl : base.toList.getLast? = some '/'
  · obtain ⟨bs, hbs⟩ := List.getLast?_eq_some_iff.mp hl
    exact ⟨bs, Or.inr hbs, by simp [hbs]⟩
  · exact ⟨base.toList, Or.inl rfl, by simp [hl, he]⟩

lemma components_name {name : String} (h : IsName name) : components name = [name] := by
  simp [components, lead, h.front_eq, h.pieces_eq]

/-- **Joining a name** puts it behind the components of the base. -/
theorem components_join {base name : String} (h : IsName name) :
    components (join base name) = components base ++ [name] := by
  rcases join_cases base h with ⟨rfl, hj⟩ | ⟨hne, bs, hbase, hj⟩
  · rw [hj, components_name h]
    rfl
  have hne' : base.toList ≠ [] := String.toList_eq_nil_iff.not.mpr hne
  have hfront : front (join base name).toList = front base.toList := by
    rw [hj]
    rcases hbase with hb | hb
    · rw [← hb]
      exact front_append hne' fun _ => ⟨_, rfl⟩
    · have : bs ++ '/' :: name.toList = base.toList ++ name.toList := by simp [hb]
      rw [this]
      refine front_append hne' fun hd => ?_
      rw [hd] at hb
      exact absurd hb (by rcases bs with _ | ⟨b, _ | _⟩ <;> simp)
  have hpieces : pieces (join base name).toList = pieces base.toList ++ [name.toList] := by
    rw [hj, pieces_append, h.pieces_eq]
    rcases hbase with hb | hb <;> simp [hb, pieces_append]
  simp only [components, lead, hfront, hpieces, List.map_append, List.append_assoc,
    List.map_singleton, String.ofList_toList]

lemma below_eq {base path : String} {names : List String}
    (h : components path = components base ++ names) : below base path = names := by
  rw [below, h, List.drop_left]

/-! ### Going up -/

lemma pieces_trimEnd (r : List Char) : pieces (trimEnd r).reverse = pieces r.reverse := by
  fun_induction trimEnd r with
  | case1 r ih => rw [ih, List.reverse_cons, pieces_append]; simp
  | case2 r ih =>
    rw [ih, List.reverse_cons, List.reverse_cons, List.append_assoc, List.singleton_append,
      pieces_append]
    simp
  | case3 => rfl
  | case4 => rfl

lemma trimEnd_suffix (r : List Char) : trimEnd r <:+ r := by
  fun_induction trimEnd r with
  | case1 r ih => exact ih.trans (List.suffix_cons _ _)
  | case2 r ih => exact ih.trans ((List.suffix_cons _ _).trans (List.suffix_cons _ _))
  | case3 => exact List.nil_suffix
  | case4 => exact List.suffix_rfl

lemma trimEnd_ne_dot (r : List Char) : trimEnd r ≠ ['.'] := by
  fun_induction trimEnd r with
  | case1 r ih => exact ih
  | case2 r ih => exact ih
  | case3 => simp
  | case4 r _ _ h => exact h

lemma trimEnd_ne_slash (r t : List Char) : trimEnd r ≠ '/' :: t := by
  fun_induction trimEnd r with
  | case1 r ih => exact ih
  | case2 r ih => exact ih
  | case3 => simp
  | case4 r h _ _ => exact h t

lemma trimEnd_ne_dot_slash (r t : List Char) : trimEnd r ≠ '.' :: '/' :: t := by
  fun_induction trimEnd r with
  | case1 r ih => exact ih
  | case2 r ih => exact ih
  | case3 => simp
  | case4 r _ h _ => exact h t

lemma components_eq_backward (path : String) :
    components path
      = (lead path.toList ++ pieces (backward path).reverse).map String.ofList := by
  rw [backward, pieces_trimEnd, List.reverse_reverse, pieces_drop_front]
  rfl

lemma takeWhile_ne_slash (r : List Char) : '/' ∉ r.takeWhile (· != '/') := by
  intro h
  simpa using List.mem_takeWhile_imp h

/-- The names read backward are the last name and what the way up leaves. -/
lemma pieces_backward {path : String} (h : backward path ≠ []) :
    pieces (backward path).reverse
      = pieces (((backward path).dropWhile (· != '/')).drop 1).reverse
        ++ [((backward path).takeWhile (· != '/')).reverse] := by
  obtain ⟨r, hr⟩ : ∃ r, trimEnd r = backward path := ⟨_, rfl⟩
  have hdot := trimEnd_ne_dot r
  have hslash := trimEnd_ne_dot_slash r
  have hstart := trimEnd_ne_slash r
  rw [hr] at hdot hslash hstart
  generalize backward path = b at *
  have hsplit := List.takeWhile_append_dropWhile (p := (· != '/')) (l := b)
  have hnot := takeWhile_ne_slash b
  rcases hd : b.dropWhile (· != '/') with _ | ⟨c, rest⟩
  · rw [hd, List.append_nil] at hsplit
    rw [hsplit] at hnot ⊢
    rw [pieces_of_not_mem (by simpa using hnot) (by simpa using h)]
    · rfl
    · simpa using hdot
  · have hc : c = '/' := by
      have := List.head?_dropWhile_not (· != '/') b
      rw [hd] at this
      simpa using this
    subst hc
    rw [hd] at hsplit
    have hne : b.takeWhile (· != '/') ≠ [] := by
      intro he
      rw [he] at hsplit
      exact hstart rest hsplit.symm
    have hne' : b.takeWhile (· != '/') ≠ ['.'] := by
      intro he
      rw [he] at hsplit
      exact hslash rest hsplit.symm
    have hrev : b.reverse = rest.reverse ++ '/' :: (b.takeWhile (· != '/')).reverse := by
      simpa using (congrArg List.reverse hsplit).symm
    have hlast : pieces (b.takeWhile (· != '/')).reverse = [(b.takeWhile (· != '/')).reverse] :=
      pieces_of_not_mem (by simpa using hnot) (by simpa using hne) (by simpa using hne')
    rw [hrev, pieces_append, hlast]
    rfl

lemma front_append_begins {cs x : List Char} (hx : x <+: cs.drop (front cs).length)
    (hdot : x ≠ ['.']) : front (front cs ++ x) = front cs := by
  rcases front_cases cs with ⟨h, t, rfl⟩ | ⟨h, rfl⟩ | ⟨h, t, rfl⟩ | h
  · rw [h]
    rfl
  · rw [h] at hx ⊢
    obtain rfl : x = [] := by simpa using hx
    rfl
  · rw [h] at hx ⊢
    rcases x with _ | ⟨c, x⟩
    · rfl
    · obtain ⟨u, hu⟩ := hx
      obtain ⟨rfl, -⟩ := List.cons.inj hu
      rfl
  · rw [h] at hx ⊢
    obtain ⟨u, hu⟩ := hx
    rcases front_cases x with ⟨-, t, rfl⟩ | ⟨-, rfl⟩ | ⟨-, t, rfl⟩ | hx
    · rw [← show '/' :: (t ++ u) = cs from hu] at h
      simp [front] at h
    · exact absurd rfl hdot
    · rw [← show '.' :: '/' :: (t ++ u) = cs from hu] at h
      simp [front] at h
    · exact hx

/-- **Going up** takes the last component away. -/
theorem components_parent {path above : String} (h : parent? path = some above) :
    components above = (components path).dropLast := by
  rw [components_eq_backward path]
  simp only [parent?] at h
  split at h
  · next hb =>
    split at h
    · next hf =>
      obtain rfl := Option.some.inj h
      have hf' : front path.toList = ['.'] := by simpa using hf
      rw [hb, lead, hf']
      rfl
    · simp at h
  · next hb =>
    have hne : backward path ≠ [] := fun he => hb he
    obtain rfl := Option.some.inj h
    have hx : (trimEnd (((backward path).dropWhile (· != '/')).drop 1)).reverse
        <+: path.toList.drop (front path.toList).length := by
      rw [← List.reverse_suffix, List.reverse_reverse]
      exact (trimEnd_suffix _).trans ((List.drop_suffix _ _).trans
        ((List.dropWhile_suffix _).trans (trimEnd_suffix _)))
    have hfront := front_append_begins hx (by simpa using trimEnd_ne_dot _)
    have hpieces := pieces_drop_front
      (front path.toList ++ (trimEnd (((backward path).dropWhile (· != '/')).drop 1)).reverse)
    rw [hfront, List.drop_left, pieces_trimEnd] at hpieces
    rw [pieces_backward hne, ← List.append_assoc, List.map_append, List.map_singleton,
      List.dropLast_concat, components, String.toList_ofList, lead, hfront, ← hpieces]
    rfl

/-- **Exchanging the last name** keeps the components above it. -/
theorem components_withFileName {path old name : String} (h : fileName? path = some old)
    (hn : IsName name) :
    components (withFileName path name) = (components path).dropLast ++ [name] := by
  have hne : backward path ≠ [] := by
    intro hb
    simp [fileName?, hb] at h
  obtain ⟨above, ha⟩ : ∃ above, parent? path = some above := by
    rw [parent?]
    split
    · next hb => exact absurd hb hne
    · exact ⟨_, rfl⟩
  rw [withFileName, h, ha, Option.getD_some, components_join hn, components_parent ha]

lemma trimEnd_append {n rest : List Char} (hn : '/' ∉ n) (hne : n ≠ []) (hdot : n ≠ ['.'])
    (hrest : rest = [] ∨ ∃ t, rest = '/' :: t) : trimEnd (n ++ rest) = n ++ rest := by
  rcases n with _ | ⟨c, _ | ⟨d, t⟩⟩
  · exact absurd rfl hne
  · have hc : c ≠ '/' := fun h => hn (by simp [h])
    have hd : c ≠ '.' := fun h => hdot (by rw [h])
    rcases hrest with rfl | ⟨t, rfl⟩ <;> simp [trimEnd, hc, hd]
  · have hc : c ≠ '/' := fun h => hn (by simp [h])
    have hd : d ≠ '/' := fun h => hn (by simp [h])
    simp [trimEnd, hc, hd]

lemma drop_front_join (base : String) {name : String} (h : IsName name) :
    ∃ rest, (rest = [] ∨ ∃ t, rest = '/' :: t) ∧
      ((join base name).toList.drop (front (join base name).toList).length).reverse =
        name.toList.reverse ++ rest := by
  obtain ⟨as, has, hcs, hk⟩ : ∃ as : List Char, (as.reverse = [] ∨ ∃ t, as.reverse = '/' :: t) ∧
      (join base name).toList = as ++ name.toList ∧
        (front (join base name).toList).length ≤ as.length := by
    rcases join_cases base h with ⟨-, hj⟩ | ⟨-, bs, -, hj⟩
    · exact ⟨[], Or.inl rfl, by rw [hj]; rfl, by rw [hj, h.front_eq]⟩
    · refine ⟨bs ++ ['/'], Or.inr ⟨bs.reverse, by simp⟩, by rw [hj]; simp, ?_⟩
      rcases front_cases (join base name).toList with ⟨hf, -⟩ | ⟨hf, -⟩ | ⟨hf, -⟩ | hf <;> simp [hf]
  generalize (front (join base name).toList).length = k at hk ⊢
  refine ⟨(as.drop k).reverse, ?_, ?_⟩
  · -- what the front leaves of the beginning still ends with a slash, if anything is left
    rw [List.reverse_drop]
    rcases has with has | ⟨t, has⟩
    · exact Or.inl (by rw [has, List.take_nil])
    · rw [has]
      rcases as.length - k with _ | m
      · exact Or.inl rfl
      · exact Or.inr ⟨t.take m, rfl⟩
  · rw [hcs, List.drop_append_of_le_length hk, List.reverse_append]

lemma IsName.trimEnd_eq {name : String} (h : IsName name) {rest : List Char}
    (hrest : rest = [] ∨ ∃ t, rest = '/' :: t) :
    trimEnd (name.toList.reverse ++ rest) = name.toList.reverse ++ rest := by
  refine trimEnd_append (by simpa using h.no_slash) (by simpa using h.ne_empty) ?_ hrest
  intro hd
  refine h.ne_dot (String.toList_injective ?_)
  simpa using congrArg List.reverse hd

/-- The names of a joined path, read backward: the last name, and the rest behind a slash. -/
lemma backward_join (base : String) {name : String} (h : IsName name) :
    ∃ rest, (rest = [] ∨ ∃ t, rest = '/' :: t) ∧
      backward (join base name) = name.toList.reverse ++ rest := by
  obtain ⟨rest, hrest, hdrop⟩ := drop_front_join base h
  exact ⟨rest, hrest, by rw [backward, hdrop, h.trimEnd_eq hrest]⟩

/-- A path that is joined from a base and a name has that name. -/
theorem fileName?_join {base name : String} (h : IsName name) :
    fileName? (join base name) = some name := by
  obtain ⟨rest, hrest, hb⟩ := backward_join base h
  have htake : (backward (join base name)).takeWhile (· != '/') = name.toList.reverse := by
    rw [hb, List.takeWhile_append_of_pos]
    · rcases hrest with rfl | ⟨t, rfl⟩ <;> simp
    · intro c hc
      rw [bne_iff_ne]
      rintro rfl
      exact h.no_slash (List.mem_reverse.mp hc)
  rw [fileName?, htake]
  split
  · next he => exact absurd (by simpa using he) h.ne_empty
  · next hd =>
    refine absurd (String.toList_injective ?_) h.ne_dots
    simpa using congrArg List.reverse hd
  · simp

end ClientGen.Path
