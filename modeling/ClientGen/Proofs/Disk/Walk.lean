import ClientGen.Disk.Lookup
import ClientGen.Proofs.Path.Names
import Mathlib.Data.List.Induction

/-!
Walking on a disk. What a disk holds lies in directories, and a walk that ends in a directory goes
through directories and links only. So it can be cut in two, it does not care about dots, and it
stays what it is when more is put on the disk.
-/

namespace ClientGen.Disk

lemma exists_of_bind_ok {ε α β : Type} {x : Except ε α} {f : α → Except ε β} {b : β}
    (h : (x >>= f) = .ok b) : ∃ a, x = .ok a ∧ f a = .ok b := by
  cases x with
  | error e => cases h
  | ok a => exact ⟨a, rfl, h⟩

/-- Whatever a disk holds lies in a directory, and the disk is seen from one of them. -/
structure IsSound (d : Disk) : Prop where
  above : ∀ {name place node}, d.get? (name :: place) = some node →
    d.get? place = some .directory
  current : d.get? d.current = some .directory

/-- Whatever the first disk holds, the second one holds as well. -/
structure IsWithin (d d' : Disk) : Prop where
  current : d'.current = d.current
  get? : ∀ {place node}, d.get? place = some node → d'.get? place = some node

/-- Two disks hold the same. -/
structure IsSame (d d' : Disk) : Prop where
  current : d'.current = d.current
  get? : ∀ place, d'.get? place = d.get? place

lemma IsWithin.refl (d : Disk) : d.IsWithin d := ⟨rfl, id⟩

lemma IsWithin.trans {d d' d'' : Disk} (h : d.IsWithin d') (h' : d'.IsWithin d'') :
    d.IsWithin d'' :=
  ⟨h'.current.trans h.current, fun hp => h'.get? (h.get? hp)⟩

lemma IsSame.refl (d : Disk) : d.IsSame d := ⟨rfl, fun _ => rfl⟩

lemma IsSame.symm {d d' : Disk} (h : d.IsSame d') : d'.IsSame d :=
  ⟨h.current.symm, fun p => (h.get? p).symm⟩

lemma IsSame.trans {d d' d'' : Disk} (h : d.IsSame d') (h' : d'.IsSame d'') : d.IsSame d'' :=
  ⟨h'.current.trans h.current, fun p => (h'.get? p).trans (h.get? p)⟩

lemma IsSame.within {d d' : Disk} (h : d.IsSame d') : d.IsWithin d' :=
  ⟨h.current, fun hp => (h.get? _).trans hp⟩

lemma IsSame.sound {d d' : Disk} (h : d.IsSame d') (hd : d.IsSound) : d'.IsSound where
  above hp := by
    rw [h.get?] at hp ⊢
    exact hd.above hp
  current := by
    rw [h.get?, h.current]
    exact hd.current

def holdsDirectory (d : Disk) (place : Place) : Bool :=
  match d.get? place with
  | some .directory => true
  | _ => false

lemma holdsDirectory_iff {d : Disk} {place : Place} :
    d.holdsDirectory place = true ↔ d.get? place = some .directory := by
  rw [holdsDirectory]
  split <;> simp_all

lemma mem_of_lookup {entries : List (Place × Node)} {place : Place} {node : Node}
    (h : entries.lookup place = some node) : (place, node) ∈ entries := by
  obtain ⟨before, after, rfl, -⟩ := List.lookup_eq_some_iff.mp h
  simp

/-- Soundness can be seen from the list of what a disk holds. -/
lemma isSound_of_check {d : Disk} (h : (d.holdsDirectory d.current &&
    d.entries.all fun e => d.holdsDirectory e.1.tail) = true) : d.IsSound := by
  obtain ⟨hcurrent, hall⟩ := Bool.and_eq_true_iff.mp h
  refine ⟨fun {name place node} hnode => ?_, holdsDirectory_iff.mp hcurrent⟩
  exact holdsDirectory_iff.mp (List.all_eq_true.mp hall _ (mem_of_lookup hnode))

@[simp] lemma get?_nil (d : Disk) : d.get? [] = some .directory := rfl

variable {d d' : Disk} {k : Nat} {here q p : Place} {ns xs ys : List String} {name : String}

lemma IsSound.tail (h : d.IsSound) (hp : d.get? here = some .directory) :
    d.get? here.tail = some .directory := by
  cases here with
  | nil => rfl
  | cons n a => exact h.above hp

lemma IsSound.get?_below (h : d.IsSound) (ns : List String) (hp : d.get? p = none) :
    d.get? (ns ++ p) = none := by
  induction ns with
  | nil => exact hp
  | cons n ns ih =>
    by_contra hsome
    obtain ⟨node, hnode⟩ := Option.ne_none_iff_exists'.mp hsome
    have habove : d.get? (ns ++ p) = some .directory := h.above hnode
    rw [ih] at habove
    cases habove

lemma beginning_cases (here : Place) (path : String) :
    beginning here path = [] ∨ beginning here path = here := by
  rw [beginning]
  split
  · exact Or.inl rfl
  · exact Or.inr rfl

lemma get?_beginning (hp : d.get? here = some .directory) (path : String) :
    d.get? (beginning here path) = some .directory := by
  rcases beginning_cases here path with h | h <;> rw [h]
  · rfl
  · exact hp

/-! ### One name further -/

/-- What a walk meets under its next name. -/
inductive Meets (d : Disk) (here : Place) (name : String) : Prop
  | dot (h : name = ".")
  | dots (h : name = "..")
  | long (hdot : name ≠ ".") (hdots : name ≠ "..") (h : longestName < name.utf8ByteSize)
  | directory (hdot : name ≠ ".") (hdots : name ≠ "..") (hs : name.utf8ByteSize ≤ longestName)
      (h : d.get? (name :: here) = some .directory)
  | link (hdot : name ≠ ".") (hdots : name ≠ "..") (hs : name.utf8ByteSize ≤ longestName)
      (target : String) (h : d.get? (name :: here) = some (.link target))
  | other (hdot : name ≠ ".") (hdots : name ≠ "..") (hs : name.utf8ByteSize ≤ longestName)
      (hd : d.get? (name :: here) ≠ some .directory)
      (hl : ∀ target, d.get? (name :: here) ≠ some (.link target))

lemma meets (d : Disk) (here : Place) (name : String) : Meets d here name := by
  by_cases hdot : name = "."
  · exact .dot hdot
  by_cases hdots : name = ".."
  · exact .dots hdots
  rcases Nat.lt_or_ge longestName name.utf8ByteSize with hs | hs
  · exact .long hdot hdots hs
  rcases hg : d.get? (name :: here) with _ | _ | _ | target | _ | _
  case some.directory => exact .directory hdot hdots hs hg
  case some.link => exact .link hdot hdots hs target hg
  all_goals exact .other hdot hdots hs (by simp [hg]) (by simp [hg])

@[simp] lemma walk_nil : d.walk k here [] = .ok here := by cases k <;> rfl

@[simp] lemma walk_dot : d.walk k here ("." :: ns) = d.walk k here ns := by cases k <;> rfl

@[simp] lemma walk_dots : d.walk k here (".." :: ns) = d.walk k here.tail ns := by cases k <;> rfl

section Name

variable (hdot : name ≠ ".") (hdots : name ≠ "..")

include hdot hdots

lemma walk_long (h : longestName < name.utf8ByteSize) :
    d.walk k here (name :: ns) = .error .nameTooLong := by
  cases k <;> simp [walk, walkWith, hdot, hdots, h]

variable (hs : name.utf8ByteSize ≤ longestName)

include hs

lemma walk_directory (h : d.get? (name :: here) = some .directory) :
    d.walk k here (name :: ns) = d.walk k (name :: here) ns := by
  cases k <;> simp [walk, walkWith, hdot, hdots, not_lt.mpr hs, h]

lemma walk_link_zero {target : String} (h : d.get? (name :: here) = some (.link target)) :
    d.walk 0 here (name :: ns) = .error .tooManyLinks := by
  simp [walk, walkWith, hdot, hdots, not_lt.mpr hs, h]

lemma walk_link_succ {target : String} (h : d.get? (name :: here) = some (.link target)) :
    d.walk (k + 1) here (name :: ns) =
      d.walk k (beginning here target) (Path.names target ++ ns) := by
  simp [walk, walkWith, hdot, hdots, not_lt.mpr hs, h]

variable (hd : d.get? (name :: here) ≠ some .directory)
  (hl : ∀ target, d.get? (name :: here) ≠ some (.link target))

include hd hl

lemma walk_other : d.walk k here [name] = .ok (name :: here) := by
  rcases hg : d.get? (name :: here) with _ | _ | _ | target | _ | _ <;>
    cases k <;> simp_all [walk, walkWith, not_lt.mpr hs]

lemma walk_other_ne (hne : ns ≠ []) : ∃ e, d.walk k here (name :: ns) = .error e := by
  rcases hg : d.get? (name :: here) with _ | _ | _ | target | _ | _ <;>
    cases k <;> simp_all [walk, walkWith, not_lt.mpr hs]

end Name

/-! ### Walking to a directory -/

/-- A walk goes on along fewer names, or behind a link with one link less to follow. -/
lemma walk_induction {motive : Nat → Place → List String → Prop}
    (nil : ∀ k here, motive k here [])
    (cons : ∀ k here name ns, (∀ here, motive k here ns) →
      (∀ l here ms, k = l + 1 → motive l here ms) → motive k here (name :: ns))
    (k : Nat) (here : Place) (ns : List String) : motive k here ns := by
  induction k generalizing here ns with
  | zero =>
    induction ns generalizing here with
    | nil => exact nil 0 here
    | cons name ns ih => exact cons 0 here name ns ih fun l _ _ hl => by cases hl
  | succ k ihk =>
    induction ns generalizing here with
    | nil => exact nil (k + 1) here
    | cons name ns ih =>
      refine cons (k + 1) here name ns ih fun l here ms hl => ?_
      obtain rfl := Nat.succ.inj hl
      exact ihk here ms

/-- A walk that comes to a directory can be gone on from there. -/
lemma walk_append {r : Except DiskError Place} (hys : ∀ k, d.walk k q ys = r)
    (hq : d.get? q = some .directory) (hw : d.walk k here xs = .ok q) :
    d.walk k here (xs ++ ys) = r := by
  induction k, here, xs using walk_induction with
  | nil k here =>
    obtain rfl : here = q := by simpa using hw
    exact hys k
  | cons k here name xs ih ihl =>
    rw [List.cons_append]
    cases meets d here name with
    | dot h =>
      subst h
      rw [walk_dot] at hw ⊢
      exact ih _ hw
    | dots h =>
      subst h
      rw [walk_dots] at hw ⊢
      exact ih _ hw
    | long hdot hdots h =>
      rw [walk_long hdot hdots h] at hw
      cases hw
    | directory hdot hdots hs h =>
      rw [walk_directory hdot hdots hs h] at hw ⊢
      exact ih _ hw
    | link hdot hdots hs target h =>
      rcases k with _ | k
      · rw [walk_link_zero hdot hdots hs h] at hw
        cases hw
      · rw [walk_link_succ hdot hdots hs h] at hw ⊢
        rw [← List.append_assoc]
        exact ihl k _ _ rfl hw
    | other hdot hdots hs hd hl =>
      rcases xs with _ | ⟨x, xs⟩
      · rw [walk_other hdot hdots hs hd hl] at hw
        cases hw
        exact absurd hq hd
      · obtain ⟨e, he⟩ := walk_other_ne (k := k) hdot hdots hs hd hl (List.cons_ne_nil x xs)
        rw [he] at hw
        cases hw

lemma exists_walk_of_append (hd : d.IsSound) (hhere : d.get? here = some .directory)
    (hys : ys ≠ []) (hw : d.walk k here (xs ++ ys) = .ok p) :
    ∃ q l, d.walk k here xs = .ok q ∧ d.get? q = some .directory ∧ d.walk l q ys = .ok p := by
  induction k, here, xs using walk_induction with
  | nil k here => exact ⟨here, k, walk_nil, hhere, hw⟩
  | cons k here name xs ih ihl =>
    rw [List.cons_append] at hw
    cases meets d here name with
    | dot h =>
      subst h
      rw [walk_dot] at hw ⊢
      exact ih _ hhere hw
    | dots h =>
      subst h
      rw [walk_dots] at hw ⊢
      exact ih _ (hd.tail hhere) hw
    | long hdot hdots h =>
      rw [walk_long hdot hdots h] at hw
      cases hw
    | directory hdot hdots hs h =>
      rw [walk_directory hdot hdots hs h] at hw ⊢
      exact ih _ h hw
    | link hdot hdots hs target h =>
      rcases k with _ | k
      · rw [walk_link_zero hdot hdots hs h] at hw
        cases hw
      · rw [walk_link_succ hdot hdots hs h] at hw ⊢
        rw [← List.append_assoc] at hw
        exact ihl k _ _ rfl (get?_beginning hhere target) hw
    | other hdot hdots hs hd hl =>
      have hne : xs ++ ys ≠ [] := by simp [hys]
      obtain ⟨e, he⟩ := walk_other_ne (k := k) hdot hdots hs hd hl hne
      rw [he] at hw
      cases hw

/-- The second disk has the directories and links of the first one. -/
structure KeepsWays (d d' : Disk) : Prop where
  current : d'.current = d.current
  directory : ∀ {place}, d.get? place = some .directory → d'.get? place = some .directory
  link : ∀ {place target}, d.get? place = some (.link target) → d'.get? place = some (.link target)

lemma IsWithin.keepsWays (w : d.IsWithin d') : d.KeepsWays d' := ⟨w.current, w.get?, w.get?⟩

lemma KeepsWays.walk (w : d.KeepsWays d') (hp : d'.get? p = d.get? p)
    (hw : d.walk k here ns = .ok p) : d'.walk k here ns = .ok p := by
  induction k, here, ns using walk_induction with
  | nil k here =>
    rw [walk_nil] at hw ⊢
    exact hw
  | cons k here name ns ih ihl =>
    cases meets d here name with
    | dot h =>
      subst h
      rw [walk_dot] at hw ⊢
      exact ih _ hw
    | dots h =>
      subst h
      rw [walk_dots] at hw ⊢
      exact ih _ hw
    | long hdot hdots h =>
      rw [walk_long hdot hdots h] at hw
      cases hw
    | directory hdot hdots hs h =>
      rw [walk_directory hdot hdots hs h] at hw
      rw [walk_directory hdot hdots hs (w.directory h)]
      exact ih _ hw
    | link hdot hdots hs target h =>
      rcases k with _ | k
      · rw [walk_link_zero hdot hdots hs h] at hw
        cases hw
      · rw [walk_link_succ hdot hdots hs h] at hw
        rw [walk_link_succ hdot hdots hs (w.link h)]
        exact ihl k _ _ rfl hw
    | other hdot hdots hs hd hl =>
      rcases ns with _ | ⟨n, ns⟩
      · rw [walk_other hdot hdots hs hd hl] at hw
        cases hw
        exact walk_other hdot hdots hs (by rwa [hp]) (by rwa [hp])
      · obtain ⟨e, he⟩ := walk_other_ne (k := k) hdot hdots hs hd hl (List.cons_ne_nil n ns)
        rw [he] at hw
        cases hw

/-- From the directory `here`, a walk along the names comes to the directory `place`. -/
def LeadsTo (d : Disk) (k : Nat) (here : Place) (ns : List String) (place : Place) : Prop :=
  d.walk k here ns = .ok place ∧ d.get? place = some .directory

/-- Dots do not matter on the way to a directory. -/
lemma leadsTo_filter : d.LeadsTo k here ns p ↔ d.LeadsTo k here (ns.filter (· != ".")) p := by
  induction k, here, ns using walk_induction with
  | nil k here => rfl
  | cons k here name ns ih ihl =>
    by_cases hdot : name = "."
    · subst hdot
      rw [LeadsTo, walk_dot]
      exact ih here
    have hcons : (name :: ns).filter (· != ".") = name :: ns.filter (· != ".") :=
      List.filter_cons_of_pos (bne_iff_ne.mpr hdot)
    rw [hcons, LeadsTo, LeadsTo]
    cases meets d here name with
    | dot h => exact absurd h hdot
    | dots h =>
      subst h
      rw [walk_dots, walk_dots]
      exact ih _
    | long hdot hdots h => rw [walk_long hdot hdots h, walk_long hdot hdots h]
    | directory hdot hdots hs h =>
      rw [walk_directory hdot hdots hs h, walk_directory hdot hdots hs h]
      exact ih _
    | link hdot hdots hs target h =>
      rcases k with _ | k
      · rw [walk_link_zero hdot hdots hs h, walk_link_zero hdot hdots hs h]
      · rw [walk_link_succ hdot hdots hs h, walk_link_succ hdot hdots hs h]
        have hleft := ihl k (beginning here target) (Path.names target ++ ns) rfl
        have hright := ihl k (beginning here target)
          (Path.names target ++ ns.filter (· != ".")) rfl
        rw [List.filter_append] at hleft hright
        simp only [List.filter_filter, Bool.and_self] at hright
        exact hleft.trans hright.symm
    | other hdot hdots hs hd hl =>
      -- the walk may end here, but not in a directory
      have hno : ∀ ms, ¬ d.LeadsTo k here (name :: ms) p := by
        rintro ms ⟨hw, hp⟩
        rcases ms with _ | ⟨m, ms⟩
        · rw [walk_other hdot hdots hs hd hl] at hw
          cases hw
          exact hd hp
        · obtain ⟨e, he⟩ := walk_other_ne (k := k) hdot hdots hs hd hl (List.cons_ne_nil m ms)
          rw [he] at hw
          cases hw
      exact iff_of_false (hno _) (hno _)

/-! ### Components -/

/-- The components lead to a directory. -/
def Leads (d : Disk) (cs : List String) (place : Place) : Prop :=
  d.LeadsTo mostLinks (if cs.head? = some "/" then [] else d.current) (Path.onward cs) place

variable {cs : List String} {path : String}

lemma leads_components : d.Leads (Path.components path) p ↔
    d.LeadsTo mostLinks (beginning d.current path) (Path.names path) p := by
  have hstart : (if (Path.components path).head? = some "/" then [] else d.current) =
      beginning d.current path := by
    simp only [beginning, Path.isAbsolute_iff]
  rw [Leads, hstart]
  refine leadsTo_filter.trans (Iff.trans ?_ leadsTo_filter.symm)
  rw [Path.filter_names, Path.filter_onward]

lemma Leads.directory (h : d.Leads cs p) : d.get? p = some .directory := h.2

lemma Leads.unique (h : d.Leads cs p) (h' : d.Leads cs q) : p = q :=
  Except.ok.inj (h.1.symm.trans h'.1)

lemma Leads.kept (w : d.KeepsWays d') (h : d.Leads cs p) : d'.Leads cs p := by
  refine ⟨?_, w.directory h.2⟩
  rw [w.current]
  exact w.walk (by rw [h.2, w.directory h.2]) h.1

lemma get?_start (hd : d.IsSound) (cs : List String) :
    d.get? (if cs.head? = some "/" then [] else d.current) = some .directory := by
  split
  · rfl
  · exact hd.current

section Name

variable (hn : Path.IsName name)

include hn

lemma Leads.concat (h : d.Leads cs q) (hs : name.utf8ByteSize ≤ longestName)
    (hp : d.get? (name :: q) = some .directory) : d.Leads (cs ++ [name]) (name :: q) := by
  refine ⟨?_, hp⟩
  rw [Path.onward_concat cs hn.ne_root]
  simp only [Path.head?_concat_eq_root_iff hn.ne_root]
  refine walk_append (fun k => ?_) h.2 h.1
  rw [walk_directory hn.ne_dot hn.ne_dots hs hp, walk_nil]

/-- The last step of a walk to a directory goes to a directory or through a link. -/
lemma Leads.of_concat (hd : d.IsSound) (h : d.Leads (cs ++ [name]) p) :
    ∃ q, d.Leads cs q ∧ name.utf8ByteSize ≤ longestName ∧
      (d.get? (name :: q) = some .directory ∧ p = name :: q ∨
        ∃ target, d.get? (name :: q) = some (.link target)) := by
  obtain ⟨hw, hp⟩ := h
  rw [Path.onward_concat cs hn.ne_root] at hw
  simp only [Path.head?_concat_eq_root_iff hn.ne_root] at hw
  obtain ⟨q, l, hw, hq, hlast⟩ :=
    exists_walk_of_append hd (get?_start hd cs) (List.cons_ne_nil name []) hw
  refine ⟨q, ⟨hw, hq⟩, ?_⟩
  cases meets d q name with
  | dot h => exact absurd h hn.ne_dot
  | dots h => exact absurd h hn.ne_dots
  | long hdot hdots h =>
    rw [walk_long hdot hdots h] at hlast
    cases hlast
  | directory hdot hdots hs h =>
    rw [walk_directory hdot hdots hs h, walk_nil] at hlast
    exact ⟨hs, Or.inl ⟨h, (Except.ok.inj hlast).symm⟩⟩
  | link hdot hdots hs target h => exact ⟨hs, Or.inr ⟨target, h⟩⟩
  | other hdot hdots hs hnot hl =>
    rw [walk_other hdot hdots hs hnot hl] at hlast
    cases hlast
    exact absurd hp hnot

end Name

lemma Leads.of_append (hd : d.IsSound) (hys : ∀ n ∈ ys, Path.IsName n)
    (h : d.Leads (cs ++ ys) p) : ∃ q, d.Leads cs q := by
  induction ys using List.reverseRecOn generalizing p with
  | nil => exact ⟨p, by rwa [List.append_nil] at h⟩
  | append_singleton ys n ih =>
    rw [← List.append_assoc] at h
    obtain ⟨q, hq, -⟩ := h.of_concat (hys n (by simp)) hd
    exact ih (fun m hm => hys m (by simp [hm])) hq

/-- Where there are no links below a directory, the names below it lead straight on. -/
lemma Leads.of_append_plain (hd : d.IsSound) (hys : ∀ n ∈ ys, Path.IsName n)
    (hbelow : ∀ ms target, d.get? (ms ++ p) ≠ some (.link target)) (hp : d.Leads cs p)
    (h : d.Leads (cs ++ ys) q) : q = ys.reverse ++ p := by
  induction ys using List.reverseRecOn generalizing q with
  | nil =>
    rw [List.append_nil] at h
    exact h.unique hp
  | append_singleton ys n ih =>
    rw [← List.append_assoc] at h
    obtain ⟨r, hr, -, ⟨-, rfl⟩ | ⟨target, hl⟩⟩ := h.of_concat (hys n (by simp)) hd
    · rw [ih (fun m hm => hys m (by simp [hm])) hr]
      simp
    · rw [ih (fun m hm => hys m (by simp [hm])) hr] at hl
      exact absurd hl (hbelow (n :: ys.reverse) target)

lemma leads_start (hd : d.IsSound) (h : cs = [] ∨ cs = ["/"] ∨ cs = ["."]) :
    ∃ p, d.Leads cs p := by
  rcases h with rfl | rfl | rfl
  · exact ⟨d.current, walk_nil, hd.current⟩
  · exact ⟨[], walk_nil, rfl⟩
  · exact ⟨d.current, walk_dot.trans walk_nil, hd.current⟩

/-! ### Paths -/

lemma checkPath_eq_ok_iff : checkPath path = .ok () ↔
    Char.ofNat 0 ∉ path.toList ∧ path ≠ "" ∧ path.utf8ByteSize ≤ longestPath := by
  rw [checkPath]
  split
  · next h => simp_all
  · split
    · next h => simp_all
    · split <;> simp_all

lemma checkPath_of_begins {part : String} (hp : part.toList <+: path.toList) (hne : part ≠ "")
    (h : checkPath path = .ok ()) : checkPath part = .ok () := by
  rw [checkPath_eq_ok_iff] at h ⊢
  obtain ⟨rest, hrest⟩ := hp
  have hpath : path = part ++ String.ofList rest := by
    apply String.toList_injective
    rw [String.toList_append, String.toList_ofList, hrest]
  refine ⟨fun hz => h.1 (hrest ▸ List.mem_append_left _ hz), hne, ?_⟩
  have hsize := h.2.2
  rw [hpath, String.utf8ByteSize_append] at hsize
  omega

lemma resolve_eq_ok_iff {node : Node} : d.resolve path = .ok (p, node) ↔
    checkPath path = .ok () ∧
      d.walk mostLinks (beginning d.current path) (Path.names path) = .ok p ∧
        d.get? p = some node := by
  rw [resolve, placeOf]
  rcases checkPath path with e | ⟨⟨⟩⟩
  · simp [bind, Except.bind]
  rcases d.walk mostLinks (beginning d.current path) (Path.names path) with e | place
  · simp [bind, Except.bind]
  rcases hg : d.get? place with _ | other
  · suffices place = p → d.get? p ≠ some node by
      simpa [bind, Except.bind, hg, throw, throwThe, MonadExceptOf.throw] using this
    rintro rfl
    simp [hg]
  · suffices place = p → (other = node ↔ d.get? p = some node) by
      simpa [bind, Except.bind, hg, pure, Except.pure] using this
    rintro rfl
    simp [hg]

/-- What a path leads to stays when more is put on the disk. -/
lemma IsWithin.resolve (w : d.IsWithin d') {node : Node} (h : d.resolve path = .ok (p, node)) :
    d'.resolve path = .ok (p, node) := by
  rw [resolve_eq_ok_iff] at h ⊢
  obtain ⟨hcheck, hwalk, hp⟩ := h
  rw [w.current]
  exact ⟨hcheck, w.keepsWays.walk (by rw [hp, w.get? hp]) hwalk, w.get? hp⟩

lemma IsWithin.readText (w : d.IsWithin d') {text : String} (h : d.readText path = .ok text) :
    d'.readText path = .ok text := by
  have hread : ∀ bytes, d.read path = .ok bytes → d'.read path = .ok bytes := by
    intro bytes hbytes
    obtain ⟨⟨p, node⟩, hr, hcontent⟩ := exists_of_bind_ok hbytes
    rw [read, w.resolve hr]
    exact hcontent
  rw [Disk.readText] at h ⊢
  rcases hbytes : d.read path with e | bytes
  · rw [hbytes] at h
    cases h
  · rw [hbytes] at h
    rw [hread bytes hbytes]
    exact h

lemma isDirectory_iff : d.isDirectory path = true ↔
    checkPath path = .ok () ∧ ∃ p, d.Leads (Path.components path) p := by
  simp only [leads_components, LeadsTo, ← exists_and_left, ← resolve_eq_ok_iff]
  rw [isDirectory]
  split
  · next p h => simp [h]
  · next h => simpa using fun p hp => h p hp

section EndsIn

variable (he : Path.EndsIn path name) (hc : Path.components path = cs ++ [name])

include he hc

lemma leads_dropLast : d.Leads cs q ↔
    d.LeadsTo mostLinks (beginning d.current path) (Path.names path).dropLast q := by
  have hstart : (if cs.head? = some "/" then [] else d.current) = beginning d.current path := by
    simp only [beginning, he.isAbsolute_iff hc]
  rw [Leads, hstart]
  refine leadsTo_filter.trans (Iff.trans ?_ leadsTo_filter.symm)
  rw [he.filter_dropLast hc]

lemma spotOf_eq (hcheck : checkPath path = .ok ()) (h : d.Leads cs q) :
    d.spotOf path = .ok ⟨q, some name, false⟩ := by
  obtain ⟨hw, hq⟩ := (leads_dropLast he hc).mp h
  have hlast : (Path.names path).getLast? = some name := by rw [he.names_eq]; simp
  have hslash : (path.toList.getLast? == some '/') = false :=
    beq_eq_false_iff_ne.mpr he.getLast?_ne_slash
  rw [spotOf, spotFrom, hcheck]
  simp only [bind, Except.bind, hslash, Bool.false_eq_true, if_false, hw, hq, hlast]
  split
  · next h => exact absurd h (by simp)
  · next h => exact absurd (Option.some.inj h) he.isName.ne_dot
  · next h => exact absurd (Option.some.inj h) he.isName.ne_dots
  · next h => simp_all [pure, Except.pure]

lemma leads_of_spotOf {spot : Spot} (h : d.spotOf path = .ok spot) :
    checkPath path = .ok () ∧ ∃ q, d.Leads cs q ∧ spot = ⟨q, some name, false⟩ := by
  have hs := h
  have hslash : (path.toList.getLast? == some '/') = false :=
    beq_eq_false_iff_ne.mpr he.getLast?_ne_slash
  rw [spotOf, spotFrom] at h
  obtain ⟨⟨⟩, hcheck, h⟩ := exists_of_bind_ok h
  simp only [hslash, Bool.false_eq_true, if_false] at h
  obtain ⟨q, hw, h⟩ := exists_of_bind_ok h
  have hleads : d.Leads cs q := by
    refine (leads_dropLast he hc).mpr ⟨hw, ?_⟩
    split at h
    · next hq => exact hq
    · cases h
    · cases h
  rw [spotOf_eq he hc hcheck hleads] at hs
  exact ⟨hcheck, q, hleads, (Except.ok.inj hs).symm⟩

end EndsIn

end ClientGen.Disk
