import ClientGen.Proofs.Disk.Writing

/-!
The entries of a disk. A path that ends in a name, with no slash behind it, has its entry at one
place: a file, a link, a directory or nothing. Operations at a path whose entry is no link change
this entry and nothing else, and so other paths lead where they led before.
-/

namespace ClientGen

namespace Path

lemma exists_behind_slash (cs : List Char) : ∃ before b, cs = before ++ b ∧ '/' ∉ b ∧
    (before = [] ∨ ∃ t, before = t ++ ['/']) := by
  induction cs using List.reverseRecOn with
  | nil => exact ⟨[], [], rfl, by simp, Or.inl rfl⟩
  | append_singleton cs c ih =>
    by_cases hc : c = '/'
    · subst hc
      exact ⟨cs ++ ['/'], [], by simp, by simp, Or.inr ⟨cs, rfl⟩⟩
    · obtain ⟨before, b, rfl, hb, hbefore⟩ := ih
      exact ⟨before, b ++ [c], by simp, by simp [hb, Ne.symm hc], hbefore⟩

lemma endsIn_of_getLast? {path name : String} (hslash : path.toList.getLast? ≠ some '/')
    (hlast : (names path).getLast? = some name) (hdot : name ≠ ".") (hdots : name ≠ "..") :
    EndsIn path name := by
  obtain ⟨before, b, hsplit, hnot, hbefore⟩ := exists_behind_slash path.toList
  have hcut : Text.cut (· == '/') b = [b] := by
    refine Text.cut_of_not_sep _ fun c hc => beq_eq_false_iff_ne.mpr ?_
    rintro rfl
    exact hnot hc
  -- a text with nothing behind its last slash is empty or ends in this slash
  have hne : b ≠ [] := by
    rintro rfl
    rw [List.append_nil] at hsplit
    rcases hbefore with rfl | ⟨t, rfl⟩
    · rw [String.toList_eq_nil_iff.mp hsplit, show names "" = [] by decide] at hlast
      cases hlast
    · rw [hsplit, List.getLast?_concat] at hslash
      exact hslash rfl
  have hnames : ∃ ns, names path = ns ++ [String.ofList b] := by
    rw [names, if_neg (by simpa using hslash), hsplit]
    rcases hbefore with rfl | ⟨t, rfl⟩
    · exact ⟨[], by simp [hcut, hne]⟩
    · refine ⟨((Text.cut (· == '/') t).filter fun n => !n.isEmpty).map String.ofList, ?_⟩
      rw [List.append_assoc, List.singleton_append, Text.cut_append _ rfl, hcut]
      simp [hne]
  obtain ⟨ns, hns⟩ := hnames
  rw [hns, List.getLast?_concat] at hlast
  obtain rfl := Option.some.inj hlast
  refine ⟨⟨?_, hdot, hdots, by rwa [String.toList_ofList]⟩, before, hbefore, ?_⟩
  · intro he
    exact hne (by rw [← String.toList_ofList (l := b), he]; rfl)
  · rw [String.toList_ofList, hsplit]

/-- The names of a path, whether a slash is behind them or not. -/
def bareNames (path : String) : List String :=
  if path.toList.getLast? == some '/' then (names path).dropLast else names path

lemma names_cases (path : String) : ((path.toList.getLast? == some '/') = false ∧
    names path = bareNames path) ∨ (path.toList.getLast? == some '/') = true ∧
      names path = bareNames path ++ ["."] := by
  rw [bareNames]
  rcases hslash : path.toList.getLast? == some '/' with _ | _
  · exact Or.inl ⟨rfl, rfl⟩
  · refine Or.inr ⟨rfl, ?_⟩
    rw [if_pos rfl, names, if_pos hslash, List.dropLast_concat]

end Path

namespace Disk

variable {d d' d'' : Disk} {path : String} {p t : Place} {node : Node} {content : ByteArray}

/-! ### Where the entry of a path is -/

/-- The entry of a path is at a place. If there is a link, it is the link itself. -/
def Locates (d : Disk) (path : String) (place : Place) : Prop :=
  ∃ spot, d.spotOf path = .ok spot ∧ spot.hasSlash = false ∧ spot.place? = .ok (some place)

lemma Reaches.locates {cs : List String} {name : String} {q : Place}
    (h : d.Reaches path cs name q) : d.Locates path (name :: q) :=
  ⟨_, h.spot, rfl, h.place?⟩

/-- A spot is that of a path. -/
structure IsSpot (d : Disk) (path : String) (spot : Spot) : Prop where
  check : checkPath path = .ok ()
  slash : spot.hasSlash = (path.toList.getLast? == some '/')
  walk : d.walk mostLinks (beginning d.current path) (Path.bareNames path).dropLast =
    .ok spot.directory
  directory : d.get? spot.directory = some .directory
  name : spot.name? = (Path.bareNames path).getLast?.filter fun n => n != "." && n != ".."

lemma spotOf_eq_ok_iff {spot : Spot} : d.spotOf path = .ok spot ↔ d.IsSpot path spot := by
  rw [spotOf, spotFrom]
  obtain ⟨place, name?, hasSlash⟩ := spot
  constructor
  · intro hs
    obtain ⟨⟨⟩, hcheck, hs⟩ := exists_of_bind_ok hs
    obtain ⟨directory, hwalk, hs⟩ := exists_of_bind_ok hs
    change d.walk _ _ (Path.bareNames path).dropLast = _ at hwalk
    split at hs
    · next hdirectory =>
      split at hs
      · next hlast =>
        cases hs
        exact ⟨hcheck, rfl, hwalk, hdirectory, by rw [Path.bareNames, hlast]; rfl⟩
      · next hlast =>
        cases hs
        exact ⟨hcheck, rfl, hwalk, hdirectory, by rw [Path.bareNames, hlast]; rfl⟩
      · next hlast =>
        cases hs
        exact ⟨hcheck, rfl, hwalk, hdirectory, by rw [Path.bareNames, hlast]; rfl⟩
      · next last hdot hdots hlast =>
        cases hs
        have hlast' : (Path.bareNames path).getLast? = some last := hlast
        refine ⟨hcheck, rfl, hwalk, hdirectory, ?_⟩
        rw [hlast', Option.filter_some, if_pos]
        rw [Bool.and_eq_true, bne_iff_ne, bne_iff_ne]
        exact ⟨fun he => hdot (he ▸ rfl), fun he => hdots (he ▸ rfl)⟩
    · cases hs
    · cases hs
  · rintro ⟨hcheck, rfl, hwalk, hdirectory, rfl⟩
    rw [Path.bareNames] at hwalk ⊢
    simp only [hcheck, hwalk, hdirectory, bind, Except.bind]
    split
    · next hlast => rw [hlast]; rfl
    · next hlast => rw [hlast]; rfl
    · next hlast => rw [hlast]; rfl
    · next last hdot hdots hlast =>
      have hkept : (last != "." && last != "..") = true := by
        rw [Bool.and_eq_true, bne_iff_ne, bne_iff_ne]
        exact ⟨fun he => hdot (he ▸ rfl), fun he => hdots (he ▸ rfl)⟩
      rw [hlast, Option.filter_some, if_pos hkept]
      rfl

lemma IsSpot.kept {spot : Spot} (w : d.KeepsWays d') (h : d.IsSpot path spot) :
    d'.IsSpot path spot := by
  have hdirectory := w.directory h.directory
  refine { h with directory := hdirectory, walk := ?_ }
  rw [w.current]
  exact w.walk (by rw [hdirectory, h.directory]) h.walk

lemma endsIn_of_spotOf {spot : Spot} {name : String} (hs : d.spotOf path = .ok spot)
    (hslash : spot.hasSlash = false) (hname : spot.name? = some name) : Path.EndsIn path name := by
  have h := spotOf_eq_ok_iff.mp hs
  rw [h.slash] at hslash
  have hend : path.toList.getLast? ≠ some '/' := beq_eq_false_iff_ne.mp hslash
  rw [h.name, Path.bareNames, if_neg (by simpa using hend), Option.filter_eq_some_iff,
    Bool.and_eq_true, bne_iff_ne, bne_iff_ne] at hname
  exact Path.endsIn_of_getLast? hend hname.1 hname.2.1 hname.2.2

lemma Locates.reaches (h : d.Locates path p) : ∃ cs name q, d.Reaches path cs name q ∧
    p = name :: q := by
  obtain ⟨spot, hs, hslash, hp⟩ := h
  obtain ⟨name, hname⟩ : ∃ name, spot.name? = some name := by
    rw [Spot.place?] at hp
    split at hp
    · cases hp
    · next name hname => exact ⟨name, hname⟩
  have he := endsIn_of_spotOf hs hslash hname
  obtain ⟨q, hq, hplace⟩ := reaches_of_place? he he.components_eq hs hp
  exact ⟨_, name, q, hq, hplace⟩

lemma Locates.unique (h : d.Locates path p) (h' : d.Locates path t) : p = t := by
  obtain ⟨spot, hs, -, hp⟩ := h
  obtain ⟨spot', hs', -, hp'⟩ := h'
  obtain rfl := Except.ok.inj (hs.symm.trans hs')
  exact Option.some.inj (Except.ok.inj (hp.symm.trans hp'))

lemma Locates.kept (w : d.KeepsWays d') (h : d.Locates path p) : d'.Locates path p := by
  obtain ⟨cs, name, q, hr, rfl⟩ := h.reaches
  exact (hr.kept w).locates

lemma Locates.contains (h : d.Locates path p) : d.contains path = (d.get? p).isSome := by
  obtain ⟨cs, name, q, hr, rfl⟩ := h.reaches
  exact hr.contains

lemma Locates.entryAt (h : d.Locates path p) (hp : d.get? p = some node) :
    d.entryAt path = .ok (p, node) := by
  obtain ⟨cs, name, q, hr, rfl⟩ := h.reaches
  exact hr.entryAt hp

lemma Locates.entryAt_none (h : d.Locates path p) (hp : d.get? p = none) :
    d.entryAt path = .error .noEntry := by
  obtain ⟨spot, hs, hslash, hplace⟩ := h
  simp [Disk.entryAt, hs, hslash, hplace, hp, bind, Except.bind, throw, throwThe,
    MonadExceptOf.throw]

lemma Locates.temporary (h : d.Locates path p) (ht : d.Locates (Naming.temporaryPath path) t) :
    ∃ name q, p = name :: q ∧ t = Path.temporaryName name :: q := by
  obtain ⟨cs, name, q, hr, rfl⟩ := h.reaches
  obtain ⟨cs', name', q', hr', rfl⟩ := ht.reaches
  have he := hr.endsIn.temporary
  have hc := Path.components_temporaryPath hr.endsIn hr.components
  obtain ⟨spot, hs, -, hplace⟩ := ht
  obtain ⟨r, hreach, hname⟩ := reaches_of_place? he hc hs hplace
  obtain rfl := hreach.leads.unique hr.leads
  exact ⟨name, r, rfl, hname⟩

lemma Locates.ne_temporary (h : d.Locates path p)
    (ht : d.Locates (Naming.temporaryPath path) t) : p ≠ t := by
  obtain ⟨name, q, rfl, rfl⟩ := h.temporary ht
  exact fun he => Path.ne_temporaryName name (List.cons.inj he).1

/-! ### Ends -/

/-- No walk goes on at a place, since there is neither a directory nor a link. -/
structure IsEnd (d : Disk) (place : Place) : Prop where
  directory : d.get? place ≠ some .directory
  link : ∀ target, d.get? place ≠ some (.link target)

lemma keepsWays_of_isEnd (hc : d'.current = d.current)
    (h : ∀ r, d'.get? r = d.get? r ∨ d.IsEnd r) : d.KeepsWays d' := by
  refine ⟨hc, fun {r} hr => ?_, fun {r target} hr => ?_⟩
  · rcases h r with hsame | hend
    · rw [hsame, hr]
    · exact absurd hr hend.directory
  · rcases h r with hsame | hend
    · rw [hsame, hr]
    · exact absurd hr (hend.link target)

lemma IsEnd.keepsWays (h : d.IsEnd p) (hc : d'.current = d.current)
    (hother : ∀ r, r ≠ p → d'.get? r = d.get? r) : d.KeepsWays d' := by
  refine keepsWays_of_isEnd hc fun r => ?_
  by_cases hr : r = p
  · exact Or.inr (hr ▸ h)
  · exact Or.inl (hother r hr)

lemma IsEnd.of_file (h : d.get? p = some (.file content)) : d.IsEnd p :=
  ⟨by simp [h], by simp [h]⟩

lemma IsEnd.of_none (h : d.get? p = none) : d.IsEnd p := ⟨by simp [h], by simp [h]⟩

/-- Two disks are the same but for the entry of a path, at which neither has a way on. -/
structure DiffersAt (d d' : Disk) (path : String) : Prop where
  ways : d.KeepsWays d'
  back : d'.KeepsWays d
  other : ∀ p, ¬ d.Locates path p → d'.get? p = d.get? p

lemma KeepsWays.refl (d : Disk) : d.KeepsWays d := ⟨rfl, id, id⟩

lemma KeepsWays.trans (h : d.KeepsWays d') (h' : d'.KeepsWays d'') : d.KeepsWays d'' :=
  ⟨h'.current.trans h.current, fun hp => h'.directory (h.directory hp),
    fun hp => h'.link (h.link hp)⟩

lemma DiffersAt.refl (d : Disk) (path : String) : d.DiffersAt d path :=
  ⟨.refl d, .refl d, fun _ _ => rfl⟩

lemma DiffersAt.trans (h : d.DiffersAt d' path) (h' : d'.DiffersAt d'' path) :
    d.DiffersAt d'' path :=
  ⟨h.ways.trans h'.ways, h'.back.trans h.back, fun p hp =>
    (h'.other p fun hl => hp (hl.kept h.back)).trans (h.other p hp)⟩

lemma Locates.differsAt (hl : d.Locates path p) (hp : d.IsEnd p) (hp' : d'.IsEnd p)
    (hc : d'.current = d.current) (hother : ∀ r, r ≠ p → d'.get? r = d.get? r) :
    d.DiffersAt d' path := by
  refine ⟨hp.keepsWays hc hother, hp'.keepsWays hc.symm fun r hr => (hother r hr).symm,
    fun r hr => hother r ?_⟩
  rintro rfl
  exact hr hl

lemma Puts.differsAt (h : d.Puts d' p content) (hl : d.Locates path p) (hp : d.IsEnd p) :
    d.DiffersAt d' path :=
  hl.differsAt hp (.of_file h.file) h.current fun _ hr => h.other hr

/-! ### Operations at one entry -/

/-- A path is not the path of a link. -/
def IsNoLink (d : Disk) (path : String) : Prop :=
  ∀ p target, d.Locates path p → d.get? p ≠ some (.link target)

lemma isEnd_of_creationPlace {links : Nat} {here : Place}
    (h : d.creationPlace links here path = .ok p) : d.IsEnd p := by
  induction links generalizing here path with
  | zero => cases h
  | succ links ih =>
    rw [creationPlace] at h
    obtain ⟨spot, -, h⟩ := exists_of_bind_ok h
    split at h
    · cases h
    obtain ⟨_ | place, -, h⟩ := exists_of_bind_ok h
    · cases h
    dsimp only at h
    split at h
    · cases h
    · exact ih h
    · next hd hl =>
      cases h
      exact ⟨hd, fun target ht => hl target ht⟩

lemma get?_emptyFile {name : String} {q : Place} (hp : d.get? (name :: q) ≠ some .device) :
    d.emptyFile (name :: q) = d.insert (name :: q) (.file .empty) := by
  rw [emptyFile]
  split
  · next h => exact absurd h hp
  · rfl

lemma keepsWays_of_create (h : d.create path = .ok d') : d.KeepsWays d' := by
  obtain ⟨place, hplace, h⟩ := exists_of_bind_ok h
  have hend := isEnd_of_creationPlace hplace
  obtain ⟨name, q, rfl, -, -⟩ := creationPlace_eq_ok hplace
  obtain rfl := Except.ok.inj h
  by_cases hdevice : d.get? (name :: q) = some .device
  · rw [emptyFile, hdevice]
    exact .refl d
  · rw [get?_emptyFile hdevice]
    refine hend.keepsWays rfl fun r hr => ?_
    rw [get?_insert, if_neg hr]

lemma exists_of_create (h : d.create path = .ok d') : ∃ name q, d.Locates path (name :: q) ∧
    ((∃ target, d.get? (name :: q) = some (.link target)) ∨
      d.IsEnd (name :: q) ∧ d' = d.emptyFile (name :: q)) := by
  obtain ⟨place, hplace, h⟩ := exists_of_bind_ok h
  have hend := isEnd_of_creationPlace hplace
  obtain rfl := Except.ok.inj h
  rw [creationPlace] at hplace
  obtain ⟨spot, hs, hplace⟩ := exists_of_bind_ok hplace
  split at hplace
  · cases hplace
  next hslash =>
  obtain ⟨_ | found, hp, hplace⟩ := exists_of_bind_ok hplace
  · cases hplace
  obtain ⟨name, rfl⟩ := place?_eq_some hp
  refine ⟨name, _, ⟨spot, hs, by simpa using hslash, hp⟩, ?_⟩
  dsimp only at hplace
  split at hplace
  · cases hplace
  · next target ht => exact Or.inl ⟨target, ht⟩
  · obtain rfl := Except.ok.inj hplace
    exact Or.inr ⟨hend, rfl⟩

lemma keepsWays_of_write (h : d.write path content = .ok d') : d.KeepsWays d' := by
  obtain ⟨⟨place, node⟩, hr, h⟩ := exists_of_bind_ok h
  obtain ⟨-, -, hplace⟩ := resolve_eq_ok_iff.mp hr
  have hput : node ≠ .directory → (∀ target, node ≠ .link target) →
      d.KeepsWays (d.insert place (.file content)) := by
    intro hdirectory hlink
    have hend : d.IsEnd place := ⟨by simp [hplace, hdirectory], by simp [hplace, hlink]⟩
    rcases place with _ | ⟨name, q⟩
    · exact absurd rfl hend.directory
    · refine hend.keepsWays rfl fun r hr => ?_
      rw [get?_insert, if_neg hr]
  cases node with
  | device => exact Except.ok.inj h ▸ .refl d
  | directory => cases h
  | link target => cases h
  | file old => exact Except.ok.inj h ▸ hput (by simp) (by simp)
  | program name => exact Except.ok.inj h ▸ hput (by simp) (by simp)

lemma Locates.resolve (h : d.Locates path p) (hl : ∀ target, node ≠ .link target)
    (hp : d.get? p = some node) : d.resolve path = .ok (p, node) := by
  obtain ⟨cs, name, q, hr, rfl⟩ := h.reaches
  exact hr.resolve hl hp

lemma Locates.write_file (h : d.Locates path p) {old : ByteArray}
    (hp : d.get? p = some (.file old)) (content : ByteArray) :
    d.write path content = .ok (d.insert p (.file content)) := by
  obtain ⟨cs, name, q, hr, rfl⟩ := h.reaches
  exact hr.write hp content

lemma Locates.write_device (h : d.Locates path p) (hp : d.get? p = some .device)
    (content : ByteArray) : d.write path content = .ok d := by
  simp [Disk.write, h.resolve (by simp) hp, bind, Except.bind, pure, Except.pure]

lemma Locates.sync_device (h : d.Locates path p) (hp : d.get? p = some .device) :
    d.sync path = .error .invalid := by
  simp [Disk.sync, h.resolve (by simp) hp]

lemma exists_of_remove (h : d.remove path = .ok d') : ∃ name q, d.Locates path (name :: q) ∧
    d.get? (name :: q) ≠ some .directory ∧ d' = d.erase (name :: q) := by
  obtain ⟨spot, hs, h⟩ := exists_of_bind_ok h
  obtain ⟨_ | place, hp, h⟩ := exists_of_bind_ok h
  · cases h
  obtain ⟨name, rfl⟩ := place?_eq_some hp
  dsimp only at h
  split at h
  · cases h
  · cases h
  · next hd hg =>
    split at h
    · cases h
    · next hslash =>
      refine ⟨name, _, ⟨spot, hs, by simpa using hslash, hp⟩, fun he => ?_,
        (Except.ok.inj h).symm⟩
      exact hd (Option.some.inj (hg.symm.trans he))

lemma exists_of_rename {target : String} (h : d.rename path target = .ok d') :
    ∃ name q other r node, d.Locates path (name :: q) ∧ d.Locates target (other :: r) ∧
      d.get? (name :: q) = some node ∧
        d' = (d.erase (name :: q)).insert (other :: r) node := by
  obtain ⟨old, hold, h⟩ := exists_of_bind_ok h
  obtain ⟨new, hnew, h⟩ := exists_of_bind_ok h
  split at h
  · cases h
  obtain ⟨oldPlace?, hop, h⟩ := exists_of_bind_ok h
  obtain ⟨newPlace?, hnp, h⟩ := exists_of_bind_ok h
  split at h
  · obtain ⟨name, rfl⟩ := place?_eq_some hop
    obtain ⟨other, rfl⟩ := place?_eq_some hnp
    split at h
    · cases h
    · cases h
    · next node hd hg =>
      split at h
      · cases h
      next hslash =>
      simp only [Bool.or_eq_true, not_or, Bool.not_eq_true] at hslash
      split at h
      · cases h
      · exact ⟨name, _, other, _, node, ⟨old, hold, hslash.1, hop⟩, ⟨new, hnew, hslash.2, hnp⟩,
          hg, (Except.ok.inj h).symm⟩
  · cases h

lemma differsAt_of_remove (hlink : d.IsNoLink path) (h : d.remove path = .ok d') :
    d.DiffersAt d' path := by
  obtain ⟨name, q, hl, hd, rfl⟩ := exists_of_remove h
  refine hl.differsAt ⟨hd, fun target => hlink _ target hl⟩ (.of_none ?_) rfl fun r hr => ?_
  · rw [get?_erase, if_pos rfl]
  · rw [get?_erase, if_neg hr]

end Disk

namespace Faults

open Disk

variable {faults : Faults} {d d' : Disk} {path : String} {content : ByteArray} {e : DiskError}

lemma writeNew_entry (hlink : d.IsNoLink path) (h : faults.writeNew path content d = .ok () d') :
    ∃ p, d.Locates path p ∧ d.IsEnd p ∧
      (d.get? p = some .device ∧ d' = d ∨ d.Puts d' p content) := by
  obtain ⟨⟨⟩, d₁, hcreate, hwrite⟩ := bind_eq_ok_iff.mp h
  have hfull : d₁.write path content = .ok d' := (perform_eq_ok_iff.mp hwrite).2
  obtain ⟨name, q, hl, hmade⟩ := exists_of_create (perform_eq_ok_iff.mp hcreate).2
  obtain ⟨hend, rfl⟩ := hmade.resolve_left fun ⟨target, ht⟩ => hlink _ target hl ht
  refine ⟨_, hl, hend, ?_⟩
  by_cases hdevice : d.get? (name :: q) = some .device
  · have hsame : d.emptyFile (name :: q) = d := by rw [emptyFile, hdevice]
    rw [hsame, hl.write_device hdevice] at hfull
    exact Or.inl ⟨hdevice, (Except.ok.inj hfull).symm⟩
  · have hempty := puts_insert d name q .empty
    rw [get?_emptyFile hdevice, (hl.kept (hempty.differsAt hl hend).ways).write_file
      hempty.file] at hfull
    cases hfull
    exact Or.inr (hempty.again (puts_insert _ _ _ _))

lemma differsAt_of_writeNew_error (hlink : d.IsNoLink path)
    (h : faults.writeNew path content d = .error e d') : d.DiffersAt d' path := by
  rcases bind_eq_error_iff.mp h with hcreate | ⟨⟨⟩, d₁, hcreate, hwrite⟩
  · rw [perform_error_of_ne (by simp) hcreate]
    exact .refl d path
  obtain ⟨name, q, hl, hmade⟩ := exists_of_create (perform_eq_ok_iff.mp hcreate).2
  obtain ⟨hend, rfl⟩ := hmade.resolve_left fun ⟨target, ht⟩ => hlink _ target hl ht
  by_cases hdevice : d.get? (name :: q) = some .device
  · have hsame : d.emptyFile (name :: q) = d := by rw [emptyFile, hdevice]
    rw [hsame] at hwrite
    rcases perform_error hwrite with rfl | ⟨_, part, hop, hpart⟩
    · exact .refl _ path
    · cases hop
      rw [hl.write_device hdevice] at hpart
      rw [← Except.ok.inj hpart]
      exact .refl d path
  · have hempty := puts_insert d name q .empty
    have hmade := hempty.differsAt hl hend
    rw [get?_emptyFile hdevice] at hwrite
    rcases perform_error hwrite with rfl | ⟨_, part, hop, hpart⟩
    · exact hmade
    · cases hop
      rw [(hl.kept hmade.ways).write_file hempty.file] at hpart
      cases hpart
      exact (hempty.again (puts_insert _ _ _ _)).differsAt hl hend

lemma differsAt_of_writeNew (hlink : d.IsNoLink path)
    (h : faults.writeNew path content d = .ok () d') : d.DiffersAt d' path := by
  obtain ⟨p, hl, hend, ⟨-, rfl⟩ | hputs⟩ := writeNew_entry hlink h
  · exact .refl _ path
  · exact hputs.differsAt hl hend

/-- Whether it fails or not, all ways are as they were, even behind a link. -/
lemma keepsWays_of_writeNew (h : faults.writeNew path content d = .ok () d') : d.KeepsWays d' := by
  obtain ⟨⟨⟩, d₁, hcreate, hwrite⟩ := bind_eq_ok_iff.mp h
  exact (keepsWays_of_create (perform_eq_ok_iff.mp hcreate).2).trans
    (keepsWays_of_write (perform_eq_ok_iff.mp hwrite).2)

end Faults

end ClientGen
