import ClientGen.Disk.Directory
import ClientGen.Disk.Operation
import ClientGen.Proofs.Disk.Walk

/-!
What the operations do to a disk. Every operation keeps a disk sound. At a path that ends in a name,
behind components that lead to a directory, each operation is about one place only.
-/

namespace ClientGen.Disk

variable {d d' : Disk} {path name : String} {cs : List String} {q p : Place} {node : Node}

/-! ### Soundness -/

lemma IsSound.insert (h : d.IsSound) (hq : d.get? q = some .directory)
    (hp : d.get? (name :: q) ≠ some .directory ∨ node = .directory) :
    (d.insert (name :: q) node).IsSound := by
  have hkeep : ∀ {place}, d.get? place = some .directory →
      (d.insert (name :: q) node).get? place = some .directory := by
    intro place hplace
    rw [get?_insert]
    split
    · next he =>
      subst he
      rcases hp with hp | rfl
      · exact absurd hplace hp
      · rfl
    · exact hplace
  refine ⟨fun {n a x} hx => ?_, hkeep h.current⟩
  rw [get?_insert] at hx
  split at hx
  · next he =>
    obtain ⟨rfl, rfl⟩ := List.cons.inj he
    exact hkeep hq
  · exact hkeep (h.above hx)

lemma IsSound.erase (h : d.IsSound) (hp : d.get? (name :: q) ≠ some .directory) :
    (d.erase (name :: q)).IsSound := by
  have hkeep : ∀ {place}, d.get? place = some .directory →
      (d.erase (name :: q)).get? place = some .directory := by
    intro place hplace
    rw [get?_erase]
    split
    · next he => exact absurd (he ▸ hplace) hp
    · exact hplace
  refine ⟨fun {n a x} hx => ?_, hkeep h.current⟩
  rw [get?_erase] at hx
  split at hx
  · cases hx
  · exact hkeep (h.above hx)

lemma IsWithin.insert (hp : d.get? (name :: q) = none) :
    d.IsWithin (d.insert (name :: q) node) := by
  refine ⟨rfl, fun {place x} hx => ?_⟩
  rw [get?_insert, if_neg]
  · exact hx
  · rintro rfl
    rw [hp] at hx
    cases hx

lemma directory_of_spotFrom {here : Place} {spot : Spot} (h : d.spotFrom here path = .ok spot) :
    d.get? spot.directory = some .directory := by
  rw [spotFrom] at h
  obtain ⟨-, -, h⟩ := exists_of_bind_ok h
  obtain ⟨directory, -, h⟩ := exists_of_bind_ok h
  split at h
  · next hq => split at h <;> cases h <;> exact hq
  · cases h
  · cases h

lemma place?_eq_some {spot : Spot} {place : Place} (h : spot.place? = .ok (some place)) :
    ∃ name, place = name :: spot.directory := by
  rw [Spot.place?] at h
  split at h
  · cases h
  · next name _ =>
    split at h
    · cases h
    · exact ⟨name, (Option.some.inj (Except.ok.inj h)).symm⟩

lemma creationPlace_eq_ok {links : Nat} {here place : Place}
    (h : d.creationPlace links here path = .ok place) :
    ∃ name q, place = name :: q ∧ d.get? q = some .directory ∧
      d.get? place ≠ some .directory := by
  induction links generalizing here path with
  | zero => cases h
  | succ links ih =>
    rw [creationPlace] at h
    obtain ⟨spot, hs, h⟩ := exists_of_bind_ok h
    split at h
    · cases h
    obtain ⟨_ | found, hp, h⟩ := exists_of_bind_ok h
    · cases h
    obtain ⟨name, rfl⟩ := place?_eq_some hp
    simp only at h
    split at h
    · cases h
    · exact ih h
    · next hd _ =>
      cases h
      exact ⟨name, _, rfl, directory_of_spotFrom hs, hd⟩

section Sound

variable (h : d.IsSound)

include h

lemma IsSound.makeDirectory (ho : d.makeDirectory path = .ok d') : d'.IsSound := by
  obtain ⟨spot, hs, ho⟩ := exists_of_bind_ok ho
  obtain ⟨_ | place, hp, ho⟩ := exists_of_bind_ok ho
  · cases ho
  obtain ⟨name, rfl⟩ := place?_eq_some hp
  simp only at ho
  split at ho
  · cases ho
  · cases ho
    exact h.insert (directory_of_spotFrom hs) (Or.inr rfl)

lemma IsSound.create (ho : d.create path = .ok d') : d'.IsSound := by
  obtain ⟨place, hp, ho⟩ := exists_of_bind_ok ho
  obtain ⟨name, q, rfl, hq, hd⟩ := creationPlace_eq_ok hp
  cases ho
  rw [emptyFile]
  split
  · exact h
  · exact h.insert hq (Or.inl hd)

lemma IsSound.write {content : ByteArray} (ho : d.write path content = .ok d') : d'.IsSound := by
  obtain ⟨⟨place, node⟩, hr, ho⟩ := exists_of_bind_ok ho
  obtain ⟨-, -, hp⟩ := resolve_eq_ok_iff.mp hr
  have hput : node ≠ .directory → (d.insert place (.file content)).IsSound := by
    intro hd
    rcases place with _ | ⟨name, q⟩
    · exact absurd (Option.some.inj hp).symm hd
    · exact h.insert (h.above hp) (Or.inl (by simpa [hp] using hd))
  cases node with
  | device => exact Except.ok.inj ho ▸ h
  | directory => cases ho
  | link target => cases ho
  | file old => exact Except.ok.inj ho ▸ hput (by simp)
  | program name => exact Except.ok.inj ho ▸ hput (by simp)

lemma IsSound.remove (ho : d.remove path = .ok d') : d'.IsSound := by
  obtain ⟨spot, hs, ho⟩ := exists_of_bind_ok ho
  obtain ⟨_ | place, hp, ho⟩ := exists_of_bind_ok ho
  · cases ho
  obtain ⟨name, rfl⟩ := place?_eq_some hp
  simp only at ho
  split at ho
  · cases ho
  · cases ho
  · next hd hg =>
    split at ho
    · cases ho
    · cases ho
      exact h.erase fun he => hd (Option.some.inj (hg.symm.trans he))

lemma IsSound.rename {source target : String} (ho : d.rename source target = .ok d') :
    d'.IsSound := by
  obtain ⟨old, hold, ho⟩ := exists_of_bind_ok ho
  obtain ⟨new, hnew, ho⟩ := exists_of_bind_ok ho
  split at ho
  · cases ho
  obtain ⟨oldPlace?, hop, ho⟩ := exists_of_bind_ok ho
  obtain ⟨newPlace?, hnp, ho⟩ := exists_of_bind_ok ho
  split at ho
  · next oldPlace newPlace =>
    obtain ⟨oldName, rfl⟩ := place?_eq_some hop
    obtain ⟨newName, rfl⟩ := place?_eq_some hnp
    split at ho
    · cases ho
    · cases ho
    · next node hd hg =>
      split at ho
      · cases ho
      split at ho
      · cases ho
      · next hdir =>
        cases ho
        have hne : d.get? (oldName :: old.directory) ≠ some .directory := fun he =>
          hd (Option.some.inj (hg.symm.trans he))
        refine (h.erase hne).insert ?_ (Or.inl ?_)
        · -- the directory of the target is not what is moved
          have hnd := directory_of_spotFrom hnew
          have hother : new.directory ≠ oldName :: old.directory := by
            intro he
            rw [he] at hnd
            exact hne hnd
          rw [get?_erase, if_neg hother]
          exact hnd
        · rw [get?_erase]
          split
          · simp
          · exact hdir
  · cases ho

end Sound

/-- **Soundness.** Every operation keeps a disk sound. -/
theorem IsSound.apply (h : d.IsSound) (op : Operation) (ho : d.apply op = .ok d') :
    d'.IsSound := by
  cases op with
  | makeDirectory path => exact h.makeDirectory ho
  | create path => exact h.create ho
  | write path content => exact h.write ho
  | sync path =>
    simp only [Disk.apply, Disk.sync] at ho
    split at ho
    · cases ho
    · exact Except.ok.inj ho ▸ h
  | remove path => exact h.remove ho
  | rename source target => exact h.rename ho

lemma not_contains_of_check (h : checkPath path ≠ .ok ()) :
    d.contains path = false := by
  rcases hcheck : checkPath path with e | ⟨⟨⟩⟩
  · have hspot : d.spotOf path = .error e := by
      rw [spotOf, spotFrom, hcheck]
      rfl
    rw [contains, hspot]
  · exact absurd hcheck h

/-! ### At one place -/

/-- A path ends in a name, and what comes before it leads to a directory. -/
structure Reaches (d : Disk) (path : String) (cs : List String) (name : String) (q : Place) :
    Prop where
  endsIn : Path.EndsIn path name
  components : Path.components path = cs ++ [name]
  check : checkPath path = .ok ()
  short : name.utf8ByteSize ≤ longestName
  leads : d.Leads cs q

/-- A place holds nothing or a file, so that a file can be made there. -/
def HasRoom (d : Disk) (place : Place) : Prop :=
  d.get? place = none ∨ ∃ content, d.get? place = some (.file content)

section Reaches

variable (h : d.Reaches path cs name q)

include h

lemma Reaches.spot : d.spotOf path = .ok ⟨q, some name, false⟩ :=
  spotOf_eq h.endsIn h.components h.check h.leads

lemma Reaches.place? : (Spot.mk q (some name) false).place? = .ok (some (name :: q)) := by
  simp [Spot.place?, not_lt.mpr h.short]

lemma Reaches.kept (w : d.KeepsWays d') : d'.Reaches path cs name q :=
  { h with leads := h.leads.kept w }

lemma Reaches.contains : d.contains path = (d.get? (name :: q)).isSome := by
  simp [Disk.contains, h.spot, h.place?]

lemma Reaches.resolve (hl : ∀ target, node ≠ .link target) (hp : d.get? (name :: q) = some node) :
    d.resolve path = .ok (name :: q, node) := by
  obtain ⟨hw, hq⟩ := (leads_dropLast h.endsIn h.components).mp h.leads
  refine resolve_eq_ok_iff.mpr ⟨h.check, ?_, hp⟩
  rw [h.endsIn.names_eq]
  refine walk_append (fun k => ?_) hq hw
  have hn := h.endsIn.isName
  cases meets d q name with
  | dot hd => exact absurd hd hn.ne_dot
  | dots hd => exact absurd hd hn.ne_dots
  | long _ _ hs => exact absurd h.short (not_le.mpr hs)
  | directory hdot hdots hs hd => rw [walk_directory hdot hdots hs hd, walk_nil]
  | link _ _ _ target ht => exact absurd (Option.some.inj (hp.symm.trans ht)) (hl target)
  | other hdot hdots hs hd hl => exact walk_other hdot hdots hs hd hl

lemma Reaches.entryAt (hp : d.get? (name :: q) = some node) :
    d.entryAt path = .ok (name :: q, node) := by
  simp [Disk.entryAt, h.spot, h.place?, hp, bind, Except.bind, pure, Except.pure]

lemma Reaches.makeDirectory_none (hp : d.get? (name :: q) = none) :
    d.makeDirectory path = .ok (d.insert (name :: q) .directory) := by
  simp [Disk.makeDirectory, h.spot, h.place?, hp, bind, Except.bind, pure, Except.pure]

lemma Reaches.makeDirectory_some (hp : d.get? (name :: q) = some node) :
    d.makeDirectory path = .error .exists := by
  simp [Disk.makeDirectory, h.spot, h.place?, hp, bind, Except.bind, throw, throwThe,
    MonadExceptOf.throw]

lemma Reaches.create (hp : d.HasRoom (name :: q)) :
    d.create path = .ok (d.insert (name :: q) (.file .empty)) := by
  have hspot : d.spotFrom d.current path = .ok ⟨q, some name, false⟩ := h.spot
  rcases hp with hp | ⟨content, hp⟩ <;>
    simp [Disk.create, creationPlace, hspot, h.place?, hp, bind, Except.bind, pure, Except.pure,
      emptyFile]

lemma Reaches.write {old : ByteArray} (hp : d.get? (name :: q) = some (.file old))
    (content : ByteArray) :
    d.write path content = .ok (d.insert (name :: q) (.file content)) := by
  have hr := h.resolve (by simp) hp
  simp [Disk.write, hr, bind, Except.bind, pure, Except.pure]

lemma Reaches.sync {content : ByteArray} (hp : d.get? (name :: q) = some (.file content)) :
    d.sync path = .ok d := by
  have hr := h.resolve (by simp) hp
  simp [Disk.sync, hr]

lemma Reaches.remove_file {content : ByteArray} (hp : d.get? (name :: q) = some (.file content)) :
    d.remove path = .ok (d.erase (name :: q)) := by
  simp [Disk.remove, h.spot, h.place?, hp, bind, Except.bind, pure, Except.pure]

lemma Reaches.remove_none (hp : d.get? (name :: q) = none) :
    d.remove path = .error .noEntry := by
  simp [Disk.remove, h.spot, h.place?, hp, bind, Except.bind, throw, throwThe,
    MonadExceptOf.throw]

lemma Reaches.rename {target : String} {cs' : List String} {name' : String} {q' : Place}
    {content : ByteArray} (h' : d.Reaches target cs' name' q')
    (hp : d.get? (name :: q) = some (.file content)) (hp' : d.HasRoom (name' :: q')) :
    d.rename path target =
      .ok ((d.erase (name :: q)).insert (name' :: q') (.file content)) := by
  rcases hp' with hp' | ⟨old, hp'⟩ <;>
    simp [Disk.rename, h.spot, h.place?, h'.spot, h'.place?, hp, hp', bind, Except.bind, pure,
      Except.pure]

end Reaches

/-! ### What has been done was possible -/

section EndsIn

variable (he : Path.EndsIn path name) (hc : Path.components path = cs ++ [name])

include he hc

lemma reaches_of_place? {spot : Spot} {place : Place} (hs : d.spotOf path = .ok spot)
    (hp : spot.place? = .ok (some place)) : ∃ q, d.Reaches path cs name q ∧ place = name :: q := by
  obtain ⟨hcheck, q, hq, rfl⟩ := leads_of_spotOf he hc hs
  have hshort : name.utf8ByteSize ≤ longestName := by
    rw [Spot.place?] at hp
    by_contra hlong
    simp [not_le.mp hlong] at hp
  refine ⟨q, ⟨he, hc, hcheck, hshort, hq⟩, ?_⟩
  simpa [Spot.place?, not_lt.mpr hshort] using hp.symm

lemma reaches_of_makeDirectory (ho : d.makeDirectory path = .ok d') :
    ∃ q, d.Reaches path cs name q ∧ d.get? (name :: q) = none ∧
      d' = d.insert (name :: q) .directory := by
  obtain ⟨spot, hs, h⟩ := exists_of_bind_ok ho
  obtain ⟨_ | place, hp, h⟩ := exists_of_bind_ok h
  · cases h
  obtain ⟨q, hq, rfl⟩ := reaches_of_place? he hc hs hp
  rcases hg : d.get? (name :: q) with _ | node
  · rw [hq.makeDirectory_none hg] at ho
    exact ⟨q, hq, hg, (Except.ok.inj ho).symm⟩
  · rw [hq.makeDirectory_some hg] at ho
    cases ho

lemma reaches_of_create (ho : d.create path = .ok d') : ∃ q, d.Reaches path cs name q := by
  obtain ⟨place, h, -⟩ := exists_of_bind_ok ho
  rw [creationPlace] at h
  obtain ⟨spot, hs, h⟩ := exists_of_bind_ok h
  split at h
  · cases h
  obtain ⟨_ | place, hp, h⟩ := exists_of_bind_ok h
  · cases h
  obtain ⟨q, hq, -⟩ := reaches_of_place? he hc hs hp
  exact ⟨q, hq⟩

lemma reaches_of_remove (ho : d.remove path = .ok d') : ∃ q, d.Reaches path cs name q := by
  obtain ⟨spot, hs, h⟩ := exists_of_bind_ok ho
  obtain ⟨_ | place, hp, h⟩ := exists_of_bind_ok h
  · cases h
  obtain ⟨q, hq, -⟩ := reaches_of_place? he hc hs hp
  exact ⟨q, hq⟩

lemma reaches_of_rename {source : String} (ho : d.rename source path = .ok d') :
    ∃ q, d.Reaches path cs name q := by
  obtain ⟨old, -, h⟩ := exists_of_bind_ok ho
  obtain ⟨spot, hs, h⟩ := exists_of_bind_ok h
  split at h
  · cases h
  obtain ⟨oldPlace?, -, h⟩ := exists_of_bind_ok h
  obtain ⟨newPlace?, hp, h⟩ := exists_of_bind_ok h
  split at h
  · obtain ⟨q, hq, -⟩ := reaches_of_place? he hc hs hp
    exact ⟨q, hq⟩
  · cases h

lemma reaches_of_isDirectory (hd : d.IsSound) (h : d.isDirectory path = true) :
    ∃ q, d.Reaches path cs name q ∧ (d.get? (name :: q)).isSome = true := by
  obtain ⟨hcheck, p, hp⟩ := isDirectory_iff.mp h
  obtain ⟨q, hq, hshort, hend⟩ := (hc ▸ hp).of_concat he.isName hd
  refine ⟨q, ⟨he, hc, hcheck, hshort, hq⟩, ?_⟩
  rcases hend with ⟨hend, -⟩ | ⟨target, hend⟩ <;> rw [hend] <;> rfl

lemma reaches_of_contains (hd : d.IsSound) (h : d.contains path = true) :
    ∃ q, d.Reaches path cs name q ∧ (d.get? (name :: q)).isSome = true := by
  have hcontains := h
  rw [Disk.contains] at h
  split at h
  · cases h
  · next spot hs =>
    split at h
    · next place hp _ =>
      obtain ⟨q, hq, rfl⟩ := reaches_of_place? he hc hs hp
      exact ⟨q, hq, h⟩
    · exact reaches_of_isDirectory he hc hd h

end EndsIn

end ClientGen.Disk
