import ClientGen.Proofs.Disk.Entries

/-!
The directories above a file, whatever its path. Making them adds directories and nothing else, each
of them at one of the paths above the file, and so does an attempt at it that fails half way.
-/

namespace ClientGen

/-! ### What an action keeps -/

/-- Where a property holds before an action, it holds after it, whether the action fails or not. -/
structure Keeps {ε σ α : Type} (R : σ → Prop) (action : EStateM ε σ α) : Prop where
  ok : ∀ {s a s'}, R s → action s = .ok a s' → R s'
  error : ∀ {s e s'}, R s → action s = .error e s' → R s'

section Keeps

variable {ε σ α β : Type} {R : σ → Prop}

lemma keeps_pure (a : α) : Keeps R (pure a : EStateM ε σ α) :=
  ⟨fun hs h => by cases h; exact hs, fun _ h => by cases h⟩

lemma Keeps.bind {x : EStateM ε σ α} {f : α → EStateM ε σ β} (hx : Keeps R x)
    (hf : ∀ a, Keeps R (f a)) : Keeps R (x >>= f) := by
  refine ⟨fun hs h => ?_, fun hs h => ?_⟩
  · obtain ⟨a, s₁, hfirst, hnext⟩ := bind_eq_ok_iff.mp h
    exact (hf a).ok (hx.ok hs hfirst) hnext
  · rcases bind_eq_error_iff.mp h with hfirst | ⟨a, s₁, hfirst, hnext⟩
    · exact hx.error hs hfirst
    · exact (hf a).error (hx.ok hs hfirst) hnext

lemma Keeps.tryCatch {x : EStateM ε σ α} {handle : ε → EStateM ε σ α} (hx : Keeps R x)
    (hh : ∀ e, Keeps R (handle e)) : Keeps R (tryCatch x handle) := by
  refine ⟨fun hs h => ?_, fun hs h => ?_⟩
  · rcases tryCatch_eq_ok_iff.mp h with hfirst | ⟨e, s₁, hfirst, hnext⟩
    · exact hx.ok hs hfirst
    · exact (hh e).ok (hx.error hs hfirst) hnext
  · obtain ⟨e, s₁, hfirst, hnext⟩ := tryCatch_eq_error_iff.mp h
    exact (hh e).error (hx.error hs hfirst) hnext

lemma Keeps.failingAt {R : Disk → Prop} {path : String} {action : DiskAction α}
    (h : Keeps R action) : Keeps R (Faults.failingAt path action) := by
  refine ⟨fun hs ho => h.ok hs (Faults.failingAt_eq_ok_iff.mp ho), fun hs ho => ?_⟩
  obtain ⟨e, -, ho⟩ := Faults.failingAt_eq_error_iff.mp ho
  exact h.error hs ho

end Keeps

/-! ### Directories at some paths -/

namespace Disk

variable {d d' d'' : Disk} {path : String} {paths : List String} {p : Place}

/-- There is a new directory at a place, to which one of the paths leads. -/
structure IsNewAt (d d' : Disk) (paths : List String) (p : Place) : Prop where
  none : d.get? p = none
  directory : d'.get? p = some .directory
  leads : ∃ path ∈ paths, d'.resolve path = .ok (p, .directory)

/-- What the second disk holds and the first one does not is directories to which the paths lead. -/
structure GainsAt (d d' : Disk) (paths : List String) : Prop where
  within : d.IsWithin d'
  new : ∀ p, d'.get? p = d.get? p ∨ d.IsNewAt d' paths p

lemma GainsAt.refl (d : Disk) (paths : List String) : d.GainsAt d paths :=
  ⟨.refl d, fun _ => Or.inl rfl⟩

lemma GainsAt.trans (h : d.GainsAt d' paths) (h' : d'.GainsAt d'' paths) : d.GainsAt d'' paths := by
  refine ⟨h.within.trans h'.within, fun p => ?_⟩
  rcases h'.new p with hsame | hnew
  · rcases h.new p with hsame' | hnew'
    · exact Or.inl (hsame.trans hsame')
    · obtain ⟨path, hmem, hleads⟩ := hnew'.leads
      exact Or.inr ⟨hnew'.none, hsame.trans hnew'.directory, path, hmem, h'.within.resolve hleads⟩
  · have hnone : d.get? p = none := by
      rcases h.new p with hsame | hnew'
      · rw [← hsame, hnew.none]
      · exact hnew'.none
    exact Or.inr ⟨hnone, hnew.directory, hnew.leads⟩

lemma resolve_of_spotOf {spot : Spot} {name : String} (w : d.KeepsWays d')
    (hs : d.spotOf path = .ok spot) (hp : spot.place? = .ok (some (name :: spot.directory)))
    (hdir : d'.get? (name :: spot.directory) = some .directory) :
    d'.resolve path = .ok (name :: spot.directory, .directory) := by
  have h := spotOf_eq_ok_iff.mp hs
  obtain ⟨hname, hshort⟩ : spot.name? = some name ∧ name.utf8ByteSize ≤ longestName := by
    rw [Spot.place?] at hp
    split at hp
    · cases hp
    · next last hlast =>
      split at hp
      · cases hp
      · next hshort =>
        obtain rfl := (List.cons.inj (Option.some.inj (Except.ok.inj hp))).1
        exact ⟨hlast, not_lt.mp hshort⟩
  rw [h.name, Option.filter_eq_some_iff, Bool.and_eq_true, bne_iff_ne, bne_iff_ne] at hname
  obtain ⟨hlast, hdot, hdots⟩ := hname
  -- a slash at the end asks for the directory again
  obtain ⟨dots, hdotted, hall⟩ : ∃ dots : List String, (dots = [] ∨ dots = ["."]) ∧
      Path.names path = (Path.bareNames path).dropLast ++ name :: dots := by
    have hsplit := List.dropLast_append_getLast? name hlast
    rcases Path.names_cases path with ⟨-, hnames⟩ | ⟨-, hnames⟩
    · exact ⟨[], Or.inl rfl, by rw [hnames, hsplit]⟩
    · exact ⟨["."], Or.inr rfl, by rw [hnames, List.append_cons _ name, hsplit]⟩
  have hkept := h.kept w
  refine resolve_eq_ok_iff.mpr ⟨h.check, ?_, hdir⟩
  rw [hall]
  refine walk_append (fun k => ?_) hkept.directory hkept.walk
  rw [walk_directory hdot hdots hshort hdir]
  rcases hdotted with rfl | rfl
  · exact walk_nil
  · exact walk_dot.trans walk_nil

lemma gainsAt_of_makeDirectory (h : d.makeDirectory path = .ok d') (hmem : path ∈ paths) :
    d.GainsAt d' paths := by
  obtain ⟨spot, hs, h⟩ := exists_of_bind_ok h
  obtain ⟨_ | place, hp, h⟩ := exists_of_bind_ok h
  · cases h
  obtain ⟨name, rfl⟩ := place?_eq_some hp
  dsimp only at h
  split at h
  · cases h
  next hnone =>
  obtain rfl := Except.ok.inj h
  have hwithin : d.IsWithin (d.insert (name :: spot.directory) .directory) := .insert hnone
  have hdir : (d.insert (name :: spot.directory) .directory).get? (name :: spot.directory) =
      some .directory := by rw [get?_insert, if_pos rfl]
  refine ⟨hwithin, fun p => ?_⟩
  by_cases he : p = name :: spot.directory
  · subst he
    exact Or.inr ⟨hnone, hdir, path, hmem, resolve_of_spotOf hwithin.keepsWays hs hp hdir⟩
  · exact Or.inl (by rw [get?_insert, if_neg he])

end Disk

/-- The paths above a path, nearest first. -/
def Path.parents (path : String) : List String :=
  match Path.parent? path with
  | some parent => Path.ancestors parent
  | none => []

namespace Faults

open Disk

variable {paths : List String}

lemma keeps_settle {R : Disk → Prop} (path : String) (e : DiskError) : Keeps R (settle path e) := by
  refine ⟨fun hd h => ?_, fun hd h => ?_⟩
  · rwa [(settle_eq_ok h).1]
  · rwa [settle_eq_error h]

section MakeDirectory

variable {R : Disk → Prop} {faults : Faults}

lemma keeps_ensureDirectories
    (h : ∀ path ∈ paths, Keeps R (faults.perform (.makeDirectory path))) :
    Keeps R (faults.ensureDirectories paths) := by
  induction paths with
  | nil => exact keeps_pure ()
  | cons path above ih =>
    have hmake := h path List.mem_cons_self
    rw [ensureDirectories]
    refine hmake.tryCatch fun e => ?_
    split
    · refine (ih fun p hp => h p (List.mem_cons_of_mem _ hp)).bind fun _ => ?_
      exact hmake.tryCatch (keeps_settle path)
    · exact keeps_settle path e

/-- What is kept by making a directory at each of the paths above a file is kept by making them
all. -/
lemma keeps_makeParents_of {path : String}
    (h : ∀ above ∈ Path.parents path, Keeps R (faults.perform (.makeDirectory above))) :
    Keeps R (faults.makeParents path) := by
  rcases hparent : Path.parent? path with _ | parent
  · simpa only [makeParents, hparent] using keeps_pure ()
  simp only [makeParents, hparent]
  split
  · exact keeps_pure ()
  refine (keeps_ensureDirectories fun p hp => h p ?_).failingAt
  rw [Path.parents, hparent]
  exact (List.takeWhile_prefix _).subset hp

end MakeDirectory

/-- **Making the directories above a file.** Whether it succeeds or fails, the disk gains nothing
but directories, each at one of the paths above the file. -/
theorem keeps_makeParents (faults : Faults) (d : Disk) (path : String) :
    Keeps (d.GainsAt · (Path.parents path)) (faults.makeParents path) := by
  refine keeps_makeParents_of fun above hmem => ⟨fun hd h => ?_, fun hd h => ?_⟩
  · exact hd.trans (gainsAt_of_makeDirectory (perform_eq_ok_iff.mp h).2 hmem)
  · rwa [perform_makeDirectory_error h]

lemma keeps_isSound (faults : Faults) (path : String) :
    Keeps IsSound (faults.makeParents path) := by
  refine keeps_makeParents_of fun above _ => ⟨fun hd h => ?_, fun hd h => ?_⟩
  · exact hd.apply _ (perform_eq_ok_iff.mp h).2
  · rwa [perform_makeDirectory_error h]

end Faults

end ClientGen
