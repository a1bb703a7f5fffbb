import ClientGen.Proofs.Disk.Parents

/-!
The two ways to write a file: the entry of its path is taken away and a file made there, or a file
is made beside it and moved there. Where both succeed, they come to the same but for the place
beside the file, unless a link is at this place. A file that is made at the path of a link is made
where the link leads, and what is moved is then the link. Only symbolic links are meant: a hard link
beside the file would do as much harm, but there is none on a disk here.
-/

namespace ClientGen

namespace Disk

variable {d d' : Disk} {path name : String} {q : Place}

def Node.same : Node → Node → Bool
  | .file a, .file b => a.data == b.data
  | .directory, .directory => true
  | .link a, .link b => a == b
  | .device, .device => true
  | .program a, .program b => a == b
  | _, _ => false

lemma Node.same_iff {a b : Node} : a.same b = true ↔ a = b := by
  cases a <;> cases b <;> simp [same, ByteArray.ext_iff]

instance : DecidableEq Node := fun _ _ => decidable_of_iff _ Node.same_iff

lemma isWithin_erase (d : Disk) (name : String) (q : Place) : (d.erase (name :: q)).IsWithin d := by
  refine ⟨rfl, fun {p node} hp => ?_⟩
  rw [get?_erase] at hp
  split at hp
  · cases hp
  · exact hp

/-- Whatever comes to a place, the ways that do not lead through it are kept. -/
lemma keepsWays_erase (hc : d'.current = d.current)
    (hother : ∀ p, p ≠ name :: q → d'.get? p = d.get? p) :
    (d.erase (name :: q)).KeepsWays d' := by
  have hnone : (d.erase (name :: q)).get? (name :: q) = none := by rw [get?_erase, if_pos rfl]
  refine (IsEnd.of_none hnone).keepsWays hc fun p hp => ?_
  rw [hother p hp, get?_erase, if_neg hp]

/-- The second disk is the first one with a file at a place, and with nothing at another one. -/
structure Moves (d d' : Disk) (place beside : Place) (content : ByteArray) : Prop where
  current : d'.current = d.current
  get? : ∀ p, d'.get? p =
    if p = place then some (.file content) else if p = beside then none else d.get? p

/-- The file beside a path can be looked up wherever the path can: its name is not too long. -/
lemma Locates.beside {p t : Place} (h : d.Locates path p)
    (ht : d'.Locates (Naming.temporaryPath path) t) :
    ∃ t', d.Locates (Naming.temporaryPath path) t' := by
  obtain ⟨cs, name, q, hr, rfl⟩ := h.reaches
  have he := hr.endsIn.temporary
  have hc := Path.components_temporaryPath hr.endsIn hr.components
  obtain ⟨spot, hs, -, hplace⟩ := ht
  obtain ⟨r, hr', -⟩ := reaches_of_place? he hc hs hplace
  exact ⟨_, Reaches.locates ⟨he, hc, hr'.check, hr'.short, hr.leads⟩⟩

end Disk

namespace Faults

open Disk

variable {faults : Faults} {d d' : Disk} {path : String} {content : ByteArray} {p t : Place}

/-! ### In place -/

lemma writeNew_none (hnone : ∀ p, d.Locates path p → d.get? p = none)
    (h : faults.writeNew path content d = .ok () d') :
    ∃ p, d.Locates path p ∧ d.Puts d' p content := by
  have hlink : d.IsNoLink path := fun p target hl ht => by
    rw [hnone p hl] at ht
    cases ht
  obtain ⟨p, hl, -, ⟨hdevice, -⟩ | hputs⟩ := writeNew_entry hlink h
  · rw [hnone p hl] at hdevice
    cases hdevice
  · exact ⟨p, hl, hputs⟩

lemma replaceFile_entry (h : faults.replaceFile path content d = .ok () d') :
    ∃ name q, (d.erase (name :: q)).Locates path (name :: q) ∧ d.Puts d' (name :: q) content := by
  rcases hcontains : d.contains path with _ | _
  · rw [replaceFile_of_not_contains hcontains, failingAt_eq_ok_iff] at h
    have hnone : ∀ p, d.Locates path p → d.get? p = none := fun p hl => by
      rw [hl.contains] at hcontains
      simpa using hcontains
    obtain ⟨p, hl, hputs⟩ := writeNew_none hnone h
    obtain ⟨cs, name, q, hr, rfl⟩ := hl.reaches
    exact ⟨name, q, hl.kept (KeepsWays.erase (Or.inl (hnone _ hl))), hputs⟩
  · rw [replaceFile_of_contains hcontains] at h
    obtain ⟨⟨⟩, d₁, hremove, hnew⟩ := bind_eq_ok_iff.mp h
    rw [failingAt_eq_ok_iff] at hremove hnew
    obtain ⟨name, q, hl, -, rfl⟩ := exists_of_remove (perform_eq_ok_iff.mp hremove).2
    have hback := (isWithin_erase d name q).keepsWays
    have hnone : ∀ p, (d.erase (name :: q)).Locates path p →
        (d.erase (name :: q)).get? p = none := fun p hp => by
      rw [(hp.kept hback).unique hl, get?_erase, if_pos rfl]
    obtain ⟨p, hp, hputs⟩ := writeNew_none hnone hnew
    obtain rfl := (hp.kept hback).unique hl
    refine ⟨name, q, hp, hputs.current, fun r => ?_⟩
    rw [hputs.get?, get?_erase]
    split <;> rfl

/-! ### Beside its place -/

lemma exists_of_moveFile (h : faults.moveFile path content d = .ok () d') :
    ∃ d₁ name q other r node, faults.writeNew (Naming.temporaryPath path) content d = .ok () d₁ ∧
      d₁.sync (Naming.temporaryPath path) = .ok d₁ ∧
      d₁.Locates (Naming.temporaryPath path) (name :: q) ∧ d₁.Locates path (other :: r) ∧
      d₁.get? (name :: q) = some node ∧
        d' = (d₁.erase (name :: q)).insert (other :: r) node := by
  obtain ⟨d₁, d₂, hnew, hsync, hrename⟩ := moveFile_ok_iff.mp h
  have hdone : d₁.sync (Naming.temporaryPath path) = .ok d₂ := (perform_eq_ok_iff.mp hsync).2
  obtain rfl := perform_sync_ok hsync
  obtain ⟨name, q, other, r, node, ht, hl, hnode, rfl⟩ :=
    exists_of_rename (perform_eq_ok_iff.mp hrename).2
  exact ⟨d₂, name, q, other, r, node, hnew, hdone, ht, hl, hnode, rfl⟩

/-- Unless there is a link beside the path, what is moved is the file that has been made. -/
lemma moveFile_moves (hlink : d.IsNoLink (Naming.temporaryPath path))
    (h : faults.moveFile path content d = .ok () d') : ∃ p t, d.Locates path p ∧
      d.Locates (Naming.temporaryPath path) t ∧ d.IsEnd t ∧ d.Moves d' p t content := by
  obtain ⟨d₁, name, q, other, r, node, hnew, hsync, ht, hl, hnode, rfl⟩ := exists_of_moveFile h
  obtain ⟨t, ht', hend, ⟨hdevice, rfl⟩ | hputs⟩ := writeNew_entry hlink hnew
  · -- a device cannot be waited for
    rw [ht'.sync_device hdevice] at hsync
    cases hsync
  have hdiffers := hputs.differsAt ht' hend
  obtain rfl := (ht'.kept hdiffers.ways).unique ht
  obtain rfl := Option.some.inj (hnode.symm.trans hputs.file)
  refine ⟨other :: r, name :: q, hl.kept hdiffers.back, ht', hend, hputs.current, fun p => ?_⟩
  rw [get?_insert, get?_erase, hputs.get?]
  split
  · rfl
  · split <;> rfl

lemma moveFile_link {target : String} (hl : d.Locates path p)
    (ht : d.Locates (Naming.temporaryPath path) t) (hlink : d.get? t = some (.link target))
    (h : faults.moveFile path content d = .ok () d') : d'.get? p = some (.link target) := by
  obtain ⟨d₁, name, q, other, r, node, hnew, -, ht', hl', hnode, rfl⟩ := exists_of_moveFile h
  have hways := keepsWays_of_writeNew hnew
  obtain rfl := (ht.kept hways).unique ht'
  obtain rfl := (hl.kept hways).unique hl'
  rw [get?_insert, if_pos rfl, ← hnode, hways.link hlink]

/-! ### In either way -/

/-- A path has its file, and nothing else is new but directories above it. -/
structure IsWritten (path : String) (content : ByteArray) (place : Place) (d d' : Disk) :
    Prop where
  file : d'.entryAt path = .ok (place, .file content)
  others : ∃ made, d.GainsAt made (Path.parents path) ∧ ∀ p, p ≠ place → d'.get? p = made.get? p

/-- The second disk, too, has the file of a path. It has nothing beside it, and everywhere else it
holds the same as the first one. -/
structure ModesAgree (path : String) (content : ByteArray) (place beside : Place)
    (replaced moved : Disk) : Prop where
  file : moved.entryAt path = .ok (place, .file content)
  gone : moved.entryAt (Naming.temporaryPath path) = .error .noEntry
  current : moved.current = replaced.current
  others : ∀ p, p ≠ beside → moved.get? p = replaced.get? p

lemma modesAgree_of_moves {name : String} {q : Place} {replaced moved : Disk}
    (hl : (d.erase (name :: q)).Locates path (name :: q))
    (ht : d.Locates (Naming.temporaryPath path) t) (hend : d.IsEnd t)
    (hputs : d.Puts replaced (name :: q) content) (hmoves : d.Moves moved (name :: q) t content) :
    ModesAgree path content (name :: q) t replaced moved := by
  have hback := (isWithin_erase d name q).keepsWays
  have hne : name :: q ≠ t := (hl.kept hback).ne_temporary ht
  -- nothing in the place of the entry, and no way on beside it
  have hways : (d.erase (name :: q)).KeepsWays moved := by
    refine keepsWays_of_isEnd hmoves.current fun p => ?_
    rw [hmoves.get?, get?_erase]
    by_cases hp : p = name :: q
    · exact Or.inr (.of_none (by rw [get?_erase, if_pos hp]))
    · rw [if_neg hp, if_neg hp]
      by_cases hbeside : p = t
      · subst hbeside
        exact Or.inr ⟨fun h => hend.directory (hback.directory h),
          fun target h => hend.link target (hback.link h)⟩
      · exact Or.inl (if_neg hbeside)
  obtain ⟨t', ht'⟩ := hl.beside ht
  obtain rfl := (ht'.kept hback).unique ht
  refine ⟨(hl.kept hways).entryAt ?_, (ht'.kept hways).entryAt_none ?_, ?_, fun p hp => ?_⟩
  · rw [hmoves.get?, if_pos rfl]
  · rw [hmoves.get?, if_neg hne.symm, if_pos rfl]
  · rw [hmoves.current, hputs.current]
  · rw [hmoves.get?, if_neg hp, hputs.get?]

lemma get?_eq_link_iff {paths : List String} {target : String} (h : d.GainsAt d' paths) :
    d'.get? p = some (.link target) ↔ d.get? p = some (.link target) := by
  rcases h.new p with hsame | hnew
  · rw [hsame]
  · simp [hnew.none, hnew.directory]

/-- **The two ways to write a file.** Where both succeed from one disk, either way the path has its
file and nothing else is new but directories above it; and the two disks agree, with nothing beside
the file on the second one, just if there was no link beside the file before. -/
theorem writeFile_modes (faults : Faults) (path : String) (content : ByteArray)
    (d replaced moved : Disk)
    (hreplaced : faults.writeFile .replace path content d = .ok () replaced)
    (hmoved : faults.writeFile .atomic path content d = .ok () moved) :
    ∃ place beside, replaced.Locates (Naming.temporaryPath path) beside ∧
      IsWritten path content place d replaced ∧
      (ModesAgree path content place beside replaced moved ↔
        ∀ target, d.get? beside ≠ some (.link target)) := by
  rw [writeFile_eq] at hreplaced hmoved
  obtain ⟨⟨⟩, made, hparents, hreplace⟩ := bind_eq_ok_iff.mp hreplaced
  obtain ⟨⟨⟩, made', hparents', hmove⟩ := bind_eq_ok_iff.mp hmoved
  obtain ⟨-, rfl⟩ := EStateM.Result.ok.inj (hparents.symm.trans hparents')
  have hgains := (keeps_makeParents faults d path).ok (.refl d _) hparents
  obtain ⟨name, q, hl, hputs⟩ := replaceFile_entry hreplace
  have hback := (isWithin_erase made name q).keepsWays
  have hways := keepsWays_erase hputs.current fun p => hputs.other
  -- the entry beside the file can be looked up, since something has been made there
  obtain ⟨d₁, n, r, -, -, -, hnew, -, ht₁, -⟩ := exists_of_moveFile hmove
  obtain ⟨t, ht⟩ := hl.beside ht₁
  refine ⟨name :: q, t, ht.kept hways, ⟨(hl.kept hways).entryAt hputs.file, made, hgains,
    fun p => hputs.other⟩, fun hagree target hlink => ?_, fun hlink => ?_⟩
  · have hmade : made.get? t = some (.link target) := (get?_eq_link_iff hgains).mpr hlink
    have hmovedLink := moveFile_link (hl.kept hback) (ht.kept hback) hmade hmove
    have hfile := hagree.others _ ((hl.kept hback).ne_temporary (ht.kept hback))
    rw [hmovedLink, hputs.file] at hfile
    cases hfile
  · have hnoLink : made.IsNoLink (Naming.temporaryPath path) := fun p target hp hp' => by
      obtain rfl := hp.unique (ht.kept hback)
      exact hlink target ((get?_eq_link_iff hgains).mp hp')
    obtain ⟨p, t', hp, ht', hend, hmoves⟩ := moveFile_moves hnoLink hmove
    obtain rfl := hp.unique (hl.kept hback)
    obtain rfl := ht'.unique (ht.kept hback)
    exact modesAgree_of_moves hl ht' hend hputs hmoves

/-- What has succeeded has left a disk of which something is true. -/
def succeedsWith (check : Disk → Bool) : EStateM.Result Failure Disk Unit → Bool
  | .ok _ d => check d
  | .error _ _ => false

lemma exists_of_succeedsWith {check : Disk → Bool} {result : EStateM.Result Failure Disk Unit}
    (h : succeedsWith check result = true) : ∃ d, result = .ok () d ∧ check d = true := by
  cases result with
  | ok _ d => exact ⟨d, rfl, h⟩
  | error e d => cases h

/-- A working directory with another file, and with something beside the file `pod.rs`. -/
def diskBeside (node : Node) : Disk :=
  ⟨["work"], [(["work"], .directory), (["other.rs", "work"], .file "keep".toUTF8),
    ([".pod.rs.kubegen-tmp", "work"], node)]⟩

/-- An old file beside the path does not matter. -/
theorem staleFile_modes : ∃ replaced moved,
    Faults.never.writeFile .replace "pod.rs" "new".toUTF8 (diskBeside (.file .empty)) =
      .ok () replaced ∧
    Faults.never.writeFile .atomic "pod.rs" "new".toUTF8 (diskBeside (.file .empty)) =
      .ok () moved ∧
    ∃ place beside, replaced.Locates (Naming.temporaryPath "pod.rs") beside ∧
      IsWritten "pod.rs" "new".toUTF8 place (diskBeside (.file .empty)) replaced ∧
      (ModesAgree "pod.rs" "new".toUTF8 place beside replaced moved ↔
        ∀ target, (diskBeside (.file .empty)).get? beside ≠ some (.link target)) := by
  have hsucceed : ∀ mode, succeedsWith (fun _ => true) (Faults.never.writeFile mode "pod.rs"
      "new".toUTF8 (diskBeside (.file .empty))) = true := by
    intro mode
    cases mode <;> decide +kernel
  obtain ⟨replaced, hreplaced, -⟩ := exists_of_succeedsWith (hsucceed .replace)
  obtain ⟨moved, hmoved, -⟩ := exists_of_succeedsWith (hsucceed .atomic)
  exact ⟨replaced, moved, hreplaced, hmoved, writeFile_modes _ _ _ _ _ _ hreplaced hmoved⟩

/-- A link beside the path takes the place of the file, and the file that the link leads to is
overwritten. -/
theorem linkBeside_moved : ∃ replaced moved,
    Faults.never.writeFile .replace "pod.rs" "new".toUTF8 (diskBeside (.link "other.rs")) =
      .ok () replaced ∧
    Faults.never.writeFile .atomic "pod.rs" "new".toUTF8 (diskBeside (.link "other.rs")) =
      .ok () moved ∧
    replaced.get? ["pod.rs", "work"] = some (.file "new".toUTF8) ∧
    replaced.get? ["other.rs", "work"] = some (.file "keep".toUTF8) ∧
    moved.get? ["pod.rs", "work"] = some (.link "other.rs") ∧
    moved.get? ["other.rs", "work"] = some (.file "new".toUTF8) := by
  have hreplace : succeedsWith
      (fun d => decide (d.get? ["pod.rs", "work"] = some (.file "new".toUTF8)) &&
        decide (d.get? ["other.rs", "work"] = some (.file "keep".toUTF8)))
      (Faults.never.writeFile .replace "pod.rs" "new".toUTF8 (diskBeside (.link "other.rs"))) =
        true := by decide +kernel
  have hmove : succeedsWith
      (fun d => decide (d.get? ["pod.rs", "work"] = some (.link "other.rs")) &&
        decide (d.get? ["other.rs", "work"] = some (.file "new".toUTF8)))
      (Faults.never.writeFile .atomic "pod.rs" "new".toUTF8 (diskBeside (.link "other.rs"))) =
        true := by decide +kernel
  obtain ⟨replaced, hreplaced, hheld⟩ := exists_of_succeedsWith hreplace
  obtain ⟨moved, hmoved, hlinked⟩ := exists_of_succeedsWith hmove
  simp only [Bool.and_eq_true, decide_eq_true_eq] at hheld hlinked
  exact ⟨replaced, moved, hreplaced, hmoved, hheld.1, hheld.2, hlinked.1, hlinked.2⟩

end Faults

end ClientGen
