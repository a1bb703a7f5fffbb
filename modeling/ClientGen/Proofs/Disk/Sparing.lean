import ClientGen.Proofs.Disk.Modes

/-!
Moving a file to its place, where it fails. Each step before the last one is about the file beside
the place and nothing else, and so whatever has been at the path is still there. That the file
beside the place has no other name is a matter of the disk, which knows no hard links.
-/

namespace ClientGen

namespace Path

lemma exists_fileName {path : String} (hb : backward path ≠ []) (hup : ".." ∉ components path) :
    ∃ name, IsName name ∧ fileName? path = some name ∧
      components path = (components path).dropLast ++ [name] := by
  have hlast := pieces_backward hb
  have hmem : String.ofList ((backward path).takeWhile (· != '/')).reverse ∈ steps path := by
    rw [steps_eq_backward, hlast]
    simp
  have hname := isName_of_mem_steps hmem fun he =>
    hup (components_eq path ▸ List.mem_append_right _ (he ▸ hmem))
  refine ⟨_, hname, ?_, ?_⟩
  · rw [fileName?]
    split
    · next hnil => exact absurd (by rw [hnil]; rfl) hname.ne_empty
    · next hdots => exact absurd (by rw [hdots]; rfl) hname.ne_dots
    · rfl
  · rw [components_eq_backward, hlast, ← List.append_assoc, List.map_append, List.map_singleton,
      List.dropLast_concat]

end Path

namespace Disk

variable {d d' d'' : Disk} {path name : String} {cs ns ys : List String} {p q here : Place}
  {node : Node} {k : Nat}

/-! ### What is found at a path -/

lemma directory_of_walk (hd : d.IsSound) (hhere : d.get? here = some .directory)
    (hlast : ∀ n ∈ ns.getLast?, n = "." ∨ n = "..") (hw : d.walk k here ns = .ok p) :
    d.get? p = some .directory := by
  rcases List.eq_nil_or_concat' ns with rfl | ⟨before, n, rfl⟩
  · cases walk_nil.symm.trans hw
    exact hhere
  obtain ⟨q, l, -, hq, hend⟩ := exists_walk_of_append hd hhere (List.cons_ne_nil n []) hw
  rcases hlast n (by simp) with rfl | rfl
  · rw [walk_dot, walk_nil] at hend
    exact Except.ok.inj hend ▸ hq
  · rw [walk_dots, walk_nil] at hend
    exact Except.ok.inj hend ▸ hd.tail hq

/-- A path without a name behind its last slash comes to a dot or two at last. -/
lemma IsSpot.ends_dotted {spot : Spot} (h : d.IsSpot path spot)
    (hno : spot.name? = none ∨ spot.hasSlash = true) :
    ∀ n ∈ (Path.names path).getLast?, n = "." ∨ n = ".." := by
  intro n hn
  rcases Path.names_cases path with ⟨hslash, hnames⟩ | ⟨-, hnames⟩
  · rw [h.slash, hslash] at hno
    have hname := hno.resolve_right (by simp)
    rw [h.name, Option.filter_eq_none_iff] at hname
    have hdotted := hname n (hnames ▸ hn)
    simp only [Bool.and_eq_true, bne_iff_ne, not_and_or, not_not] at hdotted
    exact hdotted
  · rw [hnames, List.getLast?_concat] at hn
    exact Or.inl (Option.mem_some_iff.mp hn).symm

lemma entryAt_cases (hd : d.IsSound) (h : d.entryAt path = .ok (p, node)) :
    d.get? p = some node ∧
      (d.Locates path p ∨ d.get? p = some .directory ∧ d.Leads (Path.components path) p) := by
  obtain ⟨spot, hs, h⟩ := exists_of_bind_ok h
  have hspot := spotOf_eq_ok_iff.mp hs
  have hresolved : d.resolve path = .ok (p, node) → spot.name? = none ∨ spot.hasSlash = true →
      d.get? p = some node ∧
        (d.Locates path p ∨ d.get? p = some .directory ∧ d.Leads (Path.components path) p) := by
    intro hr hno
    obtain ⟨-, hwalk, hp⟩ := resolve_eq_ok_iff.mp hr
    have hdir := directory_of_walk hd (get?_beginning hd.current path) (hspot.ends_dotted hno) hwalk
    exact ⟨hp, Or.inr ⟨hdir, leads_components.mpr ⟨hwalk, hdir⟩⟩⟩
  obtain ⟨_ | place, hp, h⟩ := exists_of_bind_ok h
  · refine hresolved h (Or.inl ?_)
    rw [Spot.place?] at hp
    split at hp
    · next hname => exact hname
    · split at hp <;> cases hp
  · dsimp only at h
    split at h
    · next hslash => exact hresolved h (Or.inr hslash)
    · next hslash =>
      split at h
      · next found hfound =>
        cases h
        exact ⟨hfound, Or.inl ⟨spot, hs, by simpa using hslash, hp⟩⟩
      · cases h

lemma entryAt_kept (w : d.KeepsWays d') (hp : d'.get? p = d.get? p)
    (h : d.entryAt path = .ok (p, node)) : d'.entryAt path = .ok (p, node) := by
  obtain ⟨spot, hs, h⟩ := exists_of_bind_ok h
  have hs' : d'.spotOf path = .ok spot := spotOf_eq_ok_iff.mpr ((spotOf_eq_ok_iff.mp hs).kept w)
  have hresolved : d.resolve path = .ok (p, node) → d'.resolve path = .ok (p, node) := by
    intro hr
    obtain ⟨hcheck, hwalk, hp'⟩ := resolve_eq_ok_iff.mp hr
    refine resolve_eq_ok_iff.mpr ⟨hcheck, ?_, by rw [hp, hp']⟩
    rw [w.current]
    exact w.walk hp hwalk
  obtain ⟨_ | place, hplace, h⟩ := exists_of_bind_ok h
  · rw [Disk.entryAt, hs']
    simp only [bind, Except.bind, hplace]
    exact hresolved h
  · rw [Disk.entryAt, hs']
    simp only [bind, Except.bind, hplace]
    dsimp only at h
    split at h
    · next hslash =>
      rw [if_pos hslash]
      exact hresolved h
    · next hslash =>
      rw [if_neg hslash]
      split at h
      · next found hfound =>
        cases h
        rw [hp, hfound]
        rfl
      · cases h

/-! ### Nothing is at a missing directory -/

lemma DeepensPart.eq_of_entryAt (hd : d.IsSound) (h : d.DeepensPart d' cs)
    (hn : Path.IsName name) (hc : Path.components path = cs ++ [name])
    (hentry : d'.entryAt path = .ok (p, node)) : d' = d := by
  obtain ⟨base, rest, q, rfl, hrest, hdeep⟩ := h
  obtain ⟨hp, hl | ⟨-, hl⟩⟩ := entryAt_cases (hdeep.sound hd) hentry
  · obtain ⟨cs, last, r, hr, rfl⟩ := hl.reaches
    obtain ⟨rfl, -⟩ := List.append_inj' (hr.components.symm.trans hc) rfl
    by_cases hne : rest = []
    · subst hne
      have hleads := hr.leads
      rw [List.append_nil] at hleads
      obtain rfl := hleads.unique hdeep.isLed
      rcases hdeep.eq_or_none hd last with heq | hnone
      · exact heq
      · rw [hnone] at hp
        cases hp
    · exact hdeep.eq_of_append hd hrest hne hr.leads
  · rw [hc, List.append_assoc] at hl
    refine hdeep.eq_of_append hd (fun n hmem => ?_) (by simp) hl
    rcases List.mem_append.mp hmem with hmem | hmem
    · exact hrest n hmem
    · rwa [List.mem_singleton.mp hmem]

/-! ### A path that is spared -/

lemma DiffersAt.symm (h : d.DiffersAt d' path) : d'.DiffersAt d path :=
  ⟨h.back, h.ways, fun p hp => (h.other p fun hl => hp (hl.kept h.ways)).symm⟩

lemma DiffersAt.sound (h : d.DiffersAt d' path) (hd : d.IsSound) : d'.IsSound := by
  refine ⟨fun {name place node} hp => h.ways.directory ?_, ?_⟩
  · by_cases hl : d.Locates path (name :: place)
    · obtain ⟨cs, last, q, hr, he⟩ := hl.reaches
      obtain ⟨-, rfl⟩ := List.cons.inj he
      exact hr.leads.directory
    · rw [h.other _ hl] at hp
      exact hd.above hp
  · rw [h.ways.current]
    exact h.ways.directory hd.current

lemma isNoLink_of_check (h : (match d.entryAt path with
    | .ok (_, .link _) => false
    | _ => true) = true) : d.IsNoLink path := by
  intro p target hl hp
  rw [hl.entryAt hp] at h
  cases h

lemma DiffersAt.isNoLink (h : d.DiffersAt d' path) (hlink : d.IsNoLink path) : d'.IsNoLink path :=
  fun p target hl hp => hlink p target (hl.kept h.back) (h.back.link hp)

lemma DiffersAt.entryAt (hd : d.IsSound) (h : d.DiffersAt d' (Naming.temporaryPath path))
    (hentry : d.entryAt path = .ok (p, node)) : d'.entryAt path = .ok (p, node) := by
  refine entryAt_kept h.ways ?_ hentry
  -- the entry of a path is never the one beside it, and a directory is kept wherever it is
  obtain ⟨-, hl | ⟨hdir, -⟩⟩ := entryAt_cases hd hentry
  · exact h.other p fun ht => hl.ne_temporary ht rfl
  · rw [hdir, h.ways.directory hdir]

/-- What is found at a path is what was found there before. A path that goes back up may have led
nowhere for want of a directory above it, and then it can lead to what was there already or to such
a directory. Otherwise there is nothing new but directories above the path and what is beside it. -/
structure Spares (path : String) (d d' : Disk) : Prop where
  stays : ∀ p node, d.entryAt path = .ok (p, node) → d'.entryAt path = .ok (p, node)
  found : ∀ p node, d'.entryAt path = .ok (p, node) → d.entryAt path = .ok (p, node) ∨
    ".." ∈ Path.components path ∧ (d.get? p = some node ∨ d.IsNewAt d' (Path.parents path) p)
  others : ∀ p, ¬ d'.Locates (Naming.temporaryPath path) p →
    d'.get? p = d.get? p ∨ d.IsNewAt d' (Path.parents path) p

lemma IsNewAt.kept {paths : List String} (w : d'.KeepsWays d'') (h : d.IsNewAt d' paths p) :
    d.IsNewAt d'' paths p := by
  have hdir := w.directory h.directory
  obtain ⟨path, hmem, hleads⟩ := h.leads
  obtain ⟨hcheck, hwalk, -⟩ := resolve_eq_ok_iff.mp hleads
  refine ⟨h.none, hdir, path, hmem, resolve_eq_ok_iff.mpr ⟨hcheck, ?_, hdir⟩⟩
  rw [w.current]
  exact w.walk (by rw [hdir, h.directory]) hwalk

lemma get?_of_entryAt (hd : d.IsSound) (h : d.entryAt path = .ok (p, node)) :
    d.get? p = some node :=
  (entryAt_cases hd h).1

lemma GainsAt.spares (hd : d.IsSound) (hd' : d'.IsSound)
    (h : d.GainsAt d' (Path.parents path)) (hsame : ".." ∉ Path.components path →
      ∀ p node, d'.entryAt path = .ok (p, node) → d' = d) : Spares path d d' := by
  refine ⟨fun p node hentry => ?_, fun p node hentry => ?_, fun p _ => h.new p⟩
  · have hp := get?_of_entryAt hd hentry
    exact entryAt_kept h.within.keepsWays (by rw [hp, h.within.get? hp]) hentry
  · by_cases hup : ".." ∈ Path.components path
    · refine Or.inr ⟨hup, ?_⟩
      rcases h.new p with hp | hnew
      · exact Or.inl (hp.symm.trans (get?_of_entryAt hd' hentry))
      · exact Or.inr hnew
    · exact Or.inl (hsame hup p node hentry ▸ hentry)

lemma Spares.beside (hd' : d'.IsSound) (h : Spares path d d')
    (hdiffers : d'.DiffersAt d'' (Naming.temporaryPath path)) : Spares path d d'' := by
  refine ⟨fun p node hentry => hdiffers.entryAt hd' (h.stays p node hentry),
    fun p node hentry => ?_, fun p hp => ?_⟩
  · have hback := hdiffers.symm.entryAt (hdiffers.sound hd') hentry
    refine (h.found p node hback).imp_right fun ⟨hup, hp⟩ => ⟨hup, ?_⟩
    exact hp.imp_right fun hnew => hnew.kept hdiffers.ways
  · have hp' : ¬ d'.Locates (Naming.temporaryPath path) p := fun hl => hp (hl.kept hdiffers.ways)
    rw [hdiffers.other p hp']
    exact (h.others p hp').imp_right fun hnew => hnew.kept hdiffers.ways

end Disk

namespace Faults

open Disk

variable {faults : Faults} {d d' : Disk} {path : String} {content : ByteArray} {f : Failure}
  {p : Place} {node : Node}

/-! ### The directories above -/

lemma makeParents_part (hd : d.IsSound) (hup : ".." ∉ Path.components path)
    (h : faults.makeParents path d = .ok () d' ∨ ∃ f, faults.makeParents path d = .error f d') :
    d' = d ∨ ∃ name, Path.IsName name ∧ Path.fileName? path = some name ∧
      Path.components path = (Path.components path).dropLast ++ [name] ∧
        d.DeepensPart d' (Path.components path).dropLast := by
  have hnothing : faults.makeParents path = pure () → d' = d := by
    intro heq
    rw [heq] at h
    rcases h with h | ⟨f, h⟩ <;> cases h
    rfl
  by_cases hb : Path.backward path = []
  · refine Or.inl (hnothing ?_)
    simp only [makeParents, Path.parent?, hb]
    rcases (Path.front path.toList == ['.']) with _ | _ <;> rfl
  obtain ⟨name, hn, hfile, hc⟩ := Path.exists_fileName hb hup
  obtain ⟨above, habove⟩ := Path.exists_parent hb
  by_cases hempty : above = ""
  · refine Or.inl (hnothing ?_)
    simp only [makeParents, habove, hempty]
    rfl
  refine Or.inr ⟨name, hn, hfile, hc, ?_⟩
  have hcs := Path.components_parent habove
  have hl := (Path.isTrimmed_parent habove).ladder le_rfl fun hmem =>
    hup (List.dropLast_subset _ (hcs ▸ hmem))
  rw [hcs] at hl
  simp only [makeParents, habove, String.isEmpty_iff, hempty, if_false] at h
  rcases h with h | ⟨f, h⟩
  · obtain ⟨q, hq⟩ := ensureDirectories_ok hd hl (failingAt_eq_ok_iff.mp h)
    exact hq.part
  · obtain ⟨e, -, h⟩ := failingAt_eq_error_iff.mp h
    exact ensureDirectories_error hd hl h

/-- Where directories had to be made above a path that does not go back up, there is nothing at the
path, nor beside it. -/
lemma eq_of_entryAt (hd : d.IsSound) (hup : ".." ∉ Path.components path)
    (h : faults.makeParents path d = .ok () d' ∨ ∃ f, faults.makeParents path d = .error f d')
    (hentry : d'.entryAt path = .ok (p, node) ∨
      d'.entryAt (Naming.temporaryPath path) = .ok (p, node)) : d' = d := by
  rcases makeParents_part hd hup h with rfl | ⟨name, hn, hfile, hc, hpart⟩
  · rfl
  rcases hentry with hentry | hentry
  · exact hpart.eq_of_entryAt hd hn hc hentry
  · have hbeside := Path.components_withFileName hfile hn.temporaryName
    rw [Naming.temporaryPath, hfile, Option.getD_some] at hentry
    exact hpart.eq_of_entryAt hd hn.temporaryName hbeside hentry

lemma makeParents_spares (hd : d.IsSound)
    (h : faults.makeParents path d = .ok () d' ∨ ∃ f, faults.makeParents path d = .error f d') :
    d'.IsSound ∧ Spares path d d' := by
  have hgains := keeps_makeParents faults d path
  have hsound := keeps_isSound faults path
  have hboth : d'.IsSound ∧ d.GainsAt d' (Path.parents path) := by
    rcases h with h | ⟨f, h⟩
    · exact ⟨hsound.ok hd h, hgains.ok (.refl d _) h⟩
    · exact ⟨hsound.error hd h, hgains.error (.refl d _) h⟩
  refine ⟨hboth.1, hboth.2.spares hd hboth.1 fun hup p node hentry => ?_⟩
  exact eq_of_entryAt hd hup h (Or.inl hentry)

/-- There is no link beside a path once the directories above it are there. If the path does not go
back up, it is enough that there was none before. -/
lemma isNoLink_of_makeParents (hd : d.IsSound) (hlink : d.IsNoLink (Naming.temporaryPath path))
    (hup : ".." ∉ Path.components path) (h : faults.makeParents path d = .ok () d') :
    d'.IsNoLink (Naming.temporaryPath path) := by
  intro p target hl hp
  have hsame := eq_of_entryAt hd hup (Or.inl h) (Or.inr (hl.entryAt hp))
  rw [hsame] at hl hp
  exact hlink p target hl hp

lemma failure_of_makeParents (h : faults.makeParents path d = .error f d') :
    ∃ above e, Path.parent? path = some above ∧ f = .disk above e := by
  rcases hparent : Path.parent? path with _ | above
  · simp only [makeParents, hparent] at h
    cases h
  · simp only [makeParents, hparent] at h
    split at h
    · cases h
    · obtain ⟨e, rfl, -⟩ := failingAt_eq_error_iff.mp h
      exact ⟨above, e, rfl, rfl⟩

/-! ### The steps of moving a file -/

lemma FailsIn.differsAt (hlink : d.IsNoLink (Naming.temporaryPath path))
    (h : faults.FailsIn (moveSteps path content) d f d') :
    d.DiffersAt d' (Naming.temporaryPath path) := by
  rcases h.writeNew with ⟨e, hnew⟩ | hnew
  · exact differsAt_of_writeNew_error hlink hnew
  · exact differsAt_of_writeNew hlink hnew

/-- After the clearing up, still nothing has changed but what is beside the path, and if the file
there could be taken away, it is gone. -/
lemma discard_differsAt (hlink : d.IsNoLink (Naming.temporaryPath path))
    (h : faults.discard (Naming.temporaryPath path) d = .ok () d') :
    d.DiffersAt d' (Naming.temporaryPath path) ∧
      ∀ cleared, faults.perform (.remove (Naming.temporaryPath path)) d = .ok () cleared →
        d' = cleared ∧ d'.contains (Naming.temporaryPath path) = false := by
  rcases discard_ok h with hremove | ⟨rfl, e, hkept⟩
  · have hremoved : d.remove (Naming.temporaryPath path) = .ok d' :=
      (perform_eq_ok_iff.mp hremove).2
    have hdiffers := differsAt_of_remove hlink hremoved
    refine ⟨hdiffers, fun cleared hcleared => ?_⟩
    obtain ⟨-, rfl⟩ := EStateM.Result.ok.inj (hremove.symm.trans hcleared)
    obtain ⟨name, q, hl, -, rfl⟩ := exists_of_remove hremoved
    refine ⟨rfl, ?_⟩
    rw [(hl.kept hdiffers.ways).contains, get?_erase, if_pos rfl]
    rfl
  · refine ⟨.refl _ _, fun cleared hcleared => ?_⟩
    rw [hkept] at hcleared
    cases hcleared

/-- **A file that cannot be moved to its place** spares what is at the path. The failure names the
path above if the directories could not be made, and otherwise the one of the step that failed.
Nothing is then left beside the path, if it can be taken away. -/
theorem writeFile_spares (faults : Faults) (path : String) (content : ByteArray) (d : Disk)
    (hd : d.IsSound) (hlink : d.IsNoLink (Naming.temporaryPath path))
    (hup : ".." ∈ Path.components path → ∀ made, faults.makeParents path d = .ok () made →
      made.IsNoLink (Naming.temporaryPath path))
    (f : Failure) (d' : Disk) (h : faults.writeFile .atomic path content d = .error f d') :
    Spares path d d' ∧
      ((∃ above e, Path.parent? path = some above ∧ f = .disk above e ∧
          faults.makeParents path d = .error f d') ∨
        ∃ made failed, faults.makeParents path d = .ok () made ∧
          faults.FailsIn (moveSteps path content) made f failed ∧
          ∀ cleared, faults.perform (.remove (Naming.temporaryPath path)) failed = .ok () cleared →
            d' = cleared ∧ d'.contains (Naming.temporaryPath path) = false) := by
  rw [writeFile_eq] at h
  rcases bind_eq_error_iff.mp h with hparents | ⟨⟨⟩, made, hparents, hmove⟩
  · obtain ⟨above, e, habove, rfl⟩ := failure_of_makeParents hparents
    exact ⟨(makeParents_spares hd (Or.inr ⟨_, hparents⟩)).2,
      Or.inl ⟨above, e, habove, rfl, hparents⟩⟩
  · obtain ⟨hsound, hspares⟩ := makeParents_spares hd (Or.inl hparents)
    -- a link beside the path would be followed, and the file behind it lost
    have hfree : made.IsNoLink (Naming.temporaryPath path) := by
      by_cases hback : ".." ∈ Path.components path
      · exact hup hback made hparents
      · exact isNoLink_of_makeParents hd hlink hback hparents
    obtain ⟨failed, hfails, hdiscard⟩ := failsIn_of_moveFile hmove
    have hdiffers := hfails.differsAt hfree
    obtain ⟨hcleared, hgone⟩ := discard_differsAt (hdiffers.isNoLink hfree) hdiscard
    exact ⟨hspares.beside hsound (hdiffers.trans hcleared),
      Or.inr ⟨made, failed, hparents, hfails, hgone⟩⟩

/-- What has failed has left a disk of which something is true. -/
def failsWith (check : Failure → Disk → Bool) : EStateM.Result Failure Disk Unit → Bool
  | .ok _ _ => false
  | .error f d => check f d

lemma exists_of_failsWith {check : Failure → Disk → Bool}
    {result : EStateM.Result Failure Disk Unit} (h : failsWith check result = true) :
    ∃ f d, result = .error f d ∧ check f d = true := by
  cases result with
  | ok _ d => cases h
  | error f d => exact ⟨f, d, rfl, h⟩

/-- A device on which nothing can be moved. -/
def unmoving : Faults where
  error?
    | .rename _ _ => some .busy
    | _ => none
  kept := 0

/-- A working directory with a link, and with an old file beside it. -/
def linkedDisk : Disk :=
  ⟨["work"], [(["work"], .directory), (["pod.rs", "work"], .link "other.rs"),
    ([".pod.rs.kubegen-tmp", "work"], .file "old".toUTF8)]⟩

/-- The link is spared, and the old file beside it is gone. -/
theorem linkedDisk_spared : ∃ f d', linkedDisk.IsSound ∧
    linkedDisk.IsNoLink (Naming.temporaryPath "pod.rs") ∧ ".." ∉ Path.components "pod.rs" ∧
    unmoving.writeFile .atomic "pod.rs" "new".toUTF8 linkedDisk = .error f d' ∧
    f = .disk "pod.rs" .busy ∧ Spares "pod.rs" linkedDisk d' ∧
      ((∃ above e, Path.parent? "pod.rs" = some above ∧ f = .disk above e ∧
          unmoving.makeParents "pod.rs" linkedDisk = .error f d') ∨
        ∃ made failed, unmoving.makeParents "pod.rs" linkedDisk = .ok () made ∧
          unmoving.FailsIn (moveSteps "pod.rs" "new".toUTF8) made f failed ∧
          ∀ cleared, unmoving.perform (.remove (Naming.temporaryPath "pod.rs")) failed =
            .ok () cleared → d' = cleared ∧
              d'.contains (Naming.temporaryPath "pod.rs") = false) := by
  have hfails : failsWith (fun f _ => decide (f = .disk "pod.rs" .busy))
      (unmoving.writeFile .atomic "pod.rs" "new".toUTF8 linkedDisk) = true := by decide +kernel
  obtain ⟨f, d', h, hf⟩ := exists_of_failsWith hfails
  have hsound : linkedDisk.IsSound := isSound_of_check (by decide +kernel)
  have hlink : linkedDisk.IsNoLink (Naming.temporaryPath "pod.rs") :=
    isNoLink_of_check (by decide +kernel)
  have hup : ".." ∉ Path.components "pod.rs" := by decide +kernel
  exact ⟨f, d', hsound, hlink, hup, h, of_decide_eq_true hf, writeFile_spares _ _ _ _ hsound hlink
    (fun hback => absurd hback hup) f d' h⟩

/-- A path that goes back up, through a directory that is missing. This directory is made, and then
it is what the path leads to. -/
theorem missingAbove_made : ∃ f d',
    Faults.never.writeFile .atomic "a/../a" "new".toUTF8 (Disk.empty ["work"]) = .error f d' ∧
    f = .disk "a/../a" .isDirectory ∧
    (Disk.empty ["work"]).entryAt "a/../a" = .error .noEntry ∧
    (Disk.empty ["work"]).entryAt (Naming.temporaryPath "a/../a") = .error .noEntry ∧
    d'.entryAt "a/../a" = .ok (["a", "work"], .directory) := by
  have hfails : failsWith (fun f d => decide (f = .disk "a/../a" .isDirectory) &&
      decide (d.entryAt "a/../a" = .ok (["a", "work"], .directory)))
      (Faults.never.writeFile .atomic "a/../a" "new".toUTF8 (Disk.empty ["work"])) = true := by
    decide +kernel
  obtain ⟨f, d', h, hf⟩ := exists_of_failsWith hfails
  rw [Bool.and_eq_true, decide_eq_true_eq, decide_eq_true_eq] at hf
  exact ⟨f, d', h, hf.1, by decide +kernel, by decide +kernel, hf.2⟩

end Faults

end ClientGen
