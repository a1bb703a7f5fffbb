import ClientGen.Proofs.Generator.Completeness

/-!
Streaming runs that fail. A run stops at one file of the plan: those before it are there with their
texts, and those behind it are not. At the file itself there can be something only if the disk
failed in the middle of it. Beside a file there can be something only if the disk would not let go
of it, or if it was there before, below a root that cannot be looked up. There is a run for each of
the two.
-/

namespace ClientGen

open Spec Disk

/-- A failure to make a text, with the path for which it was made. -/
def Failure.isAbout (path : String) : Failure → Prop
  | .template _ p _ | .format _ p _ => p = path
  | _ => False

lemma Compiled.isAbout_of_render {c : Compiled} {role : Role}
    {values : List (String × Template.Value)} {destination : String} {e : Failure}
    (h : c.render role values destination = .error e) : e.isAbout destination := by
  rw [render] at h
  rcases hr : Template.renderTemplate c.templates role.template values with f | text
  · rw [hr] at h
    cases h
    rfl
  · rw [hr] at h
    cases h

lemma Generator.isAbout_of_textOf {g : Generator} {c : Compiled} {d : Disk} {file : PlannedFile}
    {e : Failure} (h : g.textOf c d file = .error e) : e.isAbout file.destination := by
  rw [textOf, produce] at h
  rcases hr : c.render file.role file.context.fields file.destination with f | text
  · rw [hr] at h
    cases h
    exact Compiled.isAbout_of_render hr
  · simp only [hr, format] at h
    rcases hf : g.formatter.format text d with ⟨formatted, d'⟩ | ⟨fault, d'⟩
    · simp [hf] at h
    · simp only [hf] at h
      cases h
      rfl

lemma Generator.isProduction_of_write {g : Generator} {d d' : Disk} {file : PlannedFile}
    {text : String} {e : Failure} (h : g.write file text d = .error e d') :
    e.isProduction = false := by
  have hdisk : e.isDisk = true := failsOnlyWith_write file text _ _ _ h
  by_contra hproduction
  rw [Failure.isDisk_of_isProduction (by simpa using hproduction)] at hdisk
  cases hdisk

/-- What a streaming run leaves that stops at `file` with the failure `e`. -/
structure Interrupted (g : Generator) (c : Compiled) (root : String) (d d' : Disk)
    (before : List PlannedFile) (file : PlannedFile) (after : List PlannedFile) (e : Failure) :
    Prop where
  written : ∀ f ∈ before, ∃ text, g.textOf c d f = .ok text ∧
    d'.HasFile f.destination text.toUTF8
  unwritten : ∀ f ∈ after, d'.contains f.destination = false
  /-- For want of a text, nothing is written, and the failure says for which file. -/
  unproduced : e.isProduction = true →
    d'.contains file.destination = false ∧ e.isAbout file.destination
  /-- A file is found beside a planned one only if the disk refuses to take it away, or if it was
  there before. The latter needs a root that cannot be looked up: of a path that is too long, a part
  that is not may lead to a directory with such a file in it. -/
  temporary : ∀ f ∈ before ++ file :: after,
    d'.contains (Naming.temporaryPath f.destination) = true →
      (∃ refusal, g.faults.error? (.remove (Naming.temporaryPath f.destination)) = some refusal) ∨
        checkPath root ≠ .ok () ∧ d.contains (Naming.temporaryPath f.destination) = true

section Stops

variable {root : String} {files after : List PlannedFile} {file : PlannedFile} {d₀ d d' : Disk}
  {done : List (PlannedFile × String)} {g : Generator} {c : Compiled} {e : Failure}

lemma Disk.Left.no_file (hp : ArePlaced root files) (hd : d.IsSound)
    {pages : List (List String × ByteArray)}
    (hleft : Left (Path.components root) (placesOf root files) d₀ pages d) {f : PlannedFile}
    (hf : f ∈ files) (hpages : ∀ page ∈ pages, page.1 ≠ Path.below root f.destination) :
    d.contains f.destination = false := by
  obtain ⟨dirs, name, hb, hl⟩ := hp.liesAt f hf
  rw [hb] at hpages
  have hmem : dirs ++ [name] ∈ placesOf root files := hb ▸ List.mem_map_of_mem hf
  exact hleft.not_contains hd hl hpages (hp.apart.way _ hmem)

lemma Disk.Left.no_temporary (hp : ArePlaced root files) (hd : d.IsSound)
    {pages : List (List String × ByteArray)}
    (hleft : Left (Path.components root) (placesOf root files) d₀ pages d) {f : PlannedFile}
    (hf : f ∈ files) (hpages : ∀ page ∈ pages,
      page.1 ≠ Path.below root (Naming.temporaryPath f.destination)) :
    d.contains (Naming.temporaryPath f.destination) = false := by
  obtain ⟨dirs, name, hb, hl⟩ := hp.liesAt f hf
  rw [hl.temporary.below] at hpages
  have hmem : dirs ++ [name] ∈ placesOf root files := hb ▸ List.mem_map_of_mem hf
  exact hleft.not_contains hd hl.temporary hpages (hp.apart.temporary_way _ _ hmem)

lemma ArePlaced.below_ne (hp : ArePlaced root files) {f f' : PlannedFile} (hf : f ∈ files)
    (hf' : f' ∈ files) (hne : f ≠ f') :
    Path.below root f.destination ≠ Path.below root f'.destination := fun h =>
  hne (List.inj_on_of_nodup_map hp.nodup hf hf' h)

lemma ArePlaced.temporary_below_ne (hp : ArePlaced root files) {f f' : PlannedFile}
    (hf : f ∈ files) (hf' : f' ∈ files) : Path.below root f.destination ≠
      Path.below root (Naming.temporaryPath f'.destination) := by
  obtain ⟨dirs, name, hb, hl⟩ := hp.liesAt f' hf'
  intro h
  rw [hl.temporary.below] at h
  exact hp.apart.temporary dirs name (hb ▸ List.mem_map_of_mem hf') (h ▸ List.mem_map_of_mem hf)

lemma ArePlaced.temporary_ne (hp : ArePlaced root files) {f f' : PlannedFile} (hf : f ∈ files)
    (hf' : f' ∈ files) (hne : f ≠ f') : Path.below root (Naming.temporaryPath f.destination) ≠
      Path.below root (Naming.temporaryPath f'.destination) := by
  obtain ⟨dirs, name, hb, hl⟩ := hp.liesAt f hf
  obtain ⟨dirs', name', hb', hl'⟩ := hp.liesAt f' hf'
  intro h
  rw [hl.temporary.below, hl'.temporary.below] at h
  obtain ⟨rfl, hname⟩ := List.append_inj' h rfl
  refine hp.below_ne hf hf' hne ?_
  rw [hb, hb', Path.temporaryName_inj (List.cons.inj hname).1]

section Interrupted

variable (hp : ArePlaced root (done.map Prod.fst ++ file :: after))

include hp

lemma ArePlaced.apart_of_append : (∀ x ∈ done, x.1 ≠ file ∧ ∀ f ∈ after, x.1 ≠ f) ∧
    ∀ f ∈ after, file ≠ f := by
  have hnodup := hp.nodup.of_map
  rw [List.nodup_append, List.nodup_cons] at hnodup
  obtain ⟨-, ⟨hfile, -⟩, hdone⟩ := hnodup
  have hne : ∀ x ∈ done, ∀ f ∈ file :: after, x.1 ≠ f := fun x hx f hf =>
    hdone x.1 (List.mem_map_of_mem hx) f hf
  refine ⟨fun x hx => ⟨hne x hx file List.mem_cons_self, fun f hf => ?_⟩, fun f hf he => ?_⟩
  · exact hne x hx f (List.mem_cons_of_mem _ hf)
  · exact hfile (he ▸ hf)

/-- What is left of the file at which a run has stopped. -/
def AreRemains (faults : Faults) (root : String) (file : PlannedFile)
    (more : List (List String × ByteArray)) : Prop :=
  ∀ page ∈ more, page.1 = Path.below root file.destination ∨
    page.1 = Path.below root (Naming.temporaryPath file.destination) ∧
      ∃ e, faults.error? (.remove (Naming.temporaryPath file.destination)) = some e

variable (hd : d.IsSound) {more : List (List String × ByteArray)}
  (hleft : Left (Path.components root) (placesOf root (done.map Prod.fst ++ file :: after)) d₀
    (pagesOf root done ++ more) d)
  (hmore : AreRemains g.faults root file more)

include hd hleft hmore

lemma Disk.Left.unwritten : ∀ f ∈ after, d.contains f.destination = false := by
  obtain ⟨hdone, hafter⟩ := hp.apart_of_append
  intro f hf
  have hmem : f ∈ done.map Prod.fst ++ file :: after := by simp [hf]
  refine hleft.no_file hp hd hmem fun page hpage => ?_
  rcases List.mem_append.mp hpage with hpage | hpage
  · obtain ⟨x, hx, rfl⟩ := List.mem_map.mp hpage
    exact hp.below_ne (List.mem_append_left _ (List.mem_map_of_mem hx)) hmem ((hdone x hx).2 f hf)
  · rcases hmore page hpage with heq | ⟨heq, -⟩ <;> rw [heq]
    · exact hp.below_ne (by simp) hmem (hafter f hf)
    · exact (hp.temporary_below_ne hmem (by simp)).symm

lemma Disk.Left.temporary : ∀ f ∈ done.map Prod.fst ++ file :: after,
    d.contains (Naming.temporaryPath f.destination) = true →
      ∃ refusal, g.faults.error? (.remove (Naming.temporaryPath f.destination)) =
        some refusal := by
  intro f hf hcontains
  by_contra hkept
  rw [hleft.no_temporary hp hd hf fun page hpage => ?_] at hcontains
  · cases hcontains
  rcases List.mem_append.mp hpage with hpage | hpage
  · obtain ⟨x, hx, rfl⟩ := List.mem_map.mp hpage
    exact hp.temporary_below_ne (List.mem_append_left _ (List.mem_map_of_mem hx)) hf
  · rcases hmore page hpage with heq | ⟨heq, hfault⟩ <;> rw [heq]
    · exact hp.temporary_below_ne (by simp) hf
    · by_cases hfile : file = f
      · exact absurd (hfile ▸ hfault) hkept
      · exact hp.temporary_ne (by simp) hf hfile

end Interrupted

/-- **A run that stops at a file** leaves the files before it and nothing of those behind it. -/
theorem StopsAt.interrupted (hd : d₀.IsSound) (hup : ".." ∉ Path.components root)
    (hp : ArePlaced root (done.map Prod.fst ++ file :: after)) (htexts : AreTexts g c d₀ done)
    (h : StopsAt g c root (done.map Prod.fst ++ file :: after) d₀ done file e d) :
    Interrupted g c root d₀ d (done.map Prod.fst) file after e := by
  have hfile : file ∈ done.map Prod.fst ++ file :: after := by simp
  cases h with
  | text hw ht =>
    have hsound := hw.begun.sound hd
    have hleft := hw.begun.left
    have hnothing : AreRemains g.faults root file [] := by simp [AreRemains]
    rw [← List.append_nil (pagesOf root done)] at hleft
    refine ⟨fun f hf => ?_, hleft.unwritten hp hsound hnothing, fun _ => ⟨?_, ?_⟩,
      fun f hf hcontains => Or.inl (hleft.temporary hp hsound hnothing f hf hcontains)⟩
    · obtain ⟨x, hx, rfl⟩ := List.mem_map.mp hf
      exact ⟨x.2, htexts x hx, hw.hasFile (.refl d) hx⟩
    · refine hw.begun.left.no_file hp hsound hfile fun page hpage => ?_
      obtain ⟨x, hx, rfl⟩ := List.mem_map.mp hpage
      exact hp.below_ne (List.mem_append_left _ (List.mem_map_of_mem hx)) hfile
        (hp.apart_of_append.1 x hx).1
    · exact Generator.isAbout_of_textOf ht
  | write text hw ht ho =>
    obtain ⟨hwithin, hsound, more, hleft, hmore⟩ := hw.step_error hd hup hp rfl ho
    refine ⟨fun f hf => ?_, hleft.unwritten hp hsound hmore, fun hproduction => ?_,
      fun f hf hcontains => Or.inl (hleft.temporary hp hsound hmore f hf hcontains)⟩
    · obtain ⟨x, hx, rfl⟩ := List.mem_map.mp hf
      exact ⟨x.2, htexts x hx, hw.hasFile hwithin hx⟩
    · rw [Generator.isProduction_of_write ho] at hproduction
      cases hproduction

section Unseen

variable (hroot : root ≠ "") (hp : ArePlaced root (file :: after))
  (hcheck : checkPath root ≠ .ok ())

include hroot hp hcheck

/-- Below a root that cannot be looked up, nothing can be. -/
lemma ArePlaced.checkPath_ne : ∀ f ∈ file :: after, checkPath f.destination ≠ .ok () :=
  fun f hf hok => hcheck (checkPath_of_begins (hp.begins f hf) hroot hok)

lemma interrupted_first (hothers : ∀ f ∈ after,
      root.toList <+: (Naming.temporaryPath f.destination).toList)
    (habout : e.isProduction = true → e.isAbout file.destination)
    (htemporary : d'.contains (Naming.temporaryPath file.destination) = true →
      d.contains (Naming.temporaryPath file.destination) = true ∨ ∃ refusal,
        g.faults.error? (.remove (Naming.temporaryPath file.destination)) = some refusal) :
    Interrupted g c root d d' [] file after e := by
  have hnone : ∀ f ∈ file :: after, d'.contains f.destination = false := fun f hf =>
    not_contains_of_check (hp.checkPath_ne hroot hcheck f hf)
  refine ⟨by simp, fun f hf => hnone f (List.mem_cons_of_mem _ hf),
    fun hproduction => ⟨hnone file List.mem_cons_self, habout hproduction⟩,
    fun f hf hcontains => ?_⟩
  rcases List.mem_cons.mp hf with rfl | hf
  · exact (htemporary hcontains).symm.imp_right fun hbefore => ⟨hcheck, hbefore⟩
  · -- what is beside the other files cannot be looked up either
    rw [not_contains_of_check fun hok =>
      hcheck (checkPath_of_begins (hothers f hf) hroot hok)] at hcontains
    cases hcontains

/-- A run below such a root stops at its first file. -/
lemma interrupted_of_check (hd : d.IsSound) (hup : ".." ∉ Path.components root)
    (hhead : IsHeaded root file after) (hkeeps : g.formatter.Keeps d)
    (hleads : ∃ p, d.Leads (Path.components root) p)
    (h : (g.stream c (file :: after) d).result = .error e) :
    (g.stream c (file :: after) d).events = [Generator.announcement file] ∧
      Interrupted g c root d (g.stream c (file :: after) d).disk [] file after e := by
  obtain ⟨⟨name, hl⟩, hothers⟩ := hhead
  obtain ⟨p, hleads⟩ := hleads
  rw [Generator.stream] at h ⊢
  rcases ht : g.textOf c d file with e' | text
  · rw [Generator.produce_error hkeeps ht] at h ⊢
    obtain rfl : e' = e := Except.error.inj h
    exact ⟨rfl, interrupted_first hroot hp hcheck hothers
      (fun _ => Generator.isAbout_of_textOf ht) Or.inl⟩
  · rw [Generator.produce_ok hkeeps ht] at h ⊢
    dsimp only at h ⊢
    rcases ho : g.write file text d with ⟨⟨⟩, d'⟩ | ⟨e', d'⟩
    · exact absurd (checkPath_of_write hp hroot List.mem_cons_self ho) hcheck
    · rw [ho] at h
      obtain rfl : e' = e := Except.error.inj h
      have hunseen := hp.checkPath_ne hroot hcheck file List.mem_cons_self
      refine ⟨rfl, interrupted_first hroot hp hcheck hothers (fun hproduction => ?_)
        fun hcontains => ?_⟩
      · rw [Generator.isProduction_of_write ho] at hproduction
        cases hproduction
      · exact Faults.contains_of_writeFile hl.endsIn hl.components hd (hl.no_up hup)
          (by rwa [List.append_nil]) hunseen ho hcontains

end Unseen

lemma stream_interrupted {first : PlannedFile} {rest : List PlannedFile} (hd : d.IsSound)
    (hroot : root ≠ "") (hup : ".." ∉ Path.components root)
    (hp : ArePlaced root (first :: rest)) (hhead : IsHeaded root first rest)
    (hfree : d.isDirectory root = false) (hpure : g.formatter.IsPureFrom d)
    (h : (g.stream c (first :: rest) d).result = .error e) :
    ∃ before file after, first :: rest = before ++ file :: after ∧
      (g.stream c (first :: rest) d).events = (before ++ [file]).map Generator.announcement ∧
      Interrupted g c root d (g.stream c (first :: rest) d).disk before file after e := by
  by_cases hleads : ∃ p, d.Leads (Path.components root) p
  · -- the root cannot be looked up, though its components lead to a directory
    have hcheck : checkPath root ≠ .ok () := fun hcheck =>
      not_leads_root hcheck hfree _ hleads.choose_spec
    obtain ⟨hevents, hinterrupted⟩ :=
      interrupted_of_check hroot hp hcheck hd hup hhead (hpure.keeps (.refl d)) hleads h
    exact ⟨[], first, rest, rfl, hevents, hinterrupted⟩
  · have hrun := (hasWritten_nil (not_exists.mp hleads)).stream hd hup hp hpure (c := c) rfl
    rw [h] at hrun
    obtain ⟨done, file, after, hfiles, htexts, hevents, hstops⟩ := hrun
    rw [hfiles] at hp hevents hstops ⊢
    exact ⟨_, file, after, rfl, hevents, hstops.interrupted hd hup hp htexts⟩

end Stops

/-- **A streaming run that fails leaves a beginning of the plan.** If the root is no directory
before, then the files before the one at which the run stops are there, each with the text that was
made for it, and no other file of the plan is, but for what a failing disk leaves of one. -/
theorem emit_leaves_beginning (layout : Layout) (specs : List Resource) (t : Tree)
    (ht : (Tree.build layout specs).result = .ok t) (g : Generator)
    (hstrategy : g.strategy = .streaming) (c : Compiled) (hc : g.templates.compile = .ok c)
    (d : Disk) (hd : d.IsSound) (hroot : layout.rootPath ≠ "")
    (hup : ".." ∉ Path.components layout.rootPath)
    (hfree : d.isDirectory layout.rootPath = false) (hpure : g.formatter.IsPureFrom d)
    (e : Failure) (h : (g.emit t.plan d).result = .error e) :
    ∃ before file after, t.plan = before ++ file :: after ∧
      (g.emit t.plan d).events = (before ++ [file]).map Generator.announcement ∧
      Interrupted g c layout.rootPath d (g.emit t.plan d).disk before file after e := by
  have hcarry : ∀ files, g.carry c files d = g.stream c files d := fun files => by
    rw [Generator.carry, hstrategy]
  rw [Generator.emit_eq_error_iff hc, hcarry] at h
  rw [Generator.emit_of_compile hc, hcarry]
  have hp := plan_arePlaced ht
  obtain ⟨first, rest, hplan, hhead⟩ := plan_isHeaded ht
  rw [hplan] at hp h ⊢
  exact stream_interrupted hd hroot hup hp hhead hfree hpure h

/-- A generator whose templates are their own names, on a device that does not move one file. -/
def haltingGenerator : Generator where
  templates := ⟨.standard, Role.template⟩
  formatter := .pure "fmt" .ok
  mode := .atomic
  strategy := .streaming
  faults :=
    { error? := fun
        | .rename _ target =>
          if target = "generated/core/v1/pod_reader.rs" then some .busy else none
        | _ => none
      kept := 0 }

def emptyDisk : Disk := ⟨["work"], [(["work"], .directory)]⟩

/-- The files of one resource, of which the fourth cannot be moved to its place. -/
theorem emptyDisk_interrupted : ∃ t c e, (Tree.build {} podOnly).result = .ok t ∧
    haltingGenerator.templates.compile = .ok c ∧
    (haltingGenerator.emit t.plan emptyDisk).result = .error e ∧
    e = .disk "generated/core/v1/pod_reader.rs" .busy ∧
    ∃ before file after, t.plan = before ++ file :: after ∧
      (haltingGenerator.emit t.plan emptyDisk).events =
        (before ++ [file]).map Generator.announcement ∧
      Interrupted haltingGenerator c "generated" emptyDisk
        (haltingGenerator.emit t.plan emptyDisk).disk before file after e := by
  have hrun : (match (Tree.build {} podOnly).result with
      | .ok t => match (haltingGenerator.emit t.plan emptyDisk).result with
        | .ok _ => false
        | .error e => decide (e = .disk "generated/core/v1/pod_reader.rs" .busy)
      | .error _ => false) = true := by
    decide +kernel
  have hcompiles : haltingGenerator.templates.compile.isOk = true := by decide +kernel
  rcases ht : (Tree.build {} podOnly).result with e | t
  · simp [ht] at hrun
  rcases hc : haltingGenerator.templates.compile with e | c
  · rw [hc] at hcompiles
    cases hcompiles
  rw [ht] at hrun
  rcases he : (haltingGenerator.emit t.plan emptyDisk).result with e | written
  · simp only [he, decide_eq_true_eq] at hrun
    exact ⟨t, c, e, rfl, rfl, he, hrun, emit_leaves_beginning {} podOnly t ht haltingGenerator rfl
      c hc emptyDisk (isSound_of_check (by decide +kernel)) (by decide) (by decide +kernel)
      (by decide +kernel) ((Formatter.pure_isPure "fmt" .ok).isPureFrom emptyDisk) e he⟩
  · simp [he] at hrun

/-! ### Temporary files that stay -/

/-- A streaming run stops, and afterwards there is a file beside a planned one, though there was
nothing at the root before. -/
structure StopsBeside (g : Generator) (layout : Layout) (specs : List Resource) (d : Disk)
    (t : Tree) (e : Failure) : Prop where
  build : (Tree.build layout specs).result = .ok t
  strategy : g.strategy = .streaming
  pure : g.formatter.IsPure
  sound : d.IsSound
  root : layout.rootPath ≠ "" ∧ ".." ∉ Path.components layout.rootPath
  free : d.contains layout.rootPath = false
  stops : (g.emit t.plan d).result = .error e
  beside : ∃ file ∈ t.plan,
    (g.emit t.plan d).disk.contains (Naming.temporaryPath file.destination) = true

/-- The same generator on a device that, besides, does not let go of what could not be moved. -/
def keepingGenerator : Generator :=
  { haltingGenerator with
    faults :=
      { error? := fun
          | .remove path =>
            if path = "generated/core/v1/.pod_reader.rs.kubegen-tmp" then some .busy else none
          | op => haltingGenerator.faults.error? op
        kept := 0 } }

lemma keepingGenerator_stops : ∃ t, StopsBeside keepingGenerator {} podOnly emptyDisk t
    (.disk "generated/core/v1/pod_reader.rs" .busy) := by
  have hrun : (match (Tree.build {} podOnly).result with
      | .ok t =>
        let outcome := keepingGenerator.emit t.plan emptyDisk
        (match outcome.result with
        | .ok _ => false
        | .error e => decide (e = .disk "generated/core/v1/pod_reader.rs" .busy)) &&
        t.plan.any fun f => outcome.disk.contains (Naming.temporaryPath f.destination)
      | .error _ => false) = true := by
    decide +kernel
  rcases ht : (Tree.build {} podOnly).result with e | t
  · simp [ht] at hrun
  rw [ht] at hrun
  rcases he : (keepingGenerator.emit t.plan emptyDisk).result with e | written
  · simp only [he, Bool.and_eq_true, decide_eq_true_eq, List.any_eq_true] at hrun
    obtain ⟨rfl, hbeside⟩ := hrun
    exact ⟨t, ht, rfl, Formatter.pure_isPure "fmt" .ok, isSound_of_check (by decide +kernel),
      by decide +kernel, by decide +kernel, he, hbeside⟩
  · simp [he] at hrun

/-- A name with slashes behind it. -/
def trailing (slashes : Nat) : String := "g" ++ String.ofList (List.replicate slashes '/')

lemma trailing_toList (n : Nat) : (trailing n).toList = 'g' :: List.replicate n '/' := by
  simp [trailing]

lemma trailing_ne_empty (n : Nat) : trailing n ≠ "" := by
  intro h
  have htext := trailing_toList n
  rw [h] at htext
  cases htext

lemma components_trailing (n : Nat) : Path.components (trailing n) = ["g"] := by
  have hslashes : ∀ n, Path.pieces (List.replicate n '/') = [] := by
    intro n
    induction n with
    | zero => rfl
    | succ n ih => rw [List.replicate_succ, Path.pieces_slash, ih]
  have hpieces : Path.pieces ('g' :: List.replicate n '/') = [['g']] := by
    rcases n with _ | n
    · decide
    · rw [List.replicate_succ]
      exact (Path.pieces_append ['g'] _).trans (by rw [hslashes, List.append_nil]; decide)
  rw [Path.components, trailing_toList, hpieces, Path.lead]
  simp [Path.front]

/-- With that many slashes it is too long to be looked up. -/
lemma checkPath_trailing : checkPath (trailing longestPath) ≠ .ok () := by
  have hslashes : ∀ n, (String.ofList (List.replicate n '/')).utf8ByteSize = n := by
    intro n
    induction n with
    | zero => rfl
    | succ n ih =>
      rw [List.replicate_succ, String.ofList_cons, String.utf8ByteSize_append, ih,
        String.utf8ByteSize_singleton]
      exact Nat.add_comm 1 n
  intro h
  obtain ⟨-, -, hlength⟩ := checkPath_eq_ok_iff.mp h
  rw [trailing, String.utf8ByteSize_append, hslashes] at hlength
  have hname : "g".utf8ByteSize = 1 := rfl
  omega

/-! A file there has a path that is as long. The path one level up is short, and so is the one that
leads down from it to the file beside. -/

lemma join_trailing_toList (n : Nat) : (Path.join (trailing (n + 1)) Naming.clientFile).toList =
    'g' :: (List.replicate (n + 1) '/' ++ Naming.clientFile.toList) := by
  have hlast : (trailing (n + 1)).toList.getLast? = some '/' := by
    rw [trailing_toList, List.replicate_succ', ← List.cons_append, List.getLast?_concat]
  rw [Path.join, isName_clientFile.not_absolute, if_neg (by simp), if_pos (by simp [hlast]),
    String.toList_append, trailing_toList, List.cons_append]

lemma backward_join_trailing (n : Nat) :
    Path.backward (Path.join (trailing (n + 1)) Naming.clientFile) =
      Naming.clientFile.toList.reverse ++ '/' :: (List.replicate n '/' ++ ['g']) := by
  have hfront : ∀ cs, Path.front ('g' :: cs) = [] := fun cs => by simp [Path.front]
  rw [Path.backward, join_trailing_toList, hfront, List.length_nil, List.drop_zero,
    List.reverse_cons, List.reverse_append, List.reverse_replicate, List.append_assoc,
    List.replicate_succ, List.cons_append, isName_clientFile.trimEnd_eq (Or.inr ⟨_, rfl⟩)]

lemma trimEnd_slashes (n : Nat) : Path.trimEnd (List.replicate n '/' ++ ['g']) = ['g'] := by
  induction n with
  | zero => rfl
  | succ n ih => rw [List.replicate_succ, List.cons_append, Path.trimEnd, ih]

lemma parent?_join_trailing (n : Nat) :
    Path.parent? (Path.join (trailing (n + 1)) Naming.clientFile) = some "g" := by
  rw [Path.parent?_of_backward (by simpa using isName_clientFile.no_slash)
    (backward_join_trailing n), trimEnd_slashes, join_trailing_toList]
  rfl

lemma temporaryPath_trailing (n : Nat) :
    Naming.temporaryPath (Path.join (trailing (n + 1)) Naming.clientFile) =
      "g/.client.rs.kubegen-tmp" := by
  have hbeside : Path.join "g" (Path.temporaryName Naming.clientFile) =
      "g/.client.rs.kubegen-tmp" := by decide
  rw [Path.temporaryPath_eq (Path.endsIn_join _ isName_clientFile), Path.withFileName,
    Path.fileName?_join isName_clientFile, parent?_join_trailing]
  exact hbeside

/-- A generator whose formatter is a program that is not there. -/
def formatlessGenerator : Generator where
  templates := ⟨.standard, Role.template⟩
  formatter := Program.standard.formatterBy .absent
  mode := .replace
  strategy := .streaming
  faults := .never

/-- A working directory with a directory in which a temporary file is left from before. -/
def besideDisk : Disk where
  current := ["work"]
  entries := [([".client.rs.kubegen-tmp", "g", "work"], .file .empty),
    (["g", "work"], .directory), (["work"], .directory)]

lemma formatlessGenerator_stops : ∃ t e, StopsBeside formatlessGenerator
    { rootPath := trailing longestPath } podOnly besideDisk t e := by
  have haccepted : (Tree.build {} podOnly).result.isOk = true := by decide +kernel
  have hcompiles : formatlessGenerator.templates.compile.isOk = true := by decide +kernel
  have hpure : formatlessGenerator.formatter.IsPure :=
    Program.formatterBy_isPure (fun _ _ => .error .noEntry) _
  obtain ⟨t, ht⟩ :
      ∃ t, (Tree.build { rootPath := trailing longestPath } podOnly).result = .ok t := by
    rcases h : (Tree.build {} podOnly).result with e | t
    · rw [h] at haccepted
      cases haccepted
    · exact Tree.build_ok_iff.mpr (Tree.build_ok_iff.mp ⟨t, h⟩)
  rcases hc : formatlessGenerator.templates.compile with e | c
  · rw [hc] at hcompiles
    cases hcompiles
  -- whether or not the first file can be rendered, its text is never formatted
  obtain ⟨e, he⟩ : ∃ e, formatlessGenerator.textOf c besideDisk t.rootFile = .error e := by
    rw [Generator.textOf, Generator.produce]
    rcases c.render t.rootFile.role t.rootFile.context.fields t.rootFile.destination with e | text
    · exact ⟨e, rfl⟩
    · exact ⟨_, rfl⟩
  have hstream : formatlessGenerator.carry c t.plan besideDisk =
      ⟨.error e, besideDisk, [Generator.announcement t.rootFile]⟩ := by
    have hcarry : ∀ files, formatlessGenerator.carry c files besideDisk =
      formatlessGenerator.stream c files besideDisk := fun _ => rfl
    rw [hcarry, plan_eq, Generator.stream, Generator.produce_error (hpure.keepsDisk.keeps _) he]
    rfl
  refine ⟨t, e, ht, rfl, hpure, isSound_of_check (by decide +kernel), ⟨?_, ?_⟩,
    not_contains_of_check checkPath_trailing, ?_, t.rootFile, ?_, ?_⟩
  · exact trailing_ne_empty _
  · rw [components_trailing]
    decide
  · rw [Generator.emit_eq_error_iff hc, hstream]
  · rw [plan_eq]
    exact List.mem_cons_self
  · rw [Generator.emit_disk hc, hstream, rootFile_destination ht]
    exact (congrArg besideDisk.contains (temporaryPath_trailing 4094)).trans (by decide +kernel)

/-- **Temporary files can stay.** A device can refuse to take one away. And one that was there
before stays beside a root that is too long to be looked up, though a part of it is a directory. -/
theorem temporary_stays :
    (∃ t, StopsBeside keepingGenerator {} podOnly emptyDisk t
      (.disk "generated/core/v1/pod_reader.rs" .busy)) ∧
    ∃ t e, StopsBeside formatlessGenerator { rootPath := trailing longestPath } podOnly besideDisk
      t e :=
  ⟨keepingGenerator_stops, formatlessGenerator_stops⟩

end ClientGen
