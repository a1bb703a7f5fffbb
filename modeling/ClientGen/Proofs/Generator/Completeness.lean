import ClientGen.Proofs.Generator.Growth
import ClientGen.Proofs.Generator.Untouched
import ClientGen.Proofs.Tree.Acceptance

/-!
Runs that succeed. If there is no directory at the root before, there is one afterwards that holds
the planned files and nothing else, each with its own text, and the rest of the disk is what it was,
but for directories above the root.
-/

namespace ClientGen

open Spec Disk

/-- The disk holds a file with this content at a path. -/
def Disk.HasFile (d : Disk) (path : String) (content : ByteArray) : Prop :=
  ∃ place, d.entryAt path = .ok (place, .file content)

/-- The root has come to be a directory at the place `P`, with the given pages below it: paths and
what the files there hold. -/
structure Disk.Furnished (root : String) (P : Place) (pages : List (String × String))
    (d d' : Disk) : Prop where
  root : d'.resolve root = .ok (P, .directory)
  free : d.get? P = none
  current : d'.current = d.current
  files : ∀ page ∈ pages, d'.HasFile page.1 page.2.toUTF8
  /-- Below the root there are the pages and the directories above them. -/
  inside : ∀ p node, P <:+ p → d'.get? p = some node →
    (∃ page ∈ pages, d'.entryAt page.1 = .ok (p, node)) ∨
      node = .directory ∧ ∃ page ∈ pages, ∃ place file,
        d'.entryAt page.1 = .ok (place, file) ∧ p <:+ place ∧ p ≠ place
  /-- Elsewhere nothing changes, but directories above the root are made where there were none. -/
  outside : ∀ p, ¬ P <:+ p → d'.get? p = d.get? p ∨
    p <:+ P ∧ d.get? p = none ∧ d'.get? p = some .directory

section Written

variable {root : String} {files : List PlannedFile} {d₀ d d' : Disk} {P : Place}
  {done : List (PlannedFile × String)} {g : Generator} {c : Compiled}

lemma HasWritten.exists_grows (hw : HasWritten root files d₀ done d) (hne : done ≠ []) :
    ∃ P, Grows (Path.components root) (placesOf root files) d₀ P (pagesOf root done) d := by
  obtain ⟨pages, hpages⟩ : ∃ pages, pagesOf root done = pages := ⟨_, rfl⟩
  have hb := hw.begun
  rw [hpages] at hb ⊢
  cases hb with
  | bare => exact absurd (List.map_eq_nil_iff.mp hpages) hne
  | grown P h => exact ⟨P, h⟩

lemma HasWritten.entryAt (hw : HasWritten root files d₀ done d)
    (hP : Grows (Path.components root) (placesOf root files) d₀ P (pagesOf root done) d)
    {x : PlannedFile × String} (hx : x ∈ done) : d.entryAt x.1.destination =
      .ok ((Path.below root x.1.destination).reverse ++ P, .file x.2.toUTF8) := by
  obtain ⟨dirs, name, q, hl, hr⟩ := hw.reached x hx
  obtain rfl := hP.place hl.isName hr.leads
  have hpage := hP.pages _ (List.mem_map_of_mem hx)
  rw [hl.below, List.reverse_concat, List.cons_append] at hpage ⊢
  exact hr.entryAt hpage

lemma HasWritten.hasFile (hw : HasWritten root files d₀ done d) (w : d.IsWithin d')
    {x : PlannedFile × String} (hx : x ∈ done) :
    d'.HasFile x.1.destination x.2.toUTF8 := by
  obtain ⟨P, hP⟩ := hw.exists_grows (List.ne_nil_of_mem hx)
  obtain ⟨dirs, name, q, hl, hr⟩ := hw.reached x hx
  obtain rfl := hP.place hl.isName hr.leads
  have hpage := hP.pages _ (List.mem_map_of_mem hx)
  rw [hl.below, List.reverse_concat, List.cons_append] at hpage
  exact ⟨_, (hr.kept w.keepsWays).entryAt (w.get? hpage)⟩

lemma HasWritten.furnished (hw : HasWritten root (done.map Prod.fst) d₀ done d)
    (hne : done ≠ []) (hcheck : checkPath root = .ok ()) :
    ∃ P, Furnished root P (done.map fun x => (x.1.destination, x.2)) d₀ d := by
  obtain ⟨P, hP⟩ := hw.exists_grows hne
  refine ⟨P, ?_, hP.free, hP.within.current, fun page hpage => ?_, fun p node hp hnode => ?_,
    hP.outside⟩
  · obtain ⟨hwalk, hdirectory⟩ := leads_components.mp hP.leads
    exact resolve_eq_ok_iff.mpr ⟨hcheck, hwalk, hdirectory⟩
  · obtain ⟨x, hx, rfl⟩ := List.mem_map.mp hpage
    exact hw.hasFile (.refl d) hx
  · obtain ⟨ms, rfl⟩ := hp
    rcases hP.inside ms node hnode with ⟨rfl, rel, hrel, hbegin⟩ | ⟨page, hpage, rfl, rfl⟩
    · obtain ⟨f, hf, rfl⟩ := List.mem_map.mp hrel
      obtain ⟨x, hx, rfl⟩ := List.mem_map.mp hf
      refine Or.inr ⟨rfl, _, List.mem_map_of_mem hx, _, _, hw.entryAt hP hx, ?_⟩
      obtain ⟨dirs, name, -, hl, -⟩ := hw.reached x hx
      rw [hl.below, List.dropLast_concat, ← List.reverse_suffix, List.reverse_reverse] at hbegin
      rw [hl.below, List.reverse_concat]
      obtain ⟨more, hmore⟩ := hbegin
      refine ⟨⟨name :: more, by rw [← hmore]; simp⟩, fun heq => ?_⟩
      have hlength := congrArg List.length (List.append_cancel_right heq)
      rw [← hmore] at hlength
      simp only [List.length_cons, List.length_append] at hlength
      omega
    · obtain ⟨x, hx, rfl⟩ := List.mem_map.mp hpage
      exact Or.inl ⟨_, List.mem_map_of_mem hx, hw.entryAt hP hx⟩

lemma not_leads_root (hcheck : checkPath root = .ok ()) (hfree : d.isDirectory root = false)
    (p : Place) : ¬ d.Leads (Path.components root) p := by
  intro hp
  rw [isDirectory_iff.mpr ⟨hcheck, p, hp⟩] at hfree
  cases hfree

lemma hasWritten_nil (h : ∀ p, ¬ d₀.Leads (Path.components root) p) :
    HasWritten root files d₀ [] d₀ :=
  ⟨.bare h, by simp⟩

/-- A file can be written only if its path can be looked up, and so can the path of the root. -/
lemma checkPath_of_write (hp : ArePlaced root files) (hroot : root ≠ "") {file : PlannedFile}
    (hfile : file ∈ files) {text : String} (ho : g.write file text d = .ok () d') :
    checkPath root = .ok () := by
  obtain ⟨dirs, name, -, hl⟩ := hp.liesAt file hfile
  exact checkPath_of_begins (hp.begins file hfile) hroot
    (Faults.checkPath_of_writeFile hl.endsIn hl.components ho)

lemma checkPath_of_writeAll (hp : ArePlaced root (done.map Prod.fst)) (hroot : root ≠ "")
    (hne : done ≠ []) (ho : g.writeAll done d = .ok () d') : checkPath root = .ok () := by
  obtain ⟨x, rest, rfl⟩ := List.exists_cons_of_ne_nil hne
  obtain ⟨⟨⟩, d₁, hx, -⟩ := bind_eq_ok_iff.mp ho
  exact checkPath_of_write hp hroot (by simp) hx

lemma checkPath_of_stream (hp : ArePlaced root files) (hroot : root ≠ "") (hne : files ≠ [])
    (ho : (g.stream c files d).result = .ok ()) : checkPath root = .ok () := by
  obtain ⟨file, rest, rfl⟩ := List.exists_cons_of_ne_nil hne
  rw [Generator.stream] at ho
  rcases hproduce : g.produce c file d with ⟨text, d₁⟩ | ⟨e, d₁⟩
  · rcases hx : g.write file text d₁ with ⟨⟨⟩, d₂⟩ | ⟨e, d₂⟩
    · exact checkPath_of_write hp hroot (by simp) hx
    · simp [hproduce, hx, Outcome.behind] at ho
  · simp [hproduce, Outcome.behind] at ho

lemma pages_of_mapM {texts : List String} (h : files.mapM (g.textOf c d₀) = .ok texts) :
    (files.zip texts).map Prod.fst = files ∧ AreTexts g c d₀ (files.zip texts) := by
  induction files generalizing texts with
  | nil => exact ⟨rfl, by simp [AreTexts]⟩
  | cons file rest ih =>
    rcases ht : g.textOf c d₀ file with e | text
    · rw [mapM_cons_error ht] at h
      cases h
    rw [mapM_cons_ok ht] at h
    rcases hs : rest.mapM (g.textOf c d₀) with e | more
    · rw [hs] at h
      cases h
    rw [hs] at h
    cases h
    obtain ⟨hfst, htexts⟩ := ih hs
    rw [List.zip_cons_cons, List.map_cons, hfst]
    exact ⟨rfl, List.forall_mem_cons.mpr ⟨ht, htexts⟩⟩

section Emit

variable (hd : d₀.IsSound) (hroot : root ≠ "") (hup : ".." ∉ Path.components root)
  (hp : ArePlaced root files) (hne : files ≠ []) (hfree : d₀.isDirectory root = false)
  (hpure : g.formatter.IsPureFrom d₀)

include hd hroot hup hp hne hfree hpure

/-- Making files under either strategy, if it succeeds, is writing all of them. -/
theorem emit_writes (hc : g.templates.compile = .ok c) {written : List String}
    (ho : (g.emit files d₀).result = .ok written) :
    checkPath root = .ok () ∧ ∃ done, files = done.map Prod.fst ∧ AreTexts g c d₀ done ∧
      HasWritten root files d₀ done (g.emit files d₀).disk := by
  rw [Generator.emit_disk hc]
  have hcarry := ((Generator.emit_eq_ok_iff hc).mp ho).1
  rw [Generator.carry] at hcarry ⊢
  split at hcarry
  · have hcheck := checkPath_of_stream hp hroot hne hcarry
    have hrun := (hasWritten_nil (not_leads_root hcheck hfree)).stream hd hup hp hpure (c := c) rfl
    rw [hcarry] at hrun
    exact ⟨hcheck, hrun⟩
  · rcases hm : files.mapM (g.textOf c d₀) with e | texts
    · have hend := Generator.stage_of_error (hpure.keeps (.refl d₀)) hm
      rw [ending_eq_error_iff, hcarry] at hend
      cases hend.1
    · obtain ⟨hfst, htexts⟩ := pages_of_mapM hm
      have hwrite := Generator.stage_of_ok (hpure.keeps (.refl d₀)) hm
      rw [ending_eq_ok_iff.mpr ⟨hcarry, rfl⟩] at hwrite
      obtain ⟨done, hdone⟩ : ∃ done, files.zip texts = done := ⟨_, rfl⟩
      rw [hdone] at hfst htexts hwrite
      subst hfst
      have hdone : done ≠ [] := fun he => hne (by rw [he]; rfl)
      have hcheck := checkPath_of_writeAll hp hroot hdone hwrite.symm
      exact ⟨hcheck, done, rfl, htexts,
        (hasWritten_nil (not_leads_root hcheck hfree)).writeAll hd hup hp rfl hwrite.symm⟩

end Emit

end Written

lemma Configuration.generateWith_eq_ok {launch : Program → Formatter} {config : Configuration}
    {faults : Faults} {specs : List Resource} {d : Disk} {report : Report}
    (h : (config.generateWith launch faults specs d).result = .ok report) :
    ∃ t g c, (config.build specs).result = .ok t ∧ config.generator launch faults d = .ok g ∧
      g.templates.compile = .ok c ∧
      report = ⟨t.plan.map PlannedFile.destination, t.dropped⟩ ∧
      (g.emit t.plan d).result = .ok (t.plan.map PlannedFile.destination) ∧
      (config.generateWith launch faults specs d).disk = (g.emit t.plan d).disk := by
  rw [generateWith] at h ⊢
  rcases ht : (config.build specs).result with e | t
  · simp [ht] at h
  rcases hg : config.generator launch faults d with e | g
  · simp [ht, hg] at h
  simp only [ht, hg, Outcome.behind, Generator.generate] at h ⊢
  rcases hemit : (g.emit t.plan d).result with e | written
  · simp [hemit] at h
  obtain ⟨c, hc, -, rfl⟩ := Generator.emit_eq_ok hemit
  rw [hemit] at h
  exact ⟨t, g, c, rfl, rfl, hc, (Except.ok.inj h).symm, hemit, rfl⟩

lemma Configuration.generateWith_of_emit {launch : Program → Formatter} {config : Configuration}
    {faults : Faults} {specs : List Resource} {d : Disk} {t : Tree} {g : Generator}
    {written : List String} (ht : (config.build specs).result = .ok t)
    (hg : config.generator launch faults d = .ok g)
    (h : (g.emit t.plan d).result = .ok written) :
    (config.generateWith launch faults specs d).result = .ok ⟨written, t.dropped⟩ ∧
      (config.generateWith launch faults specs d).disk = (g.emit t.plan d).disk := by
  simp only [generateWith, ht, hg, Outcome.behind, Generator.generate, h, and_self]

lemma plan_ne_nil (t : Tree) : t.plan ≠ [] := by
  rw [plan_eq]
  exact List.cons_ne_nil _ _

/-- What is known of a run that succeeded where the root was no directory before. -/
structure Configuration.Succeeds (launch : Program → Formatter) (config : Configuration)
    (faults : Faults) (specs : List Resource) (d : Disk) (t : Tree) (g : Generator) (c : Compiled)
    (pages : List (PlannedFile × String)) : Prop where
  build : (config.build specs).result = .ok t
  generator : config.generator launch faults d = .ok g
  compile : g.templates.compile = .ok c
  plan : t.plan = pages.map Prod.fst
  texts : AreTexts g c d pages
  placed : ArePlaced config.layout.rootPath (pages.map Prod.fst)
  check : checkPath config.layout.rootPath = .ok ()
  written : HasWritten config.layout.rootPath (pages.map Prod.fst) d pages
    (config.generateWith launch faults specs d).disk

section Succeeds

variable (launch : Program → Formatter) (config : Configuration) (faults : Faults)
  (specs : List Resource) (d : Disk) (hd : d.IsSound) (hroot : config.layout.rootPath ≠ "")
  (hup : ".." ∉ Path.components config.layout.rootPath)
  (hfree : d.isDirectory config.layout.rootPath = false)
  (hpure : (launch config.formatter).IsPureFrom d) (report : Report)
  (h : (config.generateWith launch faults specs d).result = .ok report)

include hd hroot hup hfree hpure h

lemma Configuration.exists_succeeds : ∃ t g c pages,
    config.Succeeds launch faults specs d t g c pages ∧
      report = ⟨t.plan.map PlannedFile.destination, t.dropped⟩ := by
  obtain ⟨t, g, c, ht, hg, hc, rfl, hemit, hdisk⟩ := Configuration.generateWith_eq_ok h
  have hplaced := plan_arePlaced (Tree.buildWith_eq_ok_iff.mp ht).1
  have hformatter : g.formatter = launch config.formatter :=
    congrArg Generator.formatter (Configuration.generator_eq hg).2
  obtain ⟨hcheck, pages, hplan, htexts, hwritten⟩ :=
    emit_writes hd hroot hup hplaced (plan_ne_nil t) hfree (hformatter ▸ hpure) hc hemit
  rw [← hdisk, hplan] at hwritten
  exact ⟨t, g, c, pages, ⟨ht, hg, hc, hplan, htexts, hplan ▸ hplaced, hcheck, hwritten⟩, rfl⟩

/-- **A run that succeeds is complete.** If the root is no directory before, then after a run that
succeeds it is one that holds just the planned files, each with the text that was made for it by a
formatter that is a function of texts. -/
theorem generate_furnishes : ∃ t g c pages P, (config.build specs).result = .ok t ∧
    config.generator launch faults d = .ok g ∧ g.templates.compile = .ok c ∧
    t.plan = pages.map Prod.fst ∧ AreTexts g c d pages ∧
    report.written = t.plan.map PlannedFile.destination ∧
    Furnished config.layout.rootPath P (pages.map fun x => (x.1.destination, x.2)) d
      (config.generateWith launch faults specs d).disk := by
  obtain ⟨t, g, c, pages, hs, rfl⟩ :=
    Configuration.exists_succeeds launch config faults specs d hd hroot hup hfree hpure report h
  have hne : pages ≠ [] := fun he => plan_ne_nil t (by rw [hs.plan, he]; rfl)
  obtain ⟨P, hP⟩ := hs.written.furnished hne hs.check
  exact ⟨t, g, c, pages, P, hs.build, hs.generator, hs.compile, hs.plan, hs.texts, rfl, hP⟩

end Succeeds

/-- A system with one program, which passes on what it reads. -/
def Runner.passing : Runner := .pure fun p input =>
  if p.command = "cat" then .ok ⟨.code 0, input, .empty, none⟩ else .error .noEntry

lemma isPureFrom_passing (p : Program) (d : Disk) :
    (p.formatterBy .passing).IsPureFrom d :=
  (Program.formatterBy_isPure _ p).isPureFrom d

/-- A working directory with a directory of templates, each of which holds its own name. -/
def passingDisk : Disk where
  current := ["work"]
  entries := (Role.all.map fun role =>
      ([role.template, "templates", "work"], .file role.template.toUTF8))
    ++ [(["templates", "work"], .directory), (["work"], .directory)]

lemma isSound_passingDisk : passingDisk.IsSound := isSound_of_check (by decide +kernel)

def passingConfiguration : Configuration where
  layout := {}
  templates? := some "templates"
  formatter := ⟨"cat", []⟩
  mode := .replace
  strategy := .streaming
  strict := false

def passingReport : Report where
  written := ["generated/client.rs", "generated/core/v1/client.rs",
    "generated/core/v1/pod_client.rs", "generated/core/v1/pod_reader.rs",
    "generated/core/v1/pod.rs"]
  dropped := []

lemma generate_passingDisk :
    (passingConfiguration.generateWith (Program.formatterBy .passing) .never podOnly
      passingDisk).result = .ok passingReport := by
  have hdone : (match (passingConfiguration.generateWith (Program.formatterBy .passing) .never
        podOnly passingDisk).result with
      | .ok report => decide (report = passingReport)
      | .error _ => false) = true := by
    decide +kernel
  rcases h : (passingConfiguration.generateWith (Program.formatterBy .passing) .never podOnly
      passingDisk).result with e | report
  · rw [h] at hdone
    cases hdone
  · rw [h] at hdone
    rw [of_decide_eq_true hdone]

/-- The files of one resource, formatted by a program that passes them on. -/
theorem passingDisk_furnished :
    (passingConfiguration.generateWith (Program.formatterBy .passing) .never podOnly
        passingDisk).result = .ok passingReport ∧
      ∃ t g c pages P, (passingConfiguration.build podOnly).result = .ok t ∧
        passingConfiguration.generator (Program.formatterBy .passing) .never passingDisk = .ok g ∧
        g.templates.compile = .ok c ∧ t.plan = pages.map Prod.fst ∧
        AreTexts g c passingDisk pages ∧
        passingReport.written = t.plan.map PlannedFile.destination ∧
        Furnished "generated" P (pages.map fun x => (x.1.destination, x.2)) passingDisk
          (passingConfiguration.generateWith (Program.formatterBy .passing) .never podOnly
            passingDisk).disk :=
  ⟨generate_passingDisk, generate_furnishes (Program.formatterBy .passing) passingConfiguration
    .never podOnly passingDisk isSound_passingDisk (by decide) (by decide +kernel)
    (by decide +kernel) (isPureFrom_passing _ _) passingReport generate_passingDisk⟩

end ClientGen
