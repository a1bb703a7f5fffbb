import ClientGen.Execution.Basic
import ClientGen.Proofs.Generator.Completeness
import ClientGen.Proofs.Tree.Acceptance

/-!
How the commands agree on a document. All of them build its tree first, and a dry run ends where a
run begins to make files: it fails where the run fails before that, and else it prints what the run
makes. The tree of a document is refused by all commands or by none, since no setting but the way of
checking references has a say in it.
-/

namespace ClientGen

open Spec

def Command.onlyLooks : Command → Bool
  | .generate _ _ dryRun => dryRun
  | .plan _ _ | .validate _ _ => true

/-- A complaint without what was being done. -/
def Complaint.bare : Complaint → Complaint
  | .failure _ cause => .failure none cause
  | c => c

def Event.line? : Event → Option String
  | .generating template path => some (template ++ "\t" ++ path)
  | _ => none

variable {launch : Program → Formatter} {faults : Faults} {environment : String → Option String}
  {config : Configuration} {document : Document} {d : Disk} {t : Tree} {goOn : Tree → Execution}
  {e : Failure}

/-! ### What is announced -/

section Announced

variable {g : Generator} {c : Compiled} {files : List PlannedFile}

lemma Generator.carry_lines (h : (g.carry c files d).result = .ok ()) :
    (g.carry c files d).events.filterMap Event.line? = files.map PlannedFile.line := by
  have hlines : (files.map announcement).filterMap Event.line? = files.map PlannedFile.line := by
    rw [List.filterMap_map, ← List.filterMap_eq_map]
    rfl
  rw [carry] at h ⊢
  split at h
  · rw [stream_events h, hlines]
  · rw [stage] at h ⊢
    rcases hall : (g.produceAll c files d).result with e | texts
    · simp [hall] at h
    · have hevents : ((g.produceAll c files d).events ++
          [Event.rendered files.length]).filterMap Event.line? = files.map PlannedFile.line := by
        rw [produceAll_events hall, List.filterMap_append, hlines, List.filterMap_cons_none rfl,
          List.filterMap_nil, List.append_nil]
      dsimp only
      split <;> exact hevents

/-- A generator that succeeds announces the files that it reports, and no others. -/
lemma Generator.lines_of_generate {report : Report}
    (h : (g.generate t d).result = .ok report) :
    report.written = t.plan.map PlannedFile.destination ∧
      (g.generate t d).events.filterMap Event.line? = t.plan.map PlannedFile.line := by
  rw [generate] at h ⊢
  rcases hemit : (g.emit t.plan d).result with e | written
  · simp [hemit] at h
  obtain ⟨c, hc, hcarry, rfl⟩ := emit_eq_ok hemit
  simp only [hemit] at h ⊢
  refine ⟨by rw [← Except.ok.inj h], ?_⟩
  rw [List.filterMap_append, List.filterMap_cons_none rfl, List.filterMap_nil, List.append_nil,
    emit_of_compile hc]
  exact carry_lines hcarry

end Announced

/-! ### Trees of documents -/

lemma withTree_of_error (h : (config.build document.resources).result = .error e) :
    withTree config document d goOn = refuseSpecs d (config.build document.resources).events e := by
  simp only [withTree, h]

lemma withTree_of_ok (h : (config.build document.resources).result = .ok t) :
    withTree config document d goOn =
      { goOn t with
        events := (config.build document.resources).events
          ++ .loaded t.entries.length t.branches.length :: (goOn t).events } := by
  simp only [withTree, h]

lemma refuseSpecs_complaint (events : List Event) :
    ∃ c, (refuseSpecs d events e).complaint? = some c ∧ c.bare = c := by
  cases e <;> exact ⟨_, rfl, rfl⟩

lemma refuseSpecs_disk (events : List Event) : (refuseSpecs d events e).disk = d := by
  cases e <;> rfl

lemma withTree_disk (h : ∀ t, (goOn t).disk = d) : (withTree config document d goOn).disk = d := by
  rcases ht : (config.build document.resources).result with e | t
  · rw [withTree_of_error ht, refuseSpecs_disk]
  · rw [withTree_of_ok ht]
    exact h t

lemma printPlan_disk : (printPlan config d t).disk = d := by
  rw [printPlan]
  split <;> rfl

lemma validateSpecs_disk (strict : Bool) : (validateSpecs strict d t).disk = d := by
  simp only [validateSpecs]
  split <;> rfl

/-- **Looking changes nothing.** -/
theorem Command.executeWith_disk {command : Command} (h : command.onlyLooks = true) :
    (command.executeWith launch faults environment d).disk = d := by
  rw [executeWith]
  rcases Document.load d command.spec with e | document
  · rfl
  cases command with
  | plan => exact withTree_disk fun _ => printPlan_disk
  | validate => exact withTree_disk fun _ => validateSpecs_disk _
  | generate spec overrides dryRun =>
    obtain rfl : dryRun = true := h
    exact withTree_disk fun _ => printPlan_disk

/-! ### Dry runs -/

lemma printPlan_of_error (h : config.templateSet d >>= TemplateSet.compile = .error e) :
    printPlan config d t = ⟨some (.failure none e), [], [], d, []⟩ := by
  rw [printPlan, h]

lemma printPlan_of_ok {c : Compiled}
    (h : config.templateSet d >>= TemplateSet.compile = .ok c) :
    printPlan config d t = ⟨none, t.plan.map PlannedFile.line, [], d, []⟩ := by
  rw [printPlan, h]

lemma generateFiles_of_error (h : config.templateSet d >>= TemplateSet.compile = .error e) :
    ∃ context?, (generateFiles launch faults config d t).complaint? = some (.failure context? e) ∧
      (generateFiles launch faults config d t).notes = [] ∧
      (generateFiles launch faults config d t).disk = d := by
  rcases hset : config.templateSet d with e' | set
  · rw [hset] at h
    obtain rfl : e' = e := Except.error.inj h
    have hg : config.generator launch faults d = .error e' := by
      rw [Configuration.generator, hset]
      rfl
    rw [generateFiles, hg]
    exact ⟨none, rfl, rfl, rfl⟩
  · rw [hset] at h
    obtain ⟨g, hg, rfl⟩ : ∃ g, config.generator launch faults d = .ok g ∧ g.templates = set := by
      rw [Configuration.generator, hset]
      exact ⟨_, rfl, rfl⟩
    have hmalformed : g.generate t d = ⟨.error e, d, []⟩ := by
      rw [Generator.generate, Generator.emit_of_malformed h]
    rw [generateFiles, hg]
    dsimp only
    rw [hmalformed]
    exact ⟨_, rfl, rfl, rfl⟩

lemma generateFiles_eq_ok (h : (generateFiles launch faults config d t).complaint? = none) :
    ∃ g report c, config.generator launch faults d = .ok g ∧ (g.generate t d).result = .ok report ∧
      (generateFiles launch faults config d t).disk = (g.generate t d).disk ∧
      config.templateSet d >>= TemplateSet.compile = .ok c := by
  rw [generateFiles] at h ⊢
  rcases hg : config.generator launch faults d with e | g
  · simp [hg] at h
  rcases hreport : (g.generate t d).result with e | report
  · simp [hg, hreport] at h
  have hset := (Configuration.generator_eq hg).1
  rcases hemit : (g.emit t.plan d).result with e | written
  · simp [Generator.generate, hemit] at hreport
  obtain ⟨c, hc, -⟩ := Generator.emit_eq_ok hemit
  refine ⟨g, report, c, rfl, hreport, ?_, ?_⟩
  · simp only [hreport]
  · rw [hset]
    exact hc

/-- A run has ended well: this is the tree of its document, this is what made the files, and this is
the report. -/
structure Command.Reports (launch : Program → Formatter) (command : Command) (faults : Faults)
    (environment : String → Option String) (d : Disk) (t : Tree) (g : Generator) (report : Report) :
    Prop where
  generator : ∃ document, Document.load d command.spec = .ok document ∧
    ((command.configuration environment document).build document.resources).result = .ok t ∧
    (command.configuration environment document).generator launch faults d = .ok g
  result : (g.generate t d).result = .ok report
  disk : (command.executeWith launch faults environment d).disk = (g.generate t d).disk

namespace Command

variable {spec : String} {overrides : Overrides}

lemma executeWith_of_unread (command : Command) (h : Document.load d command.spec = .error e) :
    command.executeWith launch faults environment d =
      ⟨some (.failure none e), [], [], d, []⟩ := by
  rw [executeWith, h]

section Loaded

variable (h : Document.load d spec = .ok document)

include h

lemma executeWith_generate :
    (generate spec overrides false).executeWith launch faults environment d = withTree
      ((generate spec overrides false).configuration environment document) document d
      (generateFiles launch faults
        ((generate spec overrides false).configuration environment document) d) := by
  rw [executeWith, Command.spec, h]

lemma executeWith_dryRun :
    (generate spec overrides true).executeWith launch faults environment d = withTree
      ((generate spec overrides false).configuration environment document) document d
      (printPlan ((generate spec overrides false).configuration environment document) d) := by
  rw [executeWith, Command.spec, h]
  rfl

lemma executeWith_validate (strict : Bool) :
    (validate spec strict).executeWith launch faults environment d = withTree
      ((validate spec strict).configuration environment document) document d
      (validateSpecs strict d) := by
  rw [executeWith, Command.spec, h]

end Loaded

/-- **A dry run that fails.** The run fails for the same reason, tells the same about it and changes
nothing. -/
theorem generate_of_dryRun {c : Complaint}
    (h : ((generate spec overrides true).executeWith launch faults environment d).complaint? =
      some c) :
    ∃ c', ((generate spec overrides false).executeWith launch faults environment d).complaint? =
        some c' ∧ c'.bare = c ∧
      ((generate spec overrides false).executeWith launch faults environment d).notes =
        ((generate spec overrides true).executeWith launch faults environment d).notes ∧
      ((generate spec overrides false).executeWith launch faults environment d).disk = d := by
  rcases hload : Document.load d spec with e | document
  · rw [executeWith_of_unread (generate spec overrides true) hload] at h ⊢
    rw [executeWith_of_unread (generate spec overrides false) hload]
    obtain rfl := Option.some.inj h
    exact ⟨_, rfl, rfl, rfl, rfl⟩
  rw [executeWith_dryRun hload] at h ⊢
  rw [executeWith_generate hload]
  obtain ⟨config, hconfig⟩ : ∃ config,
    (generate spec overrides false).configuration environment document = config := ⟨_, rfl⟩
  rw [hconfig] at h ⊢
  rcases ht : (config.build document.resources).result with e | t
  · obtain ⟨c', hc', hbare⟩ := refuseSpecs_complaint (config.build document.resources).events
    rw [withTree_of_error ht, hc'] at h
    rw [withTree_of_error ht, withTree_of_error ht, refuseSpecs_disk]
    exact ⟨c', hc', hbare.trans (Option.some.inj h), rfl, rfl⟩
  rw [withTree_of_ok ht] at h
  rw [withTree_of_ok ht, withTree_of_ok ht]
  rcases htemplates : config.templateSet d >>= TemplateSet.compile with e | compiled
  · rw [printPlan_of_error htemplates] at h ⊢
    obtain rfl := Option.some.inj h
    obtain ⟨context?, hfails, hnotes, hdisk⟩ := generateFiles_of_error htemplates
    exact ⟨_, hfails, rfl, hnotes, hdisk⟩
  · rw [printPlan_of_ok htemplates] at h
    cases h

/-- **A run that ends well.** The dry run ends well, too, and prints the lines of the plan. -/
theorem dryRun_of_generate
    (h : ((generate spec overrides false).executeWith launch faults environment d).complaint? =
      none) :
    ((generate spec overrides true).executeWith launch faults environment d).complaint? = none ∧
      ∃ t g report,
        (generate spec overrides false).Reports launch faults environment d t g report ∧
        ((generate spec overrides true).executeWith launch faults environment d).output =
          t.plan.map PlannedFile.line := by
  rcases hload : Document.load d spec with e | document
  · rw [executeWith_of_unread (generate spec overrides false) hload] at h
    cases h
  have hrun := @executeWith_generate launch faults environment document d spec overrides hload
  rw [executeWith_dryRun hload]
  obtain ⟨config, hconfig⟩ : ∃ config,
    (generate spec overrides false).configuration environment document = config := ⟨_, rfl⟩
  rw [hrun] at h
  rw [hconfig] at h hrun ⊢
  rcases ht : (config.build document.resources).result with e | t
  · obtain ⟨c, hc, -⟩ := refuseSpecs_complaint (config.build document.resources).events
    rw [withTree_of_error ht, hc] at h
    cases h
  rw [withTree_of_ok ht] at h hrun ⊢
  obtain ⟨g, report, c, hg, hresult, hdisk, htemplates⟩ := generateFiles_eq_ok h
  rw [printPlan_of_ok htemplates]
  refine ⟨rfl, t, g, report, ⟨⟨document, hload, ?_, ?_⟩, hresult, ?_⟩, rfl⟩
  · rw [hconfig]
    exact ht
  · rw [hconfig]
    exact hg
  · rw [hrun]
    exact hdisk

/-! ### Validation -/

lemma validate_iff (strict : Bool) (h : Document.load d spec = .ok document) :
    ((validate spec strict).executeWith launch faults environment d).complaint? = none ↔
      Tree.IsAccepted strict document.resources := by
  rw [executeWith_validate h]
  obtain ⟨config, hconfig⟩ : ∃ config,
    (validate spec strict).configuration environment document = config := ⟨_, rfl⟩
  have hlenient : config.strict = false := hconfig ▸ rfl
  rw [hconfig, ← @Tree.buildWith_ok_iff config.layout]
  simp only [Tree.buildWith_eq_ok_iff]
  have hbuild : (config.build document.resources).result =
      (Tree.build config.layout document.resources).result := by
    rw [Configuration.build, hlenient]
    rfl
  rcases ht : (Tree.build config.layout document.resources).result with e | t
  · obtain ⟨c, hc, -⟩ := refuseSpecs_complaint (config.build document.resources).events
    rw [withTree_of_error (hbuild.trans ht), hc]
    simp
  · rw [withTree_of_ok (hbuild.trans ht)]
    simp only [validateSpecs]
    split
    · next hs => simp_all
    · next hs => simp_all

end Command

/-- **The commands agree on a document.** Commands that only look change nothing. If a run ends
well, then its dry run does, too, and prints the template and the path of each file that is
reported, as they are announced. If a dry run fails, then the run fails for the same reason, tells
the same about it and changes nothing. And specs are invalid, strictly or not, just when a run that
checks references in the same way refuses to build their tree, whatever its other settings are. -/
theorem commands_agree (launch : Program → Formatter) (faults : Faults)
    (environment : String → Option String) (d : Disk) (spec : String) (overrides : Overrides) :
    let execute (command : Command) := command.executeWith launch faults environment d
    let run := Command.generate spec overrides false
    let dryRun := Command.generate spec overrides true
    (∀ command : Command, command.onlyLooks = true → (execute command).disk = d) ∧
    ((execute run).complaint? = none → (execute dryRun).complaint? = none ∧
      ∃ t g report, run.Reports launch faults environment d t g report ∧
        report.written = t.plan.map PlannedFile.destination ∧
        (execute dryRun).output = t.plan.map PlannedFile.line ∧
        (g.generate t d).events.filterMap Event.line? = t.plan.map PlannedFile.line) ∧
    (∀ c, (execute dryRun).complaint? = some c →
      ∃ c', (execute run).complaint? = some c' ∧ c'.bare = c ∧
        (execute run).notes = (execute dryRun).notes ∧ (execute run).disk = d) ∧
    ∀ document, Document.load d spec = .ok document →
      ((execute (.validate spec overrides.strict)).complaint? ≠ none ↔
        ∃ e, ((run.configuration environment document).build document.resources).result =
          .error e) := by
  intro execute run dryRun
  refine ⟨fun command h => command.executeWith_disk h, fun h => ?_,
    fun c h => Command.generate_of_dryRun h, fun document hload => ?_⟩
  · obtain ⟨hdry, t, g, report, hreports, houtput⟩ := Command.dryRun_of_generate h
    obtain ⟨hwritten, hlines⟩ := Generator.lines_of_generate hreports.result
    exact ⟨hdry, t, g, report, hreports, hwritten, houtput, hlines⟩
  · -- both sides say that the specs are not accepted, which no layout can change
    rw [ne_eq, Command.validate_iff overrides.strict hload]
    obtain ⟨config, hconfig⟩ : ∃ config,
      (Command.generate spec overrides false).configuration environment document = config :=
        ⟨_, rfl⟩
    have hstrict : config.strict = overrides.strict := hconfig ▸ rfl
    rw [hconfig, ← @Tree.buildWith_ok_iff config.layout, Configuration.build, hstrict]
    rcases (Tree.buildWith overrides.strict config.layout document.resources).result with e | t
    · simp
    · simp

/-- A pod that refers to a node of which there is no spec. -/
def lonelyPod : Document where
  settings := {}
  resources := [{ Resource.plain "core" "v1" "Pod" "pods" with
    references := [⟨⟨"core", "v1", "Node"⟩, none⟩] }]

/-- A working directory with a document about this pod, and templates. -/
def podDisk : Disk :=
  passingDisk.insert ["pods.json", "work"] (.file (String.toUTF8
    ("\x7b\"resources\": [\x7b\"group\": \"core\", \"version\": \"v1\", \"kind\": \"Pod\", "
      ++ "\"pluralKind\": \"pods\", \"scope\": \"Namespaced\", \"subResources\": "
      ++ "[\x7b\"group\": \"core\", \"version\": \"v1\", \"kind\": \"Node\"\x7d]\x7d]\x7d")))

lemma load_podDisk : Document.load podDisk "pods.json" = .ok lonelyPod := by decide +kernel

def passingOverrides : Overrides where
  templates? := some "templates"
  formatter? := some "cat"

/-- Doing a command on this disk, on a system with a program that passes on what it reads. -/
def onPodDisk (command : Command) : Execution :=
  command.executeWith (Program.formatterBy .passing) .never (fun _ => none) podDisk

/-- The commands on this document: files are made as the dry run says, both fail for want of their
templates, and under strict checking neither validation nor a run accepts the reference. -/
theorem podDisk_agrees :
    (onPodDisk (.plan "pods.json" {})).disk = podDisk ∧
    (∃ t g report, (Command.generate "pods.json" passingOverrides false).Reports
        (Program.formatterBy .passing) .never (fun _ => none) podDisk t g report ∧
      report.written = t.plan.map PlannedFile.destination ∧
      (onPodDisk (.generate "pods.json" passingOverrides true)).output =
        t.plan.map PlannedFile.line) ∧
    (∃ c, (onPodDisk (.generate "pods.json" { templates? := some "elsewhere" } false)).complaint? =
        some c ∧
      c.bare = .failure none (.missingTemplate "root_client.rs.txt" "elsewhere") ∧
      (onPodDisk (.generate "pods.json" { templates? := some "elsewhere" } false)).disk =
        podDisk) ∧
    (onPodDisk (.validate "pods.json" true)).complaint? = some (.unresolved 1) ∧
    ∃ e, (((Command.generate "pods.json" { strict := true } false).configuration
      (fun _ => none) lonelyPod).build lonelyPod.resources).result = .error e := by
  obtain ⟨hlooks, hends, -, -⟩ := commands_agree (Program.formatterBy .passing) .never
    (fun _ => none) podDisk "pods.json" passingOverrides
  obtain ⟨-, -, hfails, -⟩ := commands_agree (Program.formatterBy .passing) .never
    (fun _ => none) podDisk "pods.json" { templates? := some "elsewhere" }
  obtain ⟨-, -, -, hvalid⟩ := commands_agree (Program.formatterBy .passing) .never
    (fun _ => none) podDisk "pods.json" { strict := true }
  refine ⟨hlooks (.plan "pods.json" {}) rfl, ?_, ?_, ?_⟩
  · have hrun : (onPodDisk (.generate "pods.json" passingOverrides false)).complaint? = none := by
      rw [onPodDisk, Command.executeWith_generate load_podDisk]
      decide +kernel
    obtain ⟨-, t, g, report, hreports, hwritten, houtput, -⟩ := hends hrun
    exact ⟨t, g, report, hreports, hwritten, houtput⟩
  · have hdry : (onPodDisk (.generate "pods.json" { templates? := some "elsewhere" }
        true)).complaint? =
          some (.failure none (.missingTemplate "root_client.rs.txt" "elsewhere")) := by
      rw [onPodDisk, Command.executeWith_dryRun load_podDisk]
      decide +kernel
    obtain ⟨c, hc, hbare, -, hdisk⟩ := hfails _ hdry
    exact ⟨c, hc, hbare, hdisk⟩
  · have hinvalid : (onPodDisk (.validate "pods.json" true)).complaint? =
        some (.unresolved 1) := by
      rw [onPodDisk, Command.executeWith_validate load_podDisk]
      decide +kernel
    refine ⟨hinvalid, (hvalid lonelyPod load_podDisk).mp fun hnone => ?_⟩
    cases hinvalid.symm.trans hnone

end ClientGen
