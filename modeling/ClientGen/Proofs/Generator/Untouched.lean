import ClientGen.Proofs.Generator.Emission

/-!
Runs that leave the disk alone. Specs that are refused, templates that cannot be read and templates
that are malformed end a run before anything is made, and where files are staged, so does a file
whose text cannot be made.
-/

namespace ClientGen

open Spec

/-- The specs are refused, or the templates cannot be read. -/
def Failure.isRefusal : Failure → Bool
  | .invalidSpec _ | .unresolved _ _ | .missingTemplate _ _ | .unreadable _ _ => true
  | _ => false

lemma Failure.isRefusal_of_isEmission {e : Failure} (h : e.isEmission = true) :
    e.isRefusal = false := by
  cases e <;> simp [isEmission, isProduction, isDisk, isRefusal] at h ⊢

def Configuration.HasMalformed (config : Configuration) (d : Disk) : Prop :=
  ∃ set, config.templateSet d = .ok set ∧ ∃ role e, Template.parse (set.source role) = .error e

lemma TemplateSet.compile_of_malformed {set : TemplateSet} {role : Role} {e : TemplateError}
    (h : Template.parse (set.source role) = .error e) : ∃ f, set.compile = .error f := by
  rcases hc : set.compile with f | c
  · exact ⟨f, rfl⟩
  · rw [compile] at hc
    rcases hm : Role.all.mapM set.compileRole with f | templates
    · rw [hm] at hc
      cases hc
    · obtain ⟨b, hb⟩ := exists_ok_of_mapM hm role (by cases role <;> decide)
      rw [compileRole, h] at hb
      cases hb

namespace Configuration

variable {launch : Program → Formatter} {config : Configuration} {faults : Faults}
  {specs : List Resource} {d : Disk}

lemma generator_eq {g : Generator} (h : config.generator launch faults d = .ok g) :
    config.templateSet d = .ok g.templates ∧
      g = ⟨g.templates, launch config.formatter, config.mode, config.strategy, faults⟩ := by
  rw [generator] at h
  rcases hset : config.templateSet d with e | set
  · rw [hset] at h
    cases h
  · rw [hset] at h
    cases h
    exact ⟨rfl, rfl⟩

lemma generate_of_ok (launch : Program → Formatter) (faults : Faults) {t : Tree}
    {set : TemplateSet} (ht : (config.build specs).result = .ok t)
    (hset : config.templateSet d = .ok set) :
    ∃ g : Generator, g.templates = set ∧ g.formatter = launch config.formatter ∧
      g.strategy = config.strategy ∧
      (config.generateWith launch faults specs d).disk = (g.emit t.plan d).disk ∧
      ∀ e, (config.generateWith launch faults specs d).result = .error e ↔
        (g.emit t.plan d).result = .error e := by
  refine ⟨⟨set, launch config.formatter, config.mode, config.strategy, faults⟩, rfl, rfl, rfl, ?_⟩
  simp only [generateWith, ht, generator, hset, Except.map, Outcome.behind, Generator.generate]
  split
  · next he => simp [he]
  · next he => simp [he]

lemma generate_of_refused {e : Failure} (h : (config.build specs).result = .error e) :
    (config.generateWith launch faults specs d).ending = .error e d := by
  simp only [generateWith, h, Outcome.ending]

lemma generate_of_unread {t : Tree} {e : Failure} (ht : (config.build specs).result = .ok t)
    (h : config.templateSet d = .error e) :
    (config.generateWith launch faults specs d).ending = .error e d := by
  simp only [generateWith, ht, generator, h, Except.map, Outcome.ending]

end Configuration

/-- **A run that fails early leaves no trace.** A malformed template fails every run, and a run
that fails leaves the disk as it was if its specs are refused, its templates are not there, not
readable or malformed, or else if its files are staged and the text of one of them cannot be
made. Only then it matters what the formatter does to the disk. -/
theorem generate_leaves_disk (launch : Program → Formatter) (config : Configuration)
    (faults : Faults) (specs : List Resource) (d : Disk) :
    (config.HasMalformed d →
        ∃ e, (config.generateWith launch faults specs d).result = .error e) ∧
      ∀ e, (config.generateWith launch faults specs d).result = .error e →
        (e.isRefusal = true ∨ config.HasMalformed d ∨
          config.strategy = .staged ∧ (launch config.formatter).Keeps d ∧
            e.isProduction = true) →
        (config.generateWith launch faults specs d).disk = d := by
  rcases ht : (config.build specs).result with f | t
  · obtain ⟨hresult, hdisk⟩ := ending_eq_error_iff.mp (Configuration.generate_of_refused ht)
    exact ⟨fun _ => ⟨f, hresult⟩, fun _ _ _ => hdisk⟩
  rcases hset : config.templateSet d with f | set
  · obtain ⟨hresult, hdisk⟩ := ending_eq_error_iff.mp (Configuration.generate_of_unread ht hset)
    exact ⟨fun _ => ⟨f, hresult⟩, fun _ _ _ => hdisk⟩
  obtain ⟨g, rfl, hformatter, hstrategy, hdisk, hresult⟩ :=
    Configuration.generate_of_ok launch faults ht hset
  rcases hc : g.templates.compile with f | c
  · -- nothing is made from templates of which one is malformed
    have hemit : g.emit t.plan d = ⟨.error f, d, []⟩ := Generator.emit_of_malformed hc
    refine ⟨fun _ => ⟨f, ?_⟩, fun _ _ _ => ?_⟩
    · rw [hresult, hemit]
    · rw [hdisk, hemit]
  have hsound : ¬ config.HasMalformed d := by
    rintro ⟨set, hset', role, e, he⟩
    rw [hset] at hset'
    cases hset'
    obtain ⟨f, hf⟩ := TemplateSet.compile_of_malformed he
    rw [hc] at hf
    cases hf
  refine ⟨fun h => absurd h hsound, fun e he hwhy => ?_⟩
  rw [hresult] at he
  rcases hwhy with hrefusal | hmalformed | ⟨hstaged, hkeeps, hproduction⟩
  · rw [Failure.isRefusal_of_isEmission (Generator.emit_error he)] at hrefusal
    cases hrefusal
  · exact absurd hmalformed hsound
  · have hcarry : g.carry c t.plan d = g.stage c t.plan d := by
      rw [Generator.carry, hstrategy, hstaged]
    rw [Generator.emit_eq_error_iff hc, hcarry] at he
    rw [hdisk, Generator.emit_disk hc, hcarry]
    exact Generator.stage_disk (hformatter ▸ hkeeps) he hproduction

/-- A working directory with a directory of templates, all empty but that of the root client. -/
def templateDisk (root : String) : Disk where
  current := ["work"]
  entries :=
    (Role.all.map fun role => ([role.template, "templates", "work"],
      .file (if role = .rootClient then root else "").toUTF8))
    ++ [(["templates", "work"], .directory), (["work"], .directory)]

def podOnly : List Resource := [.plain "core" "v1" "Pod" "pods"]

/-- A system without programs. -/
def Runner.absent : Runner := .pure fun _ _ => .error .noEntry

def stagedConfiguration : Configuration where
  layout := {}
  templates? := some "templates"
  formatter := .standard
  mode := .replace
  strategy := .staged
  strict := false

lemma hasMalformed_templateDisk : stagedConfiguration.HasMalformed (templateDisk "\x7b%") := by
  have hbad : (match stagedConfiguration.templateSet (templateDisk "\x7b%") with
      | .ok set => !(Template.parse (set.source .rootClient)).isOk
      | .error _ => false) = true := by
    decide +kernel
  rcases h : stagedConfiguration.templateSet (templateDisk "\x7b%") with e | set
  · rw [h] at hbad
    cases hbad
  · rcases hp : Template.parse (set.source .rootClient) with e | nodes
    · exact ⟨set, h, .rootClient, e, hp⟩
    · simp [h, hp, Except.isOk, Except.toBool] at hbad

lemma generate_templateDisk :
    (stagedConfiguration.generateWith (Program.formatterBy .absent) .never podOnly
      (templateDisk "")).result =
        .error (.format "rustfmt" "generated/client.rs" (.start .noEntry)) := by
  have hbad : (match (stagedConfiguration.generateWith (Program.formatterBy .absent) .never podOnly
        (templateDisk "")).result with
      | .ok _ => false
      | .error e => e = .format "rustfmt" "generated/client.rs" (.start .noEntry)) = true := by
    decide +kernel
  rcases h : (stagedConfiguration.generateWith (Program.formatterBy .absent) .never podOnly
      (templateDisk "")).result with e | report
  · rw [h] at hbad
    rw [of_decide_eq_true hbad]
  · rw [h] at hbad
    cases hbad

/-- A malformed template fails a run, and a run that fails for want of its formatter leaves the disk
as it was. -/
theorem staged_leaves_templateDisk :
    (stagedConfiguration.HasMalformed (templateDisk "\x7b%") ∧
        ∃ e, (stagedConfiguration.generateWith (Program.formatterBy .absent) .never podOnly
          (templateDisk "\x7b%")).result = .error e) ∧
      (stagedConfiguration.generateWith (Program.formatterBy .absent) .never podOnly
        (templateDisk "")).result =
          .error (.format "rustfmt" "generated/client.rs" (.start .noEntry)) ∧
      (stagedConfiguration.generateWith (Program.formatterBy .absent) .never podOnly
        (templateDisk "")).disk = templateDisk "" := by
  have hkeeps : (Program.formatterBy .absent stagedConfiguration.formatter).Keeps
      (templateDisk "") :=
    (Program.formatterBy_isPure _ _).keepsDisk.keeps _
  refine ⟨⟨hasMalformed_templateDisk, ?_⟩, generate_templateDisk, ?_⟩
  · exact (generate_leaves_disk _ stagedConfiguration .never _ _).1 hasMalformed_templateDisk
  · exact (generate_leaves_disk _ stagedConfiguration .never _ _).2 _ generate_templateDisk
      (Or.inr (Or.inr ⟨rfl, hkeeps, rfl⟩))

end ClientGen
