import ClientGen.Proofs.Generator.Completeness

/-!
Running twice. A second run finds every file in its place, so it makes no directory, and each file
that it writes is the one that was there; what it reads is still there as well, for the first run
has taken nothing away.
-/

namespace ClientGen

open Spec Disk

/-! ### Reading again -/

lemma mapM_mono {ε α β : Type} {f f' : α → Except ε β} (hf : ∀ a b, f a = .ok b → f' a = .ok b)
    {as : List α} {bs : List β} (h : as.mapM f = .ok bs) : as.mapM f' = .ok bs := by
  induction as generalizing bs with
  | nil => exact h
  | cons a as ih =>
    rcases ha : f a with e | b
    · rw [mapM_cons_error ha] at h
      cases h
    rw [mapM_cons_ok ha] at h
    rcases hs : as.mapM f with e | cs
    · rw [hs] at h
      cases h
    rw [mapM_cons_ok (hf a b ha), ih hs]
    rw [hs] at h
    exact h

lemma Configuration.templateSet_within {config : Configuration} {d d' : Disk}
    (w : d.IsWithin d') {set : TemplateSet}
    (h : config.templateSet d = .ok set) : config.templateSet d' = .ok set := by
  rw [templateSet] at h ⊢
  rcases hdirectory : config.templates? with _ | directory
  · rw [hdirectory] at h
    exact h
  rw [hdirectory] at h
  dsimp only at h ⊢
  obtain ⟨sources, hsources, hset⟩ := exists_of_bind_ok h
  rw [TemplateSet.load, mapM_mono (fun role source hrole => ?_) hsources]
  · exact hset
  · rw [TemplateSet.loadRole] at hrole ⊢
    rcases hread : d.readText (Path.join directory role.template) with e | text
    · rw [hread] at hrole
      split at hrole <;> simp_all
    · rw [hread] at hrole
      rw [w.readText hread]
      exact hrole

/-! ### Writing again -/

/-- A path and the names in it are not longer than what can be looked up. -/
def Disk.IsShort (path : String) : Prop :=
  path.utf8ByteSize ≤ longestPath ∧ ∀ n ∈ Path.components path, n.utf8ByteSize ≤ longestName

instance (path : String) : Decidable (IsShort path) :=
  inferInstanceAs (Decidable (_ ∧ _))

lemma checkPath_temporaryPath {path name : String} (he : Path.EndsIn path name)
    (h : checkPath path = .ok ()) (hs : (Naming.temporaryPath path).utf8ByteSize ≤ longestPath) :
    checkPath (Naming.temporaryPath path) = .ok () := by
  obtain ⟨hnone, -, -⟩ := checkPath_eq_ok_iff.mp h
  refine checkPath_eq_ok_iff.mpr ⟨fun hzero => ?_, he.temporary.ne_empty, hs⟩
  have habove : Char.ofNat 0 ∉ ((Path.parent? path).getD "").toList := by
    rcases hparent : Path.parent? path with _ | above
    · simp
    · exact fun hc => hnone ((Path.parent?_begins hparent).1.subset hc)
  have hname : Char.ofNat 0 ∉ (Path.temporaryName name).toList := by
    obtain ⟨before, -, htext⟩ := he.text
    rw [Path.temporaryName_toList, List.mem_cons, List.mem_append]
    rintro (hdot | hc | hending)
    · exact absurd hdot (by decide)
    · exact hnone (htext ▸ List.mem_append_right _ hc)
    · exact absurd hending (by decide)
  rw [Path.temporaryPath_eq he, Path.withFileName, he.fileName?] at hzero
  rcases Path.join_cases _ he.isName.temporaryName with ⟨-, hj⟩ | ⟨-, bs, hbs, hj⟩
  · rw [hj] at hzero
    exact hname hzero
  · rw [hj, List.mem_append, List.mem_cons] at hzero
    rcases hzero with hc | hslash | hc
    · refine habove ?_
      rcases hbs with hbs | hbs <;> rw [hbs]
      · exact hc
      · exact List.mem_append_left _ hc
    · exact absurd hslash (by decide)
    · exact hname hc

lemma mapM_of_areTexts {g : Generator} {c : Compiled} {d : Disk}
    {pages : List (PlannedFile × String)} (h : AreTexts g c d pages) :
    (pages.map Prod.fst).mapM (g.textOf c d) = .ok (pages.map Prod.snd) := by
  induction pages with
  | nil => rfl
  | cons x pages ih =>
    obtain ⟨hx, hpages⟩ := List.forall_mem_cons.mp h
    rw [List.map_cons, mapM_cons_ok hx, ih hpages]
    rfl

section Again

variable {root : String} {d₀ d d₁ : Disk} {pages : List (PlannedFile × String)} {g : Generator}
  {c : Compiled} (hup : ".." ∉ Path.components root) (hp : ArePlaced root (pages.map Prod.fst))
  (hw : HasWritten root (pages.map Prod.fst) d₀ pages d) (hfaults : g.faults = .never)
  (hshort : g.mode = .atomic →
    ∀ x ∈ pages, IsShort (Naming.temporaryPath x.1.destination))

include hup hp hw hfaults hshort

/-- **Writing a file again** changes nothing. -/
theorem write_again (hsame : d.IsSame d₁) {x : PlannedFile × String} (hx : x ∈ pages) :
    ∃ d₂, g.write x.1 x.2 d₁ = .ok () d₂ ∧ d.IsSame d₂ := by
  obtain ⟨P, hP⟩ := hw.exists_grows (List.ne_nil_of_mem hx)
  obtain ⟨dirs, name, q, hl, hr⟩ := hw.reached x hx
  obtain rfl := hP.place hl.isName hr.leads
  have hpage := hP.pages _ (List.mem_map_of_mem hx)
  have hmem : dirs ++ [name] ∈ placesOf root (pages.map Prod.fst) :=
    hl.below ▸ List.mem_map_of_mem (List.mem_map_of_mem hx)
  -- nothing has been left beside the file by the run before
  have htemporary : d.get? ((dirs ++ [Path.temporaryName name]).reverse ++ P) = none := by
    refine hP.get?_none (fun page hpage heq => ?_) (hp.apart.temporary_way _ _ hmem)
    obtain ⟨y, hy, rfl⟩ := List.mem_map.mp hpage
    exact hp.apart.temporary _ _ hmem (heq ▸ List.mem_map_of_mem (List.mem_map_of_mem hy))
  rw [hl.below] at hpage
  rw [List.reverse_concat, List.cons_append] at hpage htemporary
  have hr₁ := hr.kept hsame.within.keepsWays
  have hbeside (hatomic : g.mode = .atomic) :
      d₁.Reaches (Naming.temporaryPath x.1.destination) (Path.components root ++ dirs)
        (Path.temporaryName name) (dirs.reverse ++ P) := by
    obtain ⟨hpath, hnames⟩ := hshort hatomic x hx
    refine ⟨hl.endsIn.temporary, hl.temporary.components,
      checkPath_temporaryPath hl.endsIn hr.check hpath, hnames _ ?_, hr₁.leads⟩
    rw [hl.temporary.components]
    exact List.mem_append_right _ (List.mem_singleton_self _)
  have hfile := (hsame.get? _).trans hpage
  obtain ⟨d₂, hwrite, hputs⟩ := Faults.writeFile_never hl.endsIn hl.components
    (hsame.sound hP.sound) (hl.no_up hup) hr₁ hbeside (Or.inr ⟨_, hfile⟩)
    ((hsame.get? _).trans htemporary) x.2.toUTF8
  refine ⟨d₂, ?_, hsame.trans (hputs.same hfile)⟩
  rw [Generator.write, hfaults]
  exact hwrite

lemma writeAll_again (hsame : d.IsSame d₁) {more : List (PlannedFile × String)}
    (hmore : more ⊆ pages) : ∃ d₂, g.writeAll more d₁ = .ok () d₂ ∧ d.IsSame d₂ := by
  induction more generalizing d₁ with
  | nil => exact ⟨d₁, rfl, hsame⟩
  | cons x more ih =>
    obtain ⟨d₂, hx, hsame₂⟩ := write_again hup hp hw hfaults hshort hsame (hmore List.mem_cons_self)
    obtain ⟨d₃, hrest, hsame₃⟩ := ih hsame₂ fun y hy => hmore (List.mem_cons_of_mem _ hy)
    exact ⟨d₃, bind_eq_ok_iff.mpr ⟨(), d₂, hx, hrest⟩, hsame₃⟩

variable (hpure : g.formatter.IsPureFrom d₀) (htexts : AreTexts g c d₀ pages)

include hpure htexts

lemma stream_again (hsame : d.IsSame d₁) {more : List (PlannedFile × String)}
    (hmore : more ⊆ pages) :
    ∃ d₂, (g.stream c (more.map Prod.fst) d₁).ending = .ok () d₂ ∧ d.IsSame d₂ := by
  induction more generalizing d₁ with
  | nil => exact ⟨d₁, rfl, hsame⟩
  | cons x more ih =>
    have hx : x ∈ pages := hmore List.mem_cons_self
    have hwithin := hw.begun.within.trans hsame.within
    have ht : g.textOf c d₁ x.1 = .ok x.2 := by
      rw [Generator.textOf_within hpure hwithin rfl c]
      exact htexts x hx
    obtain ⟨d₂, hwrite, hsame₂⟩ := write_again hup hp hw hfaults hshort hsame hx
    obtain ⟨d₃, hrest, hsame₃⟩ := ih hsame₂ fun y hy => hmore (List.mem_cons_of_mem _ hy)
    refine ⟨d₃, ?_, hsame₃⟩
    rw [List.map_cons, Generator.stream_cons_ok (Generator.produce_ok (hpure.keeps hwithin) ht),
      hwrite]
    exact hrest

/-- **Making the files again** succeeds under either strategy and changes nothing. -/
theorem emit_again (hc : g.templates.compile = .ok c) :
    (g.emit (pages.map Prod.fst) d).result =
        .ok ((pages.map Prod.fst).map PlannedFile.destination) ∧
      d.IsSame (g.emit (pages.map Prod.fst) d).disk := by
  suffices hcarry : ∃ d₂, (g.carry c (pages.map Prod.fst) d).ending = .ok () d₂ ∧ d.IsSame d₂ by
    obtain ⟨d₂, hend, hsame⟩ := hcarry
    obtain ⟨hresult, rfl⟩ := ending_eq_ok_iff.mp hend
    rw [Generator.emit_of_compile hc, hresult]
    exact ⟨rfl, hsame⟩
  rw [Generator.carry]
  split
  · exact stream_again hup hp hw hfaults hshort hpure htexts (.refl d) (List.Subset.refl _)
  · have hm := mapM_of_areTexts htexts
    rw [← Generator.textOf_within hpure hw.begun.within rfl c] at hm
    rw [Generator.stage_of_ok (hpure.keeps hw.begun.within) hm, List.zip_map', List.map_id']
    exact writeAll_again hup hp hw hfaults hshort (.refl d) (List.Subset.refl _)

end Again

/-- **A run can be repeated.** After a run that succeeded where the root was no directory before, a
run of the same specs under any mode and strategy succeeds on a device that does not fail, with the
same report, and leaves the disk as it is. Files are moved to their places only if the names of the
files beside them are short enough. -/
theorem generate_again (launch : Program → Formatter) (config : Configuration) (faults : Faults)
    (specs : List Resource) (d : Disk) (hd : d.IsSound) (hroot : config.layout.rootPath ≠ "")
    (hup : ".." ∉ Path.components config.layout.rootPath)
    (hfree : d.isDirectory config.layout.rootPath = false)
    (hpure : (launch config.formatter).IsPureFrom d) (report : Report)
    (h : (config.generateWith launch faults specs d).result = .ok report) (mode : WriteMode)
    (strategy : Strategy) (hshort : mode = .atomic →
      ∀ path ∈ report.written, IsShort (Naming.temporaryPath path)) :
    let after := (config.generateWith launch faults specs d).disk
    let again := { config with mode, strategy }.generateWith launch .never specs after
    again.result = .ok report ∧ after.IsSame again.disk := by
  obtain ⟨t, g, c, pages, hs, rfl⟩ :=
    Configuration.exists_succeeds launch config faults specs d hd hroot hup hfree hpure report h
  obtain ⟨hset, hg⟩ := Configuration.generator_eq hs.generator
  have hwithin := hs.written.begun.within
  obtain ⟨g', hg'⟩ : ∃ g' : Generator, g' = { g with mode, strategy, faults := .never } :=
    ⟨_, rfl⟩
  have hgenerator : { config with mode, strategy }.generator launch .never
      (config.generateWith launch faults specs d).disk = .ok g' := by
    have hset' : { config with mode, strategy }.templateSet
        (config.generateWith launch faults specs d).disk = .ok g.templates :=
      Configuration.templateSet_within hwithin hset
    rw [Configuration.generator, hset', hg', hg]
    rfl
  have hbuild : ({ config with mode, strategy }.build specs).result = .ok t := hs.build
  have hformatter : g'.formatter = launch config.formatter := by rw [hg', hg]
  have hshort' (hatomic : g'.mode = .atomic) :
      ∀ x ∈ pages, IsShort (Naming.temporaryPath x.1.destination) := by
    intro x hx
    have hmem : x.1 ∈ t.plan := hs.plan ▸ List.mem_map_of_mem hx
    exact hshort (by rw [← hatomic, hg']) _ (List.mem_map_of_mem hmem)
  have htexts : AreTexts g' c d pages := by
    rw [hg']
    exact hs.texts
  have hcompile : g'.templates.compile = .ok c := by rw [hg', hs.compile]
  obtain ⟨hresult, hsame⟩ := emit_again hup hs.placed hs.written (by rw [hg']) hshort'
    (hformatter ▸ hpure) htexts hcompile
  rw [← hs.plan] at hresult hsame
  obtain ⟨hreport, hdisk⟩ := Configuration.generateWith_of_emit hbuild hgenerator hresult
  exact ⟨hreport, by rw [hdisk]; exact hsame⟩

/-- The files that were written one after the other in place are made again in two passes and moved
to their places. -/
theorem passingDisk_again :
    let after := (passingConfiguration.generateWith (Program.formatterBy .passing) .never podOnly
      passingDisk).disk
    let again := { passingConfiguration with mode := .atomic, strategy := .staged }.generateWith
      (Program.formatterBy .passing) .never podOnly after
    again.result = .ok passingReport ∧ after.IsSame again.disk :=
  generate_again (Program.formatterBy .passing) passingConfiguration .never podOnly passingDisk
    isSound_passingDisk (by decide) (by decide +kernel) (by decide +kernel)
    (isPureFrom_passing _ _) passingReport generate_passingDisk .atomic .staged
    fun _ => by decide +kernel

end ClientGen
