import ClientGen.Proofs.Generator.Production

/-!
Making files under both strategies. Streaming does with a list of files what it does with its
beginning, and goes on with the rest if that ends well; staging writes the texts of all files, or
fails with the first text that is not there. Whatever fails is a text or a place on the disk.
-/

namespace ClientGen

/-- A file could not be made: its text was not there, or the disk did not take it. -/
def Failure.isEmission (e : Failure) : Bool := e.isProduction || e.isDisk

/-- How an outcome ends, whatever was told on the way. -/
def Outcome.ending {α : Type} (o : Outcome α) : EStateM.Result Failure Disk α :=
  match o.result with
  | .ok a => .ok a o.disk
  | .error e => .error e o.disk

section Ending

variable {α : Type} {o : Outcome α} {d : Disk}

@[simp] lemma ending_behind (events : List Event) : (o.behind events).ending = o.ending := rfl

lemma ending_eq_ok_iff {a : α} : o.ending = .ok a d ↔ o.result = .ok a ∧ o.disk = d := by
  obtain ⟨e | b, d', events⟩ := o <;> simp [Outcome.ending]

lemma ending_eq_error_iff {e : Failure} :
    o.ending = .error e d ↔ o.result = .error e ∧ o.disk = d := by
  obtain ⟨e' | b, d', events⟩ := o <;> simp [Outcome.ending]

end Ending

namespace Generator

variable {g : Generator} {c : Compiled} {d : Disk} {files : List PlannedFile} {e : Failure}

lemma failsOnlyWith_write (file : PlannedFile) (text : String) :
    FailsOnlyWith (·.isDisk = true) (g.write file text) :=
  g.faults.failsOnlyWith_writeFile _ _ _

lemma failsOnlyWith_writeAll (pages : List (PlannedFile × String)) :
    FailsOnlyWith (·.isDisk = true) (g.writeAll pages) := by
  induction pages with
  | nil => exact failsOnlyWith_pure _
  | cons page rest ih => exact (failsOnlyWith_write page.1 page.2).bind fun _ => ih

lemma produceAll_error (h : (g.produceAll c files d).result = .error e) :
    e.isProduction = true := by
  induction files generalizing d with
  | nil => cases h
  | cons file rest ih =>
    rw [produceAll] at h
    rcases hp : g.produce c file d with ⟨text, d'⟩ | ⟨e', d'⟩
    · simp only [hp, Outcome.behind] at h
      rcases hr : (g.produceAll c rest d').result with e' | texts
      · rw [hr] at h
        cases h
        exact ih hr
      · rw [hr] at h
        cases h
    · simp only [hp, Outcome.behind] at h
      cases h
      exact failsOnlyWith_produce file _ _ _ hp

lemma stream_events (h : (g.stream c files d).result = .ok ()) :
    (g.stream c files d).events = files.map announcement := by
  induction files generalizing d with
  | nil => rfl
  | cons file rest ih =>
    rw [stream] at h ⊢
    rcases hproduce : g.produce c file d with ⟨text, d₁⟩ | ⟨e, d₁⟩
    · rcases hwrite : g.write file text d₁ with ⟨⟨⟩, d₂⟩ | ⟨e, d₂⟩
      · simp only [hproduce, hwrite, Outcome.behind] at h ⊢
        rw [ih h]
        rfl
      · simp [hproduce, hwrite, Outcome.behind] at h
    · simp [hproduce, Outcome.behind] at h

lemma produceAll_events {texts : List String}
    (h : (g.produceAll c files d).result = .ok texts) :
    (g.produceAll c files d).events = files.map announcement := by
  induction files generalizing d texts with
  | nil => rfl
  | cons file rest ih =>
    rw [produceAll] at h ⊢
    rcases hproduce : g.produce c file d with ⟨text, d₁⟩ | ⟨e, d₁⟩
    · simp only [hproduce, Outcome.behind] at h ⊢
      rcases hmore : (g.produceAll c rest d₁).result with e | more
      · simp [hmore, Except.map] at h
      · rw [ih hmore]
        rfl
    · simp [hproduce, Outcome.behind] at h

lemma stream_error (h : (g.stream c files d).result = .error e) : e.isEmission = true := by
  induction files generalizing d with
  | nil => cases h
  | cons file rest ih =>
    rw [stream] at h
    rcases hp : g.produce c file d with ⟨text, d'⟩ | ⟨e', d'⟩
    · simp only [hp, Outcome.behind] at h
      rcases hw : g.write file text d' with ⟨⟨⟩, d''⟩ | ⟨e', d''⟩
      · rw [hw] at h
        exact ih h
      · rw [hw] at h
        cases h
        simp [Failure.isEmission, failsOnlyWith_write file text _ _ _ hw]
    · simp only [hp, Outcome.behind] at h
      cases h
      simp [Failure.isEmission, failsOnlyWith_produce file _ _ _ hp]

lemma stage_error (h : (g.stage c files d).result = .error e) : e.isEmission = true := by
  rw [stage] at h
  rcases hp : (g.produceAll c files d).result with e' | texts
  · simp only [hp] at h
    cases h
    simp [Failure.isEmission, produceAll_error hp]
  · simp only [hp] at h
    split at h
    · next hw =>
      cases h
      simp [Failure.isEmission, failsOnlyWith_writeAll _ _ _ _ hw]
    · cases h

/-- What is done with the files once the templates are compiled. -/
def carry (g : Generator) (c : Compiled) (files : List PlannedFile) (d : Disk) : Outcome Unit :=
  match g.strategy with
  | .streaming => g.stream c files d
  | .staged => g.stage c files d

lemma emit_of_compile (hc : g.templates.compile = .ok c) :
    g.emit files d =
      { g.carry c files d with
        result := (g.carry c files d).result.map fun _ => files.map (·.destination) } := by
  simp only [emit, hc]
  rfl

lemma emit_of_malformed (hc : g.templates.compile = .error e) :
    g.emit files d = ⟨.error e, d, []⟩ := by
  simp only [emit, hc]

lemma emit_eq_error_iff (hc : g.templates.compile = .ok c) :
    (g.emit files d).result = .error e ↔ (g.carry c files d).result = .error e := by
  rw [emit_of_compile hc]
  rcases (g.carry c files d).result with e' | u <;> simp [Except.map]

lemma emit_eq_ok_iff (hc : g.templates.compile = .ok c) {written : List String} :
    (g.emit files d).result = .ok written ↔
      (g.carry c files d).result = .ok () ∧ files.map PlannedFile.destination = written := by
  rw [emit_of_compile hc]
  rcases (g.carry c files d).result with e' | ⟨⟨⟩⟩ <;> simp [Except.map]

lemma emit_eq_ok {written : List String} (h : (g.emit files d).result = .ok written) :
    ∃ c, g.templates.compile = .ok c ∧ (g.carry c files d).result = .ok () ∧
      files.map PlannedFile.destination = written := by
  rcases hc : g.templates.compile with e | c
  · rw [emit_of_malformed hc] at h
    cases h
  · exact ⟨c, rfl, (emit_eq_ok_iff hc).mp h⟩

lemma emit_disk (hc : g.templates.compile = .ok c) :
    (g.emit files d).disk = (g.carry c files d).disk := by
  rw [emit_of_compile hc]

lemma emit_ending (hc : g.templates.compile = .ok c) : (g.emit files d).ending =
    match (g.carry c files d).ending with
    | .ok () d' => .ok (files.map (·.destination)) d'
    | .error e d' => .error e d' := by
  rw [emit_of_compile hc]
  obtain ⟨e | u, d', events⟩ := g.carry c files d <;> rfl

lemma emit_error (h : (g.emit files d).result = .error e) : e.isEmission = true := by
  rcases hc : g.templates.compile with e' | c
  · rw [emit_of_malformed hc] at h
    cases h
    simp [Failure.isEmission, TemplateSet.isProduction_of_compile hc]
  · rw [emit_eq_error_iff hc, carry] at h
    split at h
    · exact stream_error h
    · exact stage_error h

section Keeps

variable (h : g.formatter.Keeps d)

include h

lemma stage_of_error (hm : files.mapM (g.textOf c d) = .error e) :
    (g.stage c files d).ending = .error e d := by
  obtain ⟨hresult, hdisk⟩ := produceAll_eq h (c := c) files
  rw [hm] at hresult
  simp only [stage, hresult, hdisk, Outcome.ending]

lemma stage_of_ok {texts : List String} (hm : files.mapM (g.textOf c d) = .ok texts) :
    (g.stage c files d).ending = g.writeAll (files.zip texts) d := by
  obtain ⟨hresult, hdisk⟩ := produceAll_eq h (c := c) files
  rw [hm] at hresult
  simp only [stage, hresult, hdisk]
  rcases hw : g.writeAll (files.zip texts) d with ⟨⟨⟩, d'⟩ | ⟨e', d'⟩ <;> rfl

lemma stage_disk (he : (g.stage c files d).result = .error e) (hp : e.isProduction = true) :
    (g.stage c files d).disk = d := by
  rcases hm : files.mapM (g.textOf c d) with e' | texts
  · exact (ending_eq_error_iff.mp (stage_of_error h hm)).2
  · have hend := stage_of_ok h hm
    rcases hw : g.writeAll (files.zip texts) d with ⟨⟨⟩, d'⟩ | ⟨e', d'⟩
    · rw [hw, ending_eq_ok_iff, he] at hend
      cases hend.1
    · rw [hw, ending_eq_error_iff, he] at hend
      cases hend.1
      have hdisk : e.isDisk = true := failsOnlyWith_writeAll _ _ _ _ hw
      rw [Failure.isDisk_of_isProduction hp] at hdisk
      cases hdisk

end Keeps

end Generator

end ClientGen
