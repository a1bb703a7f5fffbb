import ClientGen.Proofs.Generator.Emission

/-!
The two strategies beside each other. With a formatter that is a function of the text, streaming
writes what staging writes, and it writes it earlier: it ends as staging does, unless the disk
refuses a file that comes before the first one without a text.
-/

namespace ClientGen

namespace Generator

variable {g : Generator} {c : Compiled} {d : Disk}

def under (g : Generator) (s : Strategy) : Generator := { g with strategy := s }

lemma stream_cons_error {file : PlannedFile} {rest : List PlannedFile} {e : Failure} {d' : Disk}
    (h : g.produce c file d = .error e d') :
    (g.stream c (file :: rest) d).ending = .error e d' := by
  rw [stream, ending_behind, h]
  rfl

lemma stream_cons_ok {file : PlannedFile} {rest : List PlannedFile} {text : String} {d' : Disk}
    (h : g.produce c file d = .ok text d') : (g.stream c (file :: rest) d).ending =
      match g.write file text d' with
      | .ok () d'' => (g.stream c rest d'').ending
      | .error e d'' => .error e d'' := by
  rw [stream, ending_behind, h]
  dsimp only
  rcases g.write file text d' with ⟨⟨⟩, d''⟩ | ⟨e, d''⟩ <;> rfl

lemma stream_append (xs ys : List PlannedFile) : (g.stream c (xs ++ ys) d).ending =
    match (g.stream c xs d).ending with
    | .ok () d' => (g.stream c ys d').ending
    | .error e d' => .error e d' := by
  induction xs generalizing d with
  | nil => rfl
  | cons file rest ih =>
    rw [List.cons_append]
    rcases hp : g.produce c file d with ⟨text, d'⟩ | ⟨e, d'⟩
    · rw [stream_cons_ok hp, stream_cons_ok hp]
      rcases g.write file text d' with ⟨⟨⟩, d''⟩ | ⟨e, d''⟩
      · exact ih
      · rfl
    · rw [stream_cons_error hp, stream_cons_error hp]

section Pure

variable (h : g.formatter.IsPure)

include h

lemma textOf_congr (d d' : Disk) : g.textOf c d = g.textOf c d' := by
  obtain ⟨f, hf⟩ := h
  funext file
  rw [textOf, textOf, produce]
  rcases c.render file.role file.context.fields file.destination with e | text
  · rfl
  · simp only [format]
    rw [hf]
    simp only [Formatter.pure]
    cases f text <;> rfl

lemma stream_of_ok (d₀ : Disk) {files : List PlannedFile} {texts : List String}
    (hm : files.mapM (g.textOf c d₀) = .ok texts) :
    (g.stream c files d).ending = g.writeAll (files.zip texts) d := by
  induction files generalizing d texts with
  | nil => rfl
  | cons file rest ih =>
    rcases ht : g.textOf c d₀ file with e | text
    · rw [mapM_cons_error ht] at hm
      cases hm
    rw [mapM_cons_ok ht] at hm
    rcases hs : rest.mapM (g.textOf c d₀) with e | more
    · rw [hs] at hm
      cases hm
    rw [hs] at hm
    cases hm
    rw [textOf_congr h d₀ d] at ht
    rw [stream_cons_ok (produce_ok (h.keepsDisk.keeps d) ht), List.zip_cons_cons, writeAll]
    change _ = EStateM.bind (g.write file text) _ d
    rw [EStateM.bind]
    rcases g.write file text d with ⟨⟨⟩, d'⟩ | ⟨e, d'⟩
    · exact ih hs
    · rfl

end Pure

/-- The disk refuses a file before the first one without a text, which fails with `e`. -/
def RefusedBefore (g : Generator) (files : List PlannedFile) (d : Disk) (e refusal : Failure) :
    Prop :=
  ∃ c earlier file later, g.templates.compile = .ok c ∧ files = earlier ++ file :: later ∧
    (∀ f ∈ earlier, ∃ text, g.textOf c d f = .ok text) ∧ g.textOf c d file = .error e ∧
    ((g.under .streaming).emit earlier d).result = .error refusal

/-- The two strategies agree on some files and a disk. -/
structure StrategiesAgree (g : Generator) (files : List PlannedFile) (d : Disk) : Prop where
  success : ∀ written, ((g.under .streaming).emit files d).result = .ok written ↔
    ((g.under .staged).emit files d).result = .ok written
  disk : ∀ written, ((g.under .streaming).emit files d).result = .ok written →
    ((g.under .staged).emit files d).disk = ((g.under .streaming).emit files d).disk
  streamed : ∀ e, e.isProduction = true →
    ((g.under .streaming).emit files d).result = .error e →
    ((g.under .staged).emit files d).result = .error e
  staged : ∀ e, e.isProduction = true → ((g.under .staged).emit files d).result = .error e →
    ((g.under .streaming).emit files d).result = .error e ∨
      ∃ refusal, refusal.isDisk = true ∧
        ((g.under .streaming).emit files d).result = .error refusal ∧
        g.RefusedBefore files d e refusal
  refused : ∀ e, e.isDisk = true → ((g.under .staged).emit files d).result = .error e →
    ((g.under .streaming).emit files d).result = .error e ∧
      ((g.under .streaming).emit files d).disk = ((g.under .staged).emit files d).disk

section Agree

variable {files : List PlannedFile}

lemma result_eq_of_ending {α : Type} {o o' : Outcome α} (h : o.ending = o'.ending) :
    o.result = o'.result ∧ o.disk = o'.disk := by
  obtain ⟨e | a, d, events⟩ := o <;> obtain ⟨e' | a', d', events'⟩ := o' <;> cases h <;>
    exact ⟨rfl, rfl⟩

lemma StrategiesAgree.of_ending
    (h : ((g.under .streaming).emit files d).ending = ((g.under .staged).emit files d).ending) :
    StrategiesAgree g files d := by
  obtain ⟨hresult, hdisk⟩ := result_eq_of_ending h
  exact ⟨fun _ => by rw [hresult], fun _ _ => hdisk.symm, fun _ _ he => hresult ▸ he,
    fun _ _ he => Or.inl (hresult ▸ he), fun _ _ he => ⟨hresult ▸ he, hdisk⟩⟩

lemma StrategiesAgree.of_error {e refusal : Failure} (he : e.isProduction = true)
    (hstaged : ((g.under .staged).emit files d).result = .error e)
    (hstreamed : ((g.under .streaming).emit files d).result = .error refusal)
    (hwhy : refusal = e ∨ refusal.isDisk = true ∧ g.RefusedBefore files d e refusal) :
    StrategiesAgree g files d := by
  refine ⟨fun w => by simp [hstaged, hstreamed], fun w hw => ?_, fun f hf hw => ?_,
    fun f _ hw => ?_, fun f hf hw => ?_⟩
  · rw [hstreamed] at hw
    cases hw
  · rw [hstreamed] at hw
    cases hw
    rcases hwhy with rfl | ⟨hdisk, -⟩
    · exact hstaged
    · rw [Failure.isDisk_of_isProduction hf] at hdisk
      cases hdisk
  · rw [hstaged] at hw
    cases hw
    rcases hwhy with rfl | ⟨hdisk, hbefore⟩
    · exact Or.inl hstreamed
    · exact Or.inr ⟨refusal, hdisk, hstreamed, hbefore⟩
  · rw [hstaged] at hw
    cases hw
    rw [Failure.isDisk_of_isProduction he] at hf
    cases hf

end Agree

lemma writeAll_under (s : Strategy) (pages : List (PlannedFile × String)) :
    (g.under s).writeAll pages = g.writeAll pages := by
  induction pages with
  | nil => rfl
  | cons page rest ih =>
    rw [writeAll, writeAll, ih]
    rfl

lemma emit_streaming_error (hc : g.templates.compile = .ok c) {files : List PlannedFile}
    {e : Failure} {d' : Disk} (h : ((g.under .streaming).stream c files d).ending = .error e d') :
    ((g.under .streaming).emit files d).result = .error e :=
  (emit_eq_error_iff (g := g.under .streaming) hc).mpr (ending_eq_error_iff.mp h).1

lemma emit_staged_error (hc : g.templates.compile = .ok c) {files : List PlannedFile}
    {e : Failure} {d' : Disk} (h : ((g.under .staged).stage c files d).ending = .error e d') :
    ((g.under .staged).emit files d).result = .error e :=
  (emit_eq_error_iff (g := g.under .staged) hc).mpr (ending_eq_error_iff.mp h).1

/-- **The strategies agree.** With a formatter that is a function of the text, streaming succeeds
just when staging does, with the same files and the same disk; where staging fails for want of a
text, streaming fails for the same text or for an earlier file that the disk refuses; and where the
disk refuses a staged file, it refuses the same file when streamed. -/
theorem strategiesAgree (g : Generator) (h : g.formatter.IsPure) (files : List PlannedFile)
    (d : Disk) : StrategiesAgree g files d := by
  rcases hc : g.templates.compile with e | c
  · refine StrategiesAgree.of_ending ?_
    rw [emit_of_malformed (g := g.under .streaming) hc, emit_of_malformed (g := g.under .staged) hc]
  have hkeeps (d' : Disk) : g.formatter.Keeps d' := h.keepsDisk.keeps d'
  rcases hm : files.mapM (g.textOf c d) with e | texts
  · -- `e` is the failure of the first file without a text
    obtain ⟨earlier, file, later, texts, hfiles, htexts, hfile⟩ := first_error_of_mapM hm
    have hproduction := isProduction_of_textOf hfile
    have hstaged := emit_staged_error hc (stage_of_error (g := g.under .staged) (hkeeps d) hm)
    have hbefore := stream_of_ok (g := g.under .streaming) h d (d := d) htexts
    have hall := stream_append (g := g.under .streaming) (c := c) (d := d) earlier (file :: later)
    rw [← hfiles] at hall
    rcases hw : (g.under .streaming).writeAll (earlier.zip texts) d with ⟨⟨⟩, d'⟩ | ⟨r, d'⟩
    · have hfails := produce_error (g := g.under .streaming) (hkeeps d')
        (textOf_congr h d d' ▸ hfile)
      rw [hbefore, hw] at hall
      dsimp only at hall
      rw [stream_cons_error hfails] at hall
      exact .of_error hproduction hstaged (emit_streaming_error hc hall) (Or.inl rfl)
    · have hdisk : r.isDisk = true := failsOnlyWith_writeAll _ _ _ _ hw
      rw [hw] at hbefore
      rw [hbefore] at hall
      refine .of_error hproduction hstaged (emit_streaming_error hc hall) (Or.inr ⟨hdisk, ?_⟩)
      exact ⟨c, earlier, file, later, hc, hfiles, exists_ok_of_mapM htexts, hfile,
        emit_streaming_error hc hbefore⟩
  · have hcarry : ((g.under .streaming).carry c files d).ending =
        ((g.under .staged).carry c files d).ending := by
      have hstreamed := stream_of_ok (g := g.under .streaming) h d (d := d) hm
      have hstaged := stage_of_ok (g := g.under .staged) (hkeeps d) hm
      rw [writeAll_under] at hstreamed hstaged
      exact hstreamed.trans hstaged.symm
    refine .of_ending ?_
    rw [emit_ending (g := g.under .streaming) hc, emit_ending (g := g.under .staged) hc, hcarry]

/-- Plain templates, of which the formatter takes only that of the root client. -/
def blockedGenerator : Generator where
  templates := ⟨.standard, fun role => if role = .rootClient then "" else "x"⟩
  formatter := .pure "fmt" fun text => if text = "" then .ok "" else .error (.exit (.code 1) "")
  mode := .replace
  strategy := .streaming
  faults := .never

/-- A file whose directory cannot be made, and one without a text. -/
def blockedFiles : List PlannedFile :=
  [⟨.rootClient, "blocked/client.rs", none, .root "" "" "" []⟩,
    ⟨.groupVersionClient, "client.rs", none, .root "" "" "" []⟩]

/-- A disk with a file where a directory is needed. -/
def blockedDisk : Disk where
  current := ["work"]
  entries := [(["blocked", "work"], .file .empty), (["work"], .directory)]

/-- The disk refuses the first file when streaming, before staging would fail for the second. -/
theorem blocked_strategiesAgree :
    StrategiesAgree blockedGenerator blockedFiles blockedDisk ∧
      ((blockedGenerator.under .streaming).emit blockedFiles blockedDisk).result =
        .error (.disk "blocked" .exists) ∧
      ((blockedGenerator.under .staged).emit blockedFiles blockedDisk).result =
        .error (.format "fmt" "client.rs" (.exit (.code 1) "")) :=
  ⟨strategiesAgree blockedGenerator ⟨_, rfl⟩ blockedFiles blockedDisk, by decide +kernel,
    by decide +kernel⟩

end Generator

end ClientGen
