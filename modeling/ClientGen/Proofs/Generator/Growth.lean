import ClientGen.Proofs.Generator.Strategies
import ClientGen.Proofs.Plan.Places

/-!
What a run puts on a disk. With a formatter that is a function of the text as long as nothing is
taken off the disk, every file that is written adds one page below the root, so the pages are at any
time those of the files written so far.
-/

namespace ClientGen

open Disk

/-! ### Formatters on a growing disk -/

/-- On every disk that holds what `d` holds, a formatter is one and the same function of the
text. -/
def Formatter.IsPureFrom (f : Formatter) (d : Disk) : Prop :=
  ∃ h : String → Except FormatFault String,
    ∀ d', d.IsWithin d' → ∀ text, f.format text d' = (Formatter.pure f.name h).format text d'

lemma Formatter.IsPure.isPureFrom {f : Formatter} (h : f.IsPure) (d : Disk) : f.IsPureFrom d := by
  obtain ⟨g, hg⟩ := h
  exact ⟨g, fun d' _ text => by rw [← hg]⟩

section Pure

variable {f : Formatter} {d d' : Disk} (h : f.IsPureFrom d) (w : d.IsWithin d')

include h w

lemma Formatter.IsPureFrom.keeps : f.Keeps d' := by
  obtain ⟨g, hg⟩ := h
  intro text
  rw [hg d' w]
  simp only [Formatter.pure]
  cases g text <;> rfl

lemma Generator.textOf_within {g : Generator} (hg : g.formatter = f) (c : Compiled) :
    g.textOf c d' = g.textOf c d := by
  obtain ⟨g', hpure⟩ := h
  funext file
  rw [textOf, textOf, produce]
  rcases c.render file.role file.context.fields file.destination with e | text
  · rfl
  · simp only [Generator.format, hg, hpure d' w, hpure d (.refl d), Formatter.pure]
    cases g' text <;> rfl

end Pure

/-! ### Files that are written -/

def pagesOf (root : String) (done : List (PlannedFile × String)) :
    List (List String × ByteArray) :=
  done.map fun x => (Path.below root x.1.destination, x.2.toUTF8)

def placesOf (root : String) (files : List PlannedFile) : List (List String) :=
  files.map fun f => Path.below root f.destination

/-- Some files have been written below a root, on a disk that was `d₀` before. -/
structure HasWritten (root : String) (files : List PlannedFile) (d₀ : Disk)
    (done : List (PlannedFile × String)) (d : Disk) : Prop where
  begun : Begun (Path.components root) (placesOf root files) d₀ (pagesOf root done) d
  reached : ∀ x ∈ done, ∃ dirs name q,
    LiesAt (Path.components root) x.1.destination dirs name ∧
      d.Reaches x.1.destination (Path.components root ++ dirs) name q

section Written

variable {root : String} {files : List PlannedFile} {d₀ d d' : Disk}
  {done : List (PlannedFile × String)} {g : Generator} {c : Compiled} {file : PlannedFile}
  {rest : List PlannedFile}

lemma ArePlaced.pages_ne (hp : ArePlaced root files)
    (hfiles : files = done.map Prod.fst ++ file :: rest) {dirs : List String} {name : String}
    (hb : Path.below root file.destination = dirs ++ [name]) :
    ∀ page ∈ pagesOf root done, page.1 ∈ placesOf root files ∧ page.1 ≠ dirs ++ [name] := by
  intro page hpage
  obtain ⟨x, hx, rfl⟩ := List.mem_map.mp hpage
  have hmem : x.1 ∈ done.map Prod.fst := List.mem_map_of_mem hx
  refine ⟨List.mem_map_of_mem (hfiles ▸ List.mem_append_left _ hmem), ?_⟩
  have hnodup := hp.nodup
  rw [hfiles, List.map_append, List.nodup_append] at hnodup
  rw [← hb]
  exact hnodup.2.2 _ (List.mem_map_of_mem hmem) _ (by simp)

section Step

variable (hd : d₀.IsSound) (hup : ".." ∉ Path.components root) (hp : ArePlaced root files)
  (hw : HasWritten root files d₀ done d)
  (hfiles : files = done.map Prod.fst ++ file :: rest)

include hd hup hp hw hfiles

/-- **One file more.** A file that is written adds a page. -/
theorem HasWritten.step {text : String} (ho : g.write file text d = .ok () d') :
    HasWritten root files d₀ (done ++ [(file, text)]) d' := by
  obtain ⟨dirs, name, hb, hl⟩ := hp.liesAt file (by simp [hfiles])
  have hmem : dirs ++ [name] ∈ placesOf root files :=
    hb ▸ List.mem_map_of_mem (by simp [hfiles])
  obtain ⟨P, hP, hwithin, hr⟩ :=
    hw.begun.write_ok hd hl hp.apart hmem (hp.pages_ne hfiles hb) hup ho
  refine ⟨?_, fun x hx => ?_⟩
  · rw [← hb] at hP
    rw [pagesOf, List.map_append]
    exact .grown P hP
  · rcases List.mem_append.mp hx with hx | hx
    · obtain ⟨ds, n, q, hds, hq⟩ := hw.reached x hx
      exact ⟨ds, n, q, hds, hq.kept hwithin.keepsWays⟩
    · rw [List.mem_singleton.mp hx]
      exact ⟨dirs, name, _, hl, hr⟩

/-- Where a file cannot be written, there is nothing new but a beginning of it, or a file beside it
that could not be taken away. -/
lemma HasWritten.step_error {text : String} {e : Failure}
    (ho : g.write file text d = .error e d') : d.IsWithin d' ∧ d'.IsSound ∧ ∃ more,
      Left (Path.components root) (placesOf root files) d₀ (pagesOf root done ++ more) d' ∧
      ∀ page ∈ more, page.1 = Path.below root file.destination ∨
        page.1 = Path.below root (Naming.temporaryPath file.destination) ∧
          ∃ e, g.faults.error? (.remove (Naming.temporaryPath file.destination)) = some e := by
  obtain ⟨dirs, name, hb, hl⟩ := hp.liesAt file (by simp [hfiles])
  have hmem : dirs ++ [name] ∈ placesOf root files :=
    hb ▸ List.mem_map_of_mem (by simp [hfiles])
  rw [hb, hl.temporary.below]
  exact hw.begun.write_error hd hl hp.apart hmem (hp.pages_ne hfiles hb) hup ho

end Step

/-- How a run ends at a file: its text is not there, or it cannot be written. -/
inductive StopsAt (g : Generator) (c : Compiled) (root : String) (files : List PlannedFile)
    (d₀ : Disk) (done : List (PlannedFile × String)) (file : PlannedFile) (e : Failure) :
    Disk → Prop
  | text {d : Disk} (hw : HasWritten root files d₀ done d) (h : g.textOf c d₀ file = .error e) :
      StopsAt g c root files d₀ done file e d
  | write {d d' : Disk} (text : String) (hw : HasWritten root files d₀ done d)
      (ht : g.textOf c d₀ file = .ok text) (h : g.write file text d = .error e d') :
      StopsAt g c root files d₀ done file e d'

def AreTexts (g : Generator) (c : Compiled) (d₀ : Disk) (done : List (PlannedFile × String)) :
    Prop :=
  ∀ x ∈ done, g.textOf c d₀ x.1 = .ok x.2

section Run

variable (hd : d₀.IsSound) (hup : ".." ∉ Path.components root) (hp : ArePlaced root files)

include hd hup hp

/-- **Writing texts.** -/
theorem HasWritten.writeAll {more : List (PlannedFile × String)}
    (hw : HasWritten root files d₀ done d) (hfiles : files = (done ++ more).map Prod.fst)
    (ho : g.writeAll more d = .ok () d') : HasWritten root files d₀ (done ++ more) d' := by
  induction more generalizing done d with
  | nil =>
    cases ho
    rwa [List.append_nil]
  | cons x more ih =>
    obtain ⟨⟨⟩, d₁, hx, hmore⟩ := bind_eq_ok_iff.mp ho
    rw [List.append_cons]
    have hfiles' : files = done.map Prod.fst ++ x.1 :: more.map Prod.fst := by
      rw [hfiles, List.map_append, List.map_cons]
    exact ih (hw.step hd hup hp hfiles' hx) (by rw [hfiles, List.append_cons]) hmore

variable (hpure : g.formatter.IsPureFrom d₀)

include hpure

/-- **Streaming.** It writes all files, or all before the one it stops at. -/
theorem HasWritten.stream (hw : HasWritten root files d₀ done d)
    (hfiles : files = done.map Prod.fst ++ rest) :
    match (g.stream c rest d).result with
    | .ok () => ∃ more, rest = more.map Prod.fst ∧ AreTexts g c d₀ more ∧
        HasWritten root files d₀ (done ++ more) (g.stream c rest d).disk
    | .error e => ∃ more file after, rest = more.map Prod.fst ++ file :: after ∧
        AreTexts g c d₀ more ∧ (g.stream c rest d).events =
          (more.map Prod.fst ++ [file]).map Generator.announcement ∧
        StopsAt g c root files d₀ (done ++ more) file e (g.stream c rest d).disk := by
  induction rest generalizing done d with
  | nil => exact ⟨[], rfl, by simp [AreTexts], by simpa [Generator.stream] using hw⟩
  | cons file rest ih =>
    have hwithin := hw.begun.within
    have htext := Generator.textOf_within hpure hwithin rfl c
    rw [Generator.stream]
    rcases ht : g.textOf c d₀ file with e | text
    · have hproduce := Generator.produce_error (hpure.keeps hwithin) (htext ▸ ht)
      simp only [hproduce, Outcome.behind]
      exact ⟨[], file, rest, rfl, by simp [AreTexts], rfl, by simpa using .text hw ht⟩
    · have hproduce := Generator.produce_ok (hpure.keeps hwithin) (htext ▸ ht)
      simp only [hproduce, Outcome.behind]
      rcases ho : g.write file text d with ⟨⟨⟩, d'⟩ | ⟨e, d'⟩
      · have hnext := ih (hw.step hd hup hp hfiles ho) (by simp [hfiles])
        dsimp only
        rcases hr : (g.stream c rest d').result with e | ⟨⟨⟩⟩
        · rw [hr] at hnext
          obtain ⟨more, last, after, rfl, htexts, hevents, hstops⟩ := hnext
          rw [List.append_assoc, List.singleton_append] at hstops
          refine ⟨(file, text) :: more, last, after, rfl, ?_, ?_, hstops⟩
          · exact List.forall_mem_cons.mpr ⟨ht, htexts⟩
          · rw [hevents]
            rfl
        · rw [hr] at hnext
          obtain ⟨more, rfl, htexts, hmore⟩ := hnext
          rw [List.append_assoc, List.singleton_append] at hmore
          exact ⟨(file, text) :: more, rfl, List.forall_mem_cons.mpr ⟨ht, htexts⟩, hmore⟩
      · exact ⟨[], file, rest, rfl, by simp [AreTexts], rfl, by simpa using .write text hw ht ho⟩

end Run

end Written

end ClientGen
