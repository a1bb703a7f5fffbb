import ClientGen.Generator
import ClientGen.Proofs.Disk.Refusal
import Mathlib.Data.List.Basic

/-!
Producing files. With a formatter that leaves a disk alone, every planned file has a text or a
failure there, and producing all files leaves the disk alone as well: it ends with all texts, or
with the first failure. Only a template or the formatter can fail in it.
-/

namespace ClientGen

/-! ### Results in order -/

section Results

variable {ε α β : Type} {f : α → Except ε β} {as : List α}

lemma mapM_cons_ok {a : α} {b : β} (h : f a = .ok b) :
    (a :: as).mapM f = (as.mapM f).map (b :: ·) := by
  rw [List.mapM_cons, h]
  cases as.mapM f <;> rfl

lemma mapM_cons_error {a : α} {e : ε} (h : f a = .error e) : (a :: as).mapM f = .error e := by
  rw [List.mapM_cons, h]
  rfl

lemma exists_ok_of_mapM {bs : List β} (h : as.mapM f = .ok bs) :
    ∀ a ∈ as, ∃ b, f a = .ok b := by
  induction as generalizing bs with
  | nil => simp
  | cons x as ih =>
    rcases hx : f x with e | b
    · rw [mapM_cons_error hx] at h
      cases h
    · rw [mapM_cons_ok hx] at h
      rcases hs : as.mapM f with e | cs
      · rw [hs] at h
        cases h
      · intro a ha
        rcases List.mem_cons.mp ha with rfl | ha
        · exact ⟨b, hx⟩
        · exact ih hs a ha

lemma first_error_of_mapM {e : ε} (h : as.mapM f = .error e) : ∃ xs a ys bs, as = xs ++ a :: ys ∧
    xs.mapM f = .ok bs ∧ f a = .error e := by
  induction as with
  | nil => cases h
  | cons x as ih =>
    rcases hx : f x with e' | b
    · rw [mapM_cons_error hx] at h
      cases h
      exact ⟨[], x, as, [], rfl, rfl, hx⟩
    · rw [mapM_cons_ok hx] at h
      rcases hs : as.mapM f with e' | cs
      · rw [hs] at h
        cases h
        obtain ⟨xs, a, ys, bs, heq, hbs, ha⟩ := ih hs
        refine ⟨x :: xs, a, ys, b :: bs, by rw [heq, List.cons_append], ?_, ha⟩
        rw [mapM_cons_ok hx, hbs]
        rfl
      · rw [hs] at h
        cases h

end Results

/-! ### What can fail -/

def Failure.isProduction : Failure → Bool
  | .template _ _ _ | .format _ _ _ => true
  | _ => false

lemma Failure.isDisk_of_isProduction {f : Failure} (h : f.isProduction = true) :
    f.isDisk = false := by
  cases f <;> simp [isProduction, isDisk] at h ⊢

lemma TemplateSet.isProduction_of_compile {set : TemplateSet} {e : Failure}
    (h : set.compile = .error e) : e.isProduction = true := by
  rw [compile] at h
  rcases hm : Role.all.mapM set.compileRole with e' | templates
  · rw [hm] at h
    cases h
    obtain ⟨-, role, -, -, -, -, hrole⟩ := first_error_of_mapM hm
    rw [compileRole] at hrole
    split at hrole
    · cases hrole
    · cases hrole
      rfl
  · rw [hm] at h
    cases h

lemma Compiled.isProduction_of_render {c : Compiled} {role : Role}
    {values : List (String × Template.Value)} {destination : String} {e : Failure}
    (h : c.render role values destination = .error e) : e.isProduction = true := by
  rw [render] at h
  rcases hr : Template.renderTemplate c.templates role.template values with f | text
  · rw [hr] at h
    cases h
    rfl
  · rw [hr] at h
    cases h

namespace Generator

variable {g : Generator} {c : Compiled} {d : Disk}

lemma failsOnlyWith_format (file : PlannedFile) (text : String) :
    FailsOnlyWith (·.isProduction = true) (g.format file text) := by
  intro d e d' h
  rw [format] at h
  split at h
  · cases h
  · cases h
    rfl

lemma failsOnlyWith_produce (file : PlannedFile) :
    FailsOnlyWith (·.isProduction = true) (g.produce c file) := by
  rw [produce]
  split
  · exact failsOnlyWith_format file _
  · next hr => exact failsOnlyWith_throw (Compiled.isProduction_of_render hr)

end Generator

/-! ### On a disk that stays -/

/-- What the formatter makes of any text on a disk leaves that disk as it is. -/
def Formatter.Keeps (f : Formatter) (d : Disk) : Prop :=
  ∀ text, match f.format text d with
    | .ok _ d' => d' = d
    | .error _ d' => d' = d

lemma Formatter.KeepsDisk.keeps {f : Formatter} (h : f.KeepsDisk) (d : Disk) : f.Keeps d :=
  fun text => h text d

namespace Generator

variable {g : Generator} {c : Compiled} {d : Disk}

/-- The text of a planned file as it is made on a disk. -/
def textOf (g : Generator) (c : Compiled) (d : Disk) (file : PlannedFile) :
    Except Failure String :=
  match g.produce c file d with
  | .ok text _ => .ok text
  | .error e _ => .error e

lemma isProduction_of_textOf {file : PlannedFile} {e : Failure}
    (h : g.textOf c d file = .error e) : e.isProduction = true := by
  rw [textOf] at h
  split at h
  · cases h
  · next hp =>
    cases h
    exact failsOnlyWith_produce file _ _ _ hp

section Keeps

variable (h : g.formatter.Keeps d)

include h

lemma produce_keeps (file : PlannedFile) : match g.produce c file d with
    | .ok _ d' => d' = d
    | .error _ d' => d' = d := by
  rw [produce]
  rcases c.render file.role file.context.fields file.destination with e | text
  · rfl
  · have hk := h text
    simp only [format]
    rcases hf : g.formatter.format text d with ⟨out, d'⟩ | ⟨e, d'⟩
    · rwa [hf] at hk
    · rwa [hf] at hk

lemma produce_ok {file : PlannedFile} {text : String} (ht : g.textOf c d file = .ok text) :
    g.produce c file d = .ok text d := by
  have hk := produce_keeps h (c := c) file
  rw [textOf] at ht
  split at ht
  · next hp =>
    cases ht
    rw [hp] at hk ⊢
    rw [hk]
  · cases ht

lemma produce_error {file : PlannedFile} {e : Failure} (he : g.textOf c d file = .error e) :
    g.produce c file d = .error e d := by
  have hk := produce_keeps h (c := c) file
  rw [textOf] at he
  split at he
  · cases he
  · next hp =>
    cases he
    rw [hp] at hk ⊢
    rw [hk]

/-- **Producing all files.** It ends with the texts of the files in order, or with the first failure
among them, and leaves the disk as it is. -/
theorem produceAll_eq (files : List PlannedFile) :
    (g.produceAll c files d).result = files.mapM (g.textOf c d) ∧
      (g.produceAll c files d).disk = d := by
  induction files with
  | nil => exact ⟨rfl, rfl⟩
  | cons file rest ih =>
    obtain ⟨hresult, hdisk⟩ := ih
    rcases ht : g.textOf c d file with e | text
    · rw [mapM_cons_error ht]
      simp only [produceAll, produce_error h ht, Outcome.behind, and_self]
    · rw [mapM_cons_ok ht, ← hresult]
      simp only [produceAll, produce_ok h ht, Outcome.behind, hdisk, and_self]

end Keeps

end Generator

end ClientGen
