import ClientGen.Disk.Write
import Mathlib.Tactic.Lemma
import Mathlib.Tactic.Simproc.ExistsAndEq

/-!
Actions that are done step by step. What an action ends in follows from what its steps end in; so a
property of the failures of an action is a property of those of its steps, and whatever fails in
writing a file is an operation on the disk, and the failure says so.
-/

namespace ClientGen

section Steps

variable {ε σ α β : Type} {x : EStateM ε σ α} {s t : σ} {e : ε}

lemma bind_eq_ok_iff {f : α → EStateM ε σ β} {b : β} :
    (x >>= f) s = .ok b t ↔ ∃ a u, x s = .ok a u ∧ f a u = .ok b t := by
  change EStateM.bind x f s = _ ↔ _
  rw [EStateM.bind]
  rcases x s with ⟨a, u⟩ | ⟨e, u⟩ <;> simp

lemma bind_eq_error_iff {f : α → EStateM ε σ β} : (x >>= f) s = .error e t ↔
    x s = .error e t ∨ ∃ a u, x s = .ok a u ∧ f a u = .error e t := by
  change EStateM.bind x f s = _ ↔ _
  rw [EStateM.bind]
  rcases x s with ⟨a, u⟩ | ⟨e, u⟩ <;> simp

lemma tryCatch_eq_ok_iff {handle : ε → EStateM ε σ α} {a : α} : tryCatch x handle s = .ok a t ↔
    x s = .ok a t ∨ ∃ f u, x s = .error f u ∧ handle f u = .ok a t := by
  change EStateM.tryCatch x handle s = _ ↔ _
  delta EStateM.tryCatch
  dsimp only
  rcases x s with ⟨a, u⟩ | ⟨e, u⟩
  · simp
  · simp only [reduceCtorEq, false_or, EStateM.Result.error.injEq, ↓existsAndEq, true_and]
    rfl

lemma tryCatch_eq_error_iff {handle : ε → EStateM ε σ α} : tryCatch x handle s = .error e t ↔
    ∃ f u, x s = .error f u ∧ handle f u = .error e t := by
  change EStateM.tryCatch x handle s = _ ↔ _
  delta EStateM.tryCatch
  dsimp only
  rcases x s with ⟨a, u⟩ | ⟨e, u⟩
  · simp
  · simp only [EStateM.Result.error.injEq, ↓existsAndEq, true_and]
    rfl

end Steps

/-- Every failure that an action can end in has a property. -/
def FailsOnlyWith {ε σ α : Type} (P : ε → Prop) (action : EStateM ε σ α) : Prop :=
  ∀ s e s', action s = .error e s' → P e

section FailsOnlyWith

variable {ε σ α β : Type} {P : ε → Prop}

lemma failsOnlyWith_pure (a : α) : FailsOnlyWith P (pure a : EStateM ε σ α) := by
  intro s e s' h
  cases h

lemma failsOnlyWith_throw {e : ε} (he : P e) : FailsOnlyWith P (throw e : EStateM ε σ α) := by
  intro s f s' h
  cases h
  exact he

lemma FailsOnlyWith.bind {x : EStateM ε σ α} {f : α → EStateM ε σ β} (hx : FailsOnlyWith P x)
    (hf : ∀ a, FailsOnlyWith P (f a)) : FailsOnlyWith P (x >>= f) := by
  intro s e s' h
  rcases bind_eq_error_iff.mp h with h | ⟨a, u, -, h⟩
  · exact hx _ _ _ h
  · exact hf _ _ _ _ h

lemma FailsOnlyWith.tryCatch {x : EStateM ε σ α} {handle : ε → EStateM ε σ α}
    (hx : FailsOnlyWith P x) (hh : ∀ e, P e → FailsOnlyWith P (handle e)) :
    FailsOnlyWith P (tryCatch x handle) := by
  intro s e s' h
  obtain ⟨f, u, hf, h⟩ := tryCatch_eq_error_iff.mp h
  exact hh f (hx _ _ _ hf) _ _ _ h

end FailsOnlyWith

def Failure.isDisk : Failure → Bool
  | .disk _ _ => true
  | _ => false

namespace Faults

section FailingAt

variable {α : Type} {path : String} {action : DiskAction α} {d d' : Disk}

lemma failingAt_eq_ok_iff {a : α} :
    failingAt path action d = .ok a d' ↔ action d = .ok a d' := by
  rw [failingAt, EStateM.adaptExcept]
  rcases action d with ⟨b, d₁⟩ | ⟨e, d₁⟩ <;> simp

lemma failingAt_eq_error_iff {f : Failure} :
    failingAt path action d = .error f d' ↔ ∃ e, f = .disk path e ∧ action d = .error e d' := by
  rw [failingAt, EStateM.adaptExcept]
  rcases action d with ⟨b, d₁⟩ | ⟨e, d₁⟩
  · simp
  · simp [eq_comm]

end FailingAt

lemma failsOnlyWith_failingAt {α : Type} (path : String) (action : DiskAction α) :
    FailsOnlyWith (·.isDisk = true) (failingAt path action) := by
  intro d f d' h
  obtain ⟨e, rfl, -⟩ := failingAt_eq_error_iff.mp h
  rfl

variable (faults : Faults) (path : String) (content : ByteArray)

lemma failsOnlyWith_makeParents : FailsOnlyWith (·.isDisk = true) (faults.makeParents path) := by
  rw [makeParents]
  split
  · split
    · exact failsOnlyWith_pure _
    · exact failsOnlyWith_failingAt _ _
  · exact failsOnlyWith_pure _

lemma failsOnlyWith_replaceFile :
    FailsOnlyWith (·.isDisk = true) (faults.replaceFile path content) := by
  rw [replaceFile]
  refine FailsOnlyWith.bind (fun d e d' h => ?_) fun d => ?_
  · cases h
  · split
    · exact (failsOnlyWith_failingAt _ _).bind fun _ => failsOnlyWith_failingAt _ _
    · exact failsOnlyWith_failingAt _ _

lemma failsOnlyWith_moveFile :
    FailsOnlyWith (·.isDisk = true) (faults.moveFile path content) := by
  rw [moveFile]
  refine FailsOnlyWith.tryCatch ?_ fun failure hfailure => ?_
  · exact (failsOnlyWith_failingAt _ _).bind fun _ => failsOnlyWith_failingAt _ _
  · refine FailsOnlyWith.bind ?_ fun _ => failsOnlyWith_throw hfailure
    exact (failsOnlyWith_failingAt _ _).tryCatch fun _ _ => failsOnlyWith_pure _

lemma failsOnlyWith_writeFile (mode : WriteMode) :
    FailsOnlyWith (·.isDisk = true) (faults.writeFile mode path content) := by
  unfold writeFile
  refine (faults.failsOnlyWith_makeParents path).bind fun _ => ?_
  cases mode with
  | replace => exact faults.failsOnlyWith_replaceFile path content
  | atomic => exact faults.failsOnlyWith_moveFile path content

end Faults

end ClientGen
