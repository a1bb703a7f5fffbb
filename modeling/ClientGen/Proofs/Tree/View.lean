import ClientGen.Plan
import Mathlib.Data.List.Basic
import Mathlib.Tactic.Lemma

/-!
The value of a tree tells everything about it but what was dropped on the way to it, so trees of one
value have one plan.
-/

namespace ClientGen

open Spec Template

namespace Template.Value

variable {α : Type}

@[simp] lemma record_inj {fs gs : List (String × Value)} : record fs = record gs ↔ fs = gs := by
  rw [record, record, Value.map.injEq]
  refine List.map_inj_right fun f g h => ?_
  simp only [Prod.mk.injEq, Value.text.injEq] at h
  exact Prod.ext h.1 h.2

lemma ofList_inj {f : α → Value} (hf : ∀ a b, f a = f b ↔ a = b) {as bs : List α} :
    ofList f as = ofList f bs ↔ as = bs := by
  rw [ofList, ofList, Value.list.injEq]
  exact List.map_inj_right fun a b => (hf a b).mp

lemma ofOption_inj {f : α → Value} (hf : ∀ a b, f a = f b ↔ a = b) (hnone : ∀ a, f a ≠ .none)
    {a? b? : Option α} : ofOption f a? = ofOption f b? ↔ a? = b? := by
  cases a? with
  | none =>
    cases b? with
    | none => simp
    | some b => simpa [ofOption] using (hnone b).symm
  | some a =>
    cases b? with
    | none => simpa [ofOption] using hnone a
    | some b => simp [ofOption, hf]

end Template.Value

open Value

@[simp] lemma Spec.Identity.toValue_inj (a b : Identity) : a.toValue = b.toValue ↔ a = b := by
  cases a
  cases b
  simp [Identity.toValue]

lemma Spec.Scope.name_inj (a b : Scope) : a.name = b.name ↔ a = b := by
  cases a <;> cases b <;> simp [Scope.name]

namespace Tree

@[simp] lemma Names.toValue_inj (a b : Names) : a.toValue = b.toValue ↔ a = b := by
  cases a
  cases b
  simp [Names.toValue]

@[simp] lemma ObjectPart.toValue_inj (a b : ObjectPart) : a.toValue = b.toValue ↔ a = b := by
  cases a
  cases b
  simp [ObjectPart.toValue]

@[simp] lemma ReaderPart.toValue_inj (a b : ReaderPart) : a.toValue = b.toValue ↔ a = b := by
  cases a
  cases b
  simp [ReaderPart.toValue]

@[simp] lemma Child.toValue_inj (a b : Child) : a.toValue = b.toValue ↔ a = b := by
  cases a
  cases b
  simp [Child.toValue]

@[simp] lemma ClientPart.toValue_inj (a b : ClientPart) : a.toValue = b.toValue ↔ a = b := by
  cases a
  cases b
  simp [ClientPart.toValue, ofList_inj]

@[simp] lemma Owner.toValue_inj (a b : Owner) : a.toValue = b.toValue ↔ a = b := by
  cases a
  cases b
  simp [Owner.toValue]

@[simp] lemma ReferencePart.toValue_inj (a b : ReferencePart) : a.toValue = b.toValue ↔ a = b := by
  cases a
  cases b
  simp [ReferencePart.toValue, ofList_inj]

lemma ReferencePart.toValue_ne_none (r : ReferencePart) : r.toValue ≠ .none := by
  simp [ReferencePart.toValue, record]

@[simp] lemma Entry.toValue_inj (a b : Entry) : a.toValue = b.toValue ↔ a = b := by
  cases a
  cases b
  simp [Entry.toValue, Scope.name_inj, ofList_inj,
    ofOption_inj ReferencePart.toValue_inj ReferencePart.toValue_ne_none]

@[simp] lemma Branch.toValue_inj (a b : Branch) : a.toValue = b.toValue ↔ a = b := by
  have hentries : (a.entries.map fun e => (e.kind, e.toValue)) =
      (b.entries.map fun e => (e.kind, e.toValue)) ↔ a.entries = b.entries :=
    List.map_inj_right fun e f h => (Entry.toValue_inj e f).mp (Prod.mk.inj h).2
  cases a
  cases b
  simp only at hentries
  simp [Branch.toValue, hentries]

/-- **A value, a tree.** Trees of one value differ in nothing but what was dropped. -/
theorem toValue_inj (t t' : Tree) :
    t.toValue = t'.toValue ↔ { t with dropped := [] } = { t' with dropped := [] } := by
  have hbranches : (t.branches.map fun b => (b.label, b.toValue)) =
      (t'.branches.map fun b => (b.label, b.toValue)) ↔ t.branches = t'.branches :=
    List.map_inj_right fun b c h => (Branch.toValue_inj b c).mp (Prod.mk.inj h).2
  simp [toValue, hbranches]

lemma plan_eq_of_toValue_eq {t t' : Tree} (h : t.toValue = t'.toValue) : t.plan = t'.plan := by
  have hplan := congrArg Tree.plan ((toValue_inj t t').mp h)
  exact hplan

end Tree

end ClientGen
