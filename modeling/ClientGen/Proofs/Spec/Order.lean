import ClientGen.Proofs.Spec.Validity
import ClientGen.Proofs.Text.Order
import Mathlib.Data.List.Pairwise

/-!
Two orders of resources: by group, then version, then kind, and by the text `group/version`, then
kind. They are the same but for groups of which one begins with the other. There the slash that ends
the shorter group is compared with a character of the longer one, and a resource of the longer group
may come first.
-/

namespace ClientGen.Spec.Identity

variable {a b : Identity}

/-- The order of the tree: by the text of the group-version, then by kind. -/
def VisitedBefore (a b : Identity) : Prop :=
  Text.before a.groupVersion b.groupVersion = true ∨
    a.groupVersion = b.groupVersion ∧ Text.before a.kind b.kind = true

/-- The group of `a` begins with that of `b`, and what it has more, with the version, comes before
the slash and the version of `b`. -/
def Overtakes (a b : Identity) : Prop :=
  ∃ rest, a.group = b.group ++ rest ∧ rest ≠ "" ∧
    Text.before (rest ++ "/" ++ a.version) ("/" ++ b.version) = true

lemma VisitedBefore.asymm (h : a.VisitedBefore b) : ¬ b.VisitedBefore a := by
  rintro (h' | ⟨he, h'⟩) <;> rcases h with h | ⟨he', h⟩
  · exact Text.before_asymm h h'
  · exact Text.ne_of_before h' he'.symm
  · exact Text.ne_of_before h he.symm
  · exact Text.before_asymm h h'

lemma before_iff : a.before b = true ↔ Text.before a.group b.group = true ∨
    a.group = b.group ∧ (Text.before a.version b.version = true ∨
      a.version = b.version ∧ Text.before a.kind b.kind = true) := by
  simp [before]

lemma before_total (h : a.before b ≠ true) (h' : b.before a ≠ true) : a = b := by
  rw [Ne, before_iff, not_or, not_and, not_or, not_and] at h h'
  simp only [Bool.not_eq_true] at h h'
  have hg := Text.before_total h.1 h'.1
  have hv := Text.before_total (h.2 hg).1 (h'.2 hg.symm).1
  have hk := Text.before_total ((h.2 hg).2 hv) ((h'.2 hg.symm).2 hv.symm)
  obtain ⟨g, v, k⟩ := a
  simp only at hg hv hk
  rw [hg, hv, hk]

lemma Overtakes.group_before (h : a.Overtakes b) : Text.before b.group a.group = true := by
  obtain ⟨rest, hg, hne, -⟩ := h
  obtain ⟨c, cs, hc⟩ := List.exists_cons_of_ne_nil (String.toList_eq_nil_iff.not.mpr hne)
  have h := Text.before_append_left b.group "" rest
  rw [String.append_empty] at h
  rw [hg, h, Text.before, hc]
  rfl

lemma groupVersion_eq (id : Identity) : id.groupVersion = id.group ++ ("/" ++ id.version) :=
  String.append_assoc ..

/-- Where one group begins with the other, what it has more decides. -/
lemma groupVersion_before_iff {rest : String} (h : a.group = b.group ++ rest) :
    Text.before a.groupVersion b.groupVersion =
      Text.before (rest ++ "/" ++ a.version) ("/" ++ b.version) := by
  rw [groupVersion_eq, groupVersion_eq, h, String.append_assoc, Text.before_append_left,
    String.append_assoc]

lemma Overtakes.visitedBefore (h : a.Overtakes b) : a.VisitedBefore b := by
  obtain ⟨rest, hg, -, hlt⟩ := h
  exact Or.inl ((groupVersion_before_iff hg).trans hlt)

lemma groupVersion_before_of_prefix (ha : a.IsValid) (hb : b.IsValid) (hne : a.group ≠ b.group)
    (hp : a.group.toList <+: b.group.toList) (hno : ¬ b.Overtakes a) :
    Text.before a.groupVersion b.groupVersion = true := by
  obtain ⟨cs, hcs⟩ := hp
  have hrest : b.group = a.group ++ String.ofList cs := by
    rw [← String.toList_inj, String.toList_append, String.toList_ofList, hcs]
  have hlonger : String.ofList cs ≠ "" := fun he => hne (by rw [hrest, he, String.append_empty])
  -- the texts differ, since no version has a slash
  have hlabel : a.groupVersion ≠ b.groupVersion := fun he => hne ((ha.groupVersion_inj hb).mp he).1
  by_contra hlt
  refine hno ⟨_, hrest, hlonger, ?_⟩
  rw [← groupVersion_before_iff hrest]
  by_contra hgt
  exact hlabel (Text.before_total (by simpa using hlt) (by simpa using hgt))

lemma visitedBefore_of_before (ha : a.IsValid) (hb : b.IsValid) (h : a.before b = true)
    (hno : ¬ b.Overtakes a) : a.VisitedBefore b := by
  rcases before_iff.mp h with hg | ⟨hg, hv | ⟨hv, hk⟩⟩
  · refine Or.inl ?_
    by_cases hp : a.group.toList <+: b.group.toList
    · exact groupVersion_before_of_prefix ha hb (Text.ne_of_before hg) hp hno
    · rw [groupVersion_eq, groupVersion_eq]
      exact Text.before_append_right hg hp _ _
  · refine Or.inl ?_
    rw [groupVersion_eq, groupVersion_eq, hg, Text.before_append_left, Text.before_append_left]
    exact hv
  · exact Or.inr ⟨by rw [groupVersion_eq, groupVersion_eq, hg, hv], hk⟩

/-- Of two resources the one that is visited first comes first just when it does not overtake. -/
lemma VisitedBefore.before_iff (ha : a.IsValid) (hb : b.IsValid) (h : a.VisitedBefore b) :
    a.before b = true ↔ ¬ a.Overtakes b := by
  constructor
  · intro hab hover
    have hba := hover.group_before
    rcases Identity.before_iff.mp hab with hg | ⟨hg, -⟩
    · exact Text.before_asymm hg hba
    · exact Text.ne_of_before hba hg.symm
  · intro hno
    by_contra hab
    by_cases hba : b.before a = true
    · exact h.asymm (visitedBefore_of_before hb ha hba hno)
    · obtain rfl := before_total hab hba
      exact h.asymm h

lemma pairwise_before_iff {ids : List Identity} (hvalid : ∀ id ∈ ids, id.IsValid)
    (h : ids.Pairwise VisitedBefore) : ids.Pairwise (fun a b => a.before b = true) ↔
      ∀ a ∈ ids, ∀ b ∈ ids, ¬ a.Overtakes b := by
  have hiff : ids.Pairwise (fun a b => a.before b = true) ↔
      ids.Pairwise fun a b => ¬ a.Overtakes b := by
    constructor <;> intro hp <;> refine (h.and hp).imp_of_mem fun {a b} ha hb hab => ?_
    · exact (hab.1.before_iff (hvalid a ha) (hvalid b hb)).mp hab.2
    · exact (hab.1.before_iff (hvalid a ha) (hvalid b hb)).mpr hab.2
  rw [hiff]
  refine ⟨fun hp a ha b hb => ?_, fun hall => List.pairwise_of_forall_mem_list hall⟩
  -- also the later one in the list does not overtake the earlier one
  have hflip : ids.Pairwise (flip fun a b => ¬ a.Overtakes b) :=
    h.imp fun hab hover => hab.asymm hover.visitedBefore
  refine hp.forall_of_forall_of_flip (fun c _ hover => ?_) hflip ha hb
  exact hover.visitedBefore.asymm hover.visitedBefore

end ClientGen.Spec.Identity
