import ClientGen.Proofs.Tree.Acceptance

/-!
Which specs can stand in one list. Whether a list is accepted is decided by the first spec with each
directory and each file; since to say the same about a resource is an equivalence, it can be told
from each two specs alone. So the order of the specs and copies among them make no difference.
-/

namespace ClientGen.Tree

open Spec

variable {layout : Layout} {specs specs' : List Resource} {a b c s : Resource}

lemma Agree.symm (h : Agree a b) : Agree b a := by
  obtain ⟨hp, hl, hs, hk⟩ := h
  refine ⟨?_, hl.symm, hs.symm, hk.symm⟩
  simp only [sameIgnoringCase, beq_iff_eq] at hp ⊢
  exact hp.symm

lemma Agree.trans (h : Agree a b) (h' : Agree b c) : Agree a c := by
  obtain ⟨hp, hl, hs, hk⟩ := h
  obtain ⟨hp', hl', hs', hk'⟩ := h'
  refine ⟨?_, hl.trans hl', hs.trans hs', hk.trans hk'⟩
  simp only [sameIgnoringCase, beq_iff_eq] at hp hp' ⊢
  exact hp.trans hp'

/-- Two specs can stand in one list: they are of one group if they share a directory, and are of one
kind and say the same if they share a file. -/
structure Compatible (a b : Resource) : Prop where
  group : sameDirectory a.identity b.identity = true → a.identity.group = b.identity.group
  file : sameFile a.identity b.identity = true → a.identity.kind = b.identity.kind ∧ Agree a b

lemma ite_some_eq_none {α : Type} {p : Prop} [Decidable p] {x : Option α} {y : α} :
    (if p then some y else x) = none ↔ ¬ p ∧ x = none := by
  split_ifs with h <;> simp [h]

/-- Nothing is wrong with a spec whose kind is not that of the client and that agrees with the first
spec with its directory and with the first one with its file. -/
lemma clash?_eq_none_iff : clash? specs s = none ↔
    (∀ o, firstInDirectory? specs s.identity = some o → o.identity.group = s.identity.group) ∧
      Naming.stem s.identity.kind ≠ "client" ∧
      ∀ o, firstInFile? specs s.identity = some o →
        o.identity.kind = s.identity.kind ∧ Agree o s := by
  rw [clash?, ite_some_eq_none, ite_some_eq_none]
  refine and_congr (by simp [Option.any_eq_false]) (and_congr Iff.rfl ?_)
  rcases firstInFile? specs s.identity with _ | f
  · simp
  · dsimp only
    rw [ite_some_eq_none]
    by_cases h : Agree f s <;> simp [h]

/-- Two specs of a list with which nothing is wrong can stand together: they agree with the first
specs with their directory and with their file. -/
lemma compatible_of_clash? (ha : a ∈ specs) (h : clash? specs a = none)
    (h' : clash? specs b = none) : Compatible a b := by
  obtain ⟨hgroup, -, hfile⟩ := clash?_eq_none_iff.mp h
  obtain ⟨hgroup', -, hfile'⟩ := clash?_eq_none_iff.mp h'
  refine ⟨fun hd => ?_, fun hf => ?_⟩
  · obtain ⟨o, ho⟩ := firstInDirectory?_isSome ha hd
    have ho' : firstInDirectory? specs a.identity = some o := by rw [firstInDirectory?_congr hd, ho]
    exact (hgroup o ho').symm.trans (hgroup' o ho)
  · obtain ⟨o, ho⟩ := firstInFile?_isSome ha hf
    have ho' : firstInFile? specs a.identity = some o := by rw [firstInFile?_congr hf, ho]
    obtain ⟨hka, haa⟩ := hfile o ho'
    obtain ⟨hkb, hab⟩ := hfile' o ho
    exact ⟨hka.symm.trans hkb, haa.symm.trans hab⟩

/-- A list has no clash just when its specs can stand together, each two of them. -/
theorem forall_clash?_eq_none_iff : (∀ s ∈ specs, clash? specs s = none) ↔
    (∀ s ∈ specs, Naming.stem s.identity.kind ≠ "client") ∧
      ∀ a ∈ specs, ∀ b ∈ specs, Compatible a b := by
  constructor
  · intro h
    exact ⟨fun s hs => (clash?_eq_none_iff.mp (h s hs)).2.1,
      fun a ha b hb => compatible_of_clash? ha (h a ha) (h b hb)⟩
  · rintro ⟨hstem, hcompatible⟩ s hs
    refine clash?_eq_none_iff.mpr ⟨fun o ho => ?_, hstem s hs, fun o ho => ?_⟩
    · obtain ⟨hmem, hsame⟩ := firstInDirectory?_some ho
      exact (hcompatible o hmem s hs).group hsame
    · obtain ⟨hmem, hsame⟩ := firstInFile?_some ho
      exact (hcompatible o hmem s hs).file hsame

lemma build_ok_of_mem_iff (hmem : ∀ s, s ∈ specs ↔ s ∈ specs')
    (h : ∃ t, (build layout specs).result = .ok t) :
    ∃ t, (build layout specs').result = .ok t := by
  rw [build_ok_iff, forall_clash?_eq_none_iff] at h ⊢
  simpa only [hmem] using h

lemma registers_iff_mem (hclash : ∀ s ∈ specs, clash? specs s = none)
    (hdistinct : (specs.map Resource.identity).Nodup) : Registers specs s ↔ s ∈ specs := by
  refine ⟨Registers.mem, fun hs => ?_⟩
  obtain ⟨o, ho, hid⟩ := registers_of_clash?_eq_none hs (hclash s hs)
  rwa [← List.inj_on_of_nodup_map hdistinct ho.mem hs hid]

end ClientGen.Tree
