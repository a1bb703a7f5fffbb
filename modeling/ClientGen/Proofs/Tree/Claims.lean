import ClientGen.Proofs.Spec.Validity
import ClientGen.Proofs.Text.Order
import ClientGen.Proofs.Tree.Standing

/-!
The registry behind a list of specs is described by that list alone: it has a branch for each
group-version that owns its directory, and in it an entry for each spec that its resource is
registered by. Claiming the directory of a further spec keeps this, and fails just where the
directory is another group's.
-/

namespace ClientGen.Tree

open Spec

variable {layout : Layout} {done : List Resource} {s : Resource}

/-! ### Directories -/

/-- A branch is what its group-version makes it, entries aside. -/
def Branch.IsFrame (layout : Layout) (b : Branch) : Prop :=
  { b with entries := [] } = Branch.empty layout b.group b.version

lemma isFrame_empty (g v : String) : (Branch.empty layout g v).IsFrame layout := by
  simp only [Branch.IsFrame, Branch.empty]

lemma Branch.IsFrame.location {b : Branch} (h : b.IsFrame layout) :
    b.location = Naming.groupVersionDir layout.rootPath b.group b.version := by
  simpa only [Branch.empty] using congrArg Branch.location h

lemma Branch.IsFrame.file {b : Branch} (h : b.IsFrame layout) :
    b.file = Path.join b.location Naming.clientFile := by
  rw [h.location]
  simpa only [Branch.empty] using congrArg Branch.file h

lemma Branch.IsFrame.package {b : Branch} (h : b.IsFrame layout) :
    b.package = Naming.groupVersionModule layout.rootPackage b.group b.version := by
  simpa only [Branch.empty] using congrArg Branch.package h

lemma components_groupVersionDir {root g v : String} (hg : Path.IsName (Naming.groupSegment g))
    (hv : Path.IsName v) : Path.components (Naming.groupVersionDir root g v) =
      Path.components root ++ [Naming.groupSegment g, v] := by
  rw [Naming.groupVersionDir, Path.components_join hv, Path.components_join hg, List.append_assoc]
  rfl

lemma groupVersionDir_inj {root : String} {a b : Identity} (ha : a.IsValid) (hb : b.IsValid) :
    Naming.groupVersionDir root a.group a.version = Naming.groupVersionDir root b.group b.version ↔
      sameDirectory a b = true := by
  constructor
  · intro h
    have hc := congrArg Path.components h
    rw [components_groupVersionDir ha.isName_segment ha.isName_version,
      components_groupVersionDir hb.isName_segment hb.isName_version,
      List.append_cancel_left_eq] at hc
    obtain ⟨hs, hv⟩ := List.cons.inj hc
    obtain ⟨hv, -⟩ := List.cons.inj hv
    simp [sameDirectory, hs, hv]
  · intro h
    simp only [sameDirectory, Bool.and_eq_true, beq_iff_eq] at h
    rw [Naming.groupVersionDir, Naming.groupVersionDir, h.1, h.2]

/-! ### What a registry holds -/

/-- The branches are those of the group-versions that own their directories. -/
structure ClaimsOf (layout : Layout) (specs : List Resource) (branches : List Branch) : Prop where
  frame : ∀ b ∈ branches, b.IsFrame layout
  sorted : Text.Sorted Branch.label branches
  claimed : ∀ g v, (∃ b ∈ branches, b.group = g ∧ b.version = v) ↔
    ∃ o ∈ specs, o.identity.group = g ∧ o.identity.version = v ∧ OwnsDirectory specs o.identity

/-- The entries are those of the specs that resources are registered by. -/
structure EntriesOf (layout : Layout) (specs : List Resource) (reg : Registry) : Prop where
  sorted : ∀ b ∈ reg.branches, Text.Sorted Entry.kind b.entries
  entry : ∀ b ∈ reg.branches, ∀ e, e ∈ b.entries ↔
    ∃ o, Registers specs o ∧ o.identity.group = b.group ∧ o.identity.version = b.version ∧
      e = Entry.of layout b o
  first : ∀ o, (∃ i, (i, o) ∈ reg.firsts) ↔ Registers specs o

/-- The registry behind a list of specs. -/
structure Tracks (layout : Layout) (specs : List Resource) (reg : Registry) : Prop where
  claims : ClaimsOf layout specs reg.branches
  entries : EntriesOf layout specs reg

lemma tracks_nil : Tracks layout [] ⟨[], []⟩ := by
  have hnone : ∀ o, ¬ Registers [] o := fun o h => by simpa using h.mem
  refine ⟨⟨by simp, List.Pairwise.nil, by simp⟩, ⟨by simp, by simp, ?_⟩⟩
  simpa using hnone

/-- A further spec adds no branch unless it is the first of its group-version to own its directory.
-/
lemma ClaimsOf.append {branches : List Branch} (h : ClaimsOf layout done branches)
    (hs : OwnsDirectory (done ++ [s]) s.identity → ∃ o ∈ done, o.identity.group = s.identity.group ∧
      o.identity.version = s.identity.version ∧ OwnsDirectory done o.identity) :
    ClaimsOf layout (done ++ [s]) branches := by
  refine ⟨h.frame, h.sorted, fun g v => ?_⟩
  rw [h.claimed, owned_append]
  refine ⟨Or.inl, ?_⟩
  rintro (hold | ⟨rfl, rfl, hown⟩)
  · exact hold
  · exact hs hown

/-- A further spec adds no entry unless its directory and its file are free for it. -/
lemma EntriesOf.append {reg : Registry} (h : EntriesOf layout done reg)
    (hs : OwnsDirectory (done ++ [s]) s.identity → Naming.stem s.identity.kind ≠ "client" →
      firstInFile? done s.identity ≠ none) : EntriesOf layout (done ++ [s]) reg := by
  have heq : ∀ o, Registers (done ++ [s]) o ↔ Registers done o := fun o => by
    rw [registers_append]
    exact ⟨fun ho => ho.resolve_right fun hx => hs hx.2.1 hx.2.2.1 hx.2.2.2, Or.inl⟩
  refine ⟨h.sorted, fun b hb e => ?_, fun o => ?_⟩
  · simp only [heq]
    exact h.entry b hb e
  · rw [heq]
    exact h.first o

lemma ClaimsOf.owner {branches : List Branch} (h : ClaimsOf layout done branches) {b : Branch}
    (hb : b ∈ branches) : ∃ o ∈ done, o.identity.group = b.group ∧
      o.identity.version = b.version ∧ OwnsDirectory done o.identity :=
  (h.claimed _ _).mp ⟨b, hb, rfl, rfl⟩

section Claim

variable {branches : List Branch} (h : ClaimsOf layout done branches)
  (hdone : ∀ o ∈ done, o.identity.IsValid) (hs : s.identity.IsValid)

include h hdone hs

lemma ClaimsOf.label_iff {b : Branch} (hb : b ∈ branches) :
    b.label = s.identity.groupVersion ↔
      b.group = s.identity.group ∧ b.version = s.identity.version := by
  obtain ⟨o, ho, hg, hv, -⟩ := h.owner hb
  have := (hdone o ho).groupVersion_inj hs
  rwa [Identity.groupVersion, hg, hv] at this

lemma ClaimsOf.location_iff {b : Branch} (hb : b ∈ branches) :
    b.location = Naming.groupVersionDir layout.rootPath s.identity.group s.identity.version ↔
      sameDirectory ⟨b.group, b.version, ""⟩ s.identity = true := by
  obtain ⟨o, ho, hg, hv, -⟩ := h.owner hb
  rw [(h.frame b hb).location, ← hg, ← hv]
  exact groupVersionDir_inj (hdone o ho) hs

lemma ClaimsOf.not_owns {b : Branch} (hb : b ∈ branches)
    (hloc : b.location = Naming.groupVersionDir layout.rootPath s.identity.group s.identity.version)
    (hne : b.label ≠ s.identity.groupVersion) : ¬ OwnsDirectory (done ++ [s]) s.identity := by
  obtain ⟨o, ho, hg, hv, first, hfirst, hfg⟩ := h.owner hb
  have hsame : sameDirectory o.identity s.identity = true := by
    have := (h.location_iff hdone hs hb).mp hloc
    rwa [← hg, ← hv] at this
  rw [firstInDirectory?_congr hsame] at hfirst
  rintro ⟨first', hfirst', hfg'⟩
  rw [firstInDirectory?_append, hfirst, Option.some_or] at hfirst'
  obtain rfl := Option.some.inj hfirst'
  have hvs : o.identity.version = s.identity.version := by
    simp only [sameDirectory, Bool.and_eq_true, beq_iff_eq] at hsame
    exact hsame.2
  refine hne ((h.label_iff hdone hs hb).mpr ⟨?_, hv.symm.trans hvs⟩)
  rw [← hg, ← hfg, hfg']

lemma ClaimsOf.firstInDirectory?_eq_none
    (hnone : ∀ b ∈ branches, b.location ≠
      Naming.groupVersionDir layout.rootPath s.identity.group s.identity.version) :
    firstInDirectory? done s.identity = none := by
  rcases hf : firstInDirectory? done s.identity with _ | o
  · rfl
  obtain ⟨ho, hsame⟩ := firstInDirectory?_some hf
  have hown : OwnsDirectory done o.identity := ⟨o, by rw [firstInDirectory?_congr hsame, hf], rfl⟩
  obtain ⟨b, hb, hg, hv⟩ := (h.claimed _ _).mpr ⟨o, ho, rfl, rfl, hown⟩
  refine absurd ((h.location_iff hdone hs hb).mpr ?_) (hnone b hb)
  rw [hg, hv]
  exact hsame

end Claim

/-! ### Claiming a directory -/

/-- The registry in which a spec has a branch to be entered in. -/
structure Claimed (layout : Layout) (done : List Resource) (s : Resource) (next : Registry)
    (b : Branch) : Prop where
  owns : OwnsDirectory (done ++ [s]) s.identity
  claims : ClaimsOf layout (done ++ [s]) next.branches
  entries : EntriesOf layout done next
  mem : b ∈ next.branches
  group : b.group = s.identity.group
  version : b.version = s.identity.version

section Step

variable {reg : Registry} (h : Tracks layout done reg)
  (hdone : ∀ o ∈ done, o.identity.IsValid) (hs : s.identity.IsValid)

include h hdone hs

lemma Tracks.not_owns_of_claim_error {other : Branch}
    (hc : reg.claim layout s.identity = .error other) :
    ¬ OwnsDirectory (done ++ [s]) s.identity := by
  unfold Registry.claim at hc
  split at hc
  · cases hc
  · next hnone =>
    dsimp only at hc
    split at hc
    · next o ho =>
      exact h.claims.not_owns hdone hs (List.mem_of_find?_eq_some ho)
        (by simpa [Branch.empty] using List.find?_some ho)
        (Text.findByKey?_eq_none_iff.mp hnone o (List.mem_of_find?_eq_some ho))
    · cases hc

lemma Tracks.claimed_of_mem {b : Branch} (hb : b ∈ reg.branches)
    (hl : b.label = s.identity.groupVersion) : Claimed layout done s reg b := by
  obtain ⟨hg, hv⟩ := (h.claims.label_iff hdone hs hb).mp hl
  obtain ⟨o, ho, hog, hov, hown⟩ := h.claims.owner hb
  have hown' : OwnsDirectory done s.identity := hown.congr (hog.trans hg) (hov.trans hv)
  have hsame : sameDirectory o.identity s.identity = true :=
    sameDirectory_of_groupVersion (hog.trans hg) (hov.trans hv)
  have hclaims := h.claims.append fun _ => ⟨o, ho, hog.trans hg, hov.trans hv, hown⟩
  exact ⟨(ownsDirectory_append ho hsame _).mpr hown', hclaims, h.entries, hb, hg, hv⟩

section New

variable (hlabel : ∀ b ∈ reg.branches, b.label ≠ s.identity.groupVersion)

include hlabel

omit hdone hs in
lemma Tracks.claims_of_new (hown : OwnsDirectory (done ++ [s]) s.identity) :
    ClaimsOf layout (done ++ [s]) (Text.insertByKey Branch.label
      (Branch.empty layout s.identity.group s.identity.version) reg.branches) := by
  refine ⟨fun x hx => ?_, Text.sorted_insertByKey h.claims.sorted hlabel, fun g v => ?_⟩
  · rcases (Text.mem_insertByKey hlabel).mp hx with rfl | hx
    · exact isFrame_empty _ _
    · exact h.claims.frame x hx
  · rw [owned_append, ← h.claims.claimed]
    constructor
    · rintro ⟨x, hx, hg, hv⟩
      rcases (Text.mem_insertByKey hlabel).mp hx with rfl | hx
      · exact Or.inr ⟨hg, hv, hown⟩
      · exact Or.inl ⟨x, hx, hg, hv⟩
    · rintro (⟨x, hx, hg, hv⟩ | ⟨hg, hv, -⟩)
      · exact ⟨x, (Text.mem_insertByKey hlabel).mpr (Or.inr hx), hg, hv⟩
      · exact ⟨_, (Text.mem_insertByKey hlabel).mpr (Or.inl rfl), hg, hv⟩

lemma Tracks.entries_of_new :
    EntriesOf layout done
      { reg with
        branches := Text.insertByKey Branch.label
          (Branch.empty layout s.identity.group s.identity.version) reg.branches } := by
  refine ⟨fun x hx => ?_, fun x hx e => ?_, h.entries.first⟩
  · rcases (Text.mem_insertByKey hlabel).mp hx with rfl | hx
    · exact List.Pairwise.nil
    · exact h.entries.sorted x hx
  · rcases (Text.mem_insertByKey hlabel).mp hx with rfl | hx
    · -- nothing is registered in a group-version without a branch
      refine ⟨fun he => absurd he List.not_mem_nil, ?_⟩
      rintro ⟨o, ho, hg, hv, -⟩
      obtain ⟨x, hx, hxg, hxv⟩ := (h.claims.claimed _ _).mpr ⟨o, ho.mem, hg, hv, ho.directory⟩
      exact absurd ((h.claims.label_iff hdone hs hx).mpr ⟨hxg, hxv⟩) (hlabel x hx)
    · exact h.entries.entry x hx e

lemma Tracks.claimed_of_new
    (hloc : ∀ b ∈ reg.branches, b.location ≠
      Naming.groupVersionDir layout.rootPath s.identity.group s.identity.version) :
    Claimed layout done s
      { reg with
        branches := Text.insertByKey Branch.label
          (Branch.empty layout s.identity.group s.identity.version) reg.branches }
      (Branch.empty layout s.identity.group s.identity.version) := by
  have hnone := h.claims.firstInDirectory?_eq_none hdone hs hloc
  have hown : OwnsDirectory (done ++ [s]) s.identity := by
    refine ⟨s, ?_, rfl⟩
    rw [firstInDirectory?_append, hnone, Option.none_or]
    simp [firstInDirectory?, sameDirectory_self]
  exact ⟨hown, h.claims_of_new hlabel hown, h.entries_of_new hdone hs hlabel,
    (Text.mem_insertByKey hlabel).mpr (Or.inl rfl), rfl, rfl⟩

end New

lemma Tracks.claimed {next : Registry} {b : Branch}
    (hc : reg.claim layout s.identity = .ok (next, b)) : Claimed layout done s next b := by
  unfold Registry.claim at hc
  split at hc
  · next x hx =>
    cases hc
    obtain ⟨hb, hl⟩ := (Text.findByKey?_eq_some_iff h.claims.sorted).mp hx
    exact h.claimed_of_mem hdone hs hb hl
  · next hnone =>
    dsimp only at hc
    split at hc
    · cases hc
    · next hfree =>
      cases hc
      refine h.claimed_of_new hdone hs (Text.findByKey?_eq_none_iff.mp hnone) fun b hb hl => ?_
      exact List.find?_eq_none.mp hfree b hb (by simpa [Branch.empty] using hl)

end Step

end ClientGen.Tree
