import ClientGen.Tree.Build
import ClientGen.Proofs.Tree.Claims
import ClientGen.Proofs.Tree.Keyed

/-!
Registration reports every spec that clashes with an earlier one and no other spec. Entering one
spec keeps the registry the one behind the specs so far, and a run over all specs is this step again
and again.
-/

namespace ClientGen.Tree

open Spec

variable {layout : Layout} {done : List Resource} {s : Resource}

/-! ### Entering a spec -/

lemma mem_branches_insert {reg : Registry} {b y : Branch} {index : Nat} {e : Entry} :
    y ∈ (reg.insert b index s e).branches ↔ ∃ x ∈ reg.branches,
      (if x.label = b.label then
        { x with entries := Text.insertByKey Entry.kind e x.entries } else x) = y :=
  Text.mem_modifyByKey

lemma ClaimsOf.insert {reg : Registry} (h : ClaimsOf layout done reg.branches) (b : Branch)
    (index : Nat) (e : Entry) : ClaimsOf layout done (reg.insert b index s e).branches := by
  refine ⟨?_, Text.sorted_modifyByKey h.sorted fun _ _ => rfl, fun g v => ?_⟩
  · intro y hy
    obtain ⟨x, hx, rfl⟩ := mem_branches_insert.mp hy
    split
    · exact h.frame x hx
    · exact h.frame x hx
  · rw [← h.claimed]
    constructor
    · rintro ⟨y, hy, hg, hv⟩
      obtain ⟨x, hx, rfl⟩ := mem_branches_insert.mp hy
      refine ⟨x, hx, ?_⟩
      split at hg <;> split at hv <;> exact ⟨hg, hv⟩
    · rintro ⟨x, hx, hg, hv⟩
      refine ⟨_, mem_branches_insert.mpr ⟨x, hx, rfl⟩, ?_⟩
      split <;> exact ⟨hg, hv⟩

section Insert

variable {next : Registry} {b : Branch} (c : Claimed layout done s next b)

include c

lemma Claimed.tracks
    (hno : Naming.stem s.identity.kind = "client" ∨ firstInFile? done s.identity ≠ none) :
    Tracks layout (done ++ [s]) next := by
  refine ⟨c.claims, c.entries.append fun _ hstem => ?_⟩
  rcases hno with hno | hno
  · exact absurd hno hstem
  · exact hno

lemma Claimed.registers_of_entry {e : Entry} (he : e ∈ b.entries)
    (hstem : e.names.stem = Naming.stem s.identity.kind) :
    ∃ o, Registers done o ∧ e = Entry.of layout b o ∧ sameFile o.identity s.identity = true := by
  obtain ⟨o, ho, hg, hv, rfl⟩ := (c.entries.entry b c.mem e).mp he
  exact ⟨o, ho, rfl, sameFile_iff.mpr ⟨hg.trans c.group, hv.trans c.version, hstem⟩⟩

lemma Claimed.firstInFile?_eq_none (hstem : Naming.stem s.identity.kind ≠ "client")
    (hfree : ∀ e ∈ b.entries, e.names.stem ≠ Naming.stem s.identity.kind) :
    firstInFile? done s.identity = none := by
  rcases hf : firstInFile? done s.identity with _ | f
  · rfl
  -- the first spec with the file would have an entry
  obtain ⟨hfm, hsame⟩ := firstInFile?_some hf
  obtain ⟨hg, hv, hst⟩ := sameFile_iff.mp hsame
  have hreg : Registers done f := by
    refine ⟨?_, by rwa [hst], by rw [firstInFile?_congr hsame, hf]⟩
    exact (ownsDirectory_append hfm (sameDirectory_self _) [s]).mp (c.owns.congr hg.symm hv.symm)
  have hentry := (c.entries.entry b c.mem _).mpr
    ⟨f, hreg, hg.trans c.group.symm, hv.trans c.version.symm, rfl⟩
  exact absurd hst (hfree _ hentry)

lemma Claimed.entries_insert (index : Nat) (hstem : Naming.stem s.identity.kind ≠ "client")
    (hfile : firstInFile? done s.identity = none) :
    EntriesOf layout (done ++ [s]) (next.insert b index s (Entry.of layout b s)) := by
  have hb : ∀ {x}, x ∈ next.branches → x.label = b.label → x = b := fun hx hl =>
    c.claims.sorted.eq_of_key hx c.mem hl
  have hself : Registers (done ++ [s]) s :=
    registers_append.mpr (Or.inr ⟨rfl, c.owns, hstem, hfile⟩)
  have hfresh : ∀ e ∈ b.entries, e.kind ≠ (Entry.of layout b s).kind := by
    intro e he hk
    obtain ⟨o, ho, -, hsame⟩ := c.registers_of_entry he <| by
      obtain ⟨o, -, -, -, rfl⟩ := (c.entries.entry b c.mem e).mp he
      exact congrArg Naming.stem hk
    rw [← firstInFile?_congr hsame, ho.file] at hfile
    cases hfile
  refine ⟨?_, ?_, ?_⟩
  · intro y hy
    obtain ⟨x, hx, rfl⟩ := mem_branches_insert.mp hy
    split
    · next hl =>
      obtain rfl := hb hx hl
      exact Text.sorted_insertByKey (c.entries.sorted x hx) hfresh
    · exact c.entries.sorted x hx
  · intro y hy e
    obtain ⟨x, hx, rfl⟩ := mem_branches_insert.mp hy
    split
    · next hl =>
      obtain rfl := hb hx hl
      rw [Text.mem_insertByKey hfresh, c.entries.entry x hx]
      constructor
      · rintro (rfl | ⟨o, ho, hg, hv, rfl⟩)
        · exact ⟨s, hself, c.group.symm, c.version.symm, rfl⟩
        · exact ⟨o, registers_append.mpr (Or.inl ho), hg, hv, rfl⟩
      · rintro ⟨o, ho, hg, hv, rfl⟩
        rcases registers_append.mp ho with ho | ⟨rfl, -⟩
        · exact Or.inr ⟨o, ho, hg, hv, rfl⟩
        · exact Or.inl rfl
    · next hl =>
      rw [c.entries.entry x hx]
      constructor
      · rintro ⟨o, ho, hg, hv, rfl⟩
        exact ⟨o, registers_append.mpr (Or.inl ho), hg, hv, rfl⟩
      · rintro ⟨o, ho, hg, hv, rfl⟩
        rcases registers_append.mp ho with ho | ⟨rfl, -⟩
        · exact ⟨o, ho, hg, hv, rfl⟩
        · refine absurd ?_ hl
          rw [Branch.label, Branch.label, ← hg, ← hv, c.group, c.version]
  · intro o
    have hf : (next.insert b index s (Entry.of layout b s)).firsts = next.firsts ++ [(index, s)] :=
      rfl
    simp only [hf, List.mem_append, exists_or, c.entries.first, registers_append]
    refine or_congr Iff.rfl ?_
    simp [c.owns, hstem, hfile]

end Insert

/-- The category of what is wrong with a spec that was entered. -/
def refusal? : Except Problem Event → Option Category
  | .error p => some p.category
  | .ok _ => none

/-- What is wrong with a spec whose directory is its group's and whose kind is not that of the
client is settled by the first spec with its file, which may be the spec itself. -/
lemma clash?_of_owns (hown : OwnsDirectory (done ++ [s]) s.identity)
    (hstem : Naming.stem s.identity.kind ≠ "client") {first : Resource}
    (hfirst : (firstInFile? done s.identity).getD s = first) :
    clash? (done ++ [s]) s =
      if first.identity.kind ≠ s.identity.kind then some .pathCollision
      else if Agree first s then none
      else some .identityConflict := by
  obtain ⟨o, ho, hg⟩ := hown
  have hs : firstInFile? [s] s.identity = some s := by simp [firstInFile?, sameFile_self]
  rw [clash?, ho, Option.any_some, if_neg (by simp [hg]), if_neg hstem, firstInFile?_append, hs,
    ← hfirst]
  cases firstInFile? done s.identity <;> rfl

lemma clash?_of_not_owns (hown : ¬ OwnsDirectory (done ++ [s]) s.identity) :
    clash? (done ++ [s]) s = some .pathCollision := by
  obtain ⟨o, ho⟩ := firstInDirectory?_isSome (by simp : s ∈ done ++ [s]) (sameDirectory_self _)
  have hg : o.identity.group ≠ s.identity.group := fun hg => hown ⟨o, ho, hg⟩
  rw [clash?, ho, Option.any_some, if_pos (by simpa using hg)]

lemma objectFile_eq_clientFile_iff {kind : String} :
    Naming.objectFile kind = Naming.clientFile ↔ Naming.stem kind = "client" := by
  constructor
  · intro h
    have hl := congrArg String.toList h
    rw [Naming.objectFile, String.toList_append] at hl
    exact String.toList_injective (List.append_cancel_right hl)
  · intro h
    rw [Naming.objectFile, h]
    rfl

section Step

variable {reg : Registry} (h : Tracks layout done reg)

include h

lemma Tracks.enter_again {index first : Nat} {f : Resource}
    (hf : reg.first? s.identity = some (first, f)) :
    Tracks layout (done ++ [s]) (reg.enter layout index s).1 ∧
      refusal? (reg.enter layout index s).2 = clash? (done ++ [s]) s := by
  have hid : f.identity = s.identity := by simpa using List.find?_some hf
  have hreg : Registers done f := (h.entries.first f).mp ⟨first, List.mem_of_find?_eq_some hf⟩
  have hfile : firstInFile? done s.identity = some f := by rw [← hid]; exact hreg.file
  have hsame : sameDirectory f.identity s.identity = true := by rw [hid]; exact sameDirectory_self _
  have hown : OwnsDirectory (done ++ [s]) s.identity :=
    (ownsDirectory_append hreg.mem hsame _).mpr (hid ▸ hreg.directory)
  have hstem : Naming.stem s.identity.kind ≠ "client" := hid ▸ hreg.stem_ne
  have htracks : Tracks layout (done ++ [s]) reg :=
    ⟨h.claims.append fun _ => ⟨f, hreg.mem, by rw [hid], by rw [hid], hreg.directory⟩,
      h.entries.append fun _ _ => by simp [hfile]⟩
  have hfirst : (firstInFile? done s.identity).getD s = f := by rw [hfile, Option.getD_some]
  have hclash := clash?_of_owns hown hstem hfirst
  rw [if_neg (by simp [hid])] at hclash
  rcases hd : disagreement? f s with _ | aspect
  · rw [if_pos (disagreement?_eq_none_iff.mp hd)] at hclash
    simp only [Registry.enter, hf, hd, hclash]
    exact ⟨htracks, rfl⟩
  · rw [if_neg fun ha => by simp [disagreement?_eq_none_iff.mpr ha] at hd] at hclash
    simp only [Registry.enter, hf, hd, hclash]
    exact ⟨htracks, rfl⟩

variable (hdone : ∀ o ∈ done, o.identity.IsValid) (hs : s.identity.IsValid)

include hdone hs

lemma Tracks.enter_fresh {index : Nat} (hf : reg.first? s.identity = none) :
    Tracks layout (done ++ [s]) (reg.enter layout index s).1 ∧
      refusal? (reg.enter layout index s).2 = clash? (done ++ [s]) s := by
  rcases hc : reg.claim layout s.identity with other | ⟨next, b⟩
  · -- the directory is another group's
    have hown := h.not_owns_of_claim_error hdone hs hc
    simp only [Registry.enter, hf, hc]
    have htracks : Tracks layout (done ++ [s]) reg :=
      ⟨h.claims.append fun ho => absurd ho hown, h.entries.append fun ho => absurd ho hown⟩
    refine ⟨htracks, ?_⟩
    rw [clash?_of_not_owns hown]
    rfl
  have c := h.claimed hdone hs hc
  by_cases hstem : Naming.stem s.identity.kind = "client"
  · have hfile := objectFile_eq_clientFile_iff.mpr hstem
    simp only [Registry.enter, hf, hc, hfile, beq_self_eq_true, if_true]
    refine ⟨c.tracks (Or.inl hstem), ?_⟩
    obtain ⟨o, ho, hg⟩ := c.owns
    rw [clash?, ho, Option.any_some, if_neg (by simp [hg]), if_pos hstem]
    rfl
  have hfile : (Naming.objectFile s.identity.kind == Naming.clientFile) = false := by
    rw [beq_eq_false_iff_ne]
    exact fun he => hstem (objectFile_eq_clientFile_iff.mp he)
  rcases he : b.entries.find? fun e => e.names.stem == Naming.stem s.identity.kind with _ | e
  · have hnone : firstInFile? done s.identity = none :=
      c.firstInFile?_eq_none hstem fun e hmem hst => List.find?_eq_none.mp he e hmem (by simp [hst])
    have hfirst : (firstInFile? done s.identity).getD s = s := by rw [hnone, Option.getD_none]
    have hclash := clash?_of_owns c.owns hstem hfirst
    rw [if_neg (by simp), if_pos (Agree.refl s)] at hclash
    simp only [Registry.enter, hf, hc, hfile, he, hclash]
    exact ⟨⟨c.claims.insert b index _, c.entries_insert index hstem hnone⟩, rfl⟩
  · obtain ⟨o, ho, rfl, hsame⟩ := c.registers_of_entry (List.mem_of_find?_eq_some he)
      (by simpa using List.find?_some he)
    have hff : firstInFile? done s.identity = some o := by
      rw [← firstInFile?_congr hsame]
      exact ho.file
    obtain ⟨hg, hv, -⟩ := sameFile_iff.mp hsame
    have hkind : o.identity.kind ≠ s.identity.kind := by
      intro hk
      obtain ⟨i, hi⟩ := (h.entries.first o).mpr ho
      have hid : o.identity = s.identity := identity_ext hg hv hk
      exact List.find?_eq_none.mp hf _ hi (by simp [hid])
    have hfirst : (firstInFile? done s.identity).getD s = o := by rw [hff, Option.getD_some]
    have hclash := clash?_of_owns c.owns hstem hfirst
    rw [if_pos hkind] at hclash
    simp only [Registry.enter, hf, hc, hfile, he, hclash]
    exact ⟨c.tracks (Or.inr (by simp [hff])), rfl⟩

/-- **One spec.** Entering a valid spec keeps the registry the one behind the specs so far, and the
spec is refused for what is wrong with it among them. -/
theorem Tracks.enter (index : Nat) :
    Tracks layout (done ++ [s]) (reg.enter layout index s).1 ∧
      refusal? (reg.enter layout index s).2 = clash? (done ++ [s]) s := by
  rcases hf : reg.first? s.identity with _ | ⟨first, f⟩
  · exact h.enter_fresh hdone hs hf
  · exact h.enter_again hf

end Step

/-! ### Entering all specs -/

/-- An issue as its place and its category. -/
def verdict (i : Issue) : Location × Category := (i.location, i.problem.category)

/-- Entering further specs keeps the registry the one behind all of them, and reports what is wrong
with each of them among all. -/
lemma Tracks.enterFrom {reg : Registry} {specs : List Resource} (h : Tracks layout done reg)
    (hvalid : ∀ o ∈ done ++ specs, o.identity.IsValid) :
    Tracks layout (done ++ specs) (reg.enterFrom layout done.length specs).registry ∧
      (reg.enterFrom layout done.length specs).issues.map verdict =
        (specs.zipIdx done.length).filterMap fun x =>
          (clash? (done ++ specs) x.1).map fun c => (.resource x.2, c) := by
  induction specs generalizing done reg with
  | nil => simpa [Registry.enterFrom] using h
  | cons s rest ih =>
    have hdone : ∀ o ∈ done, o.identity.IsValid := fun o ho => hvalid o (by simp [ho])
    obtain ⟨hnext, hclash⟩ := h.enter hdone (hvalid s (by simp)) done.length
    have hassoc : done ++ [s] ++ rest = done ++ s :: rest := by simp
    have hlen : (done ++ [s]).length = done.length + 1 := by simp
    obtain ⟨hrest, hissues⟩ := ih hnext (by rwa [hassoc])
    rw [hassoc, hlen] at hrest hissues
    rw [← clash?_append rest, hassoc] at hclash
    rw [Registry.enterFrom, List.zipIdx_cons, List.filterMap_cons, ← hclash, ← hissues]
    generalize reg.enter layout done.length s = step at hrest ⊢
    obtain ⟨next, p | e⟩ := step
    · exact ⟨hrest, rfl⟩
    · exact ⟨hrest, rfl⟩

lemma tracks_register {specs : List Resource} (h : issues specs = []) :
    Tracks layout specs (register layout specs).registry ∧
      (register layout specs).issues.map verdict = clashes specs :=
  tracks_nil.enterFrom fun o ho => (isValid_of_issues h o ho).identity

/-- What is reported about the specs of a list: the issues of their fields, or else the clashes. -/
def reports (specs : List Resource) : List (Location × Category) :=
  if issues specs = [] then clashes specs else (issues specs).map verdict

lemma build_cases (layout : Layout) (specs : List Resource) :
    (reports specs = [] ∧ ∃ t, (build layout specs).result = .ok t) ∨
      reports specs ≠ [] ∧ ∃ found, (build layout specs).result = .error (.invalidSpec found) ∧
        found.map verdict = reports specs := by
  rcases hi : issues specs with _ | ⟨i, more⟩
  · have hissues := (@tracks_register layout specs hi).2
    rw [reports, if_pos hi, ← hissues]
    rcases hf : (register layout specs).issues with _ | ⟨j, others⟩
    · simp [build, hi, hf]
    · simp [build, hi, hf]
  · right
    have hreports : reports specs = (i :: more).map verdict := by
      rw [reports, if_neg (by simp [hi]), hi]
    rw [hreports]
    exact ⟨by simp, i :: more, by simp [build, hi], rfl⟩

/-- **Registration is exact.** Of specs whose fields have no issue, those that clash are reported,
each once, at its place and in order, and nothing else is; a tree is built if there are none. -/
theorem build_reports_clashes (layout : Layout) (specs : List Resource) (h : issues specs = []) :
    ((∃ t, (build layout specs).result = .ok t) ↔ clashes specs = []) ∧
      (clashes specs ≠ [] → ∃ found, (build layout specs).result = .error (.invalidSpec found) ∧
        found.map verdict = clashes specs) := by
  have hreports : reports specs = clashes specs := if_pos h
  rw [← hreports]
  rcases build_cases layout specs with ⟨hnone, ht⟩ | ⟨hsome, found, hfound, hverdicts⟩
  · exact ⟨iff_of_true ht hnone, fun hsome => absurd hnone hsome⟩
  · refine ⟨iff_of_false (fun ⟨t, ht⟩ => ?_) hsome, fun _ => ⟨found, hfound, hverdicts⟩⟩
    rw [hfound] at ht
    cases ht

/-- Of two kinds that differ in case alone, the later one is reported. -/
theorem build_reports_second_of_one_file :
    ∃ found, (build {} [.plain "apps" "v1" "Deployment" "deployments",
        .plain "apps" "v1" "DEPLOYMENT" "deployments"]).result = .error (.invalidSpec found) ∧
      found.map verdict = [(.resource 1, .pathCollision)] := by
  have hc : clashes [.plain "apps" "v1" "Deployment" "deployments",
      .plain "apps" "v1" "DEPLOYMENT" "deployments"] = [(.resource 1, .pathCollision)] := by
    decide +kernel
  rw [← hc]
  exact (build_reports_clashes {} _ (by decide +kernel)).2 (by rw [hc]; simp)

/-- The tree of a list of specs before linking. -/
structure IsUnlinked (layout : Layout) (specs : List Resource) (t : Tree) : Prop where
  root : { t with branches := [], dropped := [] } = empty layout
  keyed : IsKeyed t
  frame : ∀ b ∈ t.branches, b.IsFrame layout
  owner : ∀ b ∈ t.branches, ∃ o ∈ specs, o.identity.group = b.group ∧
    o.identity.version = b.version ∧ OwnsDirectory specs o.identity
  branch : ∀ o, Registers specs o →
    ∃ b ∈ t.branches, b.group = o.identity.group ∧ b.version = o.identity.version
  entry : ∀ b ∈ t.branches, ∀ e, e ∈ b.entries ↔
    ∃ o, Registers specs o ∧ o.identity.group = b.group ∧ o.identity.version = b.version ∧
      e = Entry.of layout b o

lemma Tracks.isUnlinked {specs : List Resource} {reg : Registry} (h : Tracks layout specs reg)
    (hvalid : ∀ s ∈ specs, s.IsValid) :
    IsUnlinked layout specs { empty layout with branches := reg.branches } where
  root := rfl
  keyed :=
    { sorted := h.claims.sorted
      no_slash := by
        intro b hb
        obtain ⟨o, ho, -, hv, -⟩ := h.claims.owner hb
        rw [← hv]
        exact (hvalid o ho).identity.isName_version.no_slash
      entries_sorted := h.entries.sorted
      key := by
        intro b hb e he
        obtain ⟨o, -, hg, hv, rfl⟩ := (h.entries.entry b hb e).mp he
        exact identity_ext hg hv rfl }
  frame := h.claims.frame
  owner := fun b hb => h.claims.owner hb
  branch := fun o ho => (h.claims.claimed _ _).mpr ⟨o, ho.mem, rfl, rfl, ho.directory⟩
  entry := h.entries.entry

lemma IsUnlinked.with_dropped {specs : List Resource} {t : Tree} (h : IsUnlinked layout specs t)
    (ds : List Dropped) : IsUnlinked layout specs { t with dropped := ds } :=
  ⟨h.root, h.keyed.with_dropped ds, h.frame, h.owner, h.branch, h.entry⟩

lemma IsUnlinked.exists_entry_iff {specs : List Resource} {t : Tree}
    (h : IsUnlinked layout specs t) {id : Identity} :
    (∃ e ∈ t.entries, e.key = id) ↔ ∃ o, Registers specs o ∧ o.identity = id := by
  constructor
  · rintro ⟨e, he, rfl⟩
    obtain ⟨b, hb, he⟩ := mem_entries.mp he
    obtain ⟨o, ho, -, -, rfl⟩ := (h.entry b hb e).mp he
    exact ⟨o, ho, rfl⟩
  · rintro ⟨o, ho, rfl⟩
    obtain ⟨b, hb, hg, hv⟩ := h.branch o ho
    exact ⟨Entry.of layout b o,
      mem_entries.mpr ⟨b, hb, (h.entry b hb _).mpr ⟨o, ho, hg.symm, hv.symm, rfl⟩⟩, rfl⟩

lemma build_ok {specs : List Resource} {t : Tree} (h : (build layout specs).result = .ok t) :
    (∀ s ∈ specs, s.IsValid) ∧ clashes specs = [] ∧
      ∃ t₀, IsUnlinked layout specs t₀ ∧ t₀.dropped = [] ∧
        t = (t₀.followAll (declarations specs)).result := by
  unfold build at h
  split at h
  · cases h
  · next hi =>
    dsimp only at h
    split at h
    · cases h
    · next hf =>
      cases h
      obtain ⟨htracks, hissues⟩ := @tracks_register layout specs hi
      rw [hf] at hissues
      have hvalid := isValid_of_issues hi
      exact ⟨hvalid, hissues.symm, _, htracks.isUnlinked hvalid, rfl, rfl⟩

end ClientGen.Tree
