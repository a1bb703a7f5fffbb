import ClientGen.Proofs.Plan.Files

/-!
Planned files stay below the root of their tree. Whatever the groups of the specs look like, the
path of a file is the root joined with names that lead one step down each: with the name of the root
client, or with a segment, a version and the name of a file.
-/

namespace ClientGen

open Spec ClientGen.Tree

/-- A text with characters of one class, and with at least one of them. -/
def Text.IsOver (p : Char → Bool) (s : String) : Prop := s ≠ "" ∧ ∀ c ∈ s.toList, p c = true

namespace Path

/-- A path that is reached from `root` by the steps `names`, each of which leads down. -/
structure IsDownFrom (root : String) (names : List String) (path : String) : Prop where
  joined : path = names.foldl join root
  components : components path = components root ++ names
  down : ∀ n ∈ names, IsName n ∧ isAbsolute n = false

lemma components_foldl_join {root : String} {names : List String} (h : ∀ n ∈ names, IsName n) :
    components (names.foldl join root) = components root ++ names := by
  induction names generalizing root with
  | nil => simp
  | cons n ns ih =>
    rw [List.foldl_cons, ih fun m hm => h m (by simp [hm]), components_join (h n (by simp)),
      List.append_assoc]
    rfl

lemma isDownFrom_foldl {root : String} {names : List String} (h : ∀ n ∈ names, IsName n) :
    IsDownFrom root names (names.foldl join root) :=
  ⟨rfl, components_foldl_join h, fun n hn => ⟨h n hn, (h n hn).not_absolute⟩⟩

end Path

/-- The steps from a root to a file: the name of the root client, or a segment, a version and the
name of a file. -/
inductive FileSteps : List String → Prop
  | rootClient : FileSteps ["client.rs"]
  | inBranch {segment version stem : String} (hsegment : Text.IsOver Naming.isSegmentChar segment)
      (hversion : Text.IsOver Text.isSmall version)
      (hstem : Text.IsOver Naming.isSegmentChar stem) :
      FileSteps [segment, version, stem ++ ".rs"]

lemma Role.ending_eq (role : Role) :
    ∃ suffix, role.ending = suffix ++ ".rs" ∧
      suffix.toList.all Naming.isSegmentChar = true := by
  cases role with
  | rootClient => exact ⟨"", rfl, by decide⟩
  | groupVersionClient => exact ⟨"", rfl, by decide⟩
  | client => exact ⟨"_client", rfl, by decide⟩
  | reader => exact ⟨"_reader", rfl, by decide⟩
  | object => exact ⟨"", rfl, by decide⟩
  | reference => exact ⟨"_reference", rfl, by decide⟩

lemma PlannedFile.LiesIn.name_eq {root : String} {dirs : List String} {f : PlannedFile}
    (h : f.LiesIn root dirs) :
    ∃ stem, f.name = stem ++ ".rs" ∧ Text.IsOver Naming.isSegmentChar stem := by
  obtain ⟨suffix, hending, hsuffix⟩ := f.role.ending_eq
  refine ⟨f.stem ++ suffix, ?_, fun he => ?_, fun c hc => ?_⟩
  · rw [name, hending, String.append_assoc]
  · exact h.stem_ne (String.append_eq_empty_iff.mp he).1
  · rw [String.toList_append, List.mem_append] at hc
    rcases hc with hc | hc
    · simp [Naming.isSegmentChar, h.stem_small c hc]
    · exact List.all_eq_true.mp hsuffix c hc

section Built

variable {layout : Layout} {specs : List Resource} {t : Tree} {links : List Link} {b : Branch}
  {rootPackage : String} {f : PlannedFile} (u : IsUnlinked layout specs t)

include u

lemma rootFile_isDownFrom :
    Path.IsDownFrom layout.rootPath ["client.rs"] (t.withLinks links).rootFile.destination := by
  have hdest : (t.withLinks links).rootFile.destination = Path.join layout.rootPath "client.rs" :=
    congrArg Tree.file u.root
  rw [hdest]
  refine Path.isDownFrom_foldl fun n hn => ?_
  rw [List.mem_singleton.mp hn]
  exact isName_clientFile

lemma branch_plan_isDownFrom (hvalid : ∀ s ∈ specs, s.IsValid)
    (hb : b ∈ (t.withLinks links).branches) (hf : f ∈ b.plan rootPackage) :
    ∃ names, Path.IsDownFrom layout.rootPath names f.destination ∧ FileSteps names := by
  obtain ⟨o, ho, hg, hv, -⟩ := u.owner_withLinks hb
  have hid := (hvalid o ho).identity
  have hl := branch_plan_liesIn u hvalid hb hf
  obtain ⟨stem, hname, hstem⟩ := hl.name_eq
  have hdest : f.destination =
      [Naming.groupSegment b.group, b.version, f.name].foldl Path.join layout.rootPath := by
    rw [branch_plan_destination u hb hf, (u.frame_withLinks hb).location]
    rfl
  refine ⟨[Naming.groupSegment b.group, b.version, f.name], ?_, ?_⟩
  · rw [hdest, ← hg, ← hv]
    refine Path.isDownFrom_foldl ?_
    simpa using ⟨hid.isName_segment, hid.isName_version, hl.isName⟩
  · rw [hname, ← hg, ← hv]
    exact .inBranch
      ⟨Naming.groupSegment_ne_empty hid.group, fun _ => Naming.isSegmentChar_of_mem_groupSegment⟩
      (isSmall_of_mem_version hid.version) hstem

end Built

/-- **Files stay below the root.** Every file that is planned for a built tree is reached from the
root by steps that lead down: by the name of the root client, or by a segment, a version and the
name of a file. -/
theorem plan_isDownFrom_root (layout : Layout) (specs : List Resource) (t : Tree)
    (h : (build layout specs).result = .ok t) :
    ∀ f ∈ t.plan, ∃ names, Path.IsDownFrom layout.rootPath names f.destination ∧
      FileSteps names := by
  obtain ⟨t₀, links, m, rfl⟩ := build_isBuilt h
  intro f hf
  rcases mem_plan.mp hf with rfl | ⟨b, hb, hf⟩
  · exact ⟨_, rootFile_isDownFrom m.unlinked, .rootClient⟩
  · exact branch_plan_isDownFrom m.unlinked m.valid hb hf

/-- Resources of groups that read like paths out of the root. -/
def strayGroups : List Resource :=
  [.plain "../../etc" "v1" "Passwd" "passwds", .plain "/abs" "v1" "Pod" "pods"]

/-- A group that reads like a path leads down nevertheless. -/
theorem strayGroups_isDownFrom_root : ∃ t, (build {} strayGroups).result = .ok t ∧
    t.plan.map PlannedFile.destination =
      ["generated/client.rs", "generated/etc/v1/client.rs", "generated/etc/v1/passwd_client.rs",
        "generated/etc/v1/passwd_reader.rs", "generated/etc/v1/passwd.rs",
        "generated/abs/v1/client.rs", "generated/abs/v1/pod_client.rs",
        "generated/abs/v1/pod_reader.rs", "generated/abs/v1/pod.rs"] ∧
    ∀ f ∈ t.plan, ∃ names, Path.IsDownFrom "generated" names f.destination ∧ FileSteps names := by
  obtain ⟨t, ht⟩ := exists_of_isOk strayGroups (by decide +kernel)
  have hdests : (build {} strayGroups).result.toOption.map
      (fun t => t.plan.map PlannedFile.destination) =
        some ["generated/client.rs", "generated/etc/v1/client.rs",
          "generated/etc/v1/passwd_client.rs", "generated/etc/v1/passwd_reader.rs",
          "generated/etc/v1/passwd.rs", "generated/abs/v1/client.rs",
          "generated/abs/v1/pod_client.rs", "generated/abs/v1/pod_reader.rs",
          "generated/abs/v1/pod.rs"] := by
    decide +kernel
  rw [ht] at hdests
  exact ⟨t, ht, Option.some.inj hdests, plan_isDownFrom_root {} strayGroups t ht⟩

end ClientGen
