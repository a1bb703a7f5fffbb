import ClientGen.Proofs.Naming.Words
import ClientGen.Proofs.Plan.References
import ClientGen.Proofs.Plan.Rendering
import ClientGen.Proofs.Template.Lines
import ClientGen.Proofs.Tree.Acceptance
import ClientGen.Proofs.Tree.GroupVersions
import Mathlib.Algebra.BigOperators.Group.List.Basic

/-!
How many lines the clients of a tree and of its group-versions have. The fixed text of a template
has its own, and most of what is filled in adds none: names of modules and types, short names,
versions and plurals are made of letters, digits and a few other characters. Groups are any text
with one letter or digit, and in the comments they stand as they are, so each line break in a group
ends the comment there and adds a line.
-/

namespace ClientGen

open Spec ClientGen.Tree Template

/-! ### Outlines of the templates -/

/-- The pieces have an outline, and end with a closing brace on a line of its own. -/
def hasOutline (o : Outline) (ps : List Piece) : Bool :=
  decide (outline? ps = some o) && endsWith [.text ("\x7d" ++ "\n")] ps

def rootClientOutline : Outline where
  fixed := 35
  gaps := [⟨"root", ["package"]⟩, ⟨"root", ["client_type"]⟩, ⟨"root", ["client_type"]⟩]
  element := "gv"
  items := ⟨"group_versions", []⟩
  bodyFixed := 5
  bodyGaps := [⟨"gv", ["group"]⟩, ⟨"gv", ["version"]⟩, ⟨"gv", ["alias"]⟩,
    ⟨"gv", ["client_module"]⟩, ⟨"gv", ["client_type"]⟩, ⟨"gv", ["client_module"]⟩,
    ⟨"gv", ["client_type"]⟩]

def groupVersionClientOutline : Outline where
  fixed := 18
  gaps := [⟨"group_version", ["group"]⟩, ⟨"group_version", ["version"]⟩,
    ⟨"group_version", ["client_type"]⟩, ⟨"group_version", ["client_type"]⟩]
  element := "resource"
  items := ⟨"resources", []⟩
  bodyFixed := 5
  bodyGaps := [⟨"resource", ["plural"]⟩, ⟨"resource", ["plural_snake"]⟩,
    ⟨"resource", ["client_module"]⟩, ⟨"resource", ["client_type"]⟩,
    ⟨"resource", ["client_module"]⟩, ⟨"resource", ["client_type"]⟩]

set_option maxRecDepth 10000 in
lemma clients_haveOutlines :
    hasOutline rootClientOutline (standardPieces .rootClient) = true ∧
      hasOutline groupVersionClientOutline (standardPieces .groupVersionClient) = true := by
  constructor
  all_goals
    apply check_of_spells
    · repeat apply Spells.cons
      exact .nil
    · decide +kernel

lemma length_lines_of_outline {o : Outline} {ps : List Piece} (h : hasOutline o ps = true)
    (values : Values) : (linesOf (fillAll ps values)).length =
      o.fixed + breaksAt o.gaps values +
        ((o.items.itemsIn values).map fun v =>
          o.bodyFixed + breaksAt o.bodyGaps (values.enter o.element v)).sum := by
  rw [hasOutline, Bool.and_eq_true, decide_eq_true_eq] at h
  obtain ⟨front, hfront⟩ := eq_append_of_endsWith h.2
  have hend : fillAll ps values = fillAll front values ++ "\x7d" ++ "\n" := by
    rw [hfront, fillAll_append, fillAll, fillAll, Piece.fill, String.append_empty,
      String.append_assoc]
  rw [← breaks_of_outline h.1 values, hend, length_linesOf]

/-! ### Names on one line -/

lemma breaks_of_all {p : Char → Bool} (hp : p '\n' = false) {s : String}
    (h : ∀ c ∈ s.toList, p c = true) : breaks s = 0 := by
  refine breaks_eq_zero_iff.mpr fun hmem => ?_
  rw [h _ hmem] at hp
  cases hp

lemma breaks_pascal (s : String) : breaks (Naming.pascal s) = 0 :=
  breaks_of_all (p := Char.isAlphanum) rfl fun _ => Naming.isAlphanum_of_mem_pascal

lemma breaks_snake (s : String) : breaks (Naming.snake s) = 0 :=
  breaks_of_all (p := Naming.isSegmentChar) rfl fun _ => Naming.isSegmentChar_of_mem_snake

lemma breaks_groupSegment (group : String) : breaks (Naming.groupSegment group) = 0 :=
  breaks_of_all (p := Naming.isSegmentChar) rfl fun _ => Naming.isSegmentChar_of_mem_groupSegment

lemma breaks_version {v : String} (h : isVersion v = true) : breaks v = 0 :=
  breaks_of_all (p := Text.isSmall) rfl (isSmall_of_mem_version h).2

lemma breaks_modulePath {names : List String} (h : ∀ name ∈ names, breaks name = 0) :
    breaks (Naming.modulePath names) = 0 := by
  refine breaks_eq_zero_iff.mpr fun hmem => ?_
  rcases Naming.mem_modulePath hmem with hcolon | ⟨name, hname, hbreak⟩
  · cases hcolon
  · exact breaks_eq_zero_iff.mp (h name hname) hbreak

/-- No name of a branch breaks a line. Its group may. -/
structure Tree.Branch.IsPlain (b : Branch) : Prop where
  version : breaks b.version = 0
  shortName : breaks b.shortName = 0
  clientType : breaks b.clientType = 0
  package : breaks b.package = 0

/-- No name of an entry breaks a line where the client of its branch uses it. -/
structure Tree.Entry.IsPlain (e : Entry) : Prop where
  plural : breaks e.names.plural = 0
  pluralSnake : breaks e.names.pluralSnake = 0
  clientType : breaks e.client.typeName = 0
  clientModule : breaks e.client.module = 0

variable {layout : Layout} {b : Branch}

lemma Tree.Branch.IsFrame.isPlain (h : b.IsFrame layout) (hroot : breaks layout.rootPackage = 0)
    (hv : isVersion b.version = true) : b.IsPlain where
  version := breaks_version hv
  shortName := by
    rw [h.shortName, Naming.groupVersionAlias, breaks_append, breaks_append, breaks_groupSegment,
      breaks_version hv]
    rfl
  clientType := by
    rw [h.clientType, breaks_append, breaks_append, breaks_pascal, breaks_pascal]
    rfl
  package := by
    rw [h.package, Naming.groupVersionModule]
    exact breaks_modulePath (by simp [hroot, breaks_groupSegment, breaks_version hv])

lemma Tree.Branch.IsPlain.isPlain_of (hb : b.IsPlain) {o : Resource} (ho : o.IsClean)
    (links : List Link) : ((Entry.of layout b o).withLinks links b).IsPlain where
  plural := breaks_of_all (p := Char.isAlphanum) rfl ho.isAlphanum_plural.2
  pluralSnake := breaks_snake o.plural
  clientType := by
    have htype : ((Entry.of layout b o).withLinks links b).client.typeName =
        Naming.pascal o.identity.kind ++ "Client" := rfl
    rw [htype, breaks_append, breaks_pascal]
    rfl
  clientModule := by
    have hstem : breaks (Naming.stem o.identity.kind) = 0 :=
      breaks_of_all (p := Text.isSmall) rfl ho.isValid.identity.isSmall_stem
    simp only [withLinks_client, of_client_module]
    refine breaks_modulePath fun name hname => ?_
    rcases List.mem_pair.mp hname with rfl | rfl
    · exact hb.package
    · rw [breaks_append, hstem]
      rfl

/-! ### Clients -/

lemma sum_map_add_left {α : Type} (n : Nat) (f : α → Nat) (as : List α) :
    (as.map fun a => n + f a).sum = n * as.length + (as.map f).sum := by
  rw [List.sum_map_add, List.map_const', List.sum_replicate_nat, Nat.mul_comm]

lemma Tree.Branch.IsPlain.breaks_summary (h : b.IsPlain) (values : Values) :
    breaksAt rootClientOutline.bodyGaps (values.enter "gv" b.summary.toValue) =
      breaks b.group := by
  have hmodule : breaks (clientModule b.package) = 0 :=
    breaks_modulePath (List.forall_mem_cons.mpr ⟨h.package, List.forall_mem_singleton.mpr rfl⟩)
  simp [breaksAt, rootClientOutline, FieldPath.textIn, FieldPath.value?, Values.enter,
    GroupVersionSummary.toValue, Branch.summary, List.lookup_cons, h.version, h.shortName,
    h.clientType, hmodule]

lemma Tree.Entry.IsPlain.breaks_summary {e : Entry} (h : e.IsPlain) (values : Values) :
    breaksAt groupVersionClientOutline.bodyGaps (values.enter "resource" e.summary.toValue) =
      0 := by
  simp [breaksAt, groupVersionClientOutline, FieldPath.textIn, FieldPath.value?, Values.enter,
    ResourceSummary.toValue, Entry.summary, List.lookup_cons, h.plural, h.pluralSnake,
    h.clientType, h.clientModule]

lemma length_lines_rootFile {t : Tree} (hpackage : breaks t.package = 0)
    (htype : breaks t.clientType = 0) (h : ∀ b ∈ t.branches, b.IsPlain) :
    (linesOf t.rootFile.standardText).length =
      35 + 5 * t.branches.length + (t.branches.map fun b => breaks b.group).sum := by
  let values : Values := fun name => t.rootFile.context.fields.lookup name
  have hroot : values "root" = some (.record [("package", .text t.package),
      ("client_type", .text t.clientType), ("location", .text t.location)]) := rfl
  have hbranches : values "group_versions" =
      some (.ofList GroupVersionSummary.toValue (t.branches.map Branch.summary)) := rfl
  have hgaps : breaksAt rootClientOutline.gaps values = 0 := by
    simp [breaksAt, rootClientOutline, FieldPath.textIn, FieldPath.value?, hroot,
      List.lookup_cons, hpackage, htype]
  have hitems : rootClientOutline.items.itemsIn values =
      t.branches.map fun b => b.summary.toValue := by
    simp [rootClientOutline, FieldPath.itemsIn, FieldPath.value?, hbranches, Value.ofList]
  have hbody : ∀ b ∈ t.branches, 5 +
      breaksAt rootClientOutline.bodyGaps (values.enter "gv" b.summary.toValue) =
        5 + breaks b.group :=
    fun b hb => congrArg _ ((h b hb).breaks_summary values)
  have hlines := length_lines_of_outline clients_haveOutlines.1 values
  rw [hgaps, hitems, List.map_map] at hlines
  rw [PlannedFile.standardText, Nat.add_assoc, ← sum_map_add_left, ← List.map_congr_left hbody]
  exact hlines

lemma Tree.Branch.IsPlain.length_lines_clientFile (h : b.IsPlain)
    (hentries : ∀ e ∈ b.entries, e.IsPlain) (rootPackage : String) :
    (linesOf (b.clientFile rootPackage).standardText).length =
      18 + 5 * b.entries.length + breaks b.group := by
  let values : Values := fun name => (b.clientFile rootPackage).context.fields.lookup name
  have hsummary : values "group_version" = some b.summary.toValue := rfl
  have hresources : values "resources" =
      some (.ofList ResourceSummary.toValue (b.entries.map Entry.summary)) := rfl
  have hgaps : breaksAt groupVersionClientOutline.gaps values = breaks b.group := by
    simp [breaksAt, groupVersionClientOutline, FieldPath.textIn, FieldPath.value?, hsummary,
      Branch.summary, GroupVersionSummary.toValue, List.lookup_cons, h.version, h.clientType]
  have hitems : groupVersionClientOutline.items.itemsIn values =
      b.entries.map fun e => e.summary.toValue := by
    simp [groupVersionClientOutline, FieldPath.itemsIn, FieldPath.value?, hresources,
      Value.ofList]
  have hbody : ∀ e ∈ b.entries, 5 +
      breaksAt groupVersionClientOutline.bodyGaps (values.enter "resource" e.summary.toValue) =
        5 :=
    fun e he => congrArg _ ((hentries e he).breaks_summary values)
  have hlines := length_lines_of_outline clients_haveOutlines.2 values
  rw [hgaps, hitems, List.map_map] at hlines
  have hsum : (b.entries.map fun _ => 5).sum = 5 * b.entries.length := by
    rw [List.map_const', List.sum_replicate_nat, Nat.mul_comm]
  rw [PlannedFile.standardText, Nat.add_right_comm, ← hsum, ← List.map_congr_left hbody]
  exact hlines

/-! ### Trees -/

lemma clean_of_build {specs : List Resource} {t : Tree}
    (h : (build layout specs).result = .ok t) : ∀ s ∈ specs, s.IsClean :=
  (build_ok_iff.mp ⟨t, h⟩).1

lemma build_isPlain {specs : List Resource} {t : Tree} (h : (build layout specs).result = .ok t)
    (hroot : breaks layout.rootPackage = 0) : breaks t.package = 0 ∧ breaks t.clientType = 0 ∧
      ∀ b ∈ t.branches, b.IsPlain ∧ ∀ e ∈ b.entries, e.IsPlain := by
  have hclean := clean_of_build h
  obtain ⟨t₀, links, m, rfl⟩ := build_isBuilt h
  have u := m.unlinked
  have hpackage : (t₀.withLinks links).package = layout.rootPackage := congrArg Tree.package u.root
  have htype : (t₀.withLinks links).clientType = "Clientset" := congrArg Tree.clientType u.root
  refine ⟨hpackage ▸ hroot, htype ▸ rfl, fun b hb => ?_⟩
  obtain ⟨o, ho, -, hv, -⟩ := u.owner_withLinks hb
  have hplain := (u.frame_withLinks hb).isPlain hroot (hv ▸ (m.valid o ho).identity.version)
  refine ⟨hplain, fun e he => ?_⟩
  obtain ⟨s, hs, -, -, rfl⟩ := (u.entry_withLinks hb).mp he
  exact hplain.isPlain_of (hclean s hs.mem) links

/-- **Lines of clients.** With the standard templates, and with the module of the tree on one line,
the root client of a built tree has 35 lines and five for each branch, and the client of a branch
has 18 and five for each entry, and on top of these as many as there are line breaks in the groups
that it names. -/
theorem plan_line_counts (layout : Layout) (specs : List Resource) (t : Tree)
    (hroot : '\n' ∉ layout.rootPackage.toList) (h : (build layout specs).result = .ok t) :
    ∃ c, TemplateSet.standard.compile = .ok c ∧ ∀ f ∈ t.plan,
      ∃ text, c.render f.role f.context.fields f.destination = .ok text ∧
        (f.role = .rootClient → (linesOf text).length =
          35 + 5 * t.branches.length + (t.branches.map fun b => breaks b.group).sum) ∧
        (f.role = .groupVersionClient → ∃ b ∈ t.branches, f = b.clientFile t.package ∧
          (linesOf text).length = 18 + 5 * b.entries.length + breaks b.group) := by
  obtain ⟨hpackage, htype, hplain⟩ := build_isPlain h (breaks_eq_zero_iff.mpr hroot)
  refine ⟨standardCompiled, compile_standard, fun f hf => ⟨_, render_of_mem_plan hf, ?_⟩⟩
  rcases mem_plan.mp hf with rfl | ⟨b, hb, hfb⟩
  · have hlines := length_lines_rootFile hpackage htype fun b hb => (hplain b hb).1
    exact ⟨fun _ => hlines, nofun⟩
  rcases mem_branch_plan.mp hfb with rfl | ⟨e, -, hfe⟩
  · have hlines := (hplain b hb).1.length_lines_clientFile (hplain b hb).2 t.package
    exact ⟨nofun, fun _ => ⟨b, hb, rfl, hlines⟩⟩
  · have hother : ∀ role ∈ [Role.client, .reader, .object, .reference],
        role ≠ .rootClient ∧ role ≠ .groupVersionClient := by decide
    obtain ⟨hnotRoot, hnotClient⟩ := hother f.role (role_of_entry_plan hfe)
    exact ⟨fun hrole => absurd hrole hnotRoot, fun hrole => absurd hrole hnotClient⟩

/-- With one group-version and two resources the clients have forty and twenty-eight lines. -/
theorem mutualOwners_line_counts : ∃ t, (build {} mutualOwners).result = .ok t ∧
    ∃ c, TemplateSet.standard.compile = .ok c ∧ ∀ f ∈ t.plan,
      ∃ text, c.render f.role f.context.fields f.destination = .ok text ∧
        (f.role = .rootClient → (linesOf text).length = 40) ∧
        (f.role = .groupVersionClient → (linesOf text).length = 28) := by
  obtain ⟨t, ht, hcounts⟩ := exists_of_any mutualOwners (fun t => decide (
    t.branches.map (fun b => (breaks b.group, b.entries.length)) = [(0, 2)])) (by decide +kernel)
  rw [decide_eq_true_eq, List.map_eq_singleton_iff] at hcounts
  obtain ⟨b, hbranches, hb⟩ := hcounts
  rw [Prod.mk.injEq] at hb
  obtain ⟨c, hc, hlines⟩ := plan_line_counts {} mutualOwners t (by decide) ht
  refine ⟨t, ht, c, hc, fun f hf => ?_⟩
  obtain ⟨text, hrender, hrootClient, hclient⟩ := hlines f hf
  refine ⟨text, hrender, fun hrole => ?_, fun hrole => ?_⟩
  · rw [hrootClient hrole, hbranches, List.map_singleton, hb.1]
    rfl
  · obtain ⟨d, hd, -, hcount⟩ := hclient hrole
    rw [hbranches, List.mem_singleton] at hd
    rw [hcount, hd, hb.1, hb.2]

/-- A deployment whose group has a line break, and code behind it. -/
def brokenGroup : List Resource :=
  [.plain "apps\npub fn f() \x7b\x7d //" "v1" "Deployment" "deployments"]

/-- The group is accepted, and both clients that name it have a line more than they should. -/
theorem brokenGroup_adds_lines : ∃ t, (build {} brokenGroup).result = .ok t ∧
    ∃ c, TemplateSet.standard.compile = .ok c ∧
      (∃ f ∈ t.plan, f.role = .rootClient ∧
        ∃ text, c.render f.role f.context.fields f.destination = .ok text ∧
          (linesOf text).length ≠ 35 + 5 * t.branches.length) ∧
      ∃ b ∈ t.branches, ∃ f ∈ t.plan, f.role = .groupVersionClient ∧ f.destination = b.file ∧
        ∃ text, c.render f.role f.context.fields f.destination = .ok text ∧
          (linesOf text).length ≠ 18 + 5 * b.entries.length := by
  obtain ⟨t, ht, hcounts⟩ := exists_of_any brokenGroup (fun t => decide (
    t.branches.map (fun b => breaks b.group) = [1])) (by decide +kernel)
  rw [decide_eq_true_eq] at hcounts
  obtain ⟨b, hbranches, hb⟩ := List.map_eq_singleton_iff.mp hcounts
  have hmem : b ∈ t.branches := hbranches ▸ List.mem_singleton_self b
  obtain ⟨hpackage, htype, hplain⟩ := build_isPlain ht (by decide)
  have hrootFile : t.rootFile ∈ t.plan := mem_plan.mpr (Or.inl rfl)
  have hclientFile : b.clientFile t.package ∈ t.plan :=
    mem_plan.mpr (Or.inr ⟨b, hmem, mem_branch_plan.mpr (Or.inl rfl)⟩)
  refine ⟨t, ht, standardCompiled, compile_standard,
    ⟨_, hrootFile, rfl, _, render_of_mem_plan hrootFile, ?_⟩,
    b, hmem, _, hclientFile, rfl, rfl, _, render_of_mem_plan hclientFile, ?_⟩
  · rw [length_lines_rootFile hpackage htype fun d hd => (hplain d hd).1, hcounts]
    exact Nat.succ_ne_self _
  · rw [(hplain b hmem).1.length_lines_clientFile (hplain b hmem).2, hb]
    exact Nat.succ_ne_self _

end ClientGen
