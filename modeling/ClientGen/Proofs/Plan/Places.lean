import ClientGen.Proofs.Disk.Growth
import ClientGen.Proofs.Plan.Destinations

/-!
The places of planned files below the root of a tree. Each file has its own one, and they are apart:
what is made on the way to one of them is neither another one nor the file beside another one.
-/

namespace ClientGen

open Spec ClientGen.Tree Disk

/-- The files of a plan have their places below a root. -/
structure ArePlaced (root : String) (files : List PlannedFile) : Prop where
  liesAt : ∀ f ∈ files, ∃ dirs name, Path.below root f.destination = dirs ++ [name] ∧
    LiesAt (Path.components root) f.destination dirs name
  begins : ∀ f ∈ files, root.toList <+: f.destination.toList
  nodup : (files.map fun f => Path.below root f.destination).Nodup
  apart : AreApart (files.map fun f => Path.below root f.destination)

lemma Path.prefix_join (base : String) {name : String} (h : Path.IsName name) :
    base.toList <+: (Path.join base name).toList := by
  rw [Path.join, h.not_absolute]
  split
  · next habsolute => cases habsolute
  · split
    · rw [String.toList_append]
      exact List.prefix_append _ _
    · rw [String.toList_append, String.toList_append, List.append_assoc]
      exact List.prefix_append _ _

section Built

variable {layout : Layout} {specs : List Resource} {t : Tree} {links : List Link} {f : PlannedFile}
  (u : IsUnlinked layout specs t) (hvalid : ∀ s ∈ specs, s.IsValid)

include u hvalid

lemma branch_dirs {b : Branch} (hb : b ∈ (t.withLinks links).branches) {n : String}
    (hn : n ∈ b.dirs) : Path.IsName n ∧ '.' ∉ n.toList := by
  obtain ⟨o, ho, hg, hv, -⟩ := u.owner_withLinks hb
  have hid := (hvalid o ho).identity
  rw [Branch.dirs, List.mem_cons, List.mem_singleton] at hn
  rcases hn with rfl | rfl
  · refine ⟨hg ▸ hid.isName_segment, fun hdot => ?_⟩
    exact absurd (Naming.isSegmentChar_of_mem_groupSegment hdot) (by decide)
  · refine ⟨hv ▸ hid.isName_version, fun hdot => ?_⟩
    rw [← hv] at hdot
    exact absurd ((isSmall_of_mem_version hid.version).2 _ hdot) (by decide)

lemma branch_plan_begins {rootPackage : String} {b : Branch}
    (hb : b ∈ (t.withLinks links).branches) (hf : f ∈ b.plan rootPackage) :
    layout.rootPath.toList <+: f.destination.toList := by
  obtain ⟨o, ho, hg, hv, -⟩ := u.owner_withLinks hb
  have hid := (hvalid o ho).identity
  have hlocation : layout.rootPath.toList <+: b.location.toList := by
    rw [(u.frame_withLinks hb).location, ← hg, ← hv, Naming.groupVersionDir]
    exact (Path.prefix_join _ hid.isName_segment).trans (Path.prefix_join _ hid.isName_version)
  rw [branch_plan_destination u hb hf]
  exact hlocation.trans (Path.prefix_join _ (branch_plan_liesIn u hvalid hb hf).isName)

lemma plan_begins (hf : f ∈ (t.withLinks links).plan) :
    layout.rootPath.toList <+: f.destination.toList := by
  rcases mem_plan.mp hf with rfl | ⟨b, hb, hf⟩
  · have hdest : (t.withLinks links).rootFile.destination =
        Path.join layout.rootPath (t.withLinks links).rootFile.name := by
      rw [rootFile_name]
      exact congrArg Tree.file u.root
    rw [hdest]
    exact Path.prefix_join _ (rootFile_liesIn u).isName
  · exact branch_plan_begins u hvalid hb hf

lemma branch_plan_temporary_begins {rootPackage : String} {b : Branch}
    (hb : b ∈ (t.withLinks links).branches) (hf : f ∈ b.plan rootPackage) :
    layout.rootPath.toList <+: (Naming.temporaryPath f.destination).toList := by
  obtain ⟨o, ho, hg, hv, -⟩ := u.owner_withLinks hb
  have hid := (hvalid o ho).identity
  have hname := (branch_plan_liesIn u hvalid hb hf).isName
  rw [branch_plan_destination u hb hf, (u.frame_withLinks hb).location, ← hg, ← hv,
    Naming.groupVersionDir, Path.temporaryPath_join (Path.isTrimmed_join _ hid.isName_version)
      (Path.endsIn_join _ hid.isName_version) hname]
  exact (Path.prefix_join _ hid.isName_segment).trans
    ((Path.prefix_join _ hid.isName_version).trans (Path.prefix_join _ hname.temporaryName))

lemma plan_liesAt (hf : f ∈ (t.withLinks links).plan) :
    ∃ dirs, Path.below layout.rootPath f.destination = dirs ++ [f.name] ∧
      (∀ n ∈ dirs, '.' ∉ n.toList) ∧
      LiesAt (Path.components layout.rootPath) f.destination dirs f.name := by
  obtain ⟨dirs, hl, hdirs⟩ := plan_liesIn u hvalid hf
  have hnames : ∀ n ∈ dirs, Path.IsName n ∧ '.' ∉ n.toList := by
    rcases hdirs with ⟨-, rfl⟩ | ⟨b, hb, rfl⟩
    · simp
    · exact fun n hn => branch_dirs u hvalid hb hn
  refine ⟨dirs, hl.below, fun n hn => (hnames n hn).2, hl.endsIn, ?_, fun n hn => (hnames n hn).1⟩
  rw [hl.components, List.append_assoc]

lemma plan_areApart :
    AreApart ((t.withLinks links).plan.map fun f => Path.below layout.rootPath f.destination) := by
  have hbelow : ∀ {dirs name},
      dirs ++ [name] ∈ (t.withLinks links).plan.map
        (fun f => Path.below layout.rootPath f.destination) →
      name.toList.head? ≠ some '.' ∧ ∀ n ∈ dirs, '.' ∉ n.toList := by
    intro dirs name hmem
    obtain ⟨f, hf, heq⟩ := List.mem_map.mp hmem
    obtain ⟨ds, hds, hdots, -⟩ := plan_liesAt u hvalid hf
    obtain ⟨dirs', hl, -⟩ := plan_liesIn u hvalid hf
    obtain ⟨rfl, hname⟩ := List.append_inj' (hds.symm.trans heq) rfl
    obtain ⟨rfl, -⟩ := List.cons.inj hname
    obtain ⟨c, cs, hc, hsmall⟩ := hl.name_cons
    refine ⟨fun hdot => ?_, hdots⟩
    rw [hc, List.head?_cons, Option.some.injEq] at hdot
    rw [hdot] at hsmall
    exact absurd hsmall (by decide)
  have htemporary : ∀ name, (Path.temporaryName name).toList.head? = some '.' := by
    intro name
    rw [Path.temporaryName_toList, List.head?_cons]
  refine ⟨fun rel hrel other hother hbegin => ?_, fun dirs name _ hmem => ?_,
    fun dirs name _ other hother hbegin => ?_⟩
  · obtain ⟨f, hf, rfl⟩ := List.mem_map.mp hrel
    obtain ⟨g, hg, rfl⟩ := List.mem_map.mp hother
    obtain ⟨ds, hds, -, hlf⟩ := plan_liesAt u hvalid hf
    obtain ⟨es, hes, -, hlg⟩ := plan_liesAt u hvalid hg
    rw [hds, hes, List.dropLast_concat] at hbegin
    refine plan_not_above u hvalid hf hg ⟨?_, fun heq => ?_⟩
    · rw [hlf.components, hlg.components, List.append_assoc, List.append_assoc,
        List.prefix_append_right_inj]
      exact hbegin.trans (List.prefix_append _ _)
    · rw [hlf.components, hlg.components] at heq
      have hlength := congrArg List.length heq
      have hle := hbegin.length_le
      simp only [List.length_append, List.length_singleton] at hlength hle
      omega
  · exact (hbelow hmem).1 (htemporary name)
  · obtain ⟨g, hg, rfl⟩ := List.mem_map.mp hother
    obtain ⟨es, hes, hdots, -⟩ := plan_liesAt u hvalid hg
    rw [hes, List.dropLast_concat] at hbegin
    exact hdots _ (hbegin.subset (by simp)) (List.mem_of_head? (htemporary name))

end Built

/-- **The files of a built tree have their places** below its root. -/
theorem plan_arePlaced {layout : Layout} {specs : List Resource} {t : Tree}
    (h : (build layout specs).result = .ok t) : ArePlaced layout.rootPath t.plan := by
  obtain ⟨t₀, links, u, hvalid, -, -, rfl⟩ := build_withLinks h
  refine ⟨fun f hf => ?_, fun f hf => plan_begins u hvalid hf, plan_below_nodup u hvalid,
    plan_areApart u hvalid⟩
  obtain ⟨dirs, hbelow, -, hl⟩ := plan_liesAt u hvalid hf
  exact ⟨dirs, f.name, hbelow, hl⟩

lemma rootFile_destination {layout : Layout} {specs : List Resource} {t : Tree}
    (h : (build layout specs).result = .ok t) :
    t.rootFile.destination = Path.join layout.rootPath "client.rs" := by
  obtain ⟨t₀, links, u, -, -, -, rfl⟩ := build_withLinks h
  exact congrArg Tree.file u.root

/-- The first file lies in the root itself. The others lie further down, so that the paths beside
them are as long as the path of the root. -/
structure IsHeaded (root : String) (file : PlannedFile) (after : List PlannedFile) : Prop where
  first : ∃ name, LiesAt (Path.components root) file.destination [] name
  others : ∀ f ∈ after, root.toList <+: (Naming.temporaryPath f.destination).toList

lemma plan_isHeaded {layout : Layout} {specs : List Resource} {t : Tree}
    (h : (build layout specs).result = .ok t) :
    ∃ file after, t.plan = file :: after ∧ IsHeaded layout.rootPath file after := by
  obtain ⟨t₀, links, u, hvalid, -, -, rfl⟩ := build_withLinks h
  refine ⟨_, _, plan_eq _, ⟨(t₀.withLinks links).rootFile.name, ?_⟩, fun f hf => ?_⟩
  · have hl : (t₀.withLinks links).rootFile.LiesIn layout.rootPath [] := rootFile_liesIn u
    exact ⟨hl.endsIn, (List.append_nil (Path.components layout.rootPath)).symm ▸ hl.components,
      by simp⟩
  · obtain ⟨b, hb, hf⟩ := List.mem_flatMap.mp hf
    exact branch_plan_temporary_begins u hvalid hb hf

end ClientGen
