import ClientGen.Proofs.Path.Names
import ClientGen.Proofs.Plan.Files

/-!
The files of a plan do not get in each other's way. No two of them are written to one path, also
where case makes no difference, none is written where another one needs a directory, and the paths
that they are first written to are those of no file.
-/

namespace ClientGen

open Spec ClientGen.Tree

/-- Files that are written to these paths below a root do not get in each other's way. -/
structure Path.KeepApart (root : String) (paths : List String) : Prop where
  inside : ∀ d ∈ paths, components root <+: components d
  distinct : (paths.map components).Nodup
  distinct_lower : (paths.map fun d => (below root d).map Text.lower).Nodup
  not_above : ∀ d ∈ paths, ∀ e ∈ paths, ¬ IsAbove d e
  temporary_ne : ∀ d ∈ paths, ∀ e ∈ paths, components (Naming.temporaryPath d) ≠ components e
  temporary_inj : ∀ d ∈ paths, ∀ e ∈ paths,
    components (Naming.temporaryPath d) = components (Naming.temporaryPath e) → d = e

section LiesIn

variable {root : String} {dirs : List String} {f : PlannedFile} (h : f.LiesIn root dirs)

include h

lemma PlannedFile.LiesIn.name_cons :
    ∃ c cs, f.name.toList = c :: cs ∧ Text.isSmall c = true := by
  obtain ⟨c, cs, hc⟩ := List.exists_cons_of_ne_nil (String.toList_eq_nil_iff.not.mpr h.stem_ne)
  refine ⟨c, cs ++ f.role.ending.toList, ?_, h.stem_small c (by simp [hc])⟩
  rw [name, String.toList_append, hc, List.cons_append]

lemma PlannedFile.LiesIn.endsIn : Path.EndsIn f.destination f.name := by
  obtain ⟨dir, hdest, -⟩ := h.destination
  rw [hdest]
  exact Path.endsIn_join dir h.isName

lemma PlannedFile.LiesIn.components_temporary :
    Path.components (Naming.temporaryPath f.destination) =
      Path.components root ++ (dirs ++ [Path.temporaryName f.name]) := by
  rw [← List.append_assoc]
  exact Path.components_temporaryPath h.endsIn (by rw [h.components, List.append_assoc])

lemma PlannedFile.LiesIn.lower_name : Text.lower f.name = f.name := by
  refine Text.lower_eq_self fun c hc => ?_
  rw [name, String.toList_append, List.mem_append] at hc
  rcases hc with hc | hc
  · exact Text.ascii_of_isSmall (h.stem_small c hc)
  · have hall : f.role.ending.toList.all (fun c => c.toNat < 128 && !c.isUpper) = true := by
      cases f.role <;> decide
    simpa using List.all_eq_true.mp hall c hc

end LiesIn

/-! ### Names in one branch -/

lemma Role.eq_of_ending {r r' : Role} (hr : r ∈ [Role.client, .reader, .object, .reference])
    (hr' : r' ∈ [Role.client, .reader, .object, .reference]) (h : r.ending = r'.ending) :
    r = r' := by
  revert h
  cases r <;> cases r' <;> simp_all [Role.ending]

section Built

variable {layout : Layout} {specs : List Resource} {t : Tree} {links : List Link} {b : Branch}
  {rootPackage : String} (u : IsUnlinked layout specs t) (hvalid : ∀ s ∈ specs, s.IsValid)
  (hb : b ∈ (t.withLinks links).branches)

include u hvalid hb

lemma entry_names_nodup {e : Entry} (he : e ∈ b.entries) :
    ((e.plan rootPackage b).map PlannedFile.name).Nodup := by
  refine List.Nodup.map_on (fun f hf g hg h => ?_) (List.Nodup.of_map _ entry_plan_nodup)
  have hend := ((entry_plan_liesIn u hvalid hb he hf).1.name_inj
    (entry_plan_liesIn u hvalid hb he hg).1 h).2
  exact List.inj_on_of_nodup_map entry_plan_nodup hf hg
    (Role.eq_of_ending (role_of_entry_plan hf) (role_of_entry_plan hg) hend)

lemma entries_names_disjoint {e e' : Entry} (he : e ∈ b.entries) (he' : e' ∈ b.entries)
    (hne : e ≠ e') : ((e.plan rootPackage b).map PlannedFile.name).Disjoint
      ((e'.plan rootPackage b).map PlannedFile.name) := by
  intro name hn hn'
  obtain ⟨f, hf, rfl⟩ := List.mem_map.mp hn
  obtain ⟨g, hg, heq⟩ := List.mem_map.mp hn'
  obtain ⟨hlf, o, ho, hog, hov, rfl, hfs⟩ := entry_plan_liesIn u hvalid hb he hf
  obtain ⟨hlg, o', ho', hog', hov', rfl, hgs⟩ := entry_plan_liesIn u hvalid hb he' hg
  have hstem := (hlg.name_inj hlf heq).1
  rw [hfs, hgs] at hstem
  have hsame : sameFile o'.identity o.identity = true :=
    sameFile_iff.mpr ⟨hog'.trans hog.symm, hov'.trans hov.symm, hstem⟩
  exact hne (by rw [ho'.eq_of_sameFile ho hsame])

lemma branch_names_nodup : ((b.plan rootPackage).map PlannedFile.name).Nodup := by
  rw [branch_plan_eq, List.map_cons, List.map_flatMap, List.nodup_cons, List.nodup_flatMap]
  refine ⟨?_, fun e he => entry_names_nodup u hvalid hb he, ?_⟩
  · -- no resource has the stem of the client
    intro hmem
    obtain ⟨e, he, hn⟩ := List.mem_flatMap.mp hmem
    obtain ⟨f, hf, heq⟩ := List.mem_map.mp hn
    obtain ⟨hl, o, ho, -, -, -, hs⟩ := entry_plan_liesIn u hvalid hb he hf
    have hstem := (hl.name_inj (clientFile_liesIn u hvalid hb) heq).1
    exact ho.stem_ne (hs ▸ hstem)
  · have hnodup :=
      ((u.keyed.mapped (keepsKeys_withLinks links)).entries_sorted b hb).nodup
    exact hnodup.imp_of_mem fun he he' hne => entries_names_disjoint u hvalid hb he he' hne

end Built

/-! ### Names in a tree -/

section Built

variable {layout : Layout} {specs : List Resource} {t : Tree} {links : List Link}
  (u : IsUnlinked layout specs t) (hvalid : ∀ s ∈ specs, s.IsValid)

include u hvalid

lemma plan_liesIn {f : PlannedFile} (hf : f ∈ (t.withLinks links).plan) :
    ∃ dirs, f.LiesIn layout.rootPath dirs ∧ (f = (t.withLinks links).rootFile ∧ dirs = [] ∨
      ∃ b ∈ (t.withLinks links).branches, dirs = b.dirs) := by
  rcases mem_plan.mp hf with rfl | ⟨b, hb, hf⟩
  · exact ⟨[], rootFile_liesIn u, Or.inl ⟨rfl, rfl⟩⟩
  · exact ⟨b.dirs, branch_plan_liesIn u hvalid hb hf, Or.inr ⟨b, hb, rfl⟩⟩

lemma plan_below_nodup : ((t.withLinks links).plan.map fun f =>
    Path.below layout.rootPath f.destination).Nodup := by
  rw [plan_eq, List.map_cons, List.map_flatMap, List.nodup_cons, List.nodup_flatMap]
  refine ⟨?_, fun b hb => ?_, ?_⟩
  · intro hmem
    obtain ⟨b, hb, hm⟩ := List.mem_flatMap.mp hmem
    obtain ⟨f, hf, heq⟩ := List.mem_map.mp hm
    rw [(branch_plan_liesIn u hvalid hb hf).below, (rootFile_liesIn u).below] at heq
    simp [Branch.dirs] at heq
  · have hmap : (b.plan (t.withLinks links).package).map (fun f =>
        Path.below layout.rootPath f.destination) =
        ((b.plan (t.withLinks links).package).map PlannedFile.name).map (b.dirs ++ [·]) := by
      rw [List.map_map]
      exact List.map_congr_left fun f hf => (branch_plan_liesIn u hvalid hb hf).below
    rw [hmap]
    refine (branch_names_nodup u hvalid hb).map fun m n h => ?_
    simpa using h
  · refine (u.keyed.mapped (keepsKeys_withLinks links)).sorted.nodup.imp_of_mem
      fun {b c} hb hc hne place hp hp' => ?_
    obtain ⟨f, hf, rfl⟩ := List.mem_map.mp hp
    obtain ⟨g, hg, heq⟩ := List.mem_map.mp hp'
    rw [(branch_plan_liesIn u hvalid hb hf).below, (branch_plan_liesIn u hvalid hc hg).below] at heq
    simp only [Branch.dirs, List.cons_append, List.nil_append, List.cons.injEq] at heq
    exact hne (u.eq_of_dirs hb hc heq.1.symm heq.2.1.symm)

lemma plan_components_nodup :
    (((t.withLinks links).plan.map PlannedFile.destination).map Path.components).Nodup := by
  rw [List.map_map]
  refine List.Nodup.of_map (List.drop (Path.components layout.rootPath).length) ?_
  rw [List.map_map]
  exact plan_below_nodup u hvalid

lemma plan_not_above {f g : PlannedFile} (hf : f ∈ (t.withLinks links).plan)
    (hg : g ∈ (t.withLinks links).plan) : ¬ Path.IsAbove f.destination g.destination := by
  rintro ⟨hbegin, hne⟩
  obtain ⟨dirs, hlf, hdf⟩ := plan_liesIn u hvalid hf
  obtain ⟨dirs', hlg, hdg⟩ := plan_liesIn u hvalid hg
  rw [hlf.components, hlg.components] at hbegin hne
  rw [List.prefix_append_right_inj] at hbegin
  have hlen : (dirs ++ [f.name]).length ≠ (dirs' ++ [g.name]).length := fun hl =>
    hne (by rw [hbegin.eq_of_length hl])
  have hle := hbegin.length_le
  rcases hdf with ⟨rfl, rfl⟩ | ⟨b, hb, rfl⟩ <;> rcases hdg with ⟨-, rfl⟩ | ⟨c, hc, rfl⟩
  · exact hlen rfl
  · -- the name of the root client has a dot, and no segment has one
    obtain ⟨o, ho, hog, -⟩ := u.owner_withLinks hc
    simp only [Branch.dirs, List.nil_append, List.cons_append, List.cons_prefix_cons] at hbegin
    have hseg : '.' ∈ (Naming.groupSegment c.group).toList := by
      rw [← hbegin.1, rootFile_name]
      decide
    exact absurd (Naming.isSegmentChar_of_mem_groupSegment hseg) (by decide)
  · simp [Branch.dirs] at hle
  · exact hlen (by simp [Branch.dirs])

lemma plan_temporary_ne {f g : PlannedFile} (hf : f ∈ (t.withLinks links).plan)
    (hg : g ∈ (t.withLinks links).plan) :
    Path.components (Naming.temporaryPath f.destination) ≠ Path.components g.destination := by
  obtain ⟨dirs, hlf, -⟩ := plan_liesIn u hvalid hf
  obtain ⟨dirs', hlg, -⟩ := plan_liesIn u hvalid hg
  rw [hlf.components_temporary, hlg.components]
  intro heq
  obtain ⟨-, hlast⟩ := List.append_inj' (List.append_cancel_left heq) rfl
  obtain ⟨c, cs, hc, hsmall⟩ := hlg.name_cons
  rw [← (List.cons.inj hlast).1, Path.temporaryName_toList] at hc
  obtain ⟨rfl, -⟩ := List.cons.inj hc
  exact absurd hsmall (by decide)

lemma plan_temporary_inj {f g : PlannedFile} (hf : f ∈ (t.withLinks links).plan)
    (hg : g ∈ (t.withLinks links).plan)
    (h : Path.components (Naming.temporaryPath f.destination) =
      Path.components (Naming.temporaryPath g.destination)) : f.destination = g.destination := by
  obtain ⟨dirs, hlf, -⟩ := plan_liesIn u hvalid hf
  obtain ⟨dirs', hlg, -⟩ := plan_liesIn u hvalid hg
  rw [hlf.components_temporary, hlg.components_temporary] at h
  obtain ⟨hdirs, hlast⟩ := List.append_inj' (List.append_cancel_left h) rfl
  have hname : f.name = g.name := Path.temporaryName_inj (List.cons.inj hlast).1
  refine List.inj_on_of_nodup_map (plan_components_nodup u hvalid) (List.mem_map_of_mem hf)
    (List.mem_map_of_mem hg) ?_
  rw [hlf.components, hlg.components, hdirs, hname]

lemma plan_below_lower {f : PlannedFile} (hf : f ∈ (t.withLinks links).plan) :
    (Path.below layout.rootPath f.destination).map Text.lower =
      Path.below layout.rootPath f.destination := by
  obtain ⟨dirs, hl, hd⟩ := plan_liesIn u hvalid hf
  rw [hl.below, List.map_append, List.map_singleton, hl.lower_name]
  rcases hd with ⟨-, rfl⟩ | ⟨b, hb, rfl⟩
  · rfl
  · obtain ⟨o, ho, hg, hv, -⟩ := u.owner_withLinks hb
    have hseg : Text.lower (Naming.groupSegment b.group) = Naming.groupSegment b.group :=
      Text.lower_eq_self fun c hc => by
        have hs := Naming.isSegmentChar_of_mem_groupSegment hc
        simp only [Naming.isSegmentChar, Bool.or_eq_true, beq_iff_eq] at hs
        rcases hs with hs | rfl
        · exact Text.ascii_of_isSmall hs
        · decide
    have hver : Text.lower b.version = b.version := Text.lower_eq_self fun c hc =>
      Text.ascii_of_isSmall
        ((isSmall_of_mem_version (hvalid o ho).identity.version).2 c (by rwa [hv]))
    rw [Branch.dirs, List.map_cons, List.map_cons, hseg, hver]
    rfl

end Built

/-- **Destinations do not clash.** The files that are planned for a built tree do not get in each
other's way. -/
theorem plan_keepsApart (layout : Layout) (specs : List Resource) (t : Tree)
    (h : (build layout specs).result = .ok t) :
    Path.KeepApart layout.rootPath (t.plan.map PlannedFile.destination) := by
  obtain ⟨t₀, links, u, hvalid, -, -, rfl⟩ := build_withLinks h
  refine ⟨?_, plan_components_nodup u hvalid, ?_, ?_, ?_, ?_⟩
  · intro d hd
    obtain ⟨f, hf, rfl⟩ := List.mem_map.mp hd
    obtain ⟨dirs, hl, -⟩ := plan_liesIn u hvalid hf
    rw [hl.components]
    exact List.prefix_append _ _
  · rw [List.map_map]
    have hlower := List.map_congr_left fun f (hf : f ∈ (t₀.withLinks links).plan) =>
      plan_below_lower u hvalid hf
    exact hlower ▸ plan_below_nodup u hvalid
  · intro d hd e he
    obtain ⟨f, hf, rfl⟩ := List.mem_map.mp hd
    obtain ⟨g, hg, rfl⟩ := List.mem_map.mp he
    exact plan_not_above u hvalid hf hg
  · intro d hd e he
    obtain ⟨f, hf, rfl⟩ := List.mem_map.mp hd
    obtain ⟨g, hg, rfl⟩ := List.mem_map.mp he
    exact plan_temporary_ne u hvalid hf hg
  · intro d hd e he
    obtain ⟨f, hf, rfl⟩ := List.mem_map.mp hd
    obtain ⟨g, hg, rfl⟩ := List.mem_map.mp he
    exact plan_temporary_inj u hvalid hf hg

/-- The ten files of resources that own each other do not get in each other's way. -/
theorem mutualOwners_keepsApart :
    ∃ t, (build {} mutualOwners).result = .ok t ∧ t.plan.length = 10 ∧
      Path.KeepApart "generated" (t.plan.map PlannedFile.destination) := by
  obtain ⟨t, ht⟩ := mutualOwners_built
  have hlength : (match (build {} mutualOwners).result with
      | .ok t => t.plan.length
      | .error _ => 0) = 10 := by
    decide +kernel
  rw [ht] at hlength
  exact ⟨t, ht, hlength, plan_keepsApart {} mutualOwners t ht⟩

end ClientGen
