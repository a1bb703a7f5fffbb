import ClientGen.Proofs.Plan.Files
import ClientGen.Proofs.Tree.Compatible
import ClientGen.Proofs.Tree.Firsts

/-!
Two specs that cannot stand in one list, in terms of what would be generated for them: they say
different things about one resource, or are of two resources with a file in common, or of two
group-versions with one directory. Of two such specs one is reported, unless a field of the list has
an issue: then clashes are not looked for.
-/

namespace ClientGen.Tree

open Spec

variable {layout : Layout} {specs : List Resource} {a b s : Resource} {path : String}

/-! ### What is generated for a spec -/

/-- The branch of the group-version of a spec, on its own. -/
def frameOf (layout : Layout) (s : Resource) : Branch :=
  Branch.empty layout s.identity.group s.identity.version

def ownFiles (layout : Layout) (s : Resource) : List String :=
  let e := entryOf layout s
  [e.client.file, e.reader.file, e.object.file, (ReferencePart.of (frameOf layout s) e).file]

/-- Two specs clash: they are of one resource and disagree, of two resources with a common file, of
which one may be that of a group-version, or of two group-versions with one directory. -/
inductive Clash (layout : Layout) (a b : Resource) : Prop
  | redeclared (hid : a.identity = b.identity) (h : ¬ Agree a b)
  | file (hid : a.identity ≠ b.identity) (path : String) (ha : path ∈ ownFiles layout a)
      (hb : path ∈ ownFiles layout b)
  | client (h : (frameOf layout b).file ∈ ownFiles layout a ∨
      (frameOf layout a).file ∈ ownFiles layout b)
  | directory (hne : a.identity.group ≠ b.identity.group ∨ a.identity.version ≠ b.identity.version)
      (h : (frameOf layout a).location = (frameOf layout b).location)

lemma exists_of_mem_ownFiles (h : path ∈ ownFiles layout s) : ∃ role : Role, path =
    Path.join (frameOf layout s).location (Naming.stem s.identity.kind ++ role.ending) := by
  simp only [ownFiles, entryOf, of_client_file, of_reader_file, of_object_file, of_reference_file,
    of_names_kind, List.mem_cons, List.not_mem_nil, or_false] at h
  rcases h with rfl | rfl | rfl | rfl
  · exact ⟨.client, rfl⟩
  · exact ⟨.reader, rfl⟩
  · exact ⟨.object, rfl⟩
  · exact ⟨.reference, rfl⟩

lemma frameOf_file (layout : Layout) (s : Resource) : (frameOf layout s).file =
    Path.join (frameOf layout s).location ("client" ++ Role.groupVersionClient.ending) := rfl

section Valid

variable (ha : a.identity.IsValid) (hb : b.identity.IsValid)

include ha hb

lemma sameDirectory_of_file {stem stem' : String} {role role' : Role} (hne : stem ≠ "")
    (hne' : stem' ≠ "") (hsmall : ∀ c ∈ stem.toList, Text.isSmall c = true)
    (hsmall' : ∀ c ∈ stem'.toList, Text.isSmall c = true)
    (h : Path.join (frameOf layout a).location (stem ++ role.ending) =
      Path.join (frameOf layout b).location (stem' ++ role'.ending)) :
    sameDirectory a.identity b.identity = true ∧ stem = stem' := by
  have hc := congrArg Path.components h
  rw [Path.components_join (isName_file hne hsmall role),
    Path.components_join (isName_file hne' hsmall' role')] at hc
  obtain ⟨hdirectory, hname⟩ := List.append_inj' hc rfl
  refine ⟨?_, (Role.name_inj hsmall hsmall' (List.singleton_inj.mp hname)).1⟩
  simp only [frameOf, Branch.empty] at hdirectory
  rw [components_groupVersionDir ha.isName_segment ha.isName_version,
    components_groupVersionDir hb.isName_segment hb.isName_version,
    List.append_cancel_left_eq] at hdirectory
  obtain ⟨hsegment, hversion⟩ := List.cons.inj hdirectory
  simp [sameDirectory, hsegment, (List.cons.inj hversion).1]

lemma stem_eq_client (h : (frameOf layout b).file ∈ ownFiles layout a) :
    Naming.stem a.identity.kind = "client" := by
  obtain ⟨role, hpath⟩ := exists_of_mem_ownFiles h
  rw [frameOf_file] at hpath
  have hsmall : ∀ c ∈ "client".toList, Text.isSmall c = true :=
    List.all_eq_true.mp isSmall_client
  exact (sameDirectory_of_file hb ha (by decide) ha.stem_ne_empty hsmall ha.isSmall_stem
    hpath).2.symm

/-- Specs that can stand together do not clash, unless one has the name of the client. -/
lemma Compatible.not_clash (h : Compatible a b) (hstem : Naming.stem a.identity.kind ≠ "client")
    (hstem' : Naming.stem b.identity.kind ≠ "client") : ¬ Clash layout a b := by
  have hidentity : sameDirectory a.identity b.identity = true →
      a.identity.group = b.identity.group ∧ a.identity.version = b.identity.version := by
    intro hsame
    have hversion := hsame
    simp only [sameDirectory, Bool.and_eq_true, beq_iff_eq] at hversion
    exact ⟨h.group hsame, hversion.2⟩
  rintro (⟨hid, hdisagree⟩ | ⟨hid, path, hpath, hpath'⟩ | hclient | ⟨hne, hlocation⟩)
  · exact hdisagree (h.file (hid ▸ sameFile_self _)).2
  · obtain ⟨role, hrole⟩ := exists_of_mem_ownFiles hpath
    obtain ⟨role', hrole'⟩ := exists_of_mem_ownFiles hpath'
    obtain ⟨hsame, hstems⟩ := sameDirectory_of_file ha hb ha.stem_ne_empty hb.stem_ne_empty
      ha.isSmall_stem hb.isSmall_stem (hrole.symm.trans hrole')
    obtain ⟨hgroup, hversion⟩ := hidentity hsame
    have hkind := (h.file (sameFile_iff.mpr ⟨hgroup, hversion, hstems⟩)).1
    exact hid (identity_ext hgroup hversion hkind)
  · rcases hclient with hclient | hclient
    · exact hstem (stem_eq_client ha hb hclient)
    · exact hstem' (stem_eq_client hb ha hclient)
  · obtain ⟨hgroup, hversion⟩ := hidentity ((groupVersionDir_inj ha hb).mp hlocation)
    exact hne.elim (fun hne => hne hgroup) fun hne => hne hversion

end Valid

/-! ### What is reported -/

def IsReported (found : List Issue) (index : Nat) : Prop :=
  ∃ issue ∈ found, issue.location = .resource index ∧
    (issue.problem.category = .identityConflict ∨ issue.problem.category = .pathCollision)

lemma clash?_category {c : Category} (h : clash? specs s = some c) :
    c = .identityConflict ∨ c = .pathCollision := by
  rw [clash?] at h
  split at h
  · exact Or.inr (Option.some.inj h).symm
  split at h
  · exact Or.inr (Option.some.inj h).symm
  split at h
  · cases h
  split at h
  · exact Or.inr (Option.some.inj h).symm
  split at h
  · cases h
  · exact Or.inl (Option.some.inj h).symm

lemma isReported_iff_mem {found : List Issue} {i : Nat} : IsReported found i ↔
    ∃ c, (Location.resource i, c) ∈ found.map verdict ∧
      (c = .identityConflict ∨ c = .pathCollision) := by
  constructor
  · rintro ⟨issue, hissue, hlocation, hcategory⟩
    exact ⟨_, List.mem_map.mpr ⟨issue, hissue, Prod.ext hlocation rfl⟩, hcategory⟩
  · rintro ⟨c, hmem, hcategory⟩
    obtain ⟨issue, hissue, hverdict⟩ := List.mem_map.mp hmem
    obtain ⟨hlocation, rfl⟩ := Prod.mk.inj hverdict
    exact ⟨issue, hissue, hlocation, hcategory⟩

lemma mem_clashes_iff {i : Nat} (hi : i < specs.length) {c : Category} :
    (Location.resource i, c) ∈ clashes specs ↔ clash? specs specs[i] = some c := by
  rw [clashes, List.mem_filterMap]
  constructor
  · rintro ⟨⟨s, k⟩, hs, hc⟩
    obtain ⟨c', hc', hverdict⟩ := Option.map_eq_some_iff.mp hc
    obtain ⟨hk, rfl⟩ := Prod.mk.inj hverdict
    obtain rfl : k = i := Location.resource.inj hk
    rw [List.mem_zipIdx_iff_getElem?, List.getElem?_eq_getElem hi, Option.some.injEq] at hs
    rwa [hs]
  · intro hc
    refine ⟨(specs[i], i), ?_, by rw [hc]; rfl⟩
    exact List.mem_zipIdx_iff_getElem?.mpr (List.getElem?_eq_getElem hi)

lemma mem_reports_iff {i : Nat} (hi : i < specs.length) :
    (∃ c, (Location.resource i, c) ∈ reports specs ∧
      (c = .identityConflict ∨ c = .pathCollision)) ↔
      issues specs = [] ∧ clash? specs specs[i] ≠ none := by
  by_cases hissues : issues specs = []
  · simp only [reports, if_pos hissues, mem_clashes_iff hi]
    constructor
    · rintro ⟨c, hc, -⟩
      exact ⟨hissues, by simp [hc]⟩
    · rintro ⟨-, h⟩
      obtain ⟨c, hc⟩ := Option.ne_none_iff_exists'.mp h
      exact ⟨c, hc, clash?_category hc⟩
  · refine ⟨?_, fun h => absurd h.1 hissues⟩
    rintro ⟨c, hc, hcategory⟩
    -- with an issue of a field, only issues of fields are reported
    rw [reports, if_neg hissues] at hc
    obtain ⟨issue, hissue, hverdict⟩ := List.mem_map.mp hc
    obtain ⟨-, rfl⟩ := Prod.mk.inj hverdict
    rcases isOfField_of_mem_issues hissue with h | h <;> simp [h] at hcategory

/-- A spec is reported just when no field of the list has an issue and something is wrong with the
spec as it stands in the list. -/
lemma isReported_iff {i : Nat} (hi : i < specs.length) :
    (∃ found, (build layout specs).result = .error (.invalidSpec found) ∧ IsReported found i) ↔
      issues specs = [] ∧ clash? specs specs[i] ≠ none := by
  have hmem := mem_reports_iff hi
  rcases build_cases layout specs with ⟨hnone, t, ht⟩ | ⟨-, found, hfound, hreports⟩
  · refine ⟨fun ⟨found, hfound, _⟩ => ?_, fun h => ?_⟩
    · rw [ht] at hfound
      cases hfound
    · obtain ⟨c, hc, -⟩ := hmem.mpr h
      rw [hnone] at hc
      cases hc
  · rw [← hmem, ← hreports, ← isReported_iff_mem]
    refine ⟨fun ⟨found', hfound', h⟩ => ?_, fun h => ⟨found, hfound, h⟩⟩
    rw [hfound] at hfound'
    cases hfound'
    exact h

lemma clash?_eq_none_iff_agree (hs : s ∈ specs) : clash? specs s = none ↔
    ∃ first, Registers specs first ∧ first.identity = s.identity ∧ Agree first s := by
  constructor
  · intro h
    obtain ⟨first, hfirst, hid⟩ := registers_of_clash?_eq_none hs h
    exact ⟨first, hfirst, hid, ((clash?_eq_none_iff.mp h).2.2 first (hid ▸ hfirst.file)).2⟩
  · rintro ⟨first, hfirst, hid, hagree⟩
    refine clash?_eq_none_iff.mpr ⟨fun o ho => ?_, hid ▸ hfirst.stem_ne, fun o ho => ?_⟩
    · obtain ⟨o', ho', hgroup⟩ := hfirst.directory
      rw [hid] at ho' hgroup
      cases ho'.symm.trans ho
      exact hgroup
    · have hfile := hfirst.file
      rw [hid] at hfile
      cases hfile.symm.trans ho
      exact ⟨by rw [hid], hagree⟩

/-- **Two specs that clash.** The later one is reported just when no field of the list has an issue
and it does not agree with the spec by which its resource is registered. If no field has an issue,
then one of the two is reported. -/
theorem build_reports_later (layout : Layout) (specs : List Resource) (i j : Nat) (hij : i < j)
    (hj : j < specs.length) (hclash : Clash layout specs[i] specs[j]) :
    ((∃ found, (build layout specs).result = .error (.invalidSpec found) ∧ IsReported found j) ↔
      issues specs = [] ∧ ¬ ∃ first, Registers specs first ∧ first.identity = specs[j].identity ∧
        Agree first specs[j]) ∧
    (issues specs = [] → ∃ found, (build layout specs).result = .error (.invalidSpec found) ∧
      (IsReported found i ∨ IsReported found j)) := by
  refine ⟨?_, fun hissues => ?_⟩
  · rw [isReported_iff hj, ne_eq, clash?_eq_none_iff_agree (List.getElem_mem hj)]
  by_cases hlater : clash? specs specs[j] = none
  · have hvalid := isValid_of_issues hissues
    have hi : specs[i] ∈ specs := List.getElem_mem _
    -- if neither had a clash with the list, they could stand together
    have hearlier : clash? specs specs[i] ≠ none := fun h =>
      (compatible_of_clash? hi h hlater).not_clash (hvalid _ hi).identity
        (hvalid _ (List.getElem_mem _)).identity (clash?_eq_none_iff.mp h).2.1
        (clash?_eq_none_iff.mp hlater).2.1 hclash
    obtain ⟨found, hfound, hreported⟩ := (isReported_iff (hij.trans hj)).mpr ⟨hissues, hearlier⟩
    exact ⟨found, hfound, Or.inl hreported⟩
  · obtain ⟨found, hfound, hreported⟩ := (isReported_iff hj).mpr ⟨hissues, hlater⟩
    exact ⟨found, hfound, Or.inr hreported⟩

/-- Three specs of one resource, of which the first and the last agree. -/
def repeatedPods : List Resource :=
  [.plain "core" "v1" "Pod" "pods", .plain "core" "v1" "Pod" "podlets",
    .plain "core" "v1" "Pod" "pods"]

/-- Two specs that clash, and a third one without a kind. -/
def kindlessThird : List Resource :=
  [.plain "core" "v1" "Pod" "pods", .plain "core" "v1" "Pod" "podlets",
    .plain "apps" "v1" "" "deployments"]

/-- Of the first two specs the later one is reported. -/
theorem repeatedPods_report : Clash {} repeatedPods[0] repeatedPods[1] ∧
    ∃ found, (build {} repeatedPods).result = .error (.invalidSpec found) ∧
      IsReported found 1 := by
  have hclash : Clash {} repeatedPods[0] repeatedPods[1] := .redeclared rfl (by decide +kernel)
  have hdisagrees : clash? repeatedPods repeatedPods[1] ≠ none := by decide +kernel
  rw [ne_eq, clash?_eq_none_iff_agree (List.getElem_mem _)] at hdisagrees
  exact ⟨hclash, (build_reports_later {} repeatedPods 0 1 (by decide) (by decide) hclash).1.mpr
    ⟨by decide +kernel, hdisagrees⟩⟩

/-- A check of the issues for which a list of specs is refused. -/
def refusedWith (check : List Issue → Bool) : Except Failure Tree → Bool
  | .error (.invalidSpec found) => check found
  | _ => false

lemma exists_of_refusedWith {check : List Issue → Bool} {result : Except Failure Tree}
    (h : refusedWith check result = true) :
    ∃ found, result = .error (.invalidSpec found) ∧ check found = true := by
  unfold refusedWith at h
  split at h
  · next found => exact ⟨found, rfl, h⟩
  · cases h

instance (found : List Issue) (index : Nat) : Decidable (IsReported found index) :=
  inferInstanceAs (Decidable (∃ issue ∈ found, _))

/-- The last spec of the first list is not reported, nor is the second one of the other list, and
each of them clashes with the one before it. -/
theorem later_unreported :
    (Clash {} repeatedPods[1] repeatedPods[2] ∧ issues repeatedPods = [] ∧
      ∃ found, (build {} repeatedPods).result = .error (.invalidSpec found) ∧
        ¬ IsReported found 2) ∧
    (Clash {} kindlessThird[0] kindlessThird[1] ∧ issues (kindlessThird.take 2) = [] ∧
      ∃ found, (build {} kindlessThird).result = .error (.invalidSpec found) ∧
        ¬ IsReported found 1) := by
  have hrepeated : refusedWith (fun found => decide (¬ IsReported found 2))
      (build {} repeatedPods).result = true := by decide +kernel
  have hkindless : refusedWith (fun found => decide (¬ IsReported found 1))
      (build {} kindlessThird).result = true := by decide +kernel
  obtain ⟨found, hfound, hno⟩ := exists_of_refusedWith hrepeated
  obtain ⟨found', hfound', hno'⟩ := exists_of_refusedWith hkindless
  exact ⟨⟨.redeclared rfl (by decide +kernel), by decide +kernel, found, hfound,
      of_decide_eq_true hno⟩, .redeclared rfl (by decide +kernel), by decide +kernel, found',
    hfound', of_decide_eq_true hno'⟩

end ClientGen.Tree
