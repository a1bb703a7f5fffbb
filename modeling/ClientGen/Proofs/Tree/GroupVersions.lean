import ClientGen.Proofs.Tree.Lookups

/-!
Group-versions of a built tree are kept apart by each of their names. Registration compares
directories only; the short name and the module of a group-version are other texts, made from the
same segment and version, and each of them gives both back. Many groups have one segment, so this is
not true of group-versions at large, but two of one tree never have one directory.

The kinds of one group-version are kept apart by their lower case, and so by their snake case, which
puts underscores into the lower case and does nothing else.
-/

namespace ClientGen.Tree

open Spec

variable {layout : Layout} {specs : List Resource} {t : Tree} {links : List Link}

def methods (t : Tree) : List String := "new" :: t.branches.map Branch.shortName

lemma Branch.IsFrame.shortName {b : Branch} (h : b.IsFrame layout) :
    b.shortName = Naming.groupVersionAlias b.group b.version := by
  simpa only [Branch.empty] using congrArg Branch.shortName h

lemma Branch.IsFrame.segment {b : Branch} (h : b.IsFrame layout) :
    b.segment = Naming.groupSegment b.group := by
  simpa only [Branch.empty] using congrArg Branch.segment h

lemma Branch.IsFrame.clientType {b : Branch} (h : b.IsFrame layout) : b.clientType =
    Naming.pascal (Naming.groupSegment b.group) ++ Naming.pascal b.version ++ "Client" := by
  simpa only [Branch.empty] using congrArg Branch.clientType h

/-- A short name holds an underscore, and the name of the constructor holds none. -/
lemma groupVersionAlias_ne_new (g v : String) : Naming.groupVersionAlias g v ≠ "new" := by
  intro h
  have hmem : '_' ∈ (Naming.groupVersionAlias g v).toList := by
    simp [Naming.groupVersionAlias]
  rw [h] at hmem
  exact absurd hmem (by decide)

lemma colon_not_mem_version {id : Identity} (h : id.IsValid) : ':' ∉ id.version.toList :=
  fun hc => absurd ((isSmall_of_mem_version h.version).2 _ hc) (by decide)

/-- A text of group and version that gives back the directory of a valid resource. -/
def TellsDirectory (text : String → String → String) : Prop :=
  ∀ id id' : Identity, id.IsValid → id'.IsValid →
    text id.group id.version = text id'.group id'.version → sameDirectory id id' = true

lemma tellsDirectory_alias : TellsDirectory Naming.groupVersionAlias := by
  intro id id' hid hid' heq
  obtain ⟨hsegment, hversion⟩ := Naming.groupVersionAlias_inj (underscore_not_mem_version hid)
    (underscore_not_mem_version hid') heq
  simp [sameDirectory, hsegment, hversion]

lemma tellsDirectory_module (root : String) :
    TellsDirectory (Naming.groupVersionModule root) := by
  intro id id' hid hid' heq
  obtain ⟨hsegment, hversion⟩ := Naming.groupVersionModule_inj
    (Naming.groupSegment_ne_empty hid.group) (Naming.groupSegment_ne_empty hid'.group)
    ⟨(isSmall_of_mem_version hid.version).1, colon_not_mem_version hid⟩
    ⟨(isSmall_of_mem_version hid'.version).1, colon_not_mem_version hid'⟩ heq
  simp [sameDirectory, hsegment, hversion]

lemma tellsDirectory_dir (root : String) : TellsDirectory (Naming.groupVersionDir root) :=
  fun _ _ hid hid' => (groupVersionDir_inj hid hid').mp

lemma IsUnlinked.nodup_map (u : IsUnlinked layout specs t) (hvalid : ∀ s ∈ specs, s.IsValid)
    {name : Branch → String} {text : String → String → String} (htells : TellsDirectory text)
    (hname : ∀ b ∈ (t.withLinks links).branches, name b = text b.group b.version) :
    ((t.withLinks links).branches.map name).Nodup := by
  have hnodup := (u.keyed.mapped (keepsKeys_withLinks links)).sorted.nodup
  refine List.Nodup.map_on (fun b hb c hc heq => ?_) hnodup
  obtain ⟨o, ho, hgroup, hversion, -⟩ := u.owner_withLinks hb
  obtain ⟨o', ho', hgroup', hversion', -⟩ := u.owner_withLinks hc
  rw [hname b hb, hname c hc, ← hgroup, ← hversion, ← hgroup', ← hversion'] at heq
  have hsame := htells _ _ (hvalid o ho).identity (hvalid o' ho').identity heq
  rw [sameDirectory, hgroup, hversion, hgroup', hversion', Bool.and_eq_true, beq_iff_eq,
    beq_iff_eq] at hsame
  exact u.eq_of_dirs hb hc hsame.1 hsame.2

/-- **Group-versions apart.** Each method of the root client has a name of its own: a short name for
each group-version, and none of them is that of the constructor. The modules and the directories of
group-versions are all distinct as well. -/
theorem build_root_methods (layout : Layout) (specs : List Resource) (t : Tree)
    (h : (build layout specs).result = .ok t) :
    t.methods.Nodup ∧ (t.branches.map Branch.package).Nodup ∧
      (t.branches.map Branch.location).Nodup := by
  obtain ⟨t₀, links, m, rfl⟩ := build_isBuilt h
  have u := m.unlinked
  have hshort : ∀ b ∈ (t₀.withLinks links).branches,
      b.shortName = Naming.groupVersionAlias b.group b.version :=
    fun b hb => (u.frame_withLinks hb).shortName
  refine ⟨List.nodup_cons.mpr ⟨fun hnew => ?_, u.nodup_map m.valid tellsDirectory_alias hshort⟩,
    u.nodup_map m.valid (tellsDirectory_module _) fun b hb => (u.frame_withLinks hb).package,
    u.nodup_map m.valid (tellsDirectory_dir _) fun b hb => (u.frame_withLinks hb).location⟩
  obtain ⟨b, hb, hname⟩ := List.mem_map.mp hnew
  rw [hshort b hb] at hname
  exact groupVersionAlias_ne_new _ _ hname

/-- Groups that begin with others, and one with the name of the constructor. -/
def nestedGroups : List Resource :=
  [.plain "apps" "v1" "Deployment" "deployments", .plain "apps.v1" "v1" "Widget" "widgets",
    .plain "apps" "v1v1" "Gadget" "gadgets", .plain "new" "v1" "Pod" "pods"]

/-- The short names of such groups are distinct. -/
theorem nestedGroups_methods : ∃ t, (build {} nestedGroups).result = .ok t ∧
    t.methods = ["new", "apps_v1_v1", "apps_v1", "apps_v1v1", "new_v1"] ∧ t.methods.Nodup ∧
    (t.branches.map Branch.package).Nodup ∧ (t.branches.map Branch.location).Nodup := by
  obtain ⟨t, ht, hmethods⟩ := exists_of_any nestedGroups
    (fun t => t.methods = ["new", "apps_v1_v1", "apps_v1", "apps_v1v1", "new_v1"])
    (by decide +kernel)
  exact ⟨t, ht, of_decide_eq_true hmethods, build_root_methods {} nestedGroups t ht⟩

/-! ### Kinds of a group-version -/

lemma IsBuilt.nodup_snake {t₀ : Tree} (m : IsBuilt layout specs t₀ links) {b : Branch}
    (hb : b ∈ (t₀.withLinks links).branches) : (b.entries.map fun e => e.names.snake).Nodup := by
  have hsorted := (m.unlinked.keyed.mapped (keepsKeys_withLinks links)).entries_sorted b hb
  refine List.Nodup.map_on (fun e he e' he' hsnake => ?_) hsorted.nodup
  obtain ⟨o, ho, hg, hv, rfl⟩ := (m.unlinked.entry_withLinks hb).mp he
  obtain ⟨o', ho', hg', hv', rfl⟩ := (m.unlinked.entry_withLinks hb).mp he'
  have hqualifier := qualifier_congr o.identity (hg.trans hg'.symm) (hv.trans hv'.symm)
  rw [eq_of_qualifier_of_snake ho ho' m.valid hqualifier hsnake]

/-- **Snake case only separates.** The snake case of any text is small letters and digits with
single underscores between them. Without the underscores it is what the text has of ASCII letters
and digits, in lower case, and it is its own snake case. So kinds whose lower cases differ have
different snake cases, and no two kinds of a group-version in a built tree have the same. -/
theorem snake_only_separates :
    (∀ s : String, (∀ c ∈ (Naming.snake s).toList, Naming.isSegmentChar c = true) ∧
      ((Naming.snake s).toList.head? ≠ some '_' ∧ (Naming.snake s).toList.getLast? ≠ some '_' ∧
        ¬ ['_', '_'] <:+: (Naming.snake s).toList) ∧
      (Naming.snake s).toList.filter (· != '_') =
        (s.toList.filter Char.isAlphanum).map Char.toLower ∧
      Naming.snake (Naming.snake s) = Naming.snake s) ∧
    (∀ kind kind' : String, isIdentifier kind = true → isIdentifier kind' = true →
      Text.lower kind ≠ Text.lower kind' → Naming.snake kind ≠ Naming.snake kind') ∧
    ∀ layout specs t, (build layout specs).result = .ok t →
      ∀ b ∈ t.branches, (b.entries.map fun e => e.names.snake).Nodup := by
  refine ⟨fun s => ?_, fun kind kind' hkind hkind' hlower hsnake => ?_, fun layout specs t h => ?_⟩
  · exact ⟨fun c hc => Naming.isSegmentChar_of_mem_snake hc, Naming.snake_separated s,
      Naming.squeeze_snake s, Naming.snake_snake s⟩
  · exact hlower (Naming.stem_eq_of_snake_eq (isAlphanum_of_mem_identifier hkind).2
      (isAlphanum_of_mem_identifier hkind').2 hsnake)
  · obtain ⟨t₀, links, m, rfl⟩ := build_isBuilt h
    exact fun b hb => m.nodup_snake hb

def closeKinds : List Resource :=
  [.plain "apps" "v1" "APISet" "apiSets", .plain "apps" "v1" "ApiSets" "apiSetLists",
    .plain "apps" "v1" "A2PISet" "others"]

theorem closeKinds_separated : ∃ t, (build {} closeKinds).result = .ok t ∧
    t.branches.map (fun b => b.entries.map fun e => e.names.snake) =
      [["a2_pi_set", "api_set", "api_sets"]] ∧
    (∀ b ∈ t.branches, (b.entries.map fun e => e.names.snake).Nodup) ∧
    isIdentifier "APISet" = true ∧ isIdentifier "ApiSets" = true ∧
    Text.lower "APISet" ≠ Text.lower "ApiSets" ∧
      Naming.snake "APISet" ≠ Naming.snake "ApiSets" := by
  obtain ⟨-, hkinds, hbuilt⟩ := snake_only_separates
  obtain ⟨t, ht, hnames⟩ := exists_of_any closeKinds
    (fun t => t.branches.map (fun b => b.entries.map fun e => e.names.snake) =
      [["a2_pi_set", "api_set", "api_sets"]]) (by decide +kernel)
  have hfirst : isIdentifier "APISet" = true := by decide
  have hsecond : isIdentifier "ApiSets" = true := by decide
  have hlower : Text.lower "APISet" ≠ Text.lower "ApiSets" := by decide +kernel
  exact ⟨t, ht, of_decide_eq_true hnames, hbuilt {} closeKinds t ht, hfirst, hsecond, hlower,
    hkinds _ _ hfirst hsecond hlower⟩

end ClientGen.Tree
