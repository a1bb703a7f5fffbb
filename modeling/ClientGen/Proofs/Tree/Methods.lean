import ClientGen.Proofs.Naming.Spelling
import ClientGen.Proofs.Tree.Acceptance
import ClientGen.Proofs.Tree.Description
import ClientGen.Proofs.Tree.Lookups

/-!
The methods of clients. The client of a group-version has a method for each of its resources, and
that of a resource one for each resource that it owns, named after the plurals; both have some more
methods of fixed names. Registration compares kinds and no plurals. So it depends on how the plurals
are spelled, and for owned resources also on what stands before them, whether each method of a
client has a name of its own.
-/

namespace ClientGen.Tree

open Spec

variable {layout : Layout} {specs : List Resource} {owner : Identity}

def Branch.methods (b : Branch) : List String := "new" :: b.entries.map (·.names.pluralSnake)

/-- The methods that the client of a resource has whatever the resource owns. -/
def ClientPart.fixedMethods (c : ClientPart) : List String :=
  if c.namespaced then ["new", "reader", "reader_all"] else ["new", "reader"]

def ClientPart.methods (c : ClientPart) : List String :=
  c.fixedMethods ++ c.children.map Child.accessor

/-- The plurals of some resources, by their first specs. -/
def pluralsOf (specs : List Resource) (ids : List Identity) : List String :=
  (firstsOf specs ids).map Resource.plural

/-- Plurals that give the fixed methods of the client of a resource. -/
def fixedWords (namespaced : Bool) : List String :=
  if namespaced then ["new", "reader", "readerAll"] else ["new", "reader"]

def methodOf (owner : Identity) (c : Resource) : String :=
  qualifier owner c.identity ++ Naming.snake c.plural

/-- The plural of `b` begins with what the qualifier of `a` has more than that of `b`, and goes on
as that of `a`. -/
def Hides (owner : Identity) (a b : Resource) : Prop :=
  ∃ more, qualifier owner a.identity = qualifier owner b.identity ++ more ∧
    Naming.snake b.plural = more ++ Naming.snake a.plural

/-- What the methods of the client of a resource with these owned ones are, and when each has a name
of its own. -/
structure ClientPart.MethodsFrom (owner : Identity) (owned : List Resource) (c : ClientPart) :
    Prop where
  keys : (c.children.map Child.key).Nodup
  accessors : c.children.map Child.accessor = owned.map (methodOf owner)
  nodup_iff : c.methods.Nodup ↔
    (owned.Pairwise fun a b => ¬ (Hides owner a b ∨ Hides owner b a)) ∧
      ∀ a ∈ owned, a.identity.groupVersion = owner.groupVersion →
        ∀ w ∈ fixedWords c.namespaced, ¬ Naming.SpelledAlike a.plural w
  of_groupVersion : ∀ a ∈ owned, ∀ b ∈ owned,
    a.identity.groupVersion = b.identity.groupVersion →
      (methodOf owner a = methodOf owner b ↔ Naming.SpelledAlike a.plural b.plural)
  of_plural : ∀ a ∈ owned, ∀ b ∈ owned, Naming.SpelledAlike a.plural b.plural →
    (methodOf owner a = methodOf owner b ↔ a.identity.groupVersion = b.identity.groupVersion)

/-! ### Plurals -/

lemma nodup_snake_iff {ws : List String}
    (h : ∀ w ∈ ws, w ≠ "" ∧ ∀ c ∈ w.toList, c.isAlphanum = true) :
    (ws.map Naming.snake).Nodup ↔ ws.Pairwise fun v w => ¬ Naming.SpelledAlike v w := by
  rw [List.Nodup, List.pairwise_map]
  exact List.Pairwise.iff_of_mem fun hv hw => not_congr (Naming.snake_eq_iff (h _ hv) (h _ hw))

lemma isIdentifier_fixedWords {namespaced : Bool} :
    ∀ w ∈ fixedWords namespaced, isIdentifier w = true := by
  cases namespaced <;> decide

lemma fixedMethods_eq (c : ClientPart) :
    c.fixedMethods = (fixedWords c.namespaced).map Naming.snake := by
  rw [ClientPart.fixedMethods, fixedWords]
  cases c.namespaced <;> decide

/-! ### Owned resources -/

lemma methodOf_eq_iff {a b : Resource} :
    methodOf owner a = methodOf owner b ↔ Hides owner a b ∨ Hides owner b a :=
  append_eq_append_iff.trans or_comm

/-- In one group-version it is the plurals alone that count. -/
lemma methodOf_eq_iff_spelledAlike {a b : Resource} (ha : a.IsClean) (hb : b.IsClean)
    (h : a.identity.groupVersion = b.identity.groupVersion) :
    methodOf owner a = methodOf owner b ↔ Naming.SpelledAlike a.plural b.plural := by
  obtain ⟨hg, hv⟩ := (ha.isValid.identity.groupVersion_inj hb.isValid.identity).mp h
  rw [methodOf, methodOf, qualifier_congr owner hg hv, String.append_right_inj,
    Naming.snake_eq_iff ha.isAlphanum_plural hb.isAlphanum_plural]

lemma qualifier_inj {a b : Resource} (hclashes : clashes specs = [])
    (hvalid : ∀ s ∈ specs, s.IsValid) (ha : a ∈ specs) (hb : b ∈ specs)
    (h : qualifier owner a.identity = qualifier owner b.identity) :
    a.identity.groupVersion = b.identity.groupVersion := by
  obtain ⟨o, ho, hoa⟩ := registers_of_clashes hclashes ha
  obtain ⟨o', ho', hob⟩ := registers_of_clashes hclashes hb
  rw [← hoa, ← hob] at h ⊢
  obtain ⟨hg, hv⟩ := eq_groupVersion_of_qualifier ho ho' hvalid h
  rw [Identity.groupVersion, Identity.groupVersion, hg, hv]

/-- The method for a resource of another group-version has two underscores at least, and no fixed
method has. -/
lemma methodOf_not_mem_fixedMethods {a : Resource}
    (h : owner.groupVersion ≠ a.identity.groupVersion) (c : ClientPart) :
    methodOf owner a ∉ c.fixedMethods := by
  have htwo : 2 ≤ (methodOf owner a).toList.count '_' := by
    have hcount : "_".toList.count '_' = 1 := by decide
    rw [methodOf, qualifier, if_neg h, Naming.groupVersionAlias]
    simp only [String.toList_append, List.count_append, hcount]
    omega
  have hone : ∀ m ∈ c.fixedMethods, m.toList.count '_' ≤ 1 := by
    rw [ClientPart.fixedMethods]
    cases c.namespaced <;> decide
  intro hmem
  exact absurd (hone _ hmem) (by omega)

lemma methodOf_mem_fixedMethods_iff {a : Resource} (ha : a.IsClean) (c : ClientPart) :
    methodOf owner a ∈ c.fixedMethods ↔ a.identity.groupVersion = owner.groupVersion ∧
      ∃ w ∈ fixedWords c.namespaced, Naming.SpelledAlike a.plural w := by
  by_cases h : owner.groupVersion = a.identity.groupVersion
  · have hmethod : methodOf owner a = Naming.snake a.plural := by
      rw [methodOf, qualifier, if_pos h, String.empty_append]
    rw [hmethod, fixedMethods_eq, List.mem_map, and_iff_right h.symm]
    refine exists_congr fun w => and_congr_right fun hw => ?_
    rw [eq_comm, Naming.snake_eq_iff ha.isAlphanum_plural
      (isAlphanum_of_mem_identifier (isIdentifier_fixedWords w hw))]
  · exact iff_of_false (methodOf_not_mem_fixedMethods h c) fun hgv => h hgv.1.symm

lemma nodup_fixedMethods (c : ClientPart) : c.fixedMethods.Nodup := by
  rw [ClientPart.fixedMethods]
  cases c.namespaced <;> decide

lemma methodsFrom_of_children {c : ClientPart} {owned : List Resource}
    (hclean : ∀ s ∈ specs, s.IsClean) (hclashes : clashes specs = [])
    (hmem : ∀ a ∈ owned, a ∈ specs)
    (hkeys : (c.children.map Child.key).Nodup)
    (haccessors : c.children.map Child.accessor = owned.map (methodOf owner)) :
    c.MethodsFrom owner owned where
  keys := hkeys
  accessors := haccessors
  nodup_iff := by
    rw [ClientPart.methods, haccessors, List.nodup_append', and_iff_right (nodup_fixedMethods c)]
    refine and_congr ?_ ?_
    · rw [List.Nodup, List.pairwise_map]
      exact List.Pairwise.iff fun a b => not_congr methodOf_eq_iff
    · rw [List.disjoint_right, List.forall_mem_map]
      refine forall₂_congr fun a ha => ?_
      rw [methodOf_mem_fixedMethods_iff (hclean a (hmem a ha)), not_and, not_exists]
      exact imp_congr_right fun _ => forall_congr' fun w => not_and
  of_groupVersion a ha b hb h :=
    methodOf_eq_iff_spelledAlike (hclean a (hmem a ha)) (hclean b (hmem b hb)) h
  of_plural a ha b hb hplural := by
    have hca := hclean a (hmem a ha)
    have hcb := hclean b (hmem b hb)
    refine ⟨fun h => ?_, fun h => (methodOf_eq_iff_spelledAlike hca hcb h).mpr hplural⟩
    rw [← Naming.snake_eq_iff hca.isAlphanum_plural hcb.isAlphanum_plural] at hplural
    rw [methodOf, methodOf, hplural, String.append_left_inj] at h
    exact qualifier_inj hclashes (fun s hs => (hclean s hs).isValid) (hmem a ha) (hmem b hb) h

/-! ### The clients of a described tree -/

lemma toChild_accessor (layout : Layout) (o c : Resource) :
    (linkOf layout o c).toChild.accessor = methodOf o.identity c := by
  simp only [Link.toChild, Child.of, linkOf, accessorName_eq, methodOf]
  rfl

lemma mem_entries_treeOf {e : Entry} (he : e ∈ (treeOf layout specs).entries) :
    ∃ o, e = linkedOf layout specs o := by
  obtain ⟨b, hb, he⟩ := mem_entries.mp he
  obtain ⟨gv, -, rfl⟩ := List.mem_map.mp hb
  obtain ⟨o, -, rfl⟩ := List.mem_map.mp he
  exact ⟨o, rfl⟩

lemma branchOf_methods (layout : Layout) (specs : List Resource) (gv : String × String) :
    (branchOf layout specs gv).methods =
      ("new" :: pluralsOf specs (resourcesOf specs gv)).map Naming.snake := by
  have hnew : Naming.snake "new" = "new" := by decide
  have hplural : (fun e : Entry => e.names.pluralSnake) ∘ linkedOf layout specs =
      Naming.snake ∘ Resource.plural := rfl
  rw [Branch.methods, branchOf, List.map_cons, hnew, pluralsOf, List.map_map, List.map_map, hplural]

/-- **Methods of a group-version.** The client of a group-version has, behind `new`, the plurals of
its resources in snake case for methods. Each has a name of its own just if no two of the plurals
are spelled alike, and none is spelled like `new`. -/
theorem build_branch_methods (layout : Layout) (specs : List Resource) (t : Tree)
    (h : (build layout specs).result = .ok t) : ∀ b ∈ t.branches,
      b.methods = "new" ::
        (pluralsOf specs (resourcesOf specs (b.group, b.version))).map Naming.snake ∧
      (b.methods.Nodup ↔ ("new" :: pluralsOf specs (resourcesOf specs (b.group, b.version))).Pairwise
        fun v w => ¬ Naming.SpelledAlike v w) := by
  obtain ⟨hclean, -⟩ := build_ok_iff.mp ⟨t, h⟩
  obtain rfl := build_eq_treeOf h
  intro b hb
  obtain ⟨gv, -, rfl⟩ := List.mem_map.mp hb
  have hwords : ∀ w ∈ "new" :: pluralsOf specs (resourcesOf specs gv),
      w ≠ "" ∧ ∀ c ∈ w.toList, c.isAlphanum = true := by
    rw [List.forall_mem_cons, pluralsOf, List.forall_mem_map]
    exact ⟨isAlphanum_of_mem_identifier (by decide), fun o ho =>
      (hclean o (mem_of_mem_firstsOf ho)).isAlphanum_plural⟩
  have hmethods := branchOf_methods layout specs gv
  refine ⟨hmethods, ?_⟩
  rw [hmethods]
  exact nodup_snake_iff hwords

/-- Plurals with the same letters, one of two parts and one of one. -/
def spelledApart : List Resource :=
  [.plain "apps" "v1" "ReplicaSet" "replicaSets", .plain "apps" "v1" "LegacySet" "replicasets"]

/-- Plurals that are not spelled alike give two methods. -/
theorem spelledApart_methods : ∃ t, (build {} spelledApart).result = .ok t ∧
    t.branches.map Branch.methods = [["new", "replicasets", "replica_sets"]] ∧
    ∀ b ∈ t.branches, b.methods.Nodup ↔
      ("new" :: pluralsOf spelledApart (resourcesOf spelledApart (b.group, b.version))).Pairwise
        fun v w => ¬ Naming.SpelledAlike v w := by
  obtain ⟨t, ht, hmethods⟩ := exists_of_any spelledApart
    (fun t => t.branches.map Branch.methods = [["new", "replicasets", "replica_sets"]])
    (by decide +kernel)
  exact ⟨t, ht, of_decide_eq_true hmethods, fun b hb =>
    (build_branch_methods {} spelledApart t ht b hb).2⟩

/-- Two kinds of a group-version with one plural. -/
def sharedPlural : List Resource :=
  [.plain "core" "v1" "Pod" "items", .plain "core" "v1" "Node" "items"]

/-- Two resources of a group-version can share a method of its client. -/
theorem sharedPlural_share_method : ∃ t, (build {} sharedPlural).result = .ok t ∧
    ∃ b ∈ t.branches, b.methods = ["new", "items", "items"] ∧ ¬ b.methods.Nodup := by
  obtain ⟨t, ht, hmethods⟩ := exists_of_any sharedPlural
    (fun t => ∃ b ∈ t.branches, b.methods = ["new", "items", "items"]) (by decide +kernel)
  obtain ⟨b, hb, heq⟩ := of_decide_eq_true hmethods
  exact ⟨t, ht, b, hb, heq, by rw [heq]; decide⟩

/-- **Methods of a resource.** The client of a resource has, behind `new` and the methods for its
reader, a method for each resource that it owns. Each has a name of its own just if no plural of an
owned resource begins with what stands before that of another one and goes on like it, and none of
the resource's own group-version is spelled like a fixed method. Owned resources of one
group-version share a method just if their plurals are spelled alike, and those with plurals that
are spelled alike just if they are of one group-version. -/
theorem build_client_methods (layout : Layout) (specs : List Resource) (t : Tree)
    (h : (build layout specs).result = .ok t) :
    ∀ e ∈ t.entries, e.client.MethodsFrom e.key (firstsOf specs (ownedIn specs e.key)) := by
  obtain ⟨hclean, -⟩ := build_ok_iff.mp ⟨t, h⟩
  obtain ⟨t₀, links, m, -⟩ := build_isBuilt h
  obtain rfl := build_eq_treeOf h
  intro e he
  obtain ⟨o, rfl⟩ := mem_entries_treeOf he
  have haccessor : (Child.accessor ∘ fun c => (linkOf layout o c).toChild) = methodOf o.identity :=
    funext fun c => toChild_accessor layout o c
  refine methodsFrom_of_children hclean m.clashes (fun a => mem_of_mem_firstsOf) ?_ ?_
  · rw [linkedOf_children_key]
    exact nodup_ownedIn specs o.identity
  · rw [linkedOf_client, List.map_map, haccessor, linkedOf_key]

/-- The methods of resources that own each other. -/
theorem mutualOwners_client_methods : ∃ t, (build {} mutualOwners).result = .ok t ∧
    t.entries.map (fun e => e.client.methods) =
      [["new", "reader", "reader_all", "replicasets"],
        ["new", "reader", "reader_all", "deployments", "replicasets"]] ∧
    ∀ e ∈ t.entries,
      e.client.MethodsFrom e.key (firstsOf mutualOwners (ownedIn mutualOwners e.key)) := by
  obtain ⟨t, ht, hmethods⟩ := exists_of_any mutualOwners
    (fun t => t.entries.map (fun e => e.client.methods) =
      [["new", "reader", "reader_all", "replicasets"],
        ["new", "reader", "reader_all", "deployments", "replicasets"]]) (by decide +kernel)
  exact ⟨t, ht, of_decide_eq_true hmethods, build_client_methods {} mutualOwners t ht⟩

/-- A deployment that owns pods of another group-version, and a resource of its own one with a
plural that begins with the short name of the other. -/
def hidingPlurals : List Resource :=
  let pod : Identity := ⟨"core", "v1", "Pod"⟩
  let widget : Identity := ⟨"apps", "v1", "Widget"⟩
  [.plain "core" "v1" "Pod" "pods", .plain "apps" "v1" "Widget" "coreV1Pods",
    { Resource.plain "apps" "v1" "Deployment" "deployments" with
      references := [⟨pod, none⟩, ⟨widget, none⟩] }]

/-- Two owned resources can share a method of their owner's client. -/
theorem hidingPlurals_share_method : ∃ t, (build {} hidingPlurals).result = .ok t ∧
    ∃ e ∈ t.entries, e.client.methods =
      ["new", "reader", "reader_all", "core_v1_pods", "core_v1_pods"] ∧
      ¬ e.client.methods.Nodup := by
  obtain ⟨t, ht, hmethods⟩ := exists_of_any hidingPlurals
    (fun t => ∃ e ∈ t.entries, e.client.methods =
      ["new", "reader", "reader_all", "core_v1_pods", "core_v1_pods"]) (by decide +kernel)
  obtain ⟨e, he, heq⟩ := of_decide_eq_true hmethods
  exact ⟨t, ht, e, he, heq, by rw [heq]; decide⟩

end ClientGen.Tree
