import ClientGen.Proofs.Naming.Words
import ClientGen.Proofs.Tree.Built

/-!
The functions of a reference file. Their names end in the kind of the owner, and the short name of
its group-version stands before the kind if it is not the child's own. Nothing marks where one ends
and the other begins, so two owners share a function just when the kind of one begins with what the
qualifier of the other has more.
-/

namespace ClientGen.Tree

open Spec

variable {layout : Layout} {specs : List Resource}

/-- What stands before the kind of an owner in the name of a function, and before the plural of an
owned resource in the name of a method: the short name of the other group-version, if it is one. -/
def qualifier (child owner : Identity) : String :=
  if child.groupVersion = owner.groupVersion then ""
  else Naming.groupVersionAlias owner.group owner.version ++ "_"

/-- The kind of `o'` begins with what the qualifier of `o` has more than that of `o'`. -/
def Owner.Shadows (child : Identity) (o o' : Owner) : Prop :=
  ∃ more, more ≠ "" ∧ qualifier child o.key = qualifier child o'.key ++ more ∧
    o'.snake = more ++ o.snake

/-- Which functions of a reference file have one name. -/
structure ReferencePart.NamesOwners (child : Identity) (r : ReferencePart) : Prop where
  keys : (r.owners.map Owner.key).Nodup
  nodup_iff : (r.owners.map Owner.lookup).Nodup ↔
    ∀ o ∈ r.owners, ∀ o' ∈ r.owners, ¬ o.Shadows child o'
  of_kind : ∀ o ∈ r.owners, ∀ o' ∈ r.owners, o.key.kind = o'.key.kind →
    o.lookup = o'.lookup → o = o'
  of_groupVersion : ∀ o ∈ r.owners, ∀ o' ∈ r.owners, o.key.groupVersion = o'.key.groupVersion →
    o.lookup = o'.lookup → o = o'

lemma lookupName_eq (child owner : Entry) : lookupName child owner =
    child.names.pluralSnake ++ "_for_" ++ (qualifier child.key owner.key ++ owner.names.snake) := by
  rw [lookupName, qualifier]
  by_cases h : child.key.groupVersion = owner.key.groupVersion
  · simp [h]
  · simp [h, String.append_assoc]

lemma accessorName_eq (child owner : Entry) :
    accessorName child owner = qualifier owner.key child.key ++ child.names.pluralSnake := by
  rw [accessorName, qualifier]
  by_cases h : owner.key.groupVersion = child.key.groupVersion
  · simp [h]
  · have hne : child.key.groupVersion ≠ owner.key.groupVersion := fun he => h he.symm
    simp [h, hne]

lemma qualifier_congr (child : Identity) {a b : Identity} (hg : a.group = b.group)
    (hv : a.version = b.version) : qualifier child a = qualifier child b := by
  have hgv : a.groupVersion = b.groupVersion := by
    rw [Identity.groupVersion, Identity.groupVersion, hg, hv]
  rw [qualifier, qualifier, hgv, hg, hv]

lemma not_shadows_self (child : Identity) (o : Owner) : ¬ o.Shadows child o := by
  rintro ⟨more, hne, hq, -⟩
  exact hne (by simpa using hq.symm)

lemma append_eq_append_iff {a b c d : String} : a ++ b = c ++ d ↔
    (∃ more, c = a ++ more ∧ b = more ++ d) ∨ ∃ more, a = c ++ more ∧ d = more ++ b := by
  constructor
  · intro h
    have hl := congrArg String.toList h
    rw [String.toList_append, String.toList_append, List.append_eq_append_iff] at hl
    refine hl.imp ?_ ?_ <;>
    · rintro ⟨more, h₁, h₂⟩
      refine ⟨String.ofList more, String.toList_injective ?_, String.toList_injective ?_⟩
      · rw [String.toList_append, String.toList_ofList, h₁]
      · rw [String.toList_append, String.toList_ofList, h₂]
  · rintro (⟨more, rfl, rfl⟩ | ⟨more, rfl, rfl⟩)
    · rw [String.append_assoc]
    · rw [String.append_assoc]

/-! ### One function, one owner -/

lemma underscore_not_mem_version {id : Identity} (h : id.IsValid) : '_' ∉ id.version.toList :=
  fun hc => absurd ((isSmall_of_mem_version h.version).2 _ hc) (by decide)

/-- Resources that are registered and have one qualifier are of one group-version. -/
lemma eq_groupVersion_of_qualifier {child : Identity} {s s' : Resource} (hs : Registers specs s)
    (hs' : Registers specs s') (hvalid : ∀ o ∈ specs, o.IsValid)
    (h : qualifier child s.identity = qualifier child s'.identity) :
    s.identity.group = s'.identity.group ∧ s.identity.version = s'.identity.version := by
  have hv := (hvalid s hs.mem).identity
  have hv' := (hvalid s' hs'.mem).identity
  rw [qualifier, qualifier] at h
  split at h
  · next hc =>
    split at h
    · next hc' => exact (hv.groupVersion_inj hv').mp (hc.symm.trans hc')
    · exact absurd (congrArg String.toList h) (by simp)
  · split at h
    · exact absurd (congrArg String.toList h) (by simp)
    · obtain ⟨hseg, hver⟩ := Naming.groupVersionAlias_inj (underscore_not_mem_version hv)
        (underscore_not_mem_version hv') ((String.append_left_inj "_").mp h)
      have hsame : sameDirectory s.identity s'.identity = true := by
        simp [sameDirectory, hseg, hver]
      exact ⟨hs.directory.eq_group hs'.directory hsame, hver⟩

lemma eq_of_qualifier_of_snake {child : Identity} {s s' : Resource} (hs : Registers specs s)
    (hs' : Registers specs s') (hvalid : ∀ o ∈ specs, o.IsValid)
    (hq : qualifier child s.identity = qualifier child s'.identity)
    (hsnake : Naming.snake s.identity.kind = Naming.snake s'.identity.kind) : s = s' := by
  obtain ⟨hg, hv⟩ := eq_groupVersion_of_qualifier hs hs' hvalid hq
  have hstem := Naming.stem_eq_of_snake_eq
    (isAlphanum_of_mem_identifier (hvalid s hs.mem).identity.kind).2
    (isAlphanum_of_mem_identifier (hvalid s' hs'.mem).identity.kind).2 hsnake
  exact hs.eq_of_sameFile hs' (sameFile_iff.mpr ⟨hg, hv, hstem⟩)

/-- What the owners of a reference file are, in a tree that is built. -/
structure OwnersOf (specs : List Resource) (child : Entry) (owners : List Owner) : Prop where
  keys : (owners.map Owner.key).Nodup
  registered : ∀ o ∈ owners, ∃ s, Registers specs s ∧ o.key = s.identity ∧
    o.snake = Naming.snake s.identity.kind
  lookup : ∀ o ∈ owners,
    o.lookup = child.names.pluralSnake ++ "_for_" ++ (qualifier child.key o.key ++ o.snake)

section Owners

variable {child : Entry} {r : ReferencePart} (w : OwnersOf specs child r.owners)

include w

lemma OwnersOf.eq_of_key {o o' : Owner} (ho : o ∈ r.owners) (ho' : o' ∈ r.owners)
    (h : o.key = o'.key) : o = o' :=
  List.inj_on_of_nodup_map w.keys ho ho' h

lemma OwnersOf.lookup_eq_iff {o o' : Owner} (ho : o ∈ r.owners) (ho' : o' ∈ r.owners) :
    o.lookup = o'.lookup ↔
      qualifier child.key o.key ++ o.snake = qualifier child.key o'.key ++ o'.snake := by
  rw [w.lookup o ho, w.lookup o' ho', String.append_right_inj]

variable (hvalid : ∀ o ∈ specs, o.IsValid)

include hvalid

lemma OwnersOf.eq_of_qualifier {o o' : Owner} (ho : o ∈ r.owners) (ho' : o' ∈ r.owners)
    (hq : qualifier child.key o.key = qualifier child.key o'.key)
    (hl : o.lookup = o'.lookup) : o = o' := by
  rw [w.lookup_eq_iff ho ho', hq, String.append_right_inj] at hl
  obtain ⟨s, hs, hkey, hsnake⟩ := w.registered o ho
  obtain ⟨s', hs', hkey', hsnake'⟩ := w.registered o' ho'
  rw [hkey, hkey'] at hq
  obtain rfl := eq_of_qualifier_of_snake hs hs' hvalid hq (by rw [← hsnake, ← hsnake', hl])
  exact w.eq_of_key ho ho' (hkey.trans hkey'.symm)

lemma OwnersOf.lookup_eq_iff_shadows {o o' : Owner} (ho : o ∈ r.owners) (ho' : o' ∈ r.owners)
    (hne : o ≠ o') :
    o.lookup = o'.lookup ↔ o.Shadows child.key o' ∨ o'.Shadows child.key o := by
  constructor
  · intro hl
    have hq : qualifier child.key o.key ≠ qualifier child.key o'.key :=
      fun hq => hne (w.eq_of_qualifier hvalid ho ho' hq hl)
    rcases append_eq_append_iff.mp ((w.lookup_eq_iff ho ho').mp hl) with
      ⟨more, hmore, hsnake⟩ | ⟨more, hmore, hsnake⟩
    · refine Or.inr ⟨more, ?_, hmore, hsnake⟩
      rintro rfl
      exact hq (by rw [hmore, String.append_empty])
    · refine Or.inl ⟨more, ?_, hmore, hsnake⟩
      rintro rfl
      exact hq (by rw [hmore, String.append_empty])
  · rw [w.lookup_eq_iff ho ho', append_eq_append_iff]
    rintro (⟨more, -, h⟩ | ⟨more, -, h⟩)
    · exact Or.inr ⟨more, h⟩
    · exact Or.inl ⟨more, h⟩

lemma OwnersOf.namesOwners : r.NamesOwners child.key where
  keys := w.keys
  nodup_iff := by
    rw [List.nodup_map_iff_inj_on (List.Nodup.of_map _ w.keys)]
    constructor
    · intro h o ho o' ho' hs
      by_cases hne : o = o'
      · subst hne
        exact not_shadows_self child.key o hs
      · exact hne (h o ho o' ho' ((w.lookup_eq_iff_shadows hvalid ho ho' hne).mpr (Or.inl hs)))
    · intro h o ho o' ho' hl
      by_contra hne
      rcases (w.lookup_eq_iff_shadows hvalid ho ho' hne).mp hl with hs | hs
      · exact h o ho o' ho' hs
      · exact h o' ho' o ho hs
  of_kind := by
    intro o ho o' ho' hk hl
    obtain ⟨s, -, hkey, hsnake⟩ := w.registered o ho
    obtain ⟨s', -, hkey', hsnake'⟩ := w.registered o' ho'
    have hs : o.snake = o'.snake := by rw [hsnake, hsnake', ← hkey, ← hkey', hk]
    have hq := (w.lookup_eq_iff ho ho').mp hl
    rw [hs, String.append_left_inj] at hq
    exact w.eq_of_qualifier hvalid ho ho' hq hl
  of_groupVersion := by
    intro o ho o' ho' hgv hl
    obtain ⟨s, hs, hkey, -⟩ := w.registered o ho
    obtain ⟨s', hs', hkey', -⟩ := w.registered o' ho'
    rw [hkey, hkey', (hvalid s hs.mem).identity.groupVersion_inj (hvalid s' hs'.mem).identity]
      at hgv
    refine w.eq_of_qualifier hvalid ho ho' ?_ hl
    rw [hkey, hkey']
    exact qualifier_congr child.key hgv.1 hgv.2

end Owners

/-! ### Built trees -/

lemma ownersOf_withLinks {t : Tree} {links : List Link} (u : IsUnlinked layout specs t)
    (hlinks : ∀ l ∈ links, l.In t) (hpairs : (links.map Link.pair).Nodup) {e : Entry}
    (he : e ∈ (t.withLinks links).entries) {r : ReferencePart} (hr : e.reference? = some r) :
    OwnersOf specs e r.owners := by
  obtain ⟨b, hb, x, hx, rfl⟩ := mem_entries_mapEntries.mp he
  obtain ⟨-, rfl⟩ := withLinks_reference?_eq_some_iff.mp hr
  have howner : ∀ o ∈ (linksTo links x.key).map Link.toOwner,
      ∃ l : Link, l.In t ∧ l.child = x ∧ o = l.toOwner := by
    intro o ho
    obtain ⟨l, hl, rfl⟩ := List.mem_map.mp ho
    obtain ⟨hl, hkey⟩ := List.mem_filter.mp hl
    have hin := hlinks l hl
    obtain ⟨-, hchild⟩ :=
      u.keyed.eq_entry hin.branch hb hin.child hx (of_decide_eq_true hkey)
    exact ⟨l, hin, hchild, rfl⟩
  refine ⟨?_, ?_, ?_⟩
  · rw [List.map_map]
    change ((linksTo links x.key).map (·.owner.key)).Nodup
    rw [linksTo_owners]
    exact nodup_map_filter Prod.snd Prod.fst (fun _ _ hchild howner => Prod.ext howner hchild)
      hpairs x.key
  · intro o ho
    obtain ⟨l, hin, -, rfl⟩ := howner o ho
    obtain ⟨c, hc, hlc⟩ := mem_entries.mp hin.owner
    obtain ⟨s, hs, -, -, hle⟩ := (u.entry c hc l.owner).mp hlc
    exact ⟨s, hs, congrArg Entry.key hle, congrArg (·.names.snake) hle⟩
  · intro o ho
    obtain ⟨l, -, rfl, rfl⟩ := howner o ho
    exact lookupName_eq l.child l.owner

/-- **Functions of a reference file.** The owners of a resource are all different, and their
functions have different names unless the kind of one owner begins with what the qualifier of
another has more. Owners of one kind, or of one group-version, never share a function. -/
theorem build_namesOwners (layout : Layout) (specs : List Resource) (t : Tree)
    (h : (build layout specs).result = .ok t) :
    ∀ e ∈ t.entries, ∀ r, e.reference? = some r → r.NamesOwners e.key := by
  intro e he r hr
  obtain ⟨t₀, links, u, hvalid, hlinks, hpairs, rfl⟩ := build_withLinks h
  have hnodup : (links.map Link.pair).Nodup := hpairs ▸ nodup_declaredPairs specs
  exact (ownersOf_withLinks u hlinks hnodup he hr).namesOwners hvalid

/-- Two owners of one kind, in two versions of a group. -/
def versionedOwners : List Resource :=
  let replicaSet : Identity := ⟨"apps", "v1", "ReplicaSet"⟩
  [{ Resource.plain "apps" "v1" "Deployment" "deployments" with
      references := [⟨replicaSet, none⟩] },
    { Resource.plain "apps" "v1beta1" "Deployment" "deployments" with
      references := [⟨replicaSet, none⟩] },
    Resource.plain "apps" "v1" "ReplicaSet" "replicasets"]

/-- Two owners of a pod. One is of its group-version, and its kind begins with the short name of
the other one's group-version. -/
def shadowedOwners : List Resource :=
  let pod : Identity := ⟨"core", "v1", "Pod"⟩
  [Resource.plain "core" "v1" "Pod" "pods",
    { Resource.plain "apps" "v1" "Deployment" "deployments" with references := [⟨pod, none⟩] },
    { Resource.plain "core" "v1" "AppsV1Deployment" "deployments" with
      references := [⟨pod, none⟩] }]

/-- Owners of one kind in two versions of a group do not share a function. -/
theorem versionedOwners_namesOwners : ∃ t, (build {} versionedOwners).result = .ok t ∧
    ∀ e ∈ t.entries, ∀ r, e.reference? = some r → r.NamesOwners e.key := by
  obtain ⟨t, ht⟩ := exists_of_isOk versionedOwners (by decide +kernel)
  exact ⟨t, ht, build_namesOwners {} versionedOwners t ht⟩

/-- Two owners of one pod can share a function. -/
theorem shadowedOwners_share_lookup : ∃ t, (build {} shadowedOwners).result = .ok t ∧
    ∃ e ∈ t.entries, ∃ r, e.reference? = some r ∧ ¬ (r.owners.map Owner.lookup).Nodup := by
  obtain ⟨t, ht⟩ := exists_of_isOk shadowedOwners (by decide +kernel)
  have hshared : ((build {} shadowedOwners).result.toOption.any fun t => t.entries.any fun e =>
      e.reference?.any fun r => decide (¬ (r.owners.map Owner.lookup).Nodup)) = true := by
    decide +kernel
  rw [ht, Except.toOption, Option.any_some, List.any_eq_true] at hshared
  obtain ⟨e, he, hr⟩ := hshared
  obtain ⟨r, hr, hdup⟩ := (Option.any_eq_true _ _).mp hr
  exact ⟨t, ht, e, he, r, hr, of_decide_eq_true hdup⟩

end ClientGen.Tree
