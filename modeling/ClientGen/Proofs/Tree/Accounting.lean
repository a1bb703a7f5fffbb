import ClientGen.Proofs.Tree.Permutation

/-!
Every reference is accounted for. A reference to a resource that some spec is of is bound: its owner
has the resource among its own. Any other one is dropped, with its owner and its place, and a
warning is told for it; under strict checking the first of them is the failure.
-/

namespace ClientGen.Tree

open Spec

variable {layout : Layout} {specs : List Resource} {t : Tree}

/-- The place of a reference, by the place of its spec and its own place there. -/
def referencePlace (index sub : Nat) : String :=
  "resources[" ++ toString index ++ "].subResources[" ++ toString sub ++ "]"

/-- The references to resources that no spec is of: the owner, the resource and the place of each,
in the order of the specs and of their references. -/
def unresolved (specs : List Resource) : List (Identity × Identity × String) :=
  specs.zipIdx.flatMap fun s =>
    (s.1.references.zipIdx.filter fun r => ∀ o ∈ specs, o.identity ≠ r.1.identity).map fun r =>
      (s.1.identity, r.1.identity, referencePlace s.2 r.2)

def Dropped.told (d : Dropped) : Identity × Identity × String :=
  (d.owner, d.reference, d.location.label)

def Dropped.warning (d : Dropped) : Event := .dropped d.owner d.reference d.location

def warnings (events : List Event) : List Event := events.filter fun e => e.level = .warn

lemma warnings_append (es fs : List Event) : warnings (es ++ fs) = warnings es ++ warnings fs :=
  List.filter_append ..

/-! ### Places -/

lemma declarationsOf_eq (owner : Identity) (index sub : Nat) (refs : List Reference) :
    declarationsOf owner index sub refs =
      (refs.zipIdx sub).map fun r => ⟨owner, r.1.identity, .reference index r.2⟩ := by
  induction refs generalizing sub with
  | nil => rfl
  | cons r rs ih => rw [declarationsOf, ih, List.zipIdx_cons, List.map_cons]

lemma declarationsFrom_eq (index : Nat) (specs : List Resource) :
    declarationsFrom index specs = (specs.zipIdx index).flatMap fun s =>
      declarationsOf s.1.identity s.2 0 s.1.references := by
  induction specs generalizing index with
  | nil => rfl
  | cons s rest ih => rw [declarationsFrom, ih, List.zipIdx_cons, List.flatMap_cons]

lemma lostReferences_told (specs : List Resource) :
    (lostReferences specs).map Dropped.told = unresolved specs := by
  rw [lostReferences, declarations, declarationsFrom_eq, List.filter_flatMap, List.map_map,
    List.map_flatMap, unresolved]
  refine List.flatMap_congr fun s _ => ?_
  rw [declarationsOf_eq, List.filter_map, List.map_map]
  refine congrArg (List.map _) (List.filter_congr fun r _ => ?_)
  rw [Bool.eq_iff_iff]
  simp

/-! ### Warnings -/

lemma follow_warns (t : Tree) (d : Declaration) : ∃ ds,
    (t.follow d).result.dropped = t.dropped ++ ds ∧
      warnings (t.follow d).events = ds.map Dropped.warning := by
  unfold follow
  split
  · split
    · exact ⟨[], by simp, rfl⟩
    · split
      · exact ⟨[], by simp, rfl⟩
      · exact ⟨[], (List.append_nil _).symm, rfl⟩
  · exact ⟨[d.toDropped], rfl, rfl⟩

lemma followAll_warns (t : Tree) (ds : List Declaration) : ∃ lost,
    (t.followAll ds).result.dropped = t.dropped ++ lost ∧
      warnings (t.followAll ds).events = lost.map Dropped.warning := by
  induction ds generalizing t with
  | nil => exact ⟨[], (List.append_nil _).symm, rfl⟩
  | cons d ds ih =>
    obtain ⟨now, hnow, htold⟩ := follow_warns t d
    obtain ⟨later, hlater, htold'⟩ := ih (t.follow d).result
    refine ⟨now ++ later, ?_, ?_⟩
    · rw [followAll, hlater, hnow, List.append_assoc]
    · rw [followAll, warnings_append, htold, htold', List.map_append]

lemma enter_level {reg : Registry} {index : Nat} {s : Resource} {e : Event}
    (h : (reg.enter layout index s).2 = .ok e) : e.level = .debug := by
  unfold Registry.enter at h
  dsimp only at h
  split at h
  · split at h
    · cases h
    · cases h
      rfl
  · split at h
    · cases h
    · split at h
      · cases h
      · split at h
        · cases h
        · cases h
          rfl

lemma enterFrom_warnings (reg : Registry) (index : Nat) (specs : List Resource) :
    warnings (reg.enterFrom layout index specs).events = [] := by
  induction specs generalizing reg index with
  | nil => rfl
  | cons s rest ih =>
    have hlevel := @enter_level layout reg index s
    rw [Registry.enterFrom]
    generalize reg.enter layout index s = step at hlevel ⊢
    obtain ⟨next, p | e⟩ := step
    · exact ih next (index + 1)
    · rw [← ih next (index + 1), warnings, warnings, List.filter_cons_of_neg]
      simp [hlevel rfl]

lemma build_warnings (h : (build layout specs).result = .ok t) :
    warnings (build layout specs).events = t.dropped.map Dropped.warning := by
  rcases hi : issues specs with _ | ⟨i, more⟩
  · rcases hf : (register layout specs).issues with _ | ⟨i, more⟩
    · simp only [build, hi, hf, Except.ok.injEq] at h ⊢
      obtain ⟨lost, hlost, htold⟩ := followAll_warns
        { empty layout with branches := (register layout specs).registry.branches }
        (declarations specs)
      have hregister : warnings (register layout specs).events = [] := enterFrom_warnings _ _ _
      rw [← h, hlost, warnings_append, warnings_append, hregister, htold]
      simp [empty, warnings, Event.level]
    · simp [build, hi, hf] at h
  · simp [build, hi] at h

/-! ### Bound references -/

lemma build_binds (h : (build layout specs).result = .ok t) {s : Resource} (hs : s ∈ specs)
    {id : Identity} (hown : Owns s id) (hknown : ∃ o ∈ specs, o.identity = id) :
    ∃ e, t.find? s.identity = some e ∧ id ∈ e.references := by
  obtain ⟨t₀, links, m, rfl⟩ := build_isBuilt h
  obtain ⟨o, ho, hid⟩ := registers_of_clashes m.clashes hs
  obtain ⟨e, he, hkey⟩ := (@exists_withLinks_iff t₀ links _).mpr
    (m.unlinked.exists_entry_iff.mpr ⟨o, ho, hid⟩)
  obtain ⟨b, hb, heb⟩ := mem_entries.mp he
  refine ⟨e, ?_, ?_⟩
  · rw [← hkey]
    exact (m.unlinked.keyed.mapped (keepsKeys_withLinks links)).find?_key hb heb
  · rw [(isLinkedBy_withLinks m.unlinked.keyed m.linked).references e he, m.pairs, hkey]
    exact List.mem_map.mpr ⟨(s.identity, id), List.mem_filter.mpr
      ⟨mem_declaredPairs.mpr ⟨⟨s, hs, rfl, hown⟩, hknown⟩, decide_eq_true rfl⟩, rfl⟩

/-! ### Strict checking -/

lemma buildStrict_of_ok (h : (build layout specs).result = .ok t) :
    (buildStrict layout specs).result = requireResolved t := by
  simp only [buildStrict, h]
  rfl

lemma buildStrict_of_error {e : Failure} (h : (build layout specs).result = .error e) :
    (buildStrict layout specs).result = .error e := by
  simp only [buildStrict, h]
  rfl

/-- What a run that ends in a tree says about the references of its specs. -/
structure AccountsFor (specs : List Resource) (t : Tree) (events : List Event) : Prop where
  dropped : t.dropped.map Dropped.told = unresolved specs
  warned : warnings events = t.dropped.map Dropped.warning
  bound : ∀ s ∈ specs, ∀ r ∈ s.references, (∃ o ∈ specs, o.identity = r.identity) →
    ∃ e, t.find? s.identity = some e ∧ r.identity ∈ e.references

/-- **Every reference is accounted for.** A tree has the references that no spec resolves, in order
and with their places, a warning is told for each of them, and every other reference is bound. Under
strict checking the tree is the same if there are none of them, and else the first one is the
failure; specs that are refused anyway are refused in the same way. -/
theorem build_accountsFor (layout : Layout) (specs : List Resource) :
    (∀ t, (build layout specs).result = .ok t →
      AccountsFor specs t (build layout specs).events ∧
        (unresolved specs = [] → (buildStrict layout specs).result = .ok t) ∧
        ∀ owner reference place rest, unresolved specs = (owner, reference, place) :: rest →
          (buildStrict layout specs).result = .error (.unresolved owner reference)) ∧
      ∀ e, (build layout specs).result = .error e →
        (buildStrict layout specs).result = .error e := by
  refine ⟨fun t h => ?_, fun e => buildStrict_of_error⟩
  have hdropped : t.dropped.map Dropped.told = unresolved specs := by
    rw [build_dropped h, lostReferences_told]
  refine ⟨⟨hdropped, build_warnings h, fun s hs r hr => build_binds h hs ⟨r, hr, rfl⟩⟩,
    fun hnone => ?_, fun owner reference place rest hfirst => ?_⟩
  · rw [hnone, List.map_eq_nil_iff] at hdropped
    rw [buildStrict_of_ok h, requireResolved_eq_ok_iff]
    exact ⟨rfl, hdropped⟩
  · rw [hfirst] at hdropped
    obtain ⟨d, ds, hds, hd, -⟩ := List.map_eq_cons_iff.mp hdropped
    obtain ⟨rfl, hrest⟩ := Prod.mk.inj hd
    obtain ⟨rfl, -⟩ := Prod.mk.inj hrest
    rw [buildStrict_of_ok h, requireResolved, hds]

/-- A node that owns pods and itself, and pods that own volumes, of which there is no spec. The
second spec of the node names the pods again, and volumes. -/
def looseReferences : List Resource :=
  let node : Identity := ⟨"core", "v1", "Node"⟩
  let pod : Identity := ⟨"core", "v1", "Pod"⟩
  let volume : Identity := ⟨"core", "v1", "Volume"⟩
  [{ Resource.plain "core" "v1" "Node" "nodes" with references := [⟨pod, none⟩, ⟨node, none⟩] },
    { Resource.plain "core" "v1" "Pod" "pods" with references := [⟨volume, none⟩] },
    { Resource.plain "core" "v1" "Node" "nodes" with references := [⟨pod, none⟩, ⟨volume, none⟩] }]

/-- The volumes are dropped once for each place that names them, and the first place is the failure
under strict checking. -/
theorem looseReferences_accountsFor : ∃ t, (build {} looseReferences).result = .ok t ∧
    AccountsFor looseReferences t (build {} looseReferences).events ∧
    t.dropped.map Dropped.told =
      [(⟨"core", "v1", "Pod"⟩, ⟨"core", "v1", "Volume"⟩, "resources[1].subResources[0]"),
        (⟨"core", "v1", "Node"⟩, ⟨"core", "v1", "Volume"⟩, "resources[2].subResources[1]")] ∧
    (buildStrict {} looseReferences).result =
      .error (.unresolved ⟨"core", "v1", "Pod"⟩ ⟨"core", "v1", "Volume"⟩) := by
  obtain ⟨t, ht⟩ := exists_of_isOk looseReferences (by decide +kernel)
  have hloose : unresolved looseReferences =
      [(⟨"core", "v1", "Pod"⟩, ⟨"core", "v1", "Volume"⟩, "resources[1].subResources[0]"),
        (⟨"core", "v1", "Node"⟩, ⟨"core", "v1", "Volume"⟩, "resources[2].subResources[1]")] := by
    decide +kernel
  obtain ⟨haccounts, -, hstrict⟩ := (build_accountsFor {} looseReferences).1 t ht
  exact ⟨t, ht, haccounts, haccounts.dropped.trans hloose, hstrict _ _ _ _ hloose⟩

end ClientGen.Tree
