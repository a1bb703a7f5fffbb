import ClientGen.Proofs.Tree.Duplicates

/-!
First specs. A built tree has a branch for each group-version of its specs and an entry for each
resource, and all that an entry says, its links aside, comes from the first spec of its resource:
neither a later spec of that resource nor linking changes any of it.
-/

namespace ClientGen.Tree

open Spec

variable {layout : Layout} {specs : List Resource} {t : Tree} {links : List Link} {o : Resource}

def firstOf? (specs : List Resource) (id : Identity) : Option Resource :=
  specs.find? fun s => s.identity = id

/-- The entry that is made from a spec, in the branch of its group-version. -/
def entryOf (layout : Layout) (s : Resource) : Entry :=
  Entry.of layout (Branch.empty layout s.identity.group s.identity.version) s

/-- A tree has a place for each resource of a list of specs, and what stands there comes from the
first spec of the resource. -/
structure HoldsFirsts (layout : Layout) (specs : List Resource) (t : Tree) : Prop where
  entries : (t.entries.map Entry.key).Perm (identities specs)
  branches : (t.branches.map fun b => (b.group, b.version)).Perm
    ((identities specs).map pairOf).eraseDups
  not_empty : ∀ b ∈ t.branches, b.entries ≠ []
  in_place : ∀ b ∈ t.branches, ∀ e ∈ b.entries,
    e.key = ⟨b.group, b.version, e.kind⟩ ∧ t.find? e.key = some e
  bare : ∀ e ∈ t.entries, ∃ s, firstOf? specs e.key = some s ∧ e.bare = entryOf layout s

/-- A resource is registered by its first spec: a spec before it would have its file. -/
lemma Registers.firstOf? (h : Registers specs o) : firstOf? specs o.identity = some o := by
  obtain ⟨-, before, after, hspecs, hbefore⟩ := List.find?_eq_some_iff_append.mp h.file
  refine List.find?_eq_some_iff_append.mpr ⟨by simp, before, after, hspecs, fun a ha => ?_⟩
  have hother : sameFile a.identity o.identity = false := by simpa using hbefore a ha
  have hne : a.identity ≠ o.identity := by
    intro he
    rw [he, sameFile_self] at hother
    cases hother
  simp [hne]

lemma IsUnlinked.entry_eq_entryOf (u : IsUnlinked layout specs t) {b : Branch}
    (hb : b ∈ t.branches) (hg : o.identity.group = b.group) (hv : o.identity.version = b.version) :
    Entry.of layout b o = entryOf layout o :=
  (u.frame b hb).entry_eq (isFrame_empty _ _) hg.symm hv.symm o

lemma IsUnlinked.entries_ne_nil (u : IsUnlinked layout specs t) (hclashes : clashes specs = [])
    {b : Branch} (hb : b ∈ t.branches) : b.entries ≠ [] := by
  obtain ⟨o, ho, hg, hv, -⟩ := u.owner b hb
  obtain ⟨r, hr, hid⟩ := registers_of_clashes hclashes ho
  rw [← hid] at hg hv
  exact List.ne_nil_of_mem ((u.entry b hb _).mpr ⟨r, hr, hg, hv, rfl⟩)

lemma IsUnlinked.exists_entryOf (u : IsUnlinked layout specs t) {b : Branch} (hb : b ∈ t.branches)
    {e : Entry} (he : e ∈ b.entries) : ∃ s, firstOf? specs s.identity = some s ∧
      s.identity.group = b.group ∧ s.identity.version = b.version ∧ e = entryOf layout s := by
  obtain ⟨o, ho, hg, hv, rfl⟩ := (u.entry b hb e).mp he
  exact ⟨o, ho.firstOf?, hg, hv, u.entry_eq_entryOf hb hg hv⟩

lemma IsUnlinked.eq_entryOf (u : IsUnlinked layout specs t) {e : Entry} (he : e ∈ t.entries) :
    ∃ s, firstOf? specs e.key = some s ∧ e = entryOf layout s := by
  obtain ⟨b, hb, he⟩ := mem_entries.mp he
  obtain ⟨s, hs, -, -, rfl⟩ := u.exists_entryOf hb he
  exact ⟨s, hs, rfl⟩

lemma withLinks_bare (links : List Link) (b : Branch) (e : Entry) :
    (e.withLinks links b).bare = e.bare := rfl

lemma entryOf_bare (layout : Layout) (s : Resource) :
    (entryOf layout s).bare = entryOf layout s := by
  simp only [entryOf, Entry.of, Entry.bare, ClientPart.of]

lemma withLinks_branches_map (links : List Link) (t : Tree) :
    ((t.withLinks links).branches.map fun b => (b.group, b.version)) =
      t.branches.map fun b => (b.group, b.version) :=
  List.map_map

lemma IsBuilt.holdsFirsts (m : IsBuilt layout specs t links) :
    HoldsFirsts layout specs (t.withLinks links) where
  entries := by
    rw [withLinks_entries_key, m.unlinked.visited_eq m.clashes m.valid]
    exact visited_perm specs
  branches := by
    rw [withLinks_branches_map, m.unlinked.groupVersions_eq m.clashes m.valid]
    exact List.perm_insertionSort _ _
  not_empty := by
    intro b hb
    obtain ⟨c, hc, rfl⟩ := List.mem_map.mp hb
    exact List.map_eq_nil_iff.not.mpr (m.unlinked.entries_ne_nil m.clashes hc)
  in_place := by
    intro b hb e he
    have hkeyed := m.unlinked.keyed.mapped (keepsKeys_withLinks links)
    exact ⟨hkeyed.key b hb e he, hkeyed.find?_key hb he⟩
  bare := by
    intro e he
    obtain ⟨b, hb, x, hx, rfl⟩ := mem_entries_mapEntries.mp he
    obtain ⟨s, hs, hxs⟩ := m.unlinked.eq_entryOf (mem_entries.mpr ⟨b, hb, hx⟩)
    refine ⟨s, hs, ?_⟩
    rw [withLinks_bare, hxs, entryOf_bare]

/-- **First specs.** A built tree has one entry for each resource of its specs, at the place of that
resource, and one branch for each group-version, which is not empty. All that an entry says, its
links aside, comes from the first spec of its resource. -/
theorem build_holdsFirsts (layout : Layout) (specs : List Resource) (t : Tree)
    (h : (build layout specs).result = .ok t) : HoldsFirsts layout specs t := by
  obtain ⟨t₀, links, m, rfl⟩ := build_isBuilt h
  exact m.holdsFirsts

/-- A deployment, a replica set, and the deployment in other words, as its own owner. -/
def restatedDeployments : List Resource :=
  [deployment, .plain "apps" "v1" "ReplicaSet" "replicasets",
    { deploymentAgain with references := [⟨deployment.identity, none⟩] }]

/-- The second spec of the deployment adds a link and nothing else. -/
theorem restatedDeployments_holdsFirsts : ∃ t, (build {} restatedDeployments).result = .ok t ∧
    HoldsFirsts {} restatedDeployments t ∧
    (t.find? deployment.identity).map Entry.bare = some (entryOf {} deployment) ∧
    (t.find? deployment.identity).map Entry.references = some [deployment.identity] := by
  obtain ⟨t, ht⟩ := exists_of_isOk restatedDeployments (by decide +kernel)
  have hfound : (build {} restatedDeployments).result.toOption.map (fun t =>
      ((t.find? deployment.identity).map Entry.bare,
        (t.find? deployment.identity).map Entry.references)) =
          some (some (entryOf {} deployment), some [deployment.identity]) := by
    decide +kernel
  rw [ht] at hfound
  obtain ⟨hbare, hreferences⟩ := Prod.mk.inj (Option.some.inj hfound)
  exact ⟨t, ht, build_holdsFirsts {} restatedDeployments t ht, hbare, hreferences⟩

end ClientGen.Tree
