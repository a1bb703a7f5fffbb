import ClientGen.Proofs.Plan.Listing
import ClientGen.Proofs.Spec.Order

/-!
The order in which the resources of a tree are visited, in the tree and in the plan. It is the order
of their texts, and that by group, then version, then kind as long as no resource overtakes another
one.
-/

namespace ClientGen

open Spec ClientGen.Tree

lemma listing_resources (layout : Layout) (specs : List Resource) :
    ((listing layout specs).filterMap fun h => h.2.2).eraseDups = visited specs := by
  have hids : (listing layout specs).filterMap (fun h => h.2.2) =
      (visited specs).flatMap fun id => (rolesOf specs id).map fun _ => id := by
    simp only [listing, groupVersionListing, resourceListing, visited, List.filterMap_cons,
      List.filterMap_flatMap, List.flatMap_assoc, List.filterMap_map, Function.comp_def,
      List.filterMap_eq_map']
  rw [hids]
  refine eraseDups_flatMap_copies (fun id => ⟨?_, fun b hb => ?_⟩)
    ((visited_perm specs).nodup_iff.mpr (nodup_eraseDups _))
  · exact List.mem_map.mpr ⟨.client, by simp [rolesOf], rfl⟩
  · obtain ⟨-, -, rfl⟩ := List.mem_map.mp hb
    rfl

lemma Tree.IsKeyed.pairwise_visitedBefore {t : Tree} (k : IsKeyed t) :
    (t.entries.map Entry.key).Pairwise Identity.VisitedBefore := by
  rw [entries, List.map_flatMap, List.pairwise_flatMap]
  refine ⟨fun b hb => ?_, k.sorted.imp_of_mem fun {b c} hb hc hbc x hx y hy => ?_⟩
  · refine List.pairwise_map.mpr ((k.entries_sorted b hb).imp_of_mem fun {e f} he hf hef => ?_)
    rw [k.key b hb e he, k.key b hb f hf]
    exact Or.inr ⟨rfl, hef⟩
  · obtain ⟨e, he, rfl⟩ := List.mem_map.mp hx
    obtain ⟨f, hf, rfl⟩ := List.mem_map.mp hy
    rw [k.key b hb e he, k.key c hc f hf]
    exact Or.inl hbc

/-- **The order of visit.** The files of a plan come by resource, in the order of the entries of the
tree. That order ascends by the text of the group-version and then by kind; it ascends by group,
then version, then kind just when no resource of the specs overtakes another one. -/
theorem build_visits_in_order (layout : Layout) (specs : List Resource) (t : Tree)
    (h : (build layout specs).result = .ok t) :
    (t.plan.filterMap PlannedFile.identity?).eraseDups = t.entries.map Entry.key ∧
      (t.entries.map Entry.key).Pairwise Identity.VisitedBefore ∧
      ((t.entries.map Entry.key).Pairwise (fun a b => a.before b = true) ↔
        ∀ a ∈ specs, ∀ b ∈ specs, ¬ a.identity.Overtakes b.identity) := by
  obtain ⟨t₀, links, m, rfl⟩ := build_isBuilt h
  have hkeys := m.unlinked.visited_eq m.clashes m.valid
  have hsorted : (visited specs).Pairwise Identity.VisitedBefore :=
    hkeys ▸ m.unlinked.keyed.pairwise_visitedBefore
  have hmem : ∀ {id : Identity}, id ∈ visited specs ↔ ∃ s ∈ specs, s.identity = id := by
    intro id
    rw [(visited_perm specs).mem_iff, mem_identities]
  rw [withLinks_entries_key, hkeys]
  refine ⟨?_, hsorted, ?_⟩
  · rw [← listing_resources layout, ← plan_headings m, List.filterMap_map]
    rfl
  · rw [Identity.pairwise_before_iff (fun id hid => ?_) hsorted]
    · simp only [hmem, forall_exists_index, and_imp, forall_apply_eq_imp_iff₂]
    · obtain ⟨s, hs, rfl⟩ := hmem.mp hid
      exact (m.valid s hs).identity

/-- Resources of one group are visited in order. -/
theorem mutualOwners_visited : ∃ t, (build {} mutualOwners).result = .ok t ∧
    (t.entries.map Entry.key).Pairwise (fun a b => a.before b = true) := by
  obtain ⟨t, ht⟩ := mutualOwners_built
  have hgroup : ∀ s ∈ mutualOwners, s.identity.group = "apps" := by decide
  refine ⟨t, ht, (build_visits_in_order {} mutualOwners t ht).2.2.mpr fun a ha b hb => ?_⟩
  rintro ⟨rest, hg, hne, -⟩
  rw [hgroup a ha, hgroup b hb] at hg
  exact hne (by simpa using hg.symm)

/-- The jobs of the longer group are visited first. -/
theorem batchJobs_out_of_order : ∃ t, (build {} batchJobs).result = .ok t ∧
    t.entries.map Entry.key = [⟨"batch.volcano.sh", "v1", "Job"⟩, ⟨"batch", "v1", "Job"⟩] ∧
    ¬ (t.entries.map Entry.key).Pairwise (fun a b => a.before b = true) := by
  obtain ⟨t, ht⟩ := exists_of_isOk batchJobs (by decide +kernel)
  have hkeys : t.entries.map Entry.key =
      [⟨"batch.volcano.sh", "v1", "Job"⟩, ⟨"batch", "v1", "Job"⟩] :=
    (build_visited {} batchJobs t ht).trans (by decide +kernel)
  exact ⟨t, ht, hkeys, by rw [hkeys]; decide⟩

end ClientGen
