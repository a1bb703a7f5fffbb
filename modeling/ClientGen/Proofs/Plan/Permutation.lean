import ClientGen.Proofs.Plan.Files
import ClientGen.Proofs.Plan.Swap
import ClientGen.Proofs.Tree.Permutation
import Mathlib.Data.List.Forall2

/-!
The plan of a permuted list of specs. If no resource has two specs, the same files are planned in
the same order, and each is made from the same facts, but for the order of the owners in a reference
file.
-/

namespace ClientGen

open Spec ClientGen.Tree

/-- Two contexts are the same but for the order of the owners of a reference file. -/
inductive Context.SameButOwners : Context → Context → Prop
  | refl (context : Context) : SameButOwners context context
  | owners (rootPackage : String) (summary : GroupVersionSummary) (names : Names)
      (namespaced : Bool) (part : ReferencePart) {os : List Owner} (h : part.owners.Perm os) :
      SameButOwners (.resource rootPackage summary names namespaced (.reference part))
        (.resource rootPackage summary names namespaced (.reference { part with owners := os }))

/-- Two planned files are the same but for the order of the owners of a reference file. -/
structure PlannedFile.SameButOwners (f g : PlannedFile) : Prop where
  role : f.role = g.role
  destination : f.destination = g.destination
  identity : f.identity? = g.identity?
  context : f.context.SameButOwners g.context

lemma PlannedFile.SameButOwners.refl (f : PlannedFile) : f.SameButOwners f :=
  ⟨rfl, rfl, rfl, .refl _⟩

lemma forall₂_flatMap {α β : Type} {R : β → β → Prop} {f g : α → List β} {as : List α}
    (h : ∀ a ∈ as, List.Forall₂ R (f a) (g a)) : List.Forall₂ R (as.flatMap f) (as.flatMap g) := by
  induction as with
  | nil => exact .nil
  | cons a as ih =>
    rw [List.flatMap_cons, List.flatMap_cons]
    exact List.rel_append (h a (by simp)) (ih fun b hb => h b (List.mem_cons_of_mem a hb))

namespace Tree

variable {t : Tree} {ls ls' : List Link}

section Links

variable (p : PermutedLinks ls ls')

include p

lemma entry_plan_permuted (rootPackage : String) (b c : Branch) (e : Entry) :
    List.Forall₂ PlannedFile.SameButOwners ((e.withLinks ls c).plan rootPackage b)
      ((e.withLinks ls' c).plan rootPackage b) := by
  have hto : (linksTo ls e.key).Perm (linksTo ls' e.key) := p.perm.filter _
  by_cases hnil : linksTo ls e.key = []
  · have hnil' : linksTo ls' e.key = [] := by rwa [hnil, List.nil_perm] at hto
    have hentry : e.withLinks ls c = e.withLinks ls' c := by
      rw [Entry.withLinks, Entry.withLinks, p.linksFrom, hnil, hnil']
    rw [hentry]
    exact List.forall₂_same.mpr fun f _ => .refl f
  · have hnil' : linksTo ls' e.key ≠ [] := fun h => hnil (by rwa [h, List.perm_nil] at hto)
    simp only [Entry.plan, withLinks_reference? hnil, withLinks_reference? hnil', Option.map_some,
      Option.toList_some, List.cons_append, List.nil_append, withLinks_client, p.linksFrom,
      withLinks_reader, withLinks_object, withLinks_key, withLinks_names, withLinks_scope]
    generalize ReferencePart.of c e = r
    refine .cons (.refl _) (.cons (.refl _) (.cons (.refl _) (.cons ⟨rfl, rfl, rfl, ?_⟩ .nil)))
    exact .owners _ _ _ _ { r with owners := (linksTo ls e.key).map Link.toOwner } (hto.map _)

lemma branch_plan_permuted (rootPackage : String) (b : Branch) :
    List.Forall₂ PlannedFile.SameButOwners
      (Branch.plan rootPackage { b with entries := b.entries.map (Entry.withLinks ls b) })
      (Branch.plan rootPackage { b with entries := b.entries.map (Entry.withLinks ls' b) }) := by
  have hsummary : (b.entries.map (Entry.withLinks ls b)).map Entry.summary =
      (b.entries.map (Entry.withLinks ls' b)).map Entry.summary := by
    rw [List.map_map, List.map_map]
    rfl
  rw [Branch.plan, Branch.plan, hsummary, List.flatMap_map, List.flatMap_map]
  exact .cons (.refl _) (forall₂_flatMap fun e _ => entry_plan_permuted p rootPackage _ b e)

lemma plan_permuted (t : Tree) : List.Forall₂ PlannedFile.SameButOwners
    (t.withLinks ls).plan (t.withLinks ls').plan := by
  have hsummary : (t.withLinks ls).branches.map Branch.summary =
      (t.withLinks ls').branches.map Branch.summary := by
    rw [withLinks, withLinks, mapEntries, mapEntries, List.map_map, List.map_map]
    rfl
  rw [plan, plan, hsummary, withLinks, withLinks, mapEntries, mapEntries, List.flatMap_map,
    List.flatMap_map]
  exact .cons (.refl _) (forall₂_flatMap fun b _ => branch_plan_permuted p t.package b)

end Links

end Tree

/-- **The order of the specs.** A permutation of an accepted list is accepted, and drops the same
references. If no resource has two specs, it leads to the same files in the same order, made from
the same facts but for the order of the owners in a reference file. -/
theorem build_permuted (layout : Layout) (specs specs' : List Resource) (t : Tree)
    (hperm : specs.Perm specs') (h : (build layout specs).result = .ok t) :
    ∃ t', (build layout specs').result = .ok t' ∧
      (t.dropped.map Dropped.pair).Perm (t'.dropped.map Dropped.pair) ∧
      ((specs.map Resource.identity).Nodup →
        List.Forall₂ PlannedFile.SameButOwners t.plan t'.plan) := by
  obtain ⟨t', h'⟩ := build_ok_of_mem_iff (fun _ => hperm.mem_iff) ⟨t, h⟩
  refine ⟨t', h', ?_, fun hdistinct => ?_⟩
  · rw [build_dropped h, build_dropped h']
    exact lostReferences_perm hperm
  · obtain ⟨t₀, ls, m, rfl⟩ := build_isBuilt h
    obtain ⟨t₁, ls', m', rfl⟩ := build_isBuilt h'
    obtain ⟨ht, p⟩ := m.permuted m' hperm hdistinct
    rw [ht]
    exact plan_permuted p t₀

/-- A deployment and a job that own pods, the job also nodes, of which there is no spec. -/
def scatteredOwners : List Resource :=
  [podDeployment, pod, { podJob with
    references := [⟨pod.identity, none⟩, ⟨⟨"core", "v1", "Node"⟩, none⟩] }]

/-- Owners can come before or behind the resource that they own. -/
theorem scatteredOwners_permuted :
    ∃ t t', (build {} scatteredOwners).result = .ok t ∧
      (build {} scatteredOwners.reverse).result = .ok t' ∧
      (t.dropped.map Dropped.pair).Perm (t'.dropped.map Dropped.pair) ∧
      List.Forall₂ PlannedFile.SameButOwners t.plan t'.plan := by
  obtain ⟨t, ht⟩ := exists_of_isOk scatteredOwners (by decide +kernel)
  obtain ⟨t', ht', hdropped, hplan⟩ := build_permuted {} scatteredOwners scatteredOwners.reverse t
    (List.reverse_perm _).symm ht
  exact ⟨t, t', ht, ht', hdropped, hplan (by decide)⟩

end ClientGen
