import ClientGen.Proofs.Tree.Swap
import ClientGen.Proofs.Tree.View

/-!
The plan of a list of specs in which two neighbours of different group-versions are swapped. Every
file stays where it is and every context stays the same, but for the reference file of each
resource that both neighbours are the first ones to name.
-/

namespace ClientGen

open Spec ClientGen.Tree

/-- The part in which two owners trade places. -/
def Part.trade (a b : Identity) : Part → Part
  | .reference r => .reference (r.trade a b)
  | part => part

def Context.trade (a b : Identity) : Context → Context
  | .resource rootPackage summary names namespaced part =>
    .resource rootPackage summary names namespaced (part.trade a b)
  | context => context

/-- The file after a swap of two specs. -/
def PlannedFile.swap (before : List Resource) (s s' : Resource) (f : PlannedFile) : PlannedFile :=
  if f.identity?.any fun id => NewOwners before s s' id then
    { f with context := f.context.trade s.identity s'.identity }
  else f

variable {before after : List Resource} {s s' : Resource} {layout : Layout} {t : Tree}

namespace Tree

lemma Entry.plan_swap (root : String) (b : Branch) (e : Entry) :
    Entry.plan root b (e.swap before s s') =
      (e.plan root b).map (PlannedFile.swap before s s') := by
  rw [Entry.swap]
  by_cases h : NewOwners before s s' e.key
  · rw [if_pos h]
    cases hr : e.reference? with
    | none => simp [Entry.plan, Entry.trade, PlannedFile.swap, Context.trade, Part.trade, h, hr]
    | some r =>
      have hfile : (r.trade s.identity s'.identity).file = r.file := rfl
      simp [Entry.plan, Entry.trade, PlannedFile.swap, Context.trade, Part.trade, h, hr, hfile]
  · rw [if_neg h]
    cases hr : e.reference? with
    | none => simp [Entry.plan, PlannedFile.swap, h, hr]
    | some r => simp [Entry.plan, PlannedFile.swap, h, hr]

lemma Entry.summary_swap (e : Entry) : (e.swap before s s').summary = e.summary := by
  rw [Entry.swap]
  split
  · rfl
  · rfl

lemma Branch.plan_swap (root : String) (b : Branch) :
    Branch.plan root { b with entries := b.entries.map (Entry.swap before s s') } =
      (b.plan root).map (PlannedFile.swap before s s') := by
  have hsummary : (b.entries.map (Entry.swap before s s')).map Entry.summary =
      b.entries.map Entry.summary := by
    rw [List.map_map]
    exact List.map_congr_left fun e _ => Entry.summary_swap e
  rw [Branch.plan, Branch.plan, List.map_cons, List.map_flatMap, List.flatMap_map, hsummary]
  exact congrArg (List.cons _) (List.flatMap_congr fun e _ => Entry.plan_swap root b e)

lemma plan_swap (before : List Resource) (s s' : Resource) (t : Tree) :
    (t.swap before s s').plan = t.plan.map (PlannedFile.swap before s s') := by
  rw [plan, plan, List.map_cons, List.map_flatMap, swap, mapEntries, List.flatMap_map,
    List.map_map]
  exact congrArg (List.cons _) (List.flatMap_congr fun b _ => Branch.plan_swap t.package b)

lemma swap_eq_self (h : ∀ e ∈ t.entries, ¬ NewOwners before s s' e.key) :
    t.swap before s s' = t :=
  mapEntries_id fun b hb e he => if_neg (h e (mem_entries.mpr ⟨b, hb, he⟩))

end Tree

/-- **Neighbours can be swapped.** Two neighbours of different group-versions in an accepted list
can be swapped. Among the owners of a resource that both are the first ones to name, they stand side
by side and trade places, in the tree and in the plan, and nothing else changes; where there is no
such resource, tree and plan stay the same. -/
theorem build_swap (layout : Layout) (before after : List Resource) (s s' : Resource) (t : Tree)
    (hne : (s.identity.group, s.identity.version) ≠ (s'.identity.group, s'.identity.version))
    (h : (build layout (before ++ s :: s' :: after)).result = .ok t) :
    ∃ t', (build layout (before ++ s' :: s :: after)).result = .ok t' ∧
      (∀ e ∈ t.entries, NewOwners before s s' e.key → e.OwnedInTurn s.identity s'.identity) ∧
      t'.toValue = (t.swap before s s').toValue ∧
      t'.plan = t.plan.map (PlannedFile.swap before s s') ∧
      ((∀ e ∈ t.entries, ¬ NewOwners before s s' e.key) →
        t'.toValue = t.toValue ∧ t'.plan = t.plan) := by
  obtain ⟨hturn, ds, h'⟩ := exists_build_swap hne h
  refine ⟨_, h', hturn, rfl, plan_swap before s s' t, fun hold => ?_⟩
  rw [swap_eq_self hold]
  exact ⟨rfl, rfl⟩

/-- A pod, a deployment that owns pods, and a job that does. -/
def pod : Resource := .plain "core" "v1" "Pod" "pods"

@[inherit_doc pod]
def podDeployment : Resource :=
  { Resource.plain "apps" "v1" "Deployment" "deployments" with
    references := [⟨pod.identity, none⟩] }

@[inherit_doc pod]
def podJob : Resource :=
  { Resource.plain "batch" "v1" "Job" "jobs" with
    references := [⟨pod.identity, none⟩] }

/-- A deployment and a job trade places among the owners of pods. -/
theorem podOwners_swap : ∃ t t', (build {} [pod, podDeployment, podJob]).result = .ok t ∧
    (build {} [pod, podJob, podDeployment]).result = .ok t' ∧
    t'.plan = t.plan.map (PlannedFile.swap [pod] podDeployment podJob) := by
  obtain ⟨t, ht⟩ := exists_of_isOk [pod, podDeployment, podJob] (by decide +kernel)
  obtain ⟨t', ht', -, -, hplan, -⟩ := build_swap {} [pod] [] podDeployment podJob t (by decide) ht
  exact ⟨t, t', ht, ht', hplan⟩

/-- The order of a deployment and a job can be told from the tree and from the reference file of
the pods that both own. -/
theorem podOwners_order_shows : ∃ t t', (build {} [pod, podDeployment, podJob]).result = .ok t ∧
    (build {} [pod, podJob, podDeployment]).result = .ok t' ∧ t.toValue ≠ t'.toValue ∧
    t.plan.map PlannedFile.context ≠ t'.plan.map PlannedFile.context := by
  obtain ⟨t, ht⟩ := exists_of_isOk [pod, podDeployment, podJob] (by decide +kernel)
  obtain ⟨t', ht'⟩ := exists_of_isOk [pod, podJob, podDeployment] (by decide +kernel)
  have hplans : (build {} [pod, podDeployment, podJob]).result.toOption.map
        (fun t => t.plan.map PlannedFile.context) ≠
      (build {} [pod, podJob, podDeployment]).result.toOption.map
        fun t => t.plan.map PlannedFile.context := by
    decide +kernel
  rw [ht, ht'] at hplans
  have hcontexts : t.plan.map PlannedFile.context ≠ t'.plan.map PlannedFile.context :=
    fun he => hplans (congrArg some he)
  exact ⟨t, t', ht, ht', fun he => hcontexts (by rw [plan_eq_of_toValue_eq he]), hcontexts⟩

end ClientGen
