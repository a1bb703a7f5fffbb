import ClientGen.Proofs.Tree.Visit

/-!
Second specs of one resource. A second spec is merged into the entry of the first one if it says the
same, and refused else. Defaults are applied before list kinds are compared, but packages are
compared as they were asked for, so that the package of the layout, written out in one spec and left
out in the other, is taken for a different one.
-/

namespace ClientGen.Tree

open Spec

variable {layout : Layout} {a b : Resource} {t : Tree}

/-- The package that the type of a resource comes from: the one that was asked for, or else the one
that the layout has for the group-version. -/
def effectivePackage (layout : Layout) (s : Resource) : String :=
  s.statedPackage?.getD
    (Naming.groupVersionModule layout.ecosystemRoot s.identity.group s.identity.version)

/-- With all defaults applied, a second spec says about its resource what the first one says. -/
structure Restates (layout : Layout) (first other : Resource) : Prop where
  identity : other.identity = first.identity
  plural : sameIgnoringCase first.plural other.plural = true
  listKind : first.listKind = other.listKind
  scope : first.scope = other.scope
  package : effectivePackage layout first = effectivePackage layout other

/-- An entry without its links. -/
def Entry.bare (e : Entry) : Entry :=
  { e with
    references := []
    client := { e.client with children := [] }
    reference? := none }

lemma withLinks_entries_bare (ls : List Link) (t : Tree) :
    (t.withLinks ls).entries.map Entry.bare = t.entries.map Entry.bare :=
  withLinks_entries_map (fun _ _ _ => rfl) ls t

/-! ### Registration of a second spec -/

lemma enter_first (layout : Layout) (h : Naming.stem a.identity.kind ≠ "client") :
    ∃ event, (Registry.enter layout ⟨[], []⟩ 0 a).2 = .ok event ∧
      (Registry.enter layout ⟨[], []⟩ 0 a).1.firsts = [(0, a)] := by
  have hfile : (Naming.objectFile a.identity.kind == Naming.clientFile) = false := by
    rw [beq_eq_false_iff_ne]
    exact fun he => h (objectFile_eq_clientFile_iff.mp he)
  simp [Registry.enter, Registry.first?, Registry.claim, Registry.insert, Text.findByKey?,
    Branch.empty, hfile]

lemma build_redeclared {aspect : Aspect} (ha : (build layout [a]).result = .ok t)
    (hb : b.IsClean) (hid : b.identity = a.identity) (hd : disagreement? a b = some aspect) :
    (build layout [a, b]).result =
      .error (.invalidSpec [⟨.resource 1, .redeclared a.identity aspect 0⟩]) := by
  obtain ⟨hclean, hclash⟩ := build_ok_iff.mp ⟨t, ha⟩
  have hissues : issues [a, b] = [] := by
    rw [issues_eq_nil_iff]
    simpa using ⟨hclean a (by simp), hb⟩
  obtain ⟨event, hevent, hfirsts⟩ :=
    enter_first layout (clash?_eq_none_iff.mp (hclash a (by simp))).2.1
  have hregister : (register layout [a, b]).issues =
      [⟨.resource 1, .redeclared a.identity aspect 0⟩] := by
    rw [register, Registry.enterFrom]
    generalize Registry.enter layout ⟨[], []⟩ 0 a = step at hevent hfirsts
    obtain ⟨next, outcome⟩ := step
    simp only at hevent hfirsts
    simp [hevent, Registry.enterFrom, Registry.enter, Registry.first?, hfirsts, hid, hd]
  simp [build, hissues, hregister]

lemma exists_build_second (ha : (build layout [a]).result = .ok t) (hb : b.IsClean)
    (hid : b.identity = a.identity) (hagree : Agree a b) :
    ∃ t', (build layout [a, b]).result = .ok t' := by
  obtain ⟨hclean, hclash⟩ := build_ok_iff.mp ⟨t, ha⟩
  have hstem := (clash?_eq_none_iff.mp (hclash a (by simp))).2.1
  have hself : ∀ s ∈ [a, b], s.identity = a.identity ∧ s.IsClean ∧ Agree a s := by
    simpa using ⟨⟨hclean a (by simp), Agree.refl a⟩, hid, hb, hagree⟩
  refine build_ok_iff.mpr ⟨fun s hs => (hself s hs).2.1, forall_clash?_eq_none_iff.mpr ⟨?_, ?_⟩⟩
  · intro s hs
    rwa [(hself s hs).1]
  · intro s hs s' hs'
    obtain ⟨hs, -, hagree⟩ := hself s hs
    obtain ⟨hs', -, hagree'⟩ := hself s' hs'
    have hsame : s.identity = s'.identity := hs.trans hs'.symm
    exact ⟨fun _ => congrArg Identity.group hsame,
      fun _ => ⟨congrArg Identity.kind hsame, hagree.symm.trans hagree'⟩⟩

lemma registers_second (hid : b.identity = a.identity) (s : Resource) :
    Registers [a] s ↔ Registers [a, b] s := by
  have hfile : firstInFile? [a] b.identity = some a := by
    simp [firstInFile?, hid, sameFile_self]
  have happend := @registers_append [a] b s
  rw [hfile] at happend
  simpa using happend.symm

lemma build_merged (ha : (build layout [a]).result = .ok t) (hb : b.IsClean)
    (hid : b.identity = a.identity) (hagree : Agree a b) :
    ∃ t', (build layout [a, b]).result = .ok t' ∧ t'.entries.map Entry.key = [a.identity] ∧
      t'.entries.map Entry.bare = t.entries.map Entry.bare := by
  obtain ⟨t', ht'⟩ := exists_build_second ha hb hid hagree
  refine ⟨t', ht', ?_, ?_⟩
  · have hids : identities [a, b] = [a.identity] := by
      simp [identities, hid, List.eraseDups_cons]
    rw [build_visited layout [a, b] t' ht', ← List.perm_singleton, ← hids]
    exact visited_perm [a, b]
  · obtain ⟨t₀, ls, m, rfl⟩ := build_isBuilt ha
    obtain ⟨t₁, ls', m', rfl⟩ := build_isBuilt ht'
    rw [withLinks_entries_bare, withLinks_entries_bare,
      m.unlinked.eq_of_registers m'.unlinked m.clashes m'.clashes (registers_second hid)]
    rfl

/-- **Second specs.** A second spec that says the same as the first one with defaults applied is
merged into its entry if both ask for a package or neither does. If only one of them asks for one,
the second spec is refused for its package. -/
theorem build_restated (layout : Layout) (a b : Resource) (t : Tree)
    (ha : (build layout [a]).result = .ok t) (hb : issues [b] = []) (h : Restates layout a b) :
    (a.statedPackage?.isSome = b.statedPackage?.isSome →
        ∃ t', (build layout [a, b]).result = .ok t' ∧ t'.entries.map Entry.key = [a.identity] ∧
          t'.entries.map Entry.bare = t.entries.map Entry.bare) ∧
      (a.statedPackage?.isSome ≠ b.statedPackage?.isSome →
        (build layout [a, b]).result =
          .error (.invalidSpec [⟨.resource 1, .redeclared a.identity .package 0⟩])) := by
  have hclean : b.IsClean := issues_eq_nil_iff.mp hb b (by simp)
  constructor
  · intro hsome
    have hpackage : a.statedPackage? = b.statedPackage? := by
      have hp := h.package
      rw [effectivePackage, effectivePackage] at hp
      rcases ha' : a.statedPackage? with _ | p <;> rcases hb' : b.statedPackage? with _ | q <;>
        simp_all
    exact build_merged ha hclean h.identity ⟨h.plural, h.listKind, h.scope, hpackage⟩
  · intro hsome
    have hpackage : a.statedPackage? ≠ b.statedPackage? := fun he => hsome (by rw [he])
    refine build_redeclared ha hclean h.identity ?_
    simp [disagreement?, h.plural, h.listKind, h.scope, hpackage]

def deployment : Resource :=
  { Resource.plain "apps" "v1" "Deployment" "deployments" with package? := some "apps" }

/-- The same deployment in other words. -/
def deploymentAgain : Resource where
  identity := deployment.identity
  listKind? := some "DeploymentList"
  plural := "Deployments"
  scope := .namespaced
  package? := some " apps "
  references := []

/-- Blanks around a package, the list kind of a kind and the case of a plural make no difference. -/
theorem deployment_restated : ∃ t, (build {} [deployment, deploymentAgain]).result = .ok t ∧
    t.entries.map Entry.key = [⟨"apps", "v1", "Deployment"⟩] := by
  obtain ⟨t, ht⟩ := exists_of_isOk [deployment] (by decide +kernel)
  have hsame : Restates {} deployment deploymentAgain :=
    ⟨rfl, by decide +kernel, by decide +kernel, rfl, by decide +kernel⟩
  have hsecond := build_restated {} deployment deploymentAgain t ht (by decide +kernel) hsame
  obtain ⟨t', ht', hkeys, -⟩ := hsecond.1 (by decide +kernel)
  exact ⟨t', ht', hkeys⟩

/-- A deployment that asks for the package that it has anyway is refused behind one that does not
ask for it. -/
theorem default_package_refused :
    let first := Resource.plain "apps" "v1" "Deployment" "deployments"
    let other := { first with package? := some "k8s_openapi::api::apps::v1" }
    (∃ t, (build {} [first]).result = .ok t) ∧ issues [other] = [] ∧ Restates {} first other ∧
      (build {} [first, other]).result =
        .error (.invalidSpec [⟨.resource 1, .redeclared first.identity .package 0⟩]) := by
  intro first other
  have hother : issues [other] = [] := by decide +kernel
  obtain ⟨t, ht⟩ := exists_of_isOk [first] (by decide +kernel)
  refine ⟨⟨t, ht⟩, hother, ⟨rfl, by decide +kernel, rfl, rfl, by decide +kernel⟩, ?_⟩
  exact build_redeclared ht (issues_eq_nil_iff.mp hother other (by simp)) rfl (by decide +kernel)

end ClientGen.Tree
