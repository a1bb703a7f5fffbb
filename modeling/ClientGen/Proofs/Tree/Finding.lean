import ClientGen.Proofs.Tree.Built
import Mathlib.Data.List.DropRight

/-!
Finding resources. A branch is found by one text, its group and its version with a slash between
them. A group may hold slashes and the version of a spec holds none, so this text is read from its
last slash, whatever was put together to it.
-/

namespace ClientGen

open Spec

/-! ### Reading the text of a group-version -/

/-- What stands before the last slash of a text, and what stands behind it. -/
def Naming.readLabel (label : String) : String × String :=
  (String.ofList (label.toList.rdropWhile (· != '/')).dropLast,
    String.ofList (label.toList.rtakeWhile (· != '/')))

lemma Naming.slash_not_mem_readLabel (label : String) :
    '/' ∉ (readLabel label).2.toList := by
  intro hmem
  rw [readLabel, String.toList_ofList] at hmem
  simpa using List.mem_rtakeWhile_imp hmem

lemma Naming.groupVersionLabel_readLabel {label : String} (h : '/' ∈ label.toList) :
    groupVersionLabel (readLabel label).1 (readLabel label).2 = label := by
  have hne : label.toList.rdropWhile (· != '/') ≠ [] := by
    intro hnil
    simpa using List.rdropWhile_eq_nil_iff.mp hnil '/' h
  have hlast : (label.toList.rdropWhile (· != '/')).getLast hne = '/' := by
    simpa using List.rdropWhile_last_not (· != '/') label.toList hne
  have hfront : (label.toList.rdropWhile (· != '/')).dropLast ++ ['/'] =
      label.toList.rdropWhile (· != '/') :=
    (congrArg (_ ++ [·]) hlast.symm).trans (List.dropLast_append_getLast hne)
  refine String.toList_injective ?_
  rw [groupVersionLabel, String.toList_append, String.toList_append]
  simp only [readLabel, String.toList_ofList]
  exact (congrArg (· ++ _) hfront).trans List.rdropWhile_append_rtakeWhile

lemma Naming.slash_mem_groupVersionLabel (g v : String) :
    '/' ∈ (groupVersionLabel g v).toList := by
  simp [groupVersionLabel]

/-- The same group-version is read just if the version holds no slash. -/
lemma Naming.readLabel_eq_iff {g v : String} :
    readLabel (groupVersionLabel g v) = (g, v) ↔ '/' ∉ v.toList := by
  have hread := slash_not_mem_readLabel (groupVersionLabel g v)
  constructor
  · intro h
    rwa [h] at hread
  · intro hv
    obtain ⟨hg, hv⟩ := (groupVersionLabel_inj hread hv).mp
      (groupVersionLabel_readLabel (slash_mem_groupVersionLabel g v))
    exact Prod.ext hg hv

/-- The resource that is looked for under an identity. -/
def Spec.Identity.named (id : Identity) : Identity :=
  ⟨(Naming.readLabel id.groupVersion).1, (Naming.readLabel id.groupVersion).2, id.kind⟩

lemma Spec.Identity.named_groupVersion (id : Identity) :
    id.named.groupVersion = id.groupVersion :=
  Naming.groupVersionLabel_readLabel (Naming.slash_mem_groupVersionLabel id.group id.version)

lemma Spec.Identity.slash_not_mem_named (id : Identity) : '/' ∉ id.named.version.toList :=
  Naming.slash_not_mem_readLabel id.groupVersion

lemma Spec.Identity.named_eq_self_iff {id : Identity} :
    id.named = id ↔ '/' ∉ id.version.toList := by
  rw [← @Naming.readLabel_eq_iff id.group, Prod.ext_iff]
  constructor
  · intro h
    exact ⟨congrArg group h, congrArg version h⟩
  · rintro ⟨hg, hv⟩
    exact Tree.identity_ext hg hv rfl

namespace Tree

variable {layout : Layout} {specs : List Resource} {t : Tree}

/-! ### Looking up -/

lemma find?_named (t : Tree) (id : Identity) : t.find? id.named = t.find? id := by
  rw [find?, find?, id.named_groupVersion]
  rfl

lemma branch?_readLabel (t : Tree) (g v : String) :
    t.branch? (Naming.readLabel (Naming.groupVersionLabel g v)).1
      (Naming.readLabel (Naming.groupVersionLabel g v)).2 = t.branch? g v := by
  rw [branch?, branch?,
    Naming.groupVersionLabel_readLabel (Naming.slash_mem_groupVersionLabel g v)]

/-- What is found in a tree that is made of some specs, whatever is looked for. -/
structure Finds (specs : List Resource) (t : Tree) : Prop where
  resource : ∀ id, (∃ e, t.find? id = some e) ↔ ∃ s ∈ specs, s.identity = id.named
  resource_key : ∀ id e, t.find? id = some e → e.key = id.named
  resource_exact : ∀ id e, t.find? id = some e → (e.key = id ↔ '/' ∉ id.version.toList)
  branch : ∀ g v, (∃ b, t.branch? g v = some b) ↔
    ∃ s ∈ specs, (s.identity.group, s.identity.version) =
      Naming.readLabel (Naming.groupVersionLabel g v)
  branch_key : ∀ g v b, t.branch? g v = some b →
    (b.group, b.version) = Naming.readLabel (Naming.groupVersionLabel g v)
  branch_exact : ∀ g v b, t.branch? g v = some b →
    ((b.group, b.version) = (g, v) ↔ '/' ∉ v.toList)

section Built

variable {links : List Link} (m : IsBuilt layout specs t links)

include m

lemma IsBuilt.keyed_withLinks : IsKeyed (t.withLinks links) :=
  m.unlinked.keyed.mapped (keepsKeys_withLinks links)

lemma IsBuilt.exists_find?_iff {id : Identity} (hid : '/' ∉ id.version.toList) :
    (∃ e, (t.withLinks links).find? id = some e) ↔ ∃ s ∈ specs, s.identity = id := by
  rw [← Option.isSome_iff_exists, m.keyed_withLinks.find?_isSome_iff hid, exists_withLinks_iff,
    m.unlinked.exists_entry_iff]
  constructor
  · rintro ⟨o, ho, rfl⟩
    exact ⟨o, ho.mem, rfl⟩
  · rintro ⟨s, hs, rfl⟩
    exact registers_of_clashes m.clashes hs

lemma IsBuilt.exists_branch?_iff {g v : String} (hv : '/' ∉ v.toList) :
    (∃ b, (t.withLinks links).branch? g v = some b) ↔
      ∃ s ∈ specs, (s.identity.group, s.identity.version) = (g, v) := by
  have hfound : ∀ b, (t.withLinks links).branch? g v = some b ↔
      b ∈ (t.withLinks links).branches ∧ b.group = g ∧ b.version = v :=
    fun b => m.keyed_withLinks.branch?_eq_some_iff hv
  simp only [hfound, Prod.mk.injEq]
  constructor
  · rintro ⟨b, hb, rfl, rfl⟩
    obtain ⟨o, ho, hg, hv, -⟩ := m.unlinked.owner_withLinks hb
    exact ⟨o, ho, hg, hv⟩
  · rintro ⟨s, hs, rfl, rfl⟩
    obtain ⟨o, ho, hid⟩ := registers_of_clashes m.clashes hs
    obtain ⟨b, hb, hg, hv⟩ := m.unlinked.branch o ho
    exact ⟨_, List.mem_map_of_mem hb, hid ▸ hg, hid ▸ hv⟩

lemma IsBuilt.finds : Finds specs (t.withLinks links) := by
  have hkey : ∀ id e, (t.withLinks links).find? id = some e → e.key = id.named := by
    intro id e h
    rw [← find?_named] at h
    exact (m.keyed_withLinks.mem_of_find? id.slash_not_mem_named h).2
  have hbranch : ∀ g v b, (t.withLinks links).branch? g v = some b →
      (b.group, b.version) = Naming.readLabel (Naming.groupVersionLabel g v) := by
    intro g v b h
    rw [← branch?_readLabel,
      m.keyed_withLinks.branch?_eq_some_iff (Naming.slash_not_mem_readLabel _)] at h
    exact Prod.ext h.2.1 h.2.2
  refine ⟨fun id => ?_, hkey, fun id e h => ?_, fun g v => ?_, hbranch, fun g v b h => ?_⟩
  · rw [← find?_named]
    exact m.exists_find?_iff id.slash_not_mem_named
  · rw [hkey id e h, Identity.named_eq_self_iff]
  · rw [← branch?_readLabel]
    exact m.exists_branch?_iff (Naming.slash_not_mem_readLabel _)
  · rw [hbranch g v b h, Naming.readLabel_eq_iff]

end Built

/-- **Finding.** Whatever is looked for in a built tree, it is found just if some spec is of the
resource, or the group-version, that is read from the text of its group-version, and what is found
is that one. It is the one that was asked for just if the version that was asked for holds no
slash. -/
theorem build_finds (layout : Layout) (specs : List Resource) (t : Tree)
    (h : (build layout specs).result = .ok t) : Finds specs t := by
  obtain ⟨t₀, links, m, rfl⟩ := build_isBuilt h
  exact m.finds

/-- Pods of a group and of another one that begins with it and with a slash. -/
def slashedGroups : List Resource := [.plain "a" "v1" "Pod" "pods", .plain "a/b" "v1" "Pod" "pods"]

/-- The pods are found under their own identities, and those of the second group under one more. -/
theorem slashedGroups_finds : ∃ t, (build {} slashedGroups).result = .ok t ∧
    Finds slashedGroups t ∧
    (∃ e, t.find? ⟨"a", "v1", "Pod"⟩ = some e ∧ e.key = ⟨"a", "v1", "Pod"⟩) ∧
    (∃ e, t.find? ⟨"a", "b/v1", "Pod"⟩ = some e ∧ e.key = ⟨"a/b", "v1", "Pod"⟩) ∧
    ∀ e, t.find? ⟨"b", "a/v1", "Pod"⟩ ≠ some e := by
  obtain ⟨t, ht⟩ := exists_of_isOk slashedGroups (by decide +kernel)
  have hfinds := build_finds {} slashedGroups t ht
  have hfound : ∀ id : Identity, (∃ s ∈ slashedGroups, s.identity = id.named) →
      ∃ e, t.find? id = some e ∧ e.key = id.named := by
    intro id hid
    obtain ⟨e, he⟩ := (hfinds.resource id).mpr hid
    exact ⟨e, he, hfinds.resource_key id e he⟩
  refine ⟨t, ht, hfinds, hfound ⟨"a", "v1", "Pod"⟩ (by decide),
    hfound ⟨"a", "b/v1", "Pod"⟩ (by decide), fun e he => ?_⟩
  exact absurd ((hfinds.resource ⟨"b", "a/v1", "Pod"⟩).mp ⟨e, he⟩) (by decide)

/-- A resource that no spec is of can be looked for so that another one is found. -/
theorem slashedGroups_find_another : ∃ t, (build {} slashedGroups).result = .ok t ∧
    ∃ e, t.find? ⟨"a", "b/v1", "Pod"⟩ = some e ∧ e.key ≠ ⟨"a", "b/v1", "Pod"⟩ ∧
      ¬ ∃ s ∈ slashedGroups, s.identity = ⟨"a", "b/v1", "Pod"⟩ := by
  obtain ⟨t, ht, hkey⟩ := exists_of_any slashedGroups
    (fun t => (t.find? ⟨"a", "b/v1", "Pod"⟩).map Entry.key = some ⟨"a/b", "v1", "Pod"⟩)
    (by decide +kernel)
  obtain ⟨e, he, hother⟩ := Option.map_eq_some_iff.mp (of_decide_eq_true hkey)
  exact ⟨t, ht, e, he, by rw [hother]; decide, by decide⟩

end Tree

end ClientGen
