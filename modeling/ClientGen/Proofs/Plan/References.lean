import ClientGen.Proofs.Plan.Files

/-!
The files of a plan refer only to what other files of the plan define. The module that a file refers
to is computed from packages and stems, the place of a file from directories and file names, and
here the two are shown to meet: the module tree mirrors the directories.
-/

namespace ClientGen

open Spec ClientGen.Tree

/-- Something that a module can define. -/
inductive Item where
  | type (name : String)
  | lookup (name : String)
  deriving DecidableEq

/-- A file name without `.rs`. -/
def bareName (name : String) : String :=
  match name.toList.reverse with
  | 's' :: 'r' :: '.' :: rest => String.ofList rest.reverse
  | _ => name

/-- The module of a file below the root: the directories on the way to it are segments. -/
def moduleOf (layout : Layout) (destination : String) : String :=
  let names := Path.below layout.rootPath destination
  Naming.modulePath (layout.rootPackage :: (names.dropLast ++ names.getLast?.toList.map bareName))

/-- The names of the module of a file: the root package, the directories on the way to the file, and
its own name without `.rs`. -/
def moduleNames (layout : Layout) (destination : String) : List String :=
  let names := Path.below layout.rootPath destination
  layout.rootPackage :: (names.dropLast ++ names.getLast?.toList.map bareName)

/-- What the part of an entry refers to, with the module that it is expected in. -/
def Part.uses : Part → List (String × Item)
  | .client p =>
    [(p.objectModule, .type p.objectType), (p.readerModule, .type p.readerType)]
      ++ p.children.flatMap fun c =>
        [(c.objectModule, .type c.typeName), (c.referenceModule, .lookup c.lookup)]
  | .reader p => [(p.objectModule, .type p.objectType)]
  | .object _ => []
  | .reference p =>
    (p.objectModule, .type p.objectType)
      :: p.owners.map fun o => (o.objectModule, .type o.typeName)

def Part.defines : Part → List Item
  | .client p => [.type p.typeName]
  | .reader p => [.type p.typeName]
  | .object p => [.type p.typeName]
  | .reference p => p.owners.map fun o => .lookup o.lookup

def GroupVersionSummary.use (s : GroupVersionSummary) : String × Item :=
  (s.clientModule, .type s.clientType)

def ResourceSummary.use (s : ResourceSummary) : String × Item :=
  (s.clientModule, .type s.clientType)

/-- What a file refers to, with the module that it is expected in. -/
def Context.uses : Context → List (String × Item)
  | .root _ _ _ groupVersions => groupVersions.map GroupVersionSummary.use
  | .groupVersion _ summary resources => summary.use :: resources.map ResourceSummary.use
  | .resource _ summary _ _ part => summary.use :: part.uses

def Context.defines : Context → List Item
  | .root _ clientType _ _ => [.type clientType]
  | .groupVersion _ summary _ => [.type summary.clientType]
  | .resource _ _ _ _ part => part.defines

/-- Some file of the plan defines what is referred to, in the module where it is expected. -/
def Tree.Defines (layout : Layout) (t : Tree) (use : String × Item) : Prop :=
  ∃ g ∈ t.plan, moduleOf layout g.destination = use.1 ∧ use.2 ∈ g.context.defines

/-! ### Modules -/

lemma bareName_append (s : String) : bareName (s ++ ".rs") = s := by
  have h : (s ++ ".rs").toList.reverse = 's' :: 'r' :: '.' :: s.toList.reverse := by
    rw [String.toList_append, List.reverse_append]
    rfl
  rw [bareName, h]
  simp

def Role.bareEnding : Role → String
  | .rootClient => ""
  | .groupVersionClient => ""
  | .client => "_client"
  | .reader => "_reader"
  | .object => ""
  | .reference => "_reference"

lemma Role.ending_eq_bareEnding (role : Role) : role.ending = role.bareEnding ++ ".rs" := by
  cases role <;> rfl

lemma bareName_name (f : PlannedFile) : bareName f.name = f.stem ++ f.role.bareEnding := by
  rw [PlannedFile.name, f.role.ending_eq_bareEnding, ← String.append_assoc, bareName_append]

lemma PlannedFile.name_eq_bareName (f : PlannedFile) : f.name = bareName f.name ++ ".rs" := by
  rw [bareName_name, String.append_assoc, ← f.role.ending_eq_bareEnding, PlannedFile.name]

lemma moduleOf_eq_modulePath (layout : Layout) (destination : String) :
    moduleOf layout destination = Naming.modulePath (moduleNames layout destination) := rfl

lemma PlannedFile.LiesIn.moduleNames {layout : Layout} {dirs : List String} {f : PlannedFile}
    (h : f.LiesIn layout.rootPath dirs) :
    moduleNames layout f.destination = layout.rootPackage :: (dirs ++ [bareName f.name]) := by
  rw [ClientGen.moduleNames, h.below, List.dropLast_concat, List.getLast?_concat,
    Option.toList_some, List.map_singleton]

lemma PlannedFile.LiesIn.moduleOf {layout : Layout} {dirs : List String} {f : PlannedFile}
    (h : f.LiesIn layout.rootPath dirs) : moduleOf layout f.destination =
      Naming.modulePath (layout.rootPackage :: (dirs ++ [f.stem ++ f.role.bareEnding])) := by
  rw [moduleOf_eq_modulePath, h.moduleNames, bareName_name]

section Entry

lemma roleModule_eq (package stem : String) {role ending : String} (h : "_" ++ role = ending) :
    roleModule package stem role = Naming.modulePath [package, stem ++ ending] := by
  rw [← h, roleModule, String.append_assoc]

variable (layout : Layout) (b : Branch) (o : Resource)

lemma of_client_module : (Entry.of layout b o).client.module =
    Naming.modulePath [b.package, Naming.stem o.identity.kind ++ "_client"] := by
  simp only [Entry.of, ClientPart.of]
  exact roleModule_eq _ _ rfl

lemma of_reader_module : (Entry.of layout b o).reader.module =
    Naming.modulePath [b.package, Naming.stem o.identity.kind ++ "_reader"] := by
  simp only [Entry.of, ReaderPart.of]
  exact roleModule_eq _ _ rfl

lemma of_object_module : (Entry.of layout b o).object.module =
    Naming.modulePath [b.package, Naming.stem o.identity.kind] := by
  simp only [Entry.of, ObjectPart.of, Names.of]

lemma of_reference_module : (ReferencePart.of b (Entry.of layout b o)).module =
    Naming.modulePath [b.package, Naming.stem o.identity.kind ++ "_reference"] := by
  simp only [ReferencePart.of]
  exact roleModule_eq _ _ rfl

/-- The client of an entry uses its own object and its own reader, and then what its links name. -/
lemma withLinks_client_uses (links : List Link) :
    (Part.client ((Entry.of layout b o).withLinks links b).client).uses =
      [((Entry.of layout b o).object.module, .type (Entry.of layout b o).object.typeName),
        ((Entry.of layout b o).reader.module, .type (Entry.of layout b o).reader.typeName)]
      ++ ((linksFrom links o.identity).map Link.toChild).flatMap fun c =>
        [(c.objectModule, .type c.typeName), (c.referenceModule, .lookup c.lookup)] := by
  simp only [Part.uses, withLinks_client, of_key]
  simp only [Entry.of, ClientPart.of]

lemma of_reader_uses : (Part.reader (Entry.of layout b o).reader).uses =
    [((Entry.of layout b o).object.module, .type (Entry.of layout b o).object.typeName)] := by
  simp only [Part.uses, Entry.of, ReaderPart.of]

lemma of_reference_uses (e : Entry) (owners : List Owner) :
    (Part.reference { ReferencePart.of b e with owners := owners }).uses =
      (e.object.module, .type e.object.typeName)
        :: owners.map fun o => (o.objectModule, .type o.typeName) := by
  simp only [Part.uses, ReferencePart.of]

end Entry

/-! ### What a built tree defines -/

section Built

variable {layout : Layout} {specs : List Resource} {t : Tree} {links : List Link}
  (u : IsUnlinked layout specs t) (hvalid : ∀ s ∈ specs, s.IsValid)

include u hvalid

section Branch

variable {b : Branch} (hb : b ∈ (t.withLinks links).branches)

include hb

lemma branch_moduleOf {rootPackage : String} {f : PlannedFile} (hf : f ∈ b.plan rootPackage) :
    moduleOf layout f.destination =
      Naming.modulePath [b.package, f.stem ++ f.role.bareEnding] := by
  rw [(branch_plan_liesIn u hvalid hb hf).moduleOf, (u.frame_withLinks hb).package,
    Naming.groupVersionModule, Naming.modulePath_concat]
  rfl

lemma defines_branch_client : (t.withLinks links).Defines layout b.summary.use := by
  have hf : b.clientFile (t.withLinks links).package ∈ b.plan (t.withLinks links).package :=
    mem_branch_plan.mpr (Or.inl rfl)
  refine ⟨b.clientFile (t.withLinks links).package, mem_plan.mpr (Or.inr ⟨b, hb, hf⟩), ?_, ?_⟩
  · rw [branch_moduleOf u hvalid hb hf]
    simp only [PlannedFile.stem, Branch.clientFile, Role.bareEnding, String.append_empty,
      GroupVersionSummary.use, Branch.summary, clientModule]
  · simp only [Branch.clientFile, Context.defines, GroupVersionSummary.use, List.mem_singleton]

lemma defines_of_part {e : Entry} (he : e ∈ b.entries) {role : Role} {destination : String}
    {part : Part} {m : String} {item : Item}
    (hf : e.file (t.withLinks links).package b role destination part ∈
      e.plan (t.withLinks links).package b)
    (hm : m = Naming.modulePath [b.package, Naming.stem e.key.kind ++ role.bareEnding])
    (hi : item ∈ part.defines) : (t.withLinks links).Defines layout (m, item) := by
  have hf' := mem_branch_plan.mpr (Or.inr ⟨e, he, hf⟩)
  refine ⟨_, mem_plan.mpr (Or.inr ⟨b, hb, hf'⟩), ?_, hi⟩
  rw [branch_moduleOf u hvalid hb hf', hm]
  simp only [Entry.file, PlannedFile.stem]

variable {e : Entry} (he : e ∈ b.entries)

include he

lemma defines_client :
    (t.withLinks links).Defines layout (e.client.module, .type e.client.typeName) := by
  refine defines_of_part u hvalid hb he (mem_entry_plan.mpr (Or.inl rfl)) ?_
    (List.mem_singleton.mpr rfl)
  obtain ⟨o, -, -, -, rfl⟩ := (u.entry_withLinks hb).mp he
  simp only [withLinks_client, withLinks_key, of_key, of_client_module, Role.bareEnding]

lemma defines_reader :
    (t.withLinks links).Defines layout (e.reader.module, .type e.reader.typeName) := by
  refine defines_of_part u hvalid hb he (mem_entry_plan.mpr (Or.inr (Or.inl rfl))) ?_
    (List.mem_singleton.mpr rfl)
  obtain ⟨o, -, -, -, rfl⟩ := (u.entry_withLinks hb).mp he
  simp only [withLinks_reader, withLinks_key, of_key, of_reader_module, Role.bareEnding]

lemma defines_object :
    (t.withLinks links).Defines layout (e.object.module, .type e.object.typeName) := by
  refine defines_of_part u hvalid hb he (mem_entry_plan.mpr (Or.inr (Or.inr (Or.inl rfl)))) ?_
    (List.mem_singleton.mpr rfl)
  obtain ⟨o, -, -, -, rfl⟩ := (u.entry_withLinks hb).mp he
  simp only [withLinks_object, withLinks_key, of_key, of_object_module, Role.bareEnding,
    String.append_empty]

end Branch

/-! ### Both ends of a link -/

lemma defines_object_of_unlinked {e : Entry} (he : e ∈ t.entries) :
    (t.withLinks links).Defines layout (e.object.module, .type e.object.typeName) := by
  obtain ⟨b, hb, he⟩ := mem_entries.mp he
  exact defines_object (e := e.withLinks links b) u hvalid (List.mem_map_of_mem hb)
    (List.mem_map_of_mem he)

lemma defines_lookup {l : Link} (hl : l ∈ links) (hin : l.In t) :
    (t.withLinks links).Defines layout
      (l.toChild.referenceModule, .lookup l.toChild.lookup) := by
  have hinto : l ∈ linksTo links l.child.key := List.mem_filter.mpr ⟨hl, decide_eq_true rfl⟩
  set b : Branch :=
    { l.branch with entries := l.branch.entries.map (.withLinks links l.branch) } with hb
  obtain ⟨r, hr⟩ : ∃ r, r = { ReferencePart.of b l.child with
      owners := (linksTo links l.child.key).map Link.toOwner } := ⟨_, rfl⟩
  have hreference : (l.child.withLinks links b).reference? = some r :=
    withLinks_reference?_eq_some_iff.mpr ⟨List.ne_nil_of_mem hinto, hr⟩
  refine defines_of_part (b := b) (e := l.child.withLinks links b) u hvalid
    (List.mem_map_of_mem hin.branch) (List.mem_map_of_mem hin.child)
    (mem_entry_plan.mpr (Or.inr (Or.inr (Or.inr ⟨r, hreference, rfl⟩)))) ?_ ?_
  · obtain ⟨o, -, -, -, ho⟩ := (u.entry _ hin.branch _).mp hin.child
    simp only [withLinks_key, Link.toChild, Child.of, ho, of_key, of_reference_module,
      Role.bareEnding, hb]
  · rw [hr]
    exact List.mem_map_of_mem (List.mem_map_of_mem hinto)

lemma defines_uses_of_part (hlinks : ∀ l ∈ links, l.In t) {b : Branch}
    (hb : b ∈ (t.withLinks links).branches) {e : Entry} (he : e ∈ b.entries) {f : PlannedFile}
    (hf : f ∈ e.plan (t.withLinks links).package b) :
    ∀ use ∈ f.context.uses, (t.withLinks links).Defines layout use := by
  have hsummary := defines_branch_client u hvalid hb
  have hobject := defines_object u hvalid hb he
  have hreader := defines_reader u hvalid hb he
  obtain ⟨o, -, -, -, rfl⟩ := (u.entry_withLinks hb).mp he
  rcases mem_entry_plan.mp hf with rfl | rfl | rfl | ⟨r, hr, rfl⟩
  · simp only [Entry.file, Context.uses, withLinks_client_uses, List.mem_cons, List.mem_append,
      List.mem_flatMap, List.not_mem_nil, or_false, forall_eq_or_imp]
    refine ⟨hsummary, ?_⟩
    rintro use ((rfl | rfl) | ⟨c, hc, huse⟩)
    · exact hobject
    · exact hreader
    · obtain ⟨l, hl, rfl⟩ := List.mem_map.mp hc
      have hl := (List.mem_filter.mp hl).1
      have hchild := mem_entries.mpr ⟨l.branch, (hlinks l hl).branch, (hlinks l hl).child⟩
      rcases huse with rfl | rfl
      · exact defines_object_of_unlinked u hvalid hchild
      · exact defines_lookup u hvalid hl (hlinks l hl)
  · simp only [Entry.file, Context.uses, withLinks_reader, of_reader_uses, List.mem_cons,
      List.not_mem_nil, or_false, forall_eq_or_imp, forall_eq]
    exact ⟨hsummary, hobject⟩
  · simp only [Entry.file, Context.uses, Part.uses, List.mem_cons, List.not_mem_nil, or_false,
      forall_eq]
    exact hsummary
  · obtain ⟨-, rfl⟩ := withLinks_reference?_eq_some_iff.mp hr
    simp only [Entry.file, Context.uses, of_reference_uses, List.mem_cons, List.mem_map,
      forall_eq_or_imp]
    refine ⟨hsummary, hobject, ?_⟩
    rintro use ⟨w, ⟨l, hl, rfl⟩, rfl⟩
    exact defines_object_of_unlinked u hvalid (hlinks l (List.mem_filter.mp hl).1).owner

end Built

/-- **References resolve.** Whatever a planned file of a built tree refers to is defined by a
planned file in the module where it is expected. -/
theorem plan_uses_defined (layout : Layout) (specs : List Resource) (t : Tree)
    (h : (build layout specs).result = .ok t) :
    ∀ f ∈ t.plan, ∀ use ∈ f.context.uses, t.Defines layout use := by
  obtain ⟨t₀, links, u, hvalid, hlinks, -, rfl⟩ := build_withLinks h
  intro f hf
  rcases mem_plan.mp hf with rfl | ⟨b, hb, hf⟩
  · simp only [Tree.rootFile, Context.uses, List.mem_map]
    rintro use ⟨s, ⟨b, hb, rfl⟩, rfl⟩
    exact defines_branch_client u hvalid hb
  rcases mem_branch_plan.mp hf with rfl | ⟨e, he, hf⟩
  · simp only [Branch.clientFile, Context.uses, List.mem_cons, List.mem_map, forall_eq_or_imp]
    refine ⟨defines_branch_client u hvalid hb, ?_⟩
    rintro use ⟨s, ⟨e, he, rfl⟩, rfl⟩
    exact defines_client u hvalid hb he
  · exact defines_uses_of_part u hvalid hlinks hb he hf

/-- Resources that own each other refer to nothing that is not there. -/
theorem mutualOwners_uses_defined :
    ∃ t, (build {} mutualOwners).result = .ok t ∧
      (t.plan.flatMap fun f => f.context.uses).length = 29 ∧
      ∀ f ∈ t.plan, ∀ use ∈ f.context.uses, t.Defines {} use := by
  obtain ⟨t, ht⟩ := mutualOwners_built
  have hlength : (match (build {} mutualOwners).result with
      | .ok t => (t.plan.flatMap fun f => f.context.uses).length
      | .error _ => 0) = 29 := by
    decide +kernel
  rw [ht] at hlength
  exact ⟨t, ht, hlength, plan_uses_defined {} mutualOwners t ht⟩

end ClientGen
