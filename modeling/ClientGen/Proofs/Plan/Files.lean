import ClientGen.Plan
import ClientGen.Proofs.Tree.Built

/-!
Where the files of a plan lie. The root client is directly below the root, and every other file in
the directory of its group-version. The name of a file is a stem of small letters and digits with an
ending that comes from the role of the file, so that stem and role can be read off the name.
-/

namespace ClientGen

open Spec ClientGen.Tree

def Role.ending : Role → String
  | .rootClient => ".rs"
  | .groupVersionClient => ".rs"
  | .client => "_client.rs"
  | .reader => "_reader.rs"
  | .object => ".rs"
  | .reference => "_reference.rs"

def PlannedFile.stem (f : PlannedFile) : String :=
  match f.identity? with
  | some id => Naming.stem id.kind
  | none => "client"

def PlannedFile.name (f : PlannedFile) : String := f.stem ++ f.role.ending

/-- A file lies in a directory that is given by its names below the root. -/
structure PlannedFile.LiesIn (root : String) (dirs : List String) (f : PlannedFile) : Prop where
  destination : ∃ dir, f.destination = Path.join dir f.name ∧
    Path.components dir = Path.components root ++ dirs
  stem_ne : f.stem ≠ ""
  stem_small : ∀ c ∈ f.stem.toList, Text.isSmall c = true

/-! ### Names of files -/

lemma Role.ending_cons (role : Role) :
    ∃ c cs, role.ending.toList = c :: cs ∧ Text.isSmall c = false ∧ '/' ∉ role.ending.toList := by
  cases role <;> exact ⟨_, _, rfl, by decide, by decide⟩

/-- The stem and the ending can be read off a name. -/
lemma stem_append_inj {as as' bs bs' : List Char} (h : ∀ c ∈ as, Text.isSmall c = true)
    (h' : ∀ c ∈ as', Text.isSmall c = true)
    (hb : ∀ c ∈ bs.head?, Text.isSmall c = false) (hb' : ∀ c ∈ bs'.head?, Text.isSmall c = false)
    (heq : as ++ bs = as' ++ bs') : as = as' ∧ bs = bs' := by
  have hnone : ∀ {ds : List Char}, (∀ c ∈ ds.head?, Text.isSmall c = false) →
      ds.takeWhile Text.isSmall = [] := by
    intro ds hd
    rcases ds with _ | ⟨d, ds⟩
    · rfl
    · rw [List.takeWhile_cons, hd d rfl]
      rfl
  have htake := congrArg (List.takeWhile Text.isSmall) heq
  rw [List.takeWhile_append_of_pos h, List.takeWhile_append_of_pos h', hnone hb, hnone hb',
    List.append_nil, List.append_nil] at htake
  subst htake
  exact ⟨rfl, List.append_cancel_left heq⟩

lemma Role.name_inj {stem stem' : String} {role role' : Role}
    (h : ∀ c ∈ stem.toList, Text.isSmall c = true) (h' : ∀ c ∈ stem'.toList, Text.isSmall c = true)
    (heq : stem ++ role.ending = stem' ++ role'.ending) :
    stem = stem' ∧ role.ending = role'.ending := by
  have hend : ∀ role : Role, ∀ c ∈ role.ending.toList.head?, Text.isSmall c = false := by
    intro role c hc
    obtain ⟨d, ds, hd, hs, -⟩ := role.ending_cons
    rw [hd, List.head?_cons, Option.mem_some_iff] at hc
    rwa [← hc]
  have hl := congrArg String.toList heq
  rw [String.toList_append, String.toList_append] at hl
  obtain ⟨hs, he⟩ := stem_append_inj h h' (hend _) (hend _) hl
  exact ⟨String.toList_injective hs, String.toList_injective he⟩

lemma PlannedFile.LiesIn.name_inj {root : String} {dirs dirs' : List String} {f g : PlannedFile}
    (hf : f.LiesIn root dirs) (hg : g.LiesIn root dirs') (h : f.name = g.name) :
    f.stem = g.stem ∧ f.role.ending = g.role.ending :=
  Role.name_inj hf.stem_small hg.stem_small h

lemma isName_file {stem : String} (hne : stem ≠ "")
    (hsmall : ∀ c ∈ stem.toList, Text.isSmall c = true) (role : Role) :
    Path.IsName (stem ++ role.ending) := by
  obtain ⟨c, cs, hc⟩ := List.exists_cons_of_ne_nil (String.toList_eq_nil_iff.not.mpr hne)
  have hfirst := hsmall c (by simp [hc])
  have hcons : (stem ++ role.ending).toList = c :: (cs ++ role.ending.toList) := by
    rw [String.toList_append, hc, List.cons_append]
  have hdot : ∀ {s : String} {ds : List Char}, s.toList = '.' :: ds → stem ++ role.ending ≠ s := by
    intro s ds hs he
    rw [he, hs] at hcons
    rw [← (List.cons.inj hcons).1] at hfirst
    exact absurd hfirst (by decide)
  refine ⟨fun he => ?_, hdot (s := ".") rfl, hdot (s := "..") rfl, ?_⟩
  · rw [he] at hcons
    cases hcons
  · rw [String.toList_append, List.mem_append]
    rintro (hm | hm)
    · exact absurd (hsmall _ hm) (by decide)
    · obtain ⟨-, -, -, -, hno⟩ := role.ending_cons
      exact hno hm

lemma isName_clientFile : Path.IsName Naming.clientFile :=
  ⟨by decide, by decide, by decide, by decide⟩

lemma PlannedFile.LiesIn.isName {root : String} {dirs : List String} {f : PlannedFile}
    (h : f.LiesIn root dirs) : Path.IsName f.name :=
  isName_file h.stem_ne h.stem_small f.role

section LiesIn

variable {root : String} {dirs : List String} {f : PlannedFile} (h : f.LiesIn root dirs)

include h

lemma PlannedFile.LiesIn.components :
    Path.components f.destination = Path.components root ++ (dirs ++ [f.name]) := by
  obtain ⟨dir, hd, hc⟩ := h.destination
  rw [hd, Path.components_join h.isName, hc, List.append_assoc]

lemma PlannedFile.LiesIn.below : Path.below root f.destination = dirs ++ [f.name] :=
  Path.below_eq h.components

end LiesIn

/-! ### The files of a tree -/

def Tree.Branch.dirs (b : Branch) : List String := [Naming.groupSegment b.group, b.version]

def Tree.rootFile (t : Tree) : PlannedFile :=
  ⟨.rootClient, t.file, none,
    .root t.package t.clientType t.location (t.branches.map Branch.summary)⟩

def Tree.Branch.clientFile (rootPackage : String) (b : Branch) : PlannedFile :=
  ⟨.groupVersionClient, b.file, none,
    .groupVersion rootPackage b.summary (b.entries.map Entry.summary)⟩

lemma isSmall_client : "client".toList.all Text.isSmall = true := by decide

lemma rootFile_name (t : Tree) : t.rootFile.name = Naming.clientFile := by
  simp only [PlannedFile.name, PlannedFile.stem, Tree.rootFile, Role.ending]
  rfl

lemma clientFile_name (rootPackage : String) (b : Branch) :
    (b.clientFile rootPackage).name = Naming.clientFile := by
  simp only [PlannedFile.name, PlannedFile.stem, Branch.clientFile, Role.ending]
  rfl

lemma plan_eq (t : Tree) : t.plan = t.rootFile :: t.branches.flatMap (Branch.plan t.package) := rfl

lemma branch_plan_eq (rootPackage : String) (b : Branch) : b.plan rootPackage =
    b.clientFile rootPackage :: b.entries.flatMap (Entry.plan rootPackage b) := rfl

lemma mem_plan {t : Tree} {f : PlannedFile} :
    f ∈ t.plan ↔ f = t.rootFile ∨ ∃ b ∈ t.branches, f ∈ b.plan t.package := by
  rw [plan_eq, List.mem_cons, List.mem_flatMap]

lemma mem_branch_plan {rootPackage : String} {b : Branch} {f : PlannedFile} :
    f ∈ b.plan rootPackage ↔
      f = b.clientFile rootPackage ∨ ∃ e ∈ b.entries, f ∈ e.plan rootPackage b := by
  rw [branch_plan_eq, List.mem_cons, List.mem_flatMap]

def Tree.Entry.file (rootPackage : String) (b : Branch) (e : Entry) (role : Role)
    (destination : String) (part : Part) : PlannedFile :=
  ⟨role, destination, some e.key,
    .resource rootPackage b.summary e.names e.scope.isNamespaced part⟩

lemma mem_entry_plan {rootPackage : String} {b : Branch} {e : Entry} {f : PlannedFile} :
    f ∈ e.plan rootPackage b ↔
      f = e.file rootPackage b .client e.client.file (.client e.client) ∨
      f = e.file rootPackage b .reader e.reader.file (.reader e.reader) ∨
      f = e.file rootPackage b .object e.object.file (.object e.object) ∨
      ∃ r, e.reference? = some r ∧
        e.file rootPackage b .reference r.file (.reference r) = f := by
  simp only [Entry.plan, List.mem_append, List.mem_cons, List.not_mem_nil, or_false, or_assoc,
    Option.mem_toList, Option.map_eq_some_iff, Entry.file]

section Entry

variable {layout : Layout} {b : Branch} {o : Resource} {links : List Link} {e : Entry}

lemma roleFile_eq (directory kind : String) {role ending : String}
    (h : "_" ++ role ++ ".rs" = ending) :
    Tree.roleFile directory kind role = Path.join directory (Naming.stem kind ++ ending) := by
  rw [← h, Tree.roleFile, Naming.roleFile, String.append_assoc, String.append_assoc,
    String.append_assoc]

@[simp] lemma of_key : (Entry.of layout b o).key = o.identity := rfl

lemma of_client_file (layout : Layout) (b : Branch) (o : Resource) :
    (Entry.of layout b o).client.file =
      Path.join b.location (Naming.stem o.identity.kind ++ "_client.rs") := by
  simp only [Entry.of, ClientPart.of]
  exact roleFile_eq _ _ rfl

lemma of_reader_file (layout : Layout) (b : Branch) (o : Resource) :
    (Entry.of layout b o).reader.file =
      Path.join b.location (Naming.stem o.identity.kind ++ "_reader.rs") := by
  simp only [Entry.of, ReaderPart.of]
  exact roleFile_eq _ _ rfl

lemma of_object_file (layout : Layout) (b : Branch) (o : Resource) :
    (Entry.of layout b o).object.file =
      Path.join b.location (Naming.stem o.identity.kind ++ ".rs") := by
  simp only [Entry.of, ObjectPart.of, Naming.objectFile]

lemma of_reference_file (b : Branch) (e : Entry) : (ReferencePart.of b e).file =
    Path.join b.location (Naming.stem e.names.kind ++ "_reference.rs") := by
  simp only [ReferencePart.of]
  exact roleFile_eq _ _ rfl

@[simp] lemma of_names_kind : (Entry.of layout b o).names.kind = o.identity.kind := rfl

lemma entry_plan {rootPackage : String} {c : Branch} {f : PlannedFile}
    (hf : f ∈ ((Entry.of layout b o).withLinks links b).plan rootPackage c) :
    f.identity? = some o.identity ∧ f.destination = Path.join b.location f.name := by
  rcases mem_entry_plan.mp hf with rfl | rfl | rfl | ⟨r, hr, rfl⟩
  · simp only [Entry.file, PlannedFile.name, PlannedFile.stem, Role.ending, withLinks_key, of_key,
      withLinks_client, of_client_file, and_self]
  · simp only [Entry.file, PlannedFile.name, PlannedFile.stem, Role.ending, withLinks_key, of_key,
      withLinks_reader, of_reader_file, and_self]
  · simp only [Entry.file, PlannedFile.name, PlannedFile.stem, Role.ending, withLinks_key, of_key,
      withLinks_object, of_object_file, and_self]
  · obtain ⟨-, rfl⟩ := withLinks_reference?_eq_some_iff.mp hr
    simp only [Entry.file, PlannedFile.name, PlannedFile.stem, Role.ending, withLinks_key, of_key,
      of_names_kind, of_reference_file, and_self]

lemma entry_plan_nodup {rootPackage : String} :
    ((e.plan rootPackage b).map PlannedFile.role).Nodup := by
  rcases h : e.reference? with _ | r <;> simp [Entry.plan, h]

lemma role_of_entry_plan {rootPackage : String} {f : PlannedFile}
    (hf : f ∈ e.plan rootPackage b) : f.role ∈ [Role.client, .reader, .object, .reference] := by
  rcases mem_entry_plan.mp hf with rfl | rfl | rfl | ⟨r, -, rfl⟩ <;> simp [Entry.file]

end Entry

/-! ### The files of a built tree -/

section Built

variable {layout : Layout} {specs : List Resource} {t : Tree} {links : List Link} {b : Branch}
  {rootPackage : String} {f : PlannedFile} (u : IsUnlinked layout specs t)

include u

lemma rootFile_liesIn : (t.withLinks links).rootFile.LiesIn layout.rootPath [] where
  destination := by
    refine ⟨layout.rootPath, ?_, by simp⟩
    rw [rootFile_name]
    exact congrArg Tree.file u.root
  stem_ne := by simp [PlannedFile.stem, Tree.rootFile]
  stem_small := List.all_eq_true.mp isSmall_client

lemma branch_plan_destination (hb : b ∈ (t.withLinks links).branches)
    (hf : f ∈ b.plan rootPackage) : f.destination = Path.join b.location f.name := by
  rcases mem_branch_plan.mp hf with rfl | ⟨e, he, hf⟩
  · rw [clientFile_name]
    exact (u.frame_withLinks hb).file
  · obtain ⟨o, -, -, -, rfl⟩ := (u.entry_withLinks hb).mp he
    exact (entry_plan hf).2

variable (hvalid : ∀ s ∈ specs, s.IsValid) (hb : b ∈ (t.withLinks links).branches)

include hvalid hb

lemma components_location :
    Path.components b.location = Path.components layout.rootPath ++ b.dirs := by
  obtain ⟨o, ho, hg, hv, -⟩ := u.owner_withLinks hb
  have hid := (hvalid o ho).identity
  rw [(u.frame_withLinks hb).location, ← hg, ← hv,
    components_groupVersionDir hid.isName_segment hid.isName_version, Branch.dirs, hg, hv]

lemma clientFile_liesIn : (b.clientFile rootPackage).LiesIn layout.rootPath b.dirs where
  destination := by
    refine ⟨b.location, ?_, components_location u hvalid hb⟩
    rw [clientFile_name]
    exact (u.frame_withLinks hb).file
  stem_ne := by simp [PlannedFile.stem, Branch.clientFile]
  stem_small := List.all_eq_true.mp isSmall_client

lemma entry_plan_liesIn {e : Entry} (he : e ∈ b.entries) (hf : f ∈ e.plan rootPackage b) :
    f.LiesIn layout.rootPath b.dirs ∧ ∃ o, Registers specs o ∧
      o.identity.group = b.group ∧ o.identity.version = b.version ∧
      e = (Entry.of layout b o).withLinks links b ∧ f.stem = Naming.stem o.identity.kind := by
  obtain ⟨o, ho, hg, hv, rfl⟩ := (u.entry_withLinks hb).mp he
  obtain ⟨hid, hdest⟩ := entry_plan hf
  have hstem : f.stem = Naming.stem o.identity.kind := by rw [PlannedFile.stem, hid]
  have hio := (hvalid o ho.mem).identity
  refine ⟨⟨⟨b.location, hdest, components_location u hvalid hb⟩, ?_, ?_⟩, o, ho, hg, hv, rfl, hstem⟩
  · rw [hstem]
    exact hio.stem_ne_empty
  · rw [hstem]
    exact hio.isSmall_stem

lemma branch_plan_liesIn (hf : f ∈ b.plan rootPackage) : f.LiesIn layout.rootPath b.dirs := by
  rcases mem_branch_plan.mp hf with rfl | ⟨e, he, hf⟩
  · exact clientFile_liesIn u hvalid hb
  · exact (entry_plan_liesIn u hvalid hb he hf).1

end Built

end ClientGen
