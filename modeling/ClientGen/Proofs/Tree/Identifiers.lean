import ClientGen.Proofs.Naming.Identifier
import ClientGen.Proofs.Spec.Grammar
import ClientGen.Proofs.Tree.Acceptance
import ClientGen.Proofs.Tree.GroupVersions

/-!
The names of a built tree in generated code. Whatever is accepted, each name is made of letters,
digits and underscores, and each name that comes from a version, a kind or a plural begins with a
letter. Two things are not looked at: what a group begins with, and whether a name is a keyword. So
it takes both to say which names are legal, and there are accepted lists with names that are not.
-/

namespace ClientGen.Tree

open Spec Naming Text

variable {layout : Layout} {specs : List Resource} {o : Resource}

/-- The names of a group-version. What a segment begins with depends on the group. -/
structure Branch.HasNames (b : Branch) : Prop where
  version : IsLettered b.version
  version_isLegal : IsLegal b.version ↔ b.version ∉ keywords
  segment : IsWord b.segment
  segment_isLegal :
    IsLegal b.segment ↔ groupStartsWithLetter b.group = true ∧ b.segment ∉ keywords
  shortName : IsWord b.shortName
  shortName_isLegal : IsLegal b.shortName ↔ groupStartsWithLetter b.group = true
  clientType : IsWord b.clientType
  clientType_isLegal : IsLegal b.clientType ↔ groupStartsWithLetter b.group = true

/-- The names of a resource. -/
structure Entry.HasNames (e : Entry) : Prop where
  lettered : ∀ name ∈ [e.names.stem, e.names.snake, e.names.pluralSnake, e.names.typeName],
    IsLettered name
  isLegal : ∀ name ∈ [e.names.stem, e.names.snake, e.names.pluralSnake],
    (IsLegal name ↔ name ∉ keywords)
  typeName_isLegal : IsLegal e.names.typeName ↔ e.kind ≠ "Self" ∧ e.kind ≠ "self"
  types : ∀ name ∈ [e.object.markerType, e.reader.typeName, e.client.typeName], IsLegal name

/-! ### Fields -/

lemma exists_of_isIdentifier {s : String} (h : isIdentifier s = true) :
    ∃ c cs, s.toList = c :: cs ∧ c.isAlpha = true ∧ ∀ d ∈ cs, d.isAlphanum = true := by
  rw [isIdentifier] at h
  split at h
  · cases h
  · next c cs hs =>
    rw [Bool.and_eq_true, List.all_eq_true] at h
    exact ⟨c, cs, hs, h.1, h.2⟩

lemma isLettered_of_isVersion {v : String} (h : isVersion v = true) : IsLettered v := by
  rw [isVersion] at h
  split at h
  · cases h
  · next c cs hs =>
    rw [Bool.and_eq_true, List.all_eq_true] at h
    refine isLettered_of_cons hs (isAlpha_iff.mpr (Or.inr h.1)) fun d hd => ?_
    exact isLegalChar_of_isAlphanum (isAlphanum_of_isSmall (h.2 d hd))

lemma isLettered_stem {kind : String} (h : isIdentifier kind = true) : IsLettered (stem kind) := by
  obtain ⟨c, cs, hs, hc, -⟩ := exists_of_isIdentifier h
  have halnum := (isAlphanum_of_mem_identifier h).2
  have hstem := toList_stem halnum
  rw [hs, List.map_cons] at hstem
  refine isLettered_of_cons hstem (isAlpha_toLower hc) fun d hd => ?_
  exact isLegalChar_of_isAlphanum (isAlphanum_of_isSmall
    (isSmall_of_mem_stem halnum (hstem ▸ List.mem_cons_of_mem _ hd)))

lemma isLettered_snake {s : String} (h : isIdentifier s = true) : IsLettered (snake s) := by
  obtain ⟨c, cs, hs, hc, -⟩ := exists_of_isIdentifier h
  have hsnake := toList_snake (isAlphanum_of_mem_identifier h)
  rw [hs, snakeWord] at hsnake
  refine isLettered_of_cons hsnake (isAlpha_toLower hc) fun d hd => ?_
  exact isLegalChar_of_isSegmentChar
    (isSegmentChar_of_mem_snake (hsnake ▸ List.mem_cons_of_mem _ hd))

lemma startsWithLetter_of_isIdentifier {s : String} (h : isIdentifier s = true) :
    startsWithLetter s = true := by
  obtain ⟨c, cs, hs, hc, -⟩ := exists_of_isIdentifier h
  exact startsWithLetter_iff.mpr ⟨c, cs, hs, hc⟩

/-! ### Group-versions and resources -/

lemma isLegalChar_of_mem_pascal {s : String} : ∀ c ∈ (pascal s).toList, isLegalChar c = true :=
  fun _ hc => isLegalChar_of_isAlphanum (isAlphanum_of_mem_pascal hc)

lemma groupVersionAlias_eq (group version : String) :
    groupVersionAlias group version = groupSegment group ++ ("_" ++ version) := by
  rw [groupVersionAlias, String.append_assoc]

/-- A short name is legal as soon as it begins with a letter, since no keyword has an underscore. -/
lemma isLegal_groupVersionAlias {group version : String} (hg : hasName group = true)
    (hv : isVersion version = true) :
    IsWord (groupVersionAlias group version) ∧
      (IsLegal (groupVersionAlias group version) ↔ groupStartsWithLetter group = true) := by
  have hword := isWord_groupSegment hg
  have hbehind : ∀ c ∈ ("_" ++ version).toList, isLegalChar c = true := by
    rw [String.toList_append, List.forall_mem_append]
    exact ⟨List.all_eq_true.mp (by decide), (isLettered_of_isVersion hv).chars⟩
  rw [groupVersionAlias_eq]
  refine ⟨hword.append hbehind, fun hlegal => ?_, fun hletter => ?_⟩
  · by_contra hnot
    have hdigit := startsWithDigit_append (startsWithDigit_groupSegment hg hnot) ("_" ++ version)
    exact not_isLegal_of_startsWithDigit hdigit hlegal
  · rw [← startsWithLetter_groupSegment] at hletter
    have hlettered : IsLettered (groupSegment group) := ⟨hword, hletter⟩
    exact (hlettered.append hbehind).isLegal_of_underscore (by simp)

/-- A client type is legal as soon as it begins with a letter, since no keyword ends like it. -/
lemma isLegal_clientType {group : String} (version : String) (hg : hasName group = true) :
    IsWord (pascal (groupSegment group) ++ pascal version ++ "Client") ∧
      (IsLegal (pascal (groupSegment group) ++ pascal version ++ "Client") ↔
        groupStartsWithLetter group = true) := by
  have hend : ∀ c ∈ "Client".toList, isLegalChar c = true := List.all_eq_true.mp (by decide)
  refine ⟨⟨by simp, ?_⟩, fun hlegal => ?_, fun hletter => ?_⟩
  · rw [String.toList_append, String.toList_append, List.forall_mem_append, List.forall_mem_append]
    exact ⟨⟨isLegalChar_of_mem_pascal, isLegalChar_of_mem_pascal⟩, hend⟩
  · by_contra hnot
    have hdigit := startsWithDigit_pascal (startsWithDigit_groupSegment hg hnot)
    have hdigits := startsWithDigit_append (startsWithDigit_append hdigit (pascal version)) "Client"
    exact not_isLegal_of_startsWithDigit hdigits hlegal
  · rw [← startsWithLetter_groupSegment] at hletter
    have hfront : IsLettered (pascal (groupSegment group) ++ pascal version) :=
      (isLettered_pascal hletter).append isLegalChar_of_mem_pascal
    exact (hfront.append hend).isLegal_of_suffix (by decide)

lemma isLegal_groupSegment {group : String} (hg : hasName group = true) :
    IsLegal (groupSegment group) ↔
      groupStartsWithLetter group = true ∧ groupSegment group ∉ keywords := by
  refine ⟨fun hlegal => ⟨?_, hlegal.no_keyword⟩, fun ⟨hletter, hkeyword⟩ => ?_⟩
  · by_contra hnot
    exact not_isLegal_of_startsWithDigit (startsWithDigit_groupSegment hg hnot) hlegal
  · rw [← startsWithLetter_groupSegment] at hletter
    have hlettered : IsLettered (groupSegment group) := ⟨isWord_groupSegment hg, hletter⟩
    exact hlettered.isLegal_iff.mpr hkeyword

lemma Branch.IsFrame.hasNames {b : Branch} (h : b.IsFrame layout) (hg : hasName b.group = true)
    (hv : isVersion b.version = true) : b.HasNames := by
  obtain ⟨hshort, hshort_legal⟩ := isLegal_groupVersionAlias hg hv
  obtain ⟨htype, htype_legal⟩ := isLegal_clientType b.version hg
  rw [← h.shortName] at hshort hshort_legal
  rw [← h.clientType] at htype htype_legal
  have hversion := isLettered_of_isVersion hv
  refine ⟨hversion, hversion.isLegal_iff, ?_, ?_, hshort, hshort_legal, htype, htype_legal⟩
  · exact h.segment ▸ isWord_groupSegment hg
  · rw [h.segment]
    exact isLegal_groupSegment hg

/-- Of the kinds, only `Self` and `self` give a type that is a keyword. -/
lemma isLegal_pascal_kind {kind : String} (h : isIdentifier kind = true) :
    IsLegal (pascal kind) ↔ kind ≠ "Self" ∧ kind ≠ "self" := by
  have hletter := startsWithLetter_of_isIdentifier h
  have hself : pascal kind = "Self" ↔ kind = "Self" ∨ kind = "self" :=
    pascal_eq_iff 'S' "elf".toList (isAlphanum_of_mem_identifier h) (by decide)
  have hkeyword : "Self" ∈ keywords := by decide
  rw [(isLettered_pascal hletter).isLegal_iff, ← not_or, ← hself]
  exact not_congr ⟨pascal_mem_keywords hletter, fun heq => heq ▸ hkeyword⟩

lemma isLegal_pascal_append {kind : String} (h : isIdentifier kind = true) :
    ∀ suffix ∈ ["Kind", "Reader", "Client"], IsLegal (pascal kind ++ suffix) := by
  intro suffix hmem
  have hchars : ∀ suffix ∈ ["Kind", "Reader", "Client"],
      suffix.toList.all isLegalChar = true := by decide
  have hnone : ∀ suffix ∈ ["Kind", "Reader", "Client"],
      ∀ k ∈ keywords, ¬ suffix.toList <:+ k.toList := by decide
  have hlettered := isLettered_pascal (startsWithLetter_of_isIdentifier h)
  have hword := hlettered.append (List.all_eq_true.mp (hchars suffix hmem))
  exact hword.isLegal_of_suffix (hnone suffix hmem)

lemma hasNames_entry (layout : Layout) (b : Branch) (ls : List Link) (ho : o.IsClean) :
    ((Entry.of layout b o).withLinks ls b).HasNames := by
  have hkind : isIdentifier o.identity.kind = true := ho.isValid.identity.kind
  have hplural := mem_identifiers.mp (Resource.isClean_iff.mp ho).plural
  have htype := isLettered_pascal (startsWithLetter_of_isIdentifier hkind)
  constructor
  case lettered =>
    simp only [List.forall_mem_cons]
    exact ⟨isLettered_stem hkind, isLettered_snake hkind, isLettered_snake hplural, htype,
      List.forall_mem_nil _⟩
  case isLegal =>
    simp only [List.forall_mem_cons]
    exact ⟨(isLettered_stem hkind).isLegal_iff, (isLettered_snake hkind).isLegal_iff,
      (isLettered_snake hplural).isLegal_iff, List.forall_mem_nil _⟩
  case typeName_isLegal => exact isLegal_pascal_kind hkind
  case types => exact List.forall_mem_map.mpr (isLegal_pascal_append hkind)

/-- **Names in generated code.** In a built tree every name is made of letters, digits and
underscores. Versions, stems, and kinds and plurals in snake case are legal names exactly when they
are no keywords, and the type of a kind is legal exactly when the kind is not `Self` or `self`. The
short name and the client type of a group-version are legal exactly when the first letter or digit
of its group is a letter, and the segment is when it is no keyword besides. The other types are
legal. -/
theorem build_hasNames (layout : Layout) (specs : List Resource) (t : Tree)
    (h : (build layout specs).result = .ok t) :
    IsLegal t.clientType ∧ (∀ b ∈ t.branches, b.HasNames) ∧ ∀ e ∈ t.entries, e.HasNames := by
  obtain ⟨hclean, -⟩ := build_ok_iff.mp ⟨t, h⟩
  obtain ⟨t₀, links, m, rfl⟩ := build_isBuilt h
  refine ⟨?_, fun b hb => ?_, fun e he => ?_⟩
  · have hroot : t₀.clientType = "Clientset" := congrArg Tree.clientType m.unlinked.root
    have hlettered : IsLettered "Clientset" :=
      isLettered_of_cons rfl (by decide) (List.all_eq_true.mp (by decide))
    exact hroot ▸ hlettered.isLegal_iff.mpr (by decide)
  · obtain ⟨o, ho, hg, hv, -⟩ := m.unlinked.owner_withLinks hb
    have hid := (m.valid o ho).identity
    exact (m.unlinked.frame_withLinks hb).hasNames (hg ▸ hid.group) (hv ▸ hid.version)
  · obtain ⟨b, hb, he⟩ := mem_entries.mp he
    obtain ⟨o, ho, -, -, rfl⟩ := (m.unlinked.entry_withLinks hb).mp he
    exact hasNames_entry layout b links (hclean o ho.mem)

/-- A group with dots, and kinds with several capitals. -/
def acronyms : List Resource :=
  [.plain "networking.k8s.io" "v1" "HTTPRoute" "httpRoutes",
    .plain "apps" "v1beta1" "APIKey" "apiKeys"]

theorem acronyms_hasNames : ∃ t, (build {} acronyms).result = .ok t ∧
    t.branches.map (fun b => (b.segment, b.shortName, b.clientType)) =
      [("apps", "apps_v1beta1", "AppsV1beta1Client"),
        ("networking_k8s_io", "networking_k8s_io_v1", "NetworkingK8sIoV1Client")] ∧
    t.entries.map (fun e => (e.names.stem, e.names.snake, e.names.pluralSnake, e.names.typeName)) =
      [("apikey", "api_key", "api_keys", "APIKey"),
        ("httproute", "http_route", "http_routes", "HTTPRoute")] ∧
    IsLegal t.clientType ∧ (∀ b ∈ t.branches, b.HasNames) ∧ ∀ e ∈ t.entries, e.HasNames := by
  obtain ⟨t, ht, hnames⟩ := exists_of_any acronyms
    (fun t => t.branches.map (fun b => (b.segment, b.shortName, b.clientType)) =
      [("apps", "apps_v1beta1", "AppsV1beta1Client"),
        ("networking_k8s_io", "networking_k8s_io_v1", "NetworkingK8sIoV1Client")] ∧
    t.entries.map (fun e => (e.names.stem, e.names.snake, e.names.pluralSnake, e.names.typeName)) =
      [("apikey", "api_key", "api_keys", "APIKey"),
        ("httproute", "http_route", "http_routes", "HTTPRoute")]) (by decide +kernel)
  obtain ⟨hbranches, hentries⟩ := of_decide_eq_true hnames
  exact ⟨t, ht, hbranches, hentries, build_hasNames {} acronyms t ht⟩

/-- Neither is looked at: a group that begins with a digit gives a module and a client type that
cannot be declared, and a kind that is a keyword in lower case gives a module that cannot be. -/
theorem names_not_legal :
    (∃ t, (build {} [.plain "3scale.net" "v1" "Pod" "pods"]).result = .ok t ∧
      ∃ b ∈ t.branches, (b.segment, b.shortName, b.clientType) =
          ("3scale_net", "3scale_net_v1", "3scaleNetV1Client") ∧
        ¬ IsLegal b.segment ∧ ¬ IsLegal b.shortName ∧ ¬ IsLegal b.clientType) ∧
    ∃ t, (build {} [.plain "core" "v1" "Type" "types"]).result = .ok t ∧
      ∃ e ∈ t.entries, e.names.stem = "type" ∧ ¬ IsLegal e.names.stem := by
  constructor
  · obtain ⟨t, ht, hsegment⟩ := exists_of_any [.plain "3scale.net" "v1" "Pod" "pods"]
      (fun t => ∃ b ∈ t.branches, (b.segment, b.shortName, b.clientType) =
        ("3scale_net", "3scale_net_v1", "3scaleNetV1Client")) (by decide +kernel)
    obtain ⟨b, hb, hnames⟩ := of_decide_eq_true hsegment
    obtain ⟨hseg, hshort, htype⟩ : b.segment = "3scale_net" ∧ b.shortName = "3scale_net_v1" ∧
        b.clientType = "3scaleNetV1Client" := by simpa using hnames
    refine ⟨t, ht, b, hb, hnames, ?_, ?_, ?_⟩
    · rw [hseg]
      decide
    · rw [hshort]
      decide
    · rw [htype]
      decide
  · obtain ⟨t, ht, hstem⟩ := exists_of_any [.plain "core" "v1" "Type" "types"]
      (fun t => ∃ e ∈ t.entries, e.names.stem = "type") (by decide +kernel)
    obtain ⟨e, he, htype⟩ := of_decide_eq_true hstem
    exact ⟨t, ht, e, he, htype, by rw [htype]; decide⟩

end ClientGen.Tree
