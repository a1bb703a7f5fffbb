import ClientGen.Proofs.Plan.Rendering
import ClientGen.Proofs.Template.Lines
import ClientGen.Proofs.Text.Quoted
import ClientGen.Proofs.Tree.Firsts

/-!
What an object file declares. Its last lines are six constants and a closing brace, and what the
literals mean is what identifies the resource, whatever its group looks like: a literal stands on
one line and is read back as the text that it was made of.
-/

namespace ClientGen

open Spec ClientGen.Tree Template

/-- What the constants of an object file say. -/
structure Constants where
  identity : Identity
  listKind : String
  plural : String
  namespaced : Bool
  deriving DecidableEq

/-! ### Reading constants -/

def constantStart (name type : String) : String := "    const " ++ name ++ ": " ++ type ++ " = "

def constantLine (name type value : String) : String := constantStart name type ++ value ++ ";"

/-- The type of constants that are texts. -/
def textType : String := "&'static str"

/-- The value of a constant as it is written in a line that declares it. -/
def constant? (name type line : String) : Option String := do
  let rest ← line.toList.dropPrefix? (constantStart name type).toList
  return String.ofList (← rest.dropSuffix? [';'])

def textConstant? (name line : String) : Option String :=
  (constant? name textType line).bind Text.unquote?

def flagConstant? (name line : String) : Option Bool :=
  match constant? name "bool" line with
  | some "true" => some true
  | some "false" => some false
  | _ => none

/-- Reads six constants and a closing brace, a line each. -/
def readConstants? : List String → Option Constants
  | [group, version, kind, listKind, plural, namespaced, "\x7d"] => do
    let identity : Identity := ⟨← textConstant? "GROUP" group, ← textConstant? "VERSION" version,
      ← textConstant? "KIND" kind⟩
    return ⟨identity, ← textConstant? "LIST_KIND" listKind, ← textConstant? "PLURAL" plural,
      ← flagConstant? "NAMESPACED" namespaced⟩
  | _ => none

/-- The lines that declare constants, and the closing brace. -/
def Constants.lines (c : Constants) : List String :=
  [constantLine "GROUP" textType (Text.quote c.identity.group),
    constantLine "VERSION" textType (Text.quote c.identity.version),
    constantLine "KIND" textType (Text.quote c.identity.kind),
    constantLine "LIST_KIND" textType (Text.quote c.listKind),
    constantLine "PLURAL" textType (Text.quote c.plural),
    constantLine "NAMESPACED" "bool" (if c.namespaced then "true" else "false"),
    "\x7d"]

lemma constant?_constantLine (name type value : String) :
    constant? name type (constantLine name type value) = some value := by
  have hprefix : (constantLine name type value).toList.dropPrefix? (constantStart name type).toList
      = some (value.toList ++ [';']) := by
    rw [List.dropPrefix?_eq_some_iff]
    refine ⟨(constantStart name type).toList, ?_, beq_self_eq_true _⟩
    rw [constantLine, String.toList_append, String.toList_append, List.append_assoc]
    rfl
  have hsuffix : (value.toList ++ [';']).dropSuffix? [';'] = some value.toList :=
    List.dropSuffix?_eq_some_iff.mpr ⟨_, rfl, beq_self_eq_true _⟩
  rw [constant?, hprefix]
  change (do return String.ofList (← (value.toList ++ [';']).dropSuffix? [';'])) = _
  rw [hsuffix]
  exact congrArg some (String.ofList_toList)

lemma textConstant?_constantLine (name s : String) :
    textConstant? name (constantLine name textType (Text.quote s)) = some s := by
  rw [textConstant?, constant?_constantLine, Option.bind_some, Text.unquote?_quote]

lemma flagConstant?_constantLine (name : String) (b : Bool) :
    flagConstant? name (constantLine name "bool" (if b then "true" else "false")) = some b := by
  rw [flagConstant?, constant?_constantLine]
  cases b <;> rfl

lemma readConstants?_lines (c : Constants) : readConstants? c.lines = some c := by
  rw [Constants.lines, readConstants?]
  simp only [textConstant?_constantLine, flagConstant?_constantLine]
  rfl

lemma isLine_textConstant {name : String} (hname : IsLine name) (s : String) :
    IsLine (constantLine name textType (Text.quote s)) := by
  have hstart : IsLine (constantStart name textType) :=
    ((((by decide : IsLine "    const ").append hname).append (by decide)).append
      (by decide)).append (by decide)
  exact (hstart.append (Text.not_mem_quote s)).append (by decide)

lemma Constants.isLine (c : Constants) : ∀ l ∈ c.lines, IsLine l := by
  have hflag : IsLine
      (constantLine "NAMESPACED" "bool" (if c.namespaced then "true" else "false")) := by
    cases c.namespaced <;> decide
  simp only [Constants.lines, List.mem_cons, List.not_mem_nil, or_false]
  rintro l (rfl | rfl | rfl | rfl | rfl | rfl | rfl)
  · exact isLine_textConstant (by decide) _
  · exact isLine_textConstant (by decide) _
  · exact isLine_textConstant (by decide) _
  · exact isLine_textConstant (by decide) _
  · exact isLine_textConstant (by decide) _
  · exact hflag
  · decide

def lastLines (n : Nat) (s : String) : List String := (linesOf s).drop ((linesOf s).length - n)

lemma lastLines_constants (s : String) (c : Constants) :
    lastLines 7 (s ++ "\n" ++ ofLines c.lines) = c.lines := by
  have hlength : c.lines.length = 7 := rfl
  rw [lastLines, linesOf_append_ofLines s c.isLine, List.length_append, hlength,
    Nat.add_sub_cancel, List.drop_left]

/-! ### The template -/

/-- The pieces of the template of an object file down to the marker of the resource, which gets the
constants. -/
def headingPieces : List Piece :=
  [.text ("// Code generated by kubegen. DO NOT EDIT." ++ "\n" ++ "//! `"),
    .gap ⟨"object", ["identity", "kind"]⟩,
    .text ("` type and identity metadata." ++ "\n" ++ "\n" ++ "pub use "),
    .gap ⟨"object", ["source_package"]⟩, .text "::", .gap ⟨"object", ["type_name"]⟩,
    .text (";" ++ "\n" ++ "\n" ++ "/// Identity marker for [`"),
    .gap ⟨"object", ["type_name"]⟩, .text ("`]." ++ "\n" ++ "pub struct "),
    .gap ⟨"object", ["marker_type"]⟩, .text (";" ++ "\n" ++ "\n" ++ "impl "),
    .gap ⟨"root_package", []⟩, .text "::client::ResourceIdentity for ",
    .gap ⟨"object", ["marker_type"]⟩]

/-- The pieces of the template of an object file behind the marker. -/
def constantPieces : List Piece :=
  [.text (" \x7b" ++ "\n" ++ constantStart "GROUP" textType),
    .quoted ⟨"object", ["identity", "group"]⟩,
    .text (";" ++ "\n" ++ constantStart "VERSION" textType),
    .quoted ⟨"object", ["identity", "version"]⟩,
    .text (";" ++ "\n" ++ constantStart "KIND" textType),
    .quoted ⟨"object", ["identity", "kind"]⟩,
    .text (";" ++ "\n" ++ constantStart "LIST_KIND" textType),
    .quoted ⟨"object", ["list_kind"]⟩,
    .text (";" ++ "\n" ++ constantStart "PLURAL" textType),
    .quoted ⟨"object", ["plural_name"]⟩,
    .text (";" ++ "\n" ++ constantStart "NAMESPACED" "bool"),
    .choice ⟨"object", ["namespaced"]⟩ [.text "true"] [.text "false"],
    .text (";" ++ "\n" ++ "\x7d" ++ "\n")]

set_option maxRecDepth 10000 in
lemma standardPieces_object : standardPieces .object = headingPieces ++ constantPieces := by
  have h : samePieces (standardPieces .object) (headingPieces ++ constantPieces) = true := by
    apply check_of_spells (samePieces · (headingPieces ++ constantPieces))
    · repeat apply Spells.cons
      exact .nil
    · decide +kernel
  exact eq_of_samePieces h

def Tree.ObjectPart.constants (o : ObjectPart) : Constants :=
  ⟨o.identity, o.listKind, o.pluralName, o.namespaced⟩

lemma fillAll_constantPieces {values : Values} {o : ObjectPart}
    (h : values "object" = some o.toValue) :
    fillAll constantPieces values = " \x7b" ++ "\n" ++ ofLines o.constants.lines := by
  have htexts : FieldPath.textIn ⟨"object", ["identity", "group"]⟩ values = o.identity.group ∧
      FieldPath.textIn ⟨"object", ["identity", "version"]⟩ values = o.identity.version ∧
      FieldPath.textIn ⟨"object", ["identity", "kind"]⟩ values = o.identity.kind ∧
      FieldPath.textIn ⟨"object", ["list_kind"]⟩ values = o.listKind ∧
      FieldPath.textIn ⟨"object", ["plural_name"]⟩ values = o.pluralName := by
    simp [FieldPath.textIn, FieldPath.value?, h, ObjectPart.toValue, Identity.toValue,
      List.lookup_cons]
  have hflag : FieldPath.flagIn ⟨"object", ["namespaced"]⟩ values = o.namespaced := by
    simp [FieldPath.flagIn, FieldPath.value?, h, ObjectPart.toValue, List.lookup_cons]
  have hchoice : (if o.namespaced then "true" ++ "" else "false" ++ "") =
      if o.namespaced then "true" else "false" := by
    cases o.namespaced <;> rfl
  simp only [constantPieces, fillAll, Piece.fill, htexts, hflag, hchoice, Constants.lines,
    constantLine, ObjectPart.constants, ofLines, List.foldr_cons, List.foldr_nil,
    String.append_assoc]
  rfl

/-! ### Object files -/

def PlannedFile.IsObjectOf (f : PlannedFile) (id : Identity) : Prop :=
  f.role = .object ∧ f.identity? = some id

lemma exists_entry_of_isObjectOf {t : Tree} {f : PlannedFile} {id : Identity} (hf : f ∈ t.plan)
    (h : f.IsObjectOf id) :
    ∃ b ∈ t.branches, ∃ e ∈ b.entries, e.key = id ∧ f ∈ e.plan t.package b := by
  obtain ⟨hrole, hid⟩ := h
  rcases mem_plan.mp hf with rfl | ⟨b, hb, hf⟩
  · cases hrole
  rcases mem_branch_plan.mp hf with rfl | ⟨e, he, hf⟩
  · cases hrole
  refine ⟨b, hb, e, he, ?_, hf⟩
  rcases mem_entry_plan.mp hf with rfl | rfl | rfl | ⟨r, -, rfl⟩ <;> exact Option.some.inj hid

lemma lastLines_objectFile {rootPackage : String} {b : Branch} {e : Entry} {f : PlannedFile}
    (hf : f ∈ e.plan rootPackage b) (hrole : f.role = .object) :
    lastLines 7 f.standardText = e.object.constants.lines := by
  have hobject : f.context.fields.lookup "object" = some e.object.toValue := by
    rcases mem_entry_plan.mp hf with rfl | rfl | rfl | ⟨r, -, rfl⟩
    · cases hrole
    · cases hrole
    · rfl
    · cases hrole
  rw [PlannedFile.standardText, hrole, standardPieces_object, fillAll_append,
    fillAll_constantPieces hobject, ← String.append_assoc, ← String.append_assoc]
  exact lastLines_constants _ _

lemma constants_eq {layout : Layout} {s : Resource} {e : Entry} (h : e.bare = entryOf layout s) :
    e.object.constants =
      ⟨e.key, s.listKind, Text.lower e.names.plural, e.scope.isNamespaced⟩ := by
  have hbare : ∀ d : Entry, d = entryOf layout s → d.object.constants =
      ⟨d.key, s.listKind, Text.lower d.names.plural, d.scope.isNamespaced⟩ := by
    rintro d rfl
    rfl
  exact hbare e.bare h

/-- **Identities survive.** With the standard templates every resource of a built tree has an object
file, whose last seven lines declare what identifies the resource: read back, the constants are the
group, the version and the kind as they were given, the kind of a list as the first spec of the
resource has it, the plural in lower case, and whether the resource is namespaced. -/
theorem plan_declares_identities (layout : Layout) (specs : List Resource) (t : Tree)
    (h : (build layout specs).result = .ok t) :
    ∃ c, TemplateSet.standard.compile = .ok c ∧ ∀ e ∈ t.entries,
      (∃ f ∈ t.plan, f.IsObjectOf e.key) ∧
      ∀ f ∈ t.plan, f.IsObjectOf e.key → ∃ s text, firstOf? specs e.key = some s ∧
        c.render f.role f.context.fields f.destination = .ok text ∧
        readConstants? (lastLines 7 text) =
          some ⟨e.key, s.listKind, Text.lower e.names.plural, e.scope.isNamespaced⟩ := by
  have hfirsts : HoldsFirsts layout specs t := by
    obtain ⟨t₀, links, m, rfl⟩ := build_isBuilt h
    exact m.holdsFirsts
  refine ⟨standardCompiled, compile_standard, fun e he => ⟨?_, fun f hf hof => ?_⟩⟩
  · obtain ⟨b, hb, hbe⟩ := mem_entries.mp he
    have hfile : e.file t.package b .object e.object.file (.object e.object) ∈ e.plan t.package b :=
      mem_entry_plan.mpr (Or.inr (Or.inr (Or.inl rfl)))
    exact ⟨_, mem_plan.mpr (Or.inr ⟨b, hb, mem_branch_plan.mpr (Or.inr ⟨e, hbe, hfile⟩)⟩), rfl, rfl⟩
  · obtain ⟨b, hb, d, hd, hkey, hfd⟩ := exists_entry_of_isObjectOf hf hof
    have hde : d = e := by
      obtain ⟨c, hc, hce⟩ := mem_entries.mp he
      have hfound := (hfirsts.in_place b hb d hd).2
      rw [hkey, (hfirsts.in_place c hc e hce).2] at hfound
      exact (Option.some.inj hfound).symm
    rw [hde] at hfd
    obtain ⟨s, hs, hbare⟩ := hfirsts.bare e he
    refine ⟨s, f.standardText, hs, render_of_mem_plan hf, ?_⟩
    rw [lastLines_objectFile hfd hof.1, readConstants?_lines, constants_eq hbare]

/-- A pod in a group with a quote, a backslash, line breaks, and characters that do not print. -/
def unprintablePod : Resource :=
  .plain "a\"b\\c\r\nd\x00\u200be\x7b\x7b" "v1" "Pod" "Pods"

/-- Whatever is in its group, the pod is declared as it is. -/
theorem unprintablePod_declared : ∃ t, (build {} [unprintablePod]).result = .ok t ∧
    ∃ c, TemplateSet.standard.compile = .ok c ∧ ∃ f ∈ t.plan, f.IsObjectOf unprintablePod.identity ∧
      ∃ text, c.render f.role f.context.fields f.destination = .ok text ∧
        readConstants? (lastLines 7 text) =
          some ⟨unprintablePod.identity, "PodList", "pods", true⟩ := by
  obtain ⟨t, ht, hentries⟩ := exists_of_any [unprintablePod] (fun t => decide (
    t.entries.map (fun e => (e.key, e.names.plural, e.scope.isNamespaced)) =
      [(unprintablePod.identity, "Pods", true)])) (by decide +kernel)
  rw [decide_eq_true_eq, List.map_eq_singleton_iff] at hentries
  obtain ⟨e, he, hparts⟩ := hentries
  rw [Prod.mk.injEq, Prod.mk.injEq] at hparts
  obtain ⟨hkey, hplural, hscope⟩ := hparts
  obtain ⟨c, hc, hdeclares⟩ := plan_declares_identities {} [unprintablePod] t ht
  obtain ⟨⟨f, hf, hof⟩, hread⟩ := hdeclares e (he ▸ List.mem_singleton_self e)
  obtain ⟨s, text, hs, hrender, hconstants⟩ := hread f hf hof
  have hfirst : s = unprintablePod := by
    rw [hkey, show firstOf? [unprintablePod] unprintablePod.identity = some unprintablePod
      by decide +kernel] at hs
    exact (Option.some.inj hs).symm
  have hlower : Text.lower "Pods" = "pods" := by decide +kernel
  refine ⟨t, ht, c, hc, f, hf, hkey ▸ hof, text, hrender, ?_⟩
  rw [hconstants, hkey, hplural, hscope, hfirst, hlower]
  rfl

end ClientGen
