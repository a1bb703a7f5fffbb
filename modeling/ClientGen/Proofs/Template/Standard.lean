import ClientGen.Proofs.Template.Printing
import ClientGen.Template.Set

/-!
The standard templates only fill in, and need only what the values have that they are rendered for.
Each is read once, from its characters, and checked against the shapes of its values; from then on a
template is known by its pieces.
-/

namespace ClientGen.Template

/-! ### What the templates get to know -/

def groupVersionShape : Shape :=
  .record [("group", .text), ("version", .text), ("package", .text), ("alias", .text),
    ("client_type", .text), ("client_module", .text)]

def identityShape : Shape := .record [("group", .text), ("version", .text), ("kind", .text)]

/-- The shape of a resource, as the client of its group-version sees it. -/
def summaryShape : Shape :=
  .record [("kind", .text), ("type_name", .text), ("plural", .text), ("plural_snake", .text),
    ("client_type", .text), ("client_module", .text), ("namespaced", .flag)]

def namesShape : Shape :=
  .record [("kind", .text), ("plural", .text), ("stem", .text), ("type_name", .text),
    ("snake", .text), ("plural_snake", .text), ("plural_name", .text)]

/-- The shape of an owned resource, as the client of its owner sees it. -/
def childShape : Shape :=
  .record [("key", identityShape), ("type_name", .text), ("object_module", .text),
    ("reference_module", .text), ("accessor", .text), ("lookup_fn", .text)]

/-- The shape of an owner, as the reference file of the owned resource sees it. -/
def ownerShape : Shape :=
  .record [("key", identityShape), ("type_name", .text), ("object_module", .text),
    ("snake", .text), ("namespaced", .flag), ("lookup_fn", .text)]

/-- The shape of the part that a file of a resource is made from. -/
def partShape : Role → Shape
  | .client =>
    .record [("file", .text), ("module", .text), ("type_name", .text), ("reader_type", .text),
      ("reader_module", .text), ("object_type", .text), ("object_module", .text),
      ("namespaced", .flag), ("children", .items childShape)]
  | .reader =>
    .record [("file", .text), ("module", .text), ("type_name", .text), ("object_type", .text),
      ("object_module", .text), ("namespaced", .flag)]
  | .object =>
    .record [("file", .text), ("module", .text), ("type_name", .text), ("marker_type", .text),
      ("identity", identityShape), ("list_kind", .text), ("plural_name", .text),
      ("namespaced", .flag), ("source_package", .text)]
  | .reference =>
    .record [("file", .text), ("module", .text), ("object_type", .text), ("object_module", .text),
      ("plural_snake", .text), ("namespaced", .flag), ("owners", .items ownerShape)]
  | _ => .record []

/-- The shapes of the values that a template of a resource gets to know, with its part. -/
def resourceShapes (name : String) (part : Shape) : List (String × Shape) :=
  [("root_package", .text), ("group_version", groupVersionShape), ("resource", namesShape),
    ("namespaced", .flag), (name, part)]

/-- The shapes of the values that the template of a role gets to know. -/
def contextShapes : Role → List (String × Shape)
  | .rootClient =>
    [("root", .record [("package", .text), ("client_type", .text), ("location", .text)]),
      ("group_versions", .items groupVersionShape)]
  | .groupVersionClient =>
    [("root_package", .text), ("group_version", groupVersionShape),
      ("resources", .items summaryShape)]
  | .client => resourceShapes "client" (partShape .client)
  | .reader => resourceShapes "reader" (partShape .reader)
  | .object => resourceShapes "object" (partShape .object)
  | .reference => resourceShapes "reference" (partShape .reference)

/-! ### Reading the templates -/

/-- The lines have these characters. -/
inductive Spells : List String → List (List Char) → Prop
  | nil : Spells [] []
  | cons (cs : List Char) {lines : List String} {css : List (List Char)} :
    Spells lines css → Spells (String.ofList cs :: lines) (cs :: css)

/-- Lines in characters as the characters of a text, each with a line break behind it. -/
def ofCharLines (css : List (List Char)) : List Char := css.flatMap fun cs => cs ++ ['\n']

lemma Spells.toList_ofLines {lines : List String} {css : List (List Char)} (h : Spells lines css) :
    (ofLines lines).toList = ofCharLines css := by
  induction h with
  | nil => rfl
  | @cons cs lines css _ ih =>
    have hcons : ofLines (String.ofList cs :: lines) =
        String.ofList cs ++ "\n" ++ ofLines lines := rfl
    rw [hcons, String.toList_append, String.toList_append, String.toList_ofList, ih]
    rfl

/-- The pieces that the tokens of a template make, if they can be read and only fill in. -/
def tokenPieces? (ts : List Token) : Option (List Piece) :=
  match (readNodes (fuelFor ts) []).run { tokens := ts } with
  | .ok (ns, _) => pieces? ns
  | .error _ => none

/-- The pieces that a template in characters has, if it can be read and only fills in. -/
def readPieces? (cs : List Char) : Option (List Piece) :=
  tokenPieces? (tokensFrom (some .text) true 0 [] cs)

lemma parse_of_readPieces? {s : String} {ps : List Piece} (h : readPieces? s.toList = some ps) :
    parse s = .ok (nodesOf ps) := by
  rw [parse, tokens]
  rw [readPieces?, tokenPieces?] at h
  split at h
  · next ns rest hread => rw [hread, Except.map, eq_of_pieces? h]
  · cases h

/-! ### Scanning in proofs

`String.ofList` pushes the bytes of a text one behind the other, and to look at one of them the
kernel takes all pushes apart again. So for what is computed in a proof the same tokens are made
with texts that have their bytes at hand.
-/

lemma toByteArray_eq (bs : List UInt8) : bs.toByteArray = ⟨⟨bs⟩⟩ :=
  ByteArray.ext List.data_toByteArray

/-- The text of characters, with its bytes at hand. -/
def textOf (cs : List Char) : String :=
  ⟨⟨⟨cs.flatMap String.utf8EncodeChar⟩⟩, cs, (toByteArray_eq _).symm⟩

lemma textOf_eq (cs : List Char) : textOf cs = String.ofList cs :=
  String.toByteArray_inj.mp (toByteArray_eq _).symm

/-- The text up to the next marker, without what the tag there takes along. -/
def keptText (blank : Bool) (cs : List Char) : List Char :=
  let text := untilMarker cs
  match cs.drop text.length with
  | '{' :: '{' :: inside => textBefore (signed inside).1 false text
  | '{' :: _ :: inside => textBefore (signed inside).1 (blankLine blank text) text
  | _ => text

/-- The step in text where no marker can begin. -/
def keptStep (blank : Bool) (cs : List Char) : Step :=
  let kept := keptText blank cs
  ⟨some .text, if kept.isEmpty then [] else [.text (textOf kept)], (untilMarker cs).length⟩

lemma textStep_eq_keptStep (blank : Bool) {cs : List Char} (h : ∀ inside, cs ≠ '{' :: inside) :
    textStep blank cs = keptStep blank cs := by
  rw [textStep.eq_def, keptStep, textOf_eq]
  split
  · exact absurd rfl (h _)
  · exact absurd rfl (h _)
  · exact absurd rfl (h _)
  · rfl

def Mode.scanStep (blank : Bool) (before? : Option Token) (mode : Mode) (cs : List Char) : Step :=
  match mode, cs with
  | .text, '{' :: rest => textStep blank ('{' :: rest)
  | .text, cs => keptStep blank cs
  | mode, cs => mode.step blank before? cs

lemma Mode.scanStep_eq (blank : Bool) (before? : Option Token) (mode : Mode) (cs : List Char) :
    mode.scanStep blank before? cs = mode.step blank before? cs := by
  rw [scanStep.eq_def]
  split
  · rfl
  · next hbrace => exact (textStep_eq_keptStep blank hbrace).symm
  · rfl

/-- The tokens that `tokensFrom` finds. -/
def scanFrom (mode? : Option Mode) (blank : Bool) (skip : Nat) (done : List Token) :
    List Char → List Token
  | [] => done.reverse
  | c :: cs =>
    match mode?, skip with
    | none, _ => done.reverse
    | some mode, k + 1 => scanFrom (some mode) (blankLine blank [c]) k done cs
    | some mode, 0 =>
      let step := mode.scanStep blank done.head? (c :: cs)
      scanFrom step.mode? (blankLine blank [c]) (step.taken - 1) (step.tokens.reverse ++ done) cs

lemma scanFrom_eq (mode? : Option Mode) (blank : Bool) (skip : Nat) (done : List Token)
    (cs : List Char) : scanFrom mode? blank skip done cs = tokensFrom mode? blank skip done cs := by
  induction cs generalizing mode? blank skip done with
  | nil => rfl
  | cons c cs ih =>
    rcases mode? with - | mode
    · rw [scanFrom, tokensFrom]
    rcases skip with - | k
    · rw [scanFrom, tokensFrom, Mode.scanStep_eq, ih]
    · rw [scanFrom, tokensFrom, ih]

/-- The pieces that `readPieces?` finds. -/
def scanPieces? (cs : List Char) : Option (List Piece) :=
  tokenPieces? (scanFrom (some .text) true 0 [] cs)

lemma scanPieces?_eq (cs : List Char) : scanPieces? cs = readPieces? cs := by
  rw [scanPieces?, scanFrom_eq, readPieces?]

/-! ### The standard templates -/

def standardPieces (role : Role) : List Piece :=
  (readPieces? (TemplateSet.standard.source role).toList).getD []

/-- What is known of a standard template is found out from its characters. -/
lemma standardPieces_of_spells {role : Role} {css : List (List Char)} (check : List Piece → Bool)
    (hs : Spells (TemplateSet.standardLines role) css)
    (h : (scanPieces? (ofCharLines css)).any check = true) :
    parse (TemplateSet.standard.source role) = .ok (nodesOf (standardPieces role)) ∧
      check (standardPieces role) = true := by
  obtain ⟨ps, hps, hcheck⟩ := (Option.any_eq_true _ _).mp h
  rw [scanPieces?_eq, ← hs.toList_ofLines] at hps
  have hpieces : standardPieces role = ps := by
    rw [standardPieces]
    exact congrArg (Option.getD · []) hps
  rw [hpieces]
  exact ⟨parse_of_readPieces? hps, hcheck⟩

lemma check_of_spells {role : Role} {css : List (List Char)} (check : List Piece → Bool)
    (hs : Spells (TemplateSet.standardLines role) css)
    (h : (scanPieces? (ofCharLines css)).any check = true) : check (standardPieces role) = true :=
  (standardPieces_of_spells check hs h).2

def suits (role : Role) (ps : List Piece) : Bool :=
  allFit ps (contextShapes role) && decide (nestingAll ps ≤ Machine.depthLimit)

set_option maxRecDepth 10000 in
lemma standardPieces_suit (role : Role) :
    parse (TemplateSet.standard.source role) = .ok (nodesOf (standardPieces role)) ∧
      suits role (standardPieces role) = true := by
  cases role
  all_goals
    apply standardPieces_of_spells (suits _)
    · repeat apply Spells.cons
      exact .nil
    · decide +kernel

/-! ### Rendering the templates -/

def standardCompiled : Compiled :=
  ⟨Role.all.map fun role => (role.template, nodesOf (standardPieces role))⟩

lemma compile_standard : TemplateSet.standard.compile = .ok standardCompiled := by
  have hrole : TemplateSet.standard.compileRole =
      fun role => pure (role.template, nodesOf (standardPieces role)) := by
    funext role
    rw [TemplateSet.compileRole, (standardPieces_suit role).1]
    rfl
  rw [TemplateSet.compile, hrole, List.mapM_pure]
  rfl

lemma lookup_standardCompiled (role : Role) :
    standardCompiled.templates.lookup role.template = some (nodesOf (standardPieces role)) := by
  have hne : ∀ other, role ≠ other → (role.template == other.template) = false := by
    cases role <;> intro other <;> cases other <;> decide
  rw [standardCompiled, Role.all]
  cases role <;> simp [List.lookup_cons, hne]

/-- A standard template is rendered for all values that have the shapes of its role, and its text is
the one that its pieces make of them. -/
theorem render_standard {role : Role} {values : List (String × Value)}
    (h : AllHold (contextShapes role) fun name => values.lookup name) (destination : String) :
    standardCompiled.render role values destination =
      .ok (fillAll (standardPieces role) fun name => values.lookup name) := by
  obtain ⟨-, hsuits⟩ := standardPieces_suit role
  rw [suits, Bool.and_eq_true, decide_eq_true_eq] at hsuits
  rw [Compiled.render, renderTemplate_eq (lookup_standardCompiled role) hsuits.1 h hsuits.2]
  rfl

end ClientGen.Template
