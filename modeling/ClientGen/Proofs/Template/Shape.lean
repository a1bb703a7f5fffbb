import ClientGen.Proofs.Template.Piece
import ClientGen.Proofs.Text.Order

/-!
Shapes of values. Pieces are checked against the shapes of the values of names, without the values:
pieces that fit shapes find at each path what they need there, whatever the values are.
-/

namespace ClientGen.Template

/-- What sort a value is of, and what is in it. -/
inductive Shape where
  | text
  | flag
  | record (fields : List (String × Shape))
  | items (s : Shape)

mutual

def Shape.Holds : Shape → Value → Prop
  | .text, v => ∃ s, v = .text s
  | .flag, v => ∃ b, v = .bool b
  | .record shapes, v =>
    ∃ fields, v = .map fields ∧ AllHold shapes fun name => Value.lookup (.text name) fields
  | .items s, v => ∃ vs, v = .list vs ∧ ∀ w ∈ vs, s.Holds w

def AllHold : List (String × Shape) → Values → Prop
  | [], _ => True
  | (name, s) :: shapes, values => (∃ v, values name = some v ∧ s.Holds v) ∧ AllHold shapes values

end

/-! ### Values by their shapes -/

@[simp] lemma Shape.holds_text (s : String) : Shape.text.Holds (.text s) := ⟨s, rfl⟩

@[simp] lemma Shape.holds_flag (b : Bool) : Shape.flag.Holds (.bool b) := ⟨b, rfl⟩

lemma AllHold.of_lookup {shapes : List (String × Shape)} {values : Values} {name : String}
    {s : Shape} (h : AllHold shapes values) (hs : shapes.lookup name = some s) :
    ∃ v, values name = some v ∧ s.Holds v := by
  induction shapes with
  | nil => cases hs
  | cons f shapes ih =>
    obtain ⟨other, t⟩ := f
    rw [AllHold] at h
    rw [List.lookup_cons] at hs
    split at hs
    · next heq =>
      rw [beq_iff_eq] at heq
      rw [Option.some.injEq] at hs
      rw [heq, ← hs]
      exact h.1
    · exact ih h.2 hs

lemma AllHold.filter {shapes : List (String × Shape)} {values others : Values}
    {keep : String × Shape → Bool} (h : AllHold shapes values)
    (hsame : ∀ f, keep f = true → others f.1 = values f.1) :
    AllHold (shapes.filter keep) others := by
  induction shapes with
  | nil => trivial
  | cons f shapes ih =>
    rw [AllHold] at h
    rw [List.filter_cons]
    split
    · next hkeep =>
      rw [AllHold, hsame f hkeep]
      exact ⟨h.1, ih h.2⟩
    · exact ih h.2

lemma Value.order_text (s t : String) : Value.order (.text s) (.text t) = Text.order s t := by
  rw [Value.order] <;> simp [Value.plainOrder, Value.rank, Value.text?]

lemma lookup_record (name : String) (fields : List (String × Value)) :
    Value.lookup (.text name) (fields.map fun f => (.text f.1, f.2)) = fields.lookup name := by
  induction fields with
  | nil => rfl
  | cons f fields ih =>
    rw [List.map_cons, Value.lookup, Value.order_text, ih, List.lookup_cons]
    by_cases h : f.1 = name
    · rw [if_pos (beq_iff_eq.mpr (Text.order_eq_iff.mpr h)), h, beq_self_eq_true]
    · rw [if_neg fun ho => h (Text.order_eq_iff.mp (beq_iff_eq.mp ho)),
        beq_false_of_ne (Ne.symm h)]

@[simp] lemma fieldOf?_record (fields : List (String × Value)) (name : String) :
    fieldOf? (.record fields) name = fields.lookup name :=
  lookup_record name fields

lemma Shape.holds_record {shapes : List (String × Shape)} {fields : List (String × Value)}
    (h : AllHold shapes fun name => fields.lookup name) :
    (Shape.record shapes).Holds (.record fields) := by
  rw [Shape.Holds]
  exact ⟨_, rfl, by simpa only [lookup_record] using h⟩

lemma Shape.holds_items {α : Type} {s : Shape} {f : α → Value} {as : List α}
    (h : ∀ a ∈ as, s.Holds (f a)) : (Shape.items s).Holds (.ofList f as) := by
  rw [Shape.Holds]
  exact ⟨_, rfl, by simpa using h⟩

/-! ### Checking pieces -/

/-- The shapes inside of a loop whose element has a name and a shape. -/
def enterShapes (shapes : List (String × Shape)) (name : String) (s : Shape) :
    List (String × Shape) :=
  (name, s) :: shapes.filter fun f => f.1 != name && f.1 != "loop"

def Shape.field? : Shape → String → Option Shape
  | .record shapes, name => shapes.lookup name
  | _, _ => none

def FieldPath.shape? (p : FieldPath) (shapes : List (String × Shape)) : Option Shape :=
  (shapes.lookup p.name).bind fun s => p.fields.foldlM Shape.field? s

mutual

/-- The piece needs only what values of the shapes have. -/
def Piece.fits : Piece → List (String × Shape) → Bool
  | .text _, _ => true
  | .gap p, shapes | .quoted p, shapes => (p.shape? shapes matches some .text)
  | .choice p yes no, shapes =>
    (p.shape? shapes matches some .flag) && allFit yes shapes && allFit no shapes
  | .each name p body, shapes =>
    match p.shape? shapes with
    | some (.items s) => allFit body (enterShapes shapes name s)
    | _ => false

def allFit : List Piece → List (String × Shape) → Bool
  | [], _ => true
  | p :: ps, shapes => p.fits shapes && allFit ps shapes

end

lemma AllHold.enter {shapes : List (String × Shape)} {values : Values} {s : Shape} {v : Value}
    (h : AllHold shapes values) (name : String) (hv : s.Holds v) :
    AllHold (enterShapes shapes name s) (values.enter name v) := by
  rw [enterShapes, AllHold]
  refine ⟨⟨v, by rw [Values.enter, if_pos rfl], hv⟩, h.filter fun f hf => ?_⟩
  rw [Bool.and_eq_true, bne_iff_ne, bne_iff_ne] at hf
  rw [Values.enter, if_neg hf.1, if_neg hf.2]

lemma Shape.Holds.field {s t : Shape} {v : Value} {name : String} (h : s.Holds v)
    (hs : s.field? name = some t) : ∃ w, fieldOf? v name = some w ∧ t.Holds w := by
  cases s with
  | record shapes =>
    rw [Shape.Holds] at h
    obtain ⟨fields, rfl, hfields⟩ := h
    exact hfields.of_lookup hs
  | text | flag | items => cases hs

lemma Shape.Holds.fields {s t : Shape} {v : Value} {names : List String} (h : s.Holds v)
    (hs : names.foldlM Shape.field? s = some t) :
    ∃ w, names.foldlM fieldOf? v = some w ∧ t.Holds w := by
  induction names generalizing s v with
  | nil =>
    cases hs
    exact ⟨v, rfl, h⟩
  | cons name names ih =>
    rw [List.foldlM_cons, Option.bind_eq_bind, Option.bind_eq_some_iff] at hs
    obtain ⟨u, hu, hs⟩ := hs
    obtain ⟨w, hw, hold⟩ := h.field hu
    obtain ⟨x, hx, hx'⟩ := ih hold hs
    exact ⟨x, by rw [List.foldlM_cons, hw]; exact hx, hx'⟩

lemma AllHold.at_path {shapes : List (String × Shape)} {values : Values} {p : FieldPath} {s : Shape}
    (h : AllHold shapes values) (hs : p.shape? shapes = some s) :
    ∃ v, p.value? values = some v ∧ s.Holds v := by
  rw [FieldPath.shape?, Option.bind_eq_some_iff] at hs
  obtain ⟨t, ht, hs⟩ := hs
  obtain ⟨v, hv, hold⟩ := h.of_lookup ht
  obtain ⟨w, hw, hold⟩ := hold.fields hs
  exact ⟨w, by rw [FieldPath.value?, hv]; exact hw, hold⟩

lemma AllHold.text_at {shapes : List (String × Shape)} {values : Values} {p : FieldPath}
    (h : AllHold shapes values) (hfits : (p.shape? shapes matches some .text) = true) :
    ∃ s, p.value? values = some (.text s) := by
  split at hfits
  · next hs =>
    obtain ⟨v, hv, hold⟩ := h.at_path hs
    rw [Shape.Holds] at hold
    obtain ⟨s, rfl⟩ := hold
    exact ⟨s, hv⟩
  · cases hfits

lemma AllHold.flag_at {shapes : List (String × Shape)} {values : Values} {p : FieldPath}
    (h : AllHold shapes values) (hfits : (p.shape? shapes matches some .flag) = true) :
    ∃ b, p.value? values = some (.bool b) := by
  split at hfits
  · next hs =>
    obtain ⟨v, hv, hold⟩ := h.at_path hs
    rw [Shape.Holds] at hold
    obtain ⟨b, rfl⟩ := hold
    exact ⟨b, hv⟩
  · cases hfits

lemma AllHold.items_at {shapes : List (String × Shape)} {values : Values} {p : FieldPath}
    {s : Shape} (h : AllHold shapes values) (hs : p.shape? shapes = some (.items s)) :
    ∃ vs, p.value? values = some (.list vs) ∧ ∀ v ∈ vs, s.Holds v := by
  obtain ⟨v, hv, hold⟩ := h.at_path hs
  rw [Shape.Holds] at hold
  obtain ⟨vs, rfl, hold⟩ := hold
  exact ⟨vs, hv, hold⟩

end ClientGen.Template
