import ClientGen.Template.Nodes
import ClientGen.Template.Value
import Mathlib.Tactic.Lemma

/-!
Templates that only fill in. Most templates need little of what a template may be: fixed text, texts
of fields, one of two bodies, and a body for each item of a list. Such a template has a plain
meaning, the text that it makes of values, and this is given here without any machine.
-/

namespace ClientGen.Template

/-- A value by its name, or by the names of fields inside of that. -/
structure FieldPath where
  name : String
  fields : List String := []
  deriving DecidableEq

/-- A part of a template that only fills in. -/
inductive Piece where
  | text (s : String)
  /-- The text at a path. -/
  | gap (p : FieldPath)
  /-- The text at a path, as a literal. -/
  | quoted (p : FieldPath)
  /-- One of two bodies, as the truth value at a path says. -/
  | choice (p : FieldPath) (yes no : List Piece)
  /-- A body for each item of the list at a path, which has a name in it. -/
  | each (name : String) (p : FieldPath) (body : List Piece)

/-! ### Pieces as nodes -/

def FieldPath.expr (p : FieldPath) : Expr := p.fields.foldl Expr.field (.name p.name)

mutual

def Piece.node : Piece → Node
  | .text s => .text s
  | .gap p => .output p.expr
  | .quoted p => .output (.filter p.expr "quote" [])
  | .choice p yes no => .choice p.expr (nodesOf yes) (nodesOf no)
  | .each name p body => .loop (.mk (.name name) p.expr .absent false (nodesOf body) [])

def nodesOf : List Piece → List Node
  | [] => []
  | p :: ps => p.node :: nodesOf ps

end

def Expr.path? : Expr → Option FieldPath
  | .name s => some { name := s }
  | .field e s => e.path?.map fun p => { p with fields := p.fields ++ [s] }
  | _ => none

mutual

/-- The piece that a node is, if it only fills in. -/
def Node.piece? : Node → Option Piece
  | .text s => some (.text s)
  | .output (.filter e name args) =>
    if name == "quote" && args.isEmpty then e.path?.map .quoted else none
  | .output e => e.path?.map .gap
  | .choice e yes no => do return .choice (← e.path?) (← pieces? yes) (← pieces? no)
  | .loop (.mk (.name name) e .absent false body []) => do
    return .each name (← e.path?) (← pieces? body)
  | _ => none

def pieces? : List Node → Option (List Piece)
  | [] => some []
  | n :: ns => do return (← n.piece?) :: (← pieces? ns)

end

lemma Expr.eq_of_path? {e : Expr} {p : FieldPath} (h : e.path? = some p) : e = p.expr := by
  induction e using Expr.path?.induct generalizing p with
  | case1 s =>
    rw [path?, Option.some.injEq] at h
    rw [← h]
    rfl
  | case2 e s ih =>
    rw [path?, Option.map_eq_some_iff] at h
    obtain ⟨q, hq, rfl⟩ := h
    rw [ih hq, FieldPath.expr, FieldPath.expr, List.foldl_append]
    rfl
  | case3 e hname hfield =>
    rw [path?] at h
    · cases h
    · exact hname
    · exact hfield

mutual

lemma Node.eq_of_piece? {n : Node} {p : Piece} (h : n.piece? = some p) : n = p.node := by
  unfold Node.piece? at h
  split at h
  · cases h
    rw [Piece.node]
  · split at h
    · next hquote =>
      rw [Bool.and_eq_true, beq_iff_eq, List.isEmpty_iff] at hquote
      rw [Option.map_eq_some_iff] at h
      obtain ⟨q, hq, rfl⟩ := h
      rw [Expr.eq_of_path? hq, hquote.1, hquote.2, Piece.node]
    · cases h
  · rw [Option.map_eq_some_iff] at h
    obtain ⟨q, hq, rfl⟩ := h
    rw [Expr.eq_of_path? hq, Piece.node]
  · simp only [Option.bind_eq_bind, Option.bind_eq_some_iff, Option.pure_def,
      Option.some.injEq] at h
    obtain ⟨q, hq, yes, hyes, no, hno, rfl⟩ := h
    rw [Expr.eq_of_path? hq, eq_of_pieces? hyes, eq_of_pieces? hno, Piece.node]
  · simp only [Option.bind_eq_bind, Option.bind_eq_some_iff, Option.pure_def,
      Option.some.injEq] at h
    obtain ⟨q, hq, body, hbody, rfl⟩ := h
    rw [Expr.eq_of_path? hq, eq_of_pieces? hbody, Piece.node]
  · cases h

lemma eq_of_pieces? {ns : List Node} {ps : List Piece} (h : pieces? ns = some ps) :
    ns = nodesOf ps := by
  unfold pieces? at h
  split at h
  · cases h
    rw [nodesOf]
  · simp only [Option.bind_eq_bind, Option.bind_eq_some_iff, Option.pure_def,
      Option.some.injEq] at h
    obtain ⟨p, hp, ps, hps, rfl⟩ := h
    rw [Node.eq_of_piece? hp, eq_of_pieces? hps, nodesOf]

end

/-! ### Comparing pieces -/

mutual

def Piece.same : Piece → Piece → Bool
  | .text s, .text t => s == t
  | .gap p, .gap q => p == q
  | .quoted p, .quoted q => p == q
  | .choice p yes no, .choice q yes' no' => p == q && samePieces yes yes' && samePieces no no'
  | .each x p body, .each y q body' => x == y && p == q && samePieces body body'
  | _, _ => false

def samePieces : List Piece → List Piece → Bool
  | [], [] => true
  | p :: ps, q :: qs => p.same q && samePieces ps qs
  | _, _ => false

end

mutual

lemma Piece.eq_of_same {p q : Piece} (h : p.same q = true) : p = q := by
  unfold Piece.same at h
  split at h
  · rw [beq_iff_eq.mp h]
  · rw [beq_iff_eq.mp h]
  · rw [beq_iff_eq.mp h]
  · rw [Bool.and_eq_true, Bool.and_eq_true, beq_iff_eq] at h
    rw [h.1.1, eq_of_samePieces h.1.2, eq_of_samePieces h.2]
  · rw [Bool.and_eq_true, Bool.and_eq_true, beq_iff_eq, beq_iff_eq] at h
    rw [h.1.1, h.1.2, eq_of_samePieces h.2]
  · cases h

lemma eq_of_samePieces {ps qs : List Piece} (h : samePieces ps qs = true) : ps = qs := by
  unfold samePieces at h
  split at h
  · rfl
  · rw [Bool.and_eq_true] at h
    rw [Piece.eq_of_same h.1, eq_of_samePieces h.2]
  · cases h

end

def endsWith (last ps : List Piece) : Bool := samePieces (ps.drop (ps.length - last.length)) last

lemma eq_append_of_endsWith {last ps : List Piece} (h : endsWith last ps = true) :
    ∃ front, ps = front ++ last := by
  refine ⟨ps.take (ps.length - last.length), ?_⟩
  exact (List.take_append_drop _ ps).symm.trans (congrArg _ (eq_of_samePieces h))

/-! ### What pieces say -/

/-- The values of names, as far as these have some. -/
abbrev Values := String → Option Value

/-- The values inside of a loop. There the element has a name, and the loop itself has another. -/
def Values.enter (values : Values) (name : String) (v : Value) : Values := fun other =>
  if other = name then some v else if other = "loop" then none else values other

def fieldOf? : Value → String → Option Value
  | .map fields, name => Value.lookup (.text name) fields
  | _, _ => none

namespace FieldPath

variable (p : FieldPath) (values : Values)

def value? : Option Value := (values p.name).bind fun v => p.fields.foldlM fieldOf? v

def textIn : String := match p.value? values with
  | some (.text s) => s
  | _ => ""

def flagIn : Bool := match p.value? values with
  | some (.bool b) => b
  | _ => false

def itemsIn : List Value := match p.value? values with
  | some (.list vs) => vs
  | _ => []

end FieldPath

mutual

def Piece.fill : Piece → Values → String
  | .text s, _ => s
  | .gap p, values => p.textIn values
  | .quoted p, values => Text.quote (p.textIn values)
  | .choice p yes no, values => if p.flagIn values then fillAll yes values else fillAll no values
  | .each name p body, values =>
    String.join ((p.itemsIn values).map fun v => fillAll body (values.enter name v))

def fillAll : List Piece → Values → String
  | [], _ => ""
  | p :: ps, values => p.fill values ++ fillAll ps values

end

lemma fillAll_append (ps qs : List Piece) (values : Values) :
    fillAll (ps ++ qs) values = fillAll ps values ++ fillAll qs values := by
  induction ps with
  | nil => rw [List.nil_append, fillAll, String.empty_append]
  | cons p ps ih => rw [List.cons_append, fillAll, ih, fillAll, String.append_assoc]

mutual

/-- How many loops are inside each other. -/
def Piece.nesting : Piece → Nat
  | .choice _ yes no => max (nestingAll yes) (nestingAll no)
  | .each _ _ body => nestingAll body + 1
  | _ => 0

def nestingAll : List Piece → Nat
  | [] => 0
  | p :: ps => max p.nesting (nestingAll ps)

end

end ClientGen.Template
