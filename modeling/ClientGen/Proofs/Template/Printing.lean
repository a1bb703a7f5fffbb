import ClientGen.Proofs.Template.Shape
import ClientGen.Template.Render

/-!
Pieces are printed as they say. Rendering goes through expressions, frames and cells; here it is
shown that for pieces that fit the shapes of the values all this always succeeds, and that the text
is the one that the pieces make of the values. What is in the cells of the machine does not matter.
-/

namespace ClientGen.Template

/-- Names have these values in the machine, whatever is in its cells, and it prints all values as
they are. -/
structure Shows (m : Machine) (values : Values) : Prop where
  prints : m.isMuted = false
  asIs : m.escaping = false
  names : ∀ cells name v, values name = some v → Machine.lookup? { m with cells } name = some v

/-- The run gives a result, and leaves everything but the cells. -/
def Yields {α : Type} (run : Run α) (m : Machine) (a : α) : Prop :=
  ∃ cells, run m = .ok (a, { m with cells })

lemma bind_of_ok {α β : Type} {run : Run α} {m n : Machine} {a : α} (h : run m = .ok (a, n))
    (next : α → Run β) : (run >>= next) m = next a n := by
  change (run m >>= fun r => next r.1 r.2) = _
  rw [h]
  rfl

lemma Yields.bind {α β : Type} {run : Run α} {next : α → Run β} {m : Machine} {a : α} {b : β}
    (h : Yields run m a) (hnext : ∀ cells, Yields (next a) { m with cells } b) :
    Yields (run >>= next) m b := by
  obtain ⟨cells, h⟩ := h
  obtain ⟨more, hmore⟩ := hnext cells
  exact ⟨more, by rw [bind_of_ok h, hmore]⟩

lemma Shows.withCells {m : Machine} {values : Values} (h : Shows m values) (cells : Array Cell) :
    Shows { m with cells } values :=
  ⟨h.prints, h.asIs, fun more name v hv => h.names more name v hv⟩

variable {bodies : Bodies} {m : Machine} {values : Values}

/-! ### Paths -/

lemma eval_name {name : String} {v : Value} (h : Shows m values) (hv : values name = some v) :
    (Expr.name name).eval bodies m = .ok (v, m) := by
  have hname : m.lookup? name = some v := h.names m.cells name v hv
  rw [Expr.eval]
  change Except.ok ((m.lookup? name).getD .undefined, m) = _
  rw [hname, Option.getD_some]

lemma eval_field {e : Expr} {v w : Value} {name : String} (h : e.eval bodies m = .ok (v, m))
    (hw : fieldOf? v name = some w) : (Expr.field e name).eval bodies m = .ok (w, m) := by
  rw [Expr.eval, bind_of_ok h, bind_of_ok (show (get : Run Machine) m = .ok (m, m) from rfl)]
  cases v with
  | map fields =>
    change lookInto (.map fields) (Value.lookup (.text name) fields) m = _
    rw [show Value.lookup (.text name) fields = some w from hw]
    rfl
  | _ => cases hw

lemma eval_path {p : FieldPath} {v : Value} (h : Shows m values) (hv : p.value? values = some v) :
    p.expr.eval bodies m = .ok (v, m) := by
  have hfields : ∀ (fields : List String) (e : Expr) (u : Value), e.eval bodies m = .ok (u, m) →
      fields.foldlM fieldOf? u = some v →
      (fields.foldl Expr.field e).eval bodies m = .ok (v, m) := by
    intro fields
    induction fields with
    | nil =>
      intro e u he hu
      cases hu
      exact he
    | cons name fields ih =>
      intro e u he hu
      rw [List.foldlM_cons, Option.bind_eq_bind, Option.bind_eq_some_iff] at hu
      obtain ⟨w, hw, hu⟩ := hu
      exact ih _ w (eval_field he hw) hu
  rw [FieldPath.value?, Option.bind_eq_some_iff] at hv
  obtain ⟨u, hu, hv⟩ := hv
  exact hfields _ _ u (eval_name h hu) hv

/-! ### Outputs and conditions -/

lemma stillNow_text (s : String) : stillNow (.text s) m = .ok (.text s, m) := by
  change Except.ok (m.still (m.cells.size + 1) (.text s), m) = _
  rw [Machine.still] <;> simp

lemma emit_text (s : String) (h : Shows m values) : emit (.text s) m = .ok (s, m) := by
  rw [emit, bind_of_ok (show operand (.text s) m = .ok (.text s, m) from stillNow_text s)]
  change Except.ok (if m.isMuted then "" else outputText m.escaping (.text s), m) = _
  rw [h.prints, h.asIs]
  rfl

lemma truth_bool (b : Bool) : truth (.bool b) m = .ok (b, m) := by
  have hstill : operand (.bool b) m = .ok (.bool b, m) := by
    change Except.ok (m.still (m.cells.size + 1) (.bool b), m) = _
    rw [Machine.still] <;> simp
  rw [truth, bind_of_ok hstill]
  rfl

lemma eval_quoted {e : Expr} {s : String} (h : Shows m values)
    (he : e.eval bodies m = .ok (.text s, m)) :
    (Expr.filter e "quote" []).eval bodies m = .ok (.text (Text.quote s), m) := by
  have hargs : evalArguments bodies [] m = .ok ([], m) := by
    rw [evalArguments, evalPlain, evalNamed]
    rfl
  have hstill : List.mapM stillNow [Value.text s] m = .ok ([.text s], m) := by
    rw [List.mapM_cons, bind_of_ok (stillNow_text s)]
    rfl
  rw [Expr.eval, bind_of_ok he, bind_of_ok hargs, bind_of_ok hstill,
    bind_of_ok (show (get : Run Machine) m = .ok (m, m) from rfl), h.asIs]
  rfl

/-! ### Loops -/

def insideLoop (m : Machine) (cell : Nat) (locals : List (String × Value)) (cells : Array Cell) :
    Machine :=
  { m with frames := { locals, loop? := some cell } :: m.frames, cells }

lemma insideLoop_lookup? (m : Machine) (cell : Nat) (name other : String) (v : Value)
    (cells : Array Cell) :
    (insideLoop m cell [(name, v)] cells).lookup? other =
      if other = name then some v else if other = "loop" then some (.running cell)
      else Machine.lookup? { m with cells } other := by
  have hframes : (insideLoop m cell [(name, v)] cells).frames =
    { locals := [(name, v)], loop? := some cell } :: m.frames := rfl
  rw [Machine.lookup?, hframes, List.findSome?_cons]
  by_cases hname : other = name
  · simp [Machine.inFrame?, hname]
  · by_cases hloop : other = "loop"
    · have hne : ("loop" == name) = false := beq_false_of_ne (hloop ▸ hname)
      simp [Machine.inFrame?, List.lookup_cons, hne, hloop, hloop ▸ hname]
    · rw [if_neg hname, if_neg hloop]
      have hframe : (insideLoop m cell [(name, v)] cells).inFrame? other
          { locals := [(name, v)], loop? := some cell } = none := by
        simp [Machine.inFrame?, List.lookup_cons, beq_false_of_ne hname, hloop]
      rw [hframe]
      rfl

/-- Inside of a loop the element and the loop have names, and all other names mean what they mean
outside. -/
lemma Shows.insideLoop (h : Shows m values) (cell : Nat) (name : String) (v : Value)
    (cells : Array Cell) :
    Shows (insideLoop m cell [(name, v)] cells) (values.enter name v) where
  prints := h.prints
  asIs := h.asIs
  names := by
    intro more other w hw
    change (Template.insideLoop m cell [(name, v)] more).lookup? other = some w
    rw [insideLoop_lookup?]
    rw [Values.enter] at hw
    split at hw
    · next heq => rwa [if_pos heq]
    · next hne =>
      split at hw
      · cases hw
      · next hloop => rw [if_neg hne, if_neg hloop, h.names more other w hw]

lemma renderElements_cons {v : Value} (hvalid : ∀ reason, v ≠ .invalid reason) (m : Machine)
    (cell : Nat) (l : LoopState) (body : Value → Run String) (vs : List Value) (place : Nat)
    (previous? : Option Value) (locals : List (String × Value)) (cells : Array Cell) :
    ∃ more, renderElements cell l body place previous? (v :: vs) (insideLoop m cell locals cells)
      = (do
          let first ← body v
          return first ++ (← renderElements cell l body (place + 1) (some v) vs))
        (insideLoop m cell locals more) := by
  cases v with
  | invalid reason => exact absurd rfl (hvalid reason)
  | _ => exact ⟨_, rfl⟩

lemma renderElements_eq {cell : Nat} {l : LoopState} {body : Value → Run String}
    {text : Value → String} {name : String} {vs : List Value}
    (hvalid : ∀ v ∈ vs, ∀ reason, v ≠ .invalid reason)
    (hbody : ∀ v ∈ vs, ∀ locals cells, (∀ f ∈ locals, f.1 = name) →
      ∃ more, body v (insideLoop m cell locals cells)
        = .ok (text v, insideLoop m cell [(name, v)] more))
    (place : Nat) (previous? : Option Value) (locals : List (String × Value)) (cells : Array Cell)
    (hlocals : ∀ f ∈ locals, f.1 = name) :
    ∃ last more, renderElements cell l body place previous? vs (insideLoop m cell locals cells)
      = .ok (String.join (vs.map text), insideLoop m cell last more) := by
  induction vs generalizing place previous? locals cells with
  | nil => exact ⟨locals, cells, rfl⟩
  | cons v vs ih =>
    obtain ⟨before, hstep⟩ := renderElements_cons (hvalid v List.mem_cons_self) m cell l body vs
      place previous? locals cells
    obtain ⟨after, hv⟩ := hbody v List.mem_cons_self locals before hlocals
    obtain ⟨last, more, hrest⟩ := ih (fun w hw => hvalid w (List.mem_cons_of_mem _ hw))
      (fun w hw => hbody w (List.mem_cons_of_mem _ hw)) (place + 1) (some v) [(name, v)] after
      (by simp)
    refine ⟨last, more, ?_⟩
    rw [hstep, bind_of_ok hv, bind_of_ok hrest, List.map_cons, String.join_cons]
    rfl

lemma inFrame_of_ok {α : Type} {f : Frame} {run : Run α} {n : Machine} {a : α}
    (hdeep : m.depth ≤ Machine.depthLimit)
    (h : run { m with frames := f :: m.frames } = .ok (a, n)) :
    inFrame f run m = .ok (a, { n with frames := n.frames.tail }) := by
  have hgo : goDeep m.depth m = .ok ((), m) := by
    rw [goDeep, if_neg (by omega)]
    rfl
  rw [inFrame, bind_of_ok (show (get : Run Machine) m = .ok (m, m) from rfl), bind_of_ok hgo,
    bind_of_ok (show (modify fun m => { m with frames := f :: m.frames } : Run Unit) m =
      .ok ((), { m with frames := f :: m.frames }) from rfl), bind_of_ok h]
  rfl

lemma renderLoop_list {body : Value → Run String} {empty : Run String} {text : Value → String}
    {name : String} {vs : List Value} (hdeep : m.depth ≤ Machine.depthLimit)
    (hvalid : ∀ v ∈ vs, ∀ reason, v ≠ .invalid reason)
    (hbody : ∀ cell, ∀ v ∈ vs, ∀ locals cells, (∀ f ∈ locals, f.1 = name) →
      ∃ more, body v (insideLoop m cell locals cells)
        = .ok (text v, insideLoop m cell [(name, v)] more))
    (hempty : ∀ cells, Yields empty { m with cells } "") (depth : Nat) :
    Yields (renderLoop none depth body empty (.list vs)) m (String.join (vs.map text)) := by
  let l : LoopState := { depth, length? := some vs.length, again? := none }
  let begun : Machine := { m with cells := m.cells.push (.loop l) }
  obtain ⟨last, more, hrun⟩ := renderElements_eq (m := m) (l := l) hvalid (hbody m.cells.size) 0
    none [] begun.cells (by simp)
  have hframe : inFrame { loop? := some m.cells.size }
      (renderElements m.cells.size l body 0 none vs) begun =
        .ok (String.join (vs.map text), { m with cells := more }) :=
    inFrame_of_ok (m := begun) hdeep hrun
  have hrest : renderLoop none depth body empty (.list vs) m =
      (if vs.isEmpty then empty else return String.join (vs.map text))
        { m with cells := more } := by
    rw [renderLoop, bind_of_ok (show loopElements (.list vs) m = .ok ((vs, true), m) from rfl)]
    change (newCell (.loop l) >>= fun cell =>
      inFrame { loop? := some cell } (renderElements cell l body 0 none vs) >>= fun text =>
        if vs.isEmpty then empty else return text) m = _
    rw [bind_of_ok (show newCell (.loop l) m = .ok (m.cells.size, begun) from rfl),
      bind_of_ok hframe]
  rw [Yields, hrest]
  cases vs with
  | nil => exact hempty more
  | cons v vs => exact ⟨more, rfl⟩

/-! ### Pieces -/

lemma Shape.Holds.ne_invalid {s : Shape} {v : Value} (h : s.Holds v) (reason : String) :
    v ≠ .invalid reason := by
  rintro rfl
  cases s <;> simp [Shape.Holds] at h

lemma nextDepth_ok (m : Machine) : ∃ depth, nextDepth m = .ok (depth, m) := by
  rw [nextDepth, bind_of_ok (show (get : Run Machine) m = .ok (m, m) from rfl)]
  cases m.loop? with
  | none => exact ⟨0, rfl⟩
  | some l => exact ⟨_, rfl⟩

lemma assign_name {cell : Nat} {name : String} {locals : List (String × Value)}
    (hlocals : ∀ f ∈ locals, f.1 = name) (v : Value) (cells : Array Cell) :
    (Target.name name).assign bodies v (insideLoop m cell locals cells) =
      .ok ((), insideLoop m cell [(name, v)] cells) := by
  have hput : Machine.put name v locals = [(name, v)] := by
    rw [Machine.put, List.filter_eq_nil_iff.mpr fun f hf => by simp [hlocals f hf]]
  rw [Target.assign]
  change Except.ok ((), (insideLoop m cell (Machine.put name v locals) cells)) = _
  rw [hput]

mutual

/-- A piece that fits the shapes of the values is printed as it says. -/
theorem Piece.render_node {shapes : List (String × Shape)} {values : Values} {m : Machine}
    (p : Piece) (hfits : p.fits shapes = true) (hold : AllHold shapes values)
    (hshows : Shows m values) (hdeep : m.depth + p.nesting ≤ Machine.depthLimit + 1) :
    Yields (p.node.render bodies) m (p.fill values) := by
  cases p with
  | text s =>
    have htext : (if m.isMuted then "" else s) = s := by
      rw [hshows.prints, if_neg Bool.false_ne_true]
    refine ⟨m.cells, ?_⟩
    rw [Piece.node, Node.render, Piece.fill]
    change Except.ok (if m.isMuted then "" else s, m) = _
    rw [htext]
  | gap p =>
    obtain ⟨s, hs⟩ := hold.text_at hfits
    refine ⟨m.cells, ?_⟩
    rw [Piece.node, Node.render, bind_of_ok (eval_path hshows hs), emit_text s hshows, Piece.fill,
      FieldPath.textIn, hs]
  | quoted p =>
    obtain ⟨s, hs⟩ := hold.text_at hfits
    refine ⟨m.cells, ?_⟩
    rw [Piece.node, Node.render, bind_of_ok (eval_quoted hshows (eval_path hshows hs)),
      emit_text _ hshows, Piece.fill, FieldPath.textIn, hs]
  | choice p yes no =>
    rw [Piece.fits, Bool.and_eq_true, Bool.and_eq_true] at hfits
    rw [Piece.nesting] at hdeep
    obtain ⟨b, hb⟩ := hold.flag_at hfits.1.1
    rw [Piece.node, Node.render, Piece.fill, FieldPath.flagIn, hb, Yields,
      bind_of_ok (eval_path hshows hb), bind_of_ok (truth_bool b)]
    cases b with
    | true => exact renderAll_nodesOf yes hfits.1.2 hold hshows (by omega)
    | false => exact renderAll_nodesOf no hfits.2 hold hshows (by omega)
  | each name p body =>
    rw [Piece.fits] at hfits
    split at hfits
    · next s hs =>
      rw [Piece.nesting] at hdeep
      obtain ⟨vs, hvs, hitems⟩ := hold.items_at hs
      obtain ⟨depth, hdepth⟩ := nextDepth_ok m
      have hbody : ∀ cell, ∀ v ∈ vs, ∀ locals cells, (∀ f ∈ locals, f.1 = name) →
          ∃ more, ((Target.name name).assign bodies v >>= fun _ => renderAll bodies (nodesOf body))
              (insideLoop m cell locals cells)
            = .ok (fillAll body (values.enter name v), insideLoop m cell [(name, v)] more) := by
        intro cell v hv locals cells hlocals
        rw [bind_of_ok (assign_name hlocals v cells)]
        refine renderAll_nodesOf body hfits (hold.enter name (hitems v hv))
          (hshows.insideLoop cell name v cells) ?_
        change m.outside + (m.frames.length + 1) + _ ≤ _
        rw [Machine.depth] at hdeep
        omega
      have hempty : ∀ cells, Yields (renderAll bodies []) { m with cells } "" :=
        fun cells => ⟨cells, rfl⟩
      have hloop := renderLoop_list (by omega) (fun v hv => (hitems v hv).ne_invalid) hbody hempty
        depth
      rw [Piece.node, Node.render, Piece.fill, FieldPath.itemsIn, hvs, Yields,
        bind_of_ok (eval_path hshows hvs)]
      change ∃ cells, (nextDepth >>= fun depth => renderLoop none depth _ _ _) m = _
      rw [bind_of_ok hdepth]
      exact hloop
    · cases hfits

/-- Pieces that fit the shapes of the values are printed as they say. -/
theorem renderAll_nodesOf {shapes : List (String × Shape)} {values : Values} {m : Machine}
    (ps : List Piece) (hfits : allFit ps shapes = true) (hold : AllHold shapes values)
    (hshows : Shows m values) (hdeep : m.depth + nestingAll ps ≤ Machine.depthLimit + 1) :
    Yields (renderAll bodies (nodesOf ps)) m (fillAll ps values) := by
  cases ps with
  | nil => exact ⟨m.cells, rfl⟩
  | cons p ps =>
    rw [allFit, Bool.and_eq_true] at hfits
    rw [nestingAll] at hdeep
    rw [nodesOf, renderAll, fillAll]
    refine Yields.bind (Piece.render_node p hfits.1 hold hshows (by omega)) fun cells => ?_
    refine Yields.bind (renderAll_nodesOf ps hfits.2 hold (hshows.withCells cells) ?_) fun _ => ?_
    · change m.depth + _ ≤ _
      omega
    · exact ⟨_, rfl⟩

end

/-! ### Templates -/

lemma shows_base {values : List (String × Value)} (hframes : m.frames = [{ base := values }])
    (hprints : m.isMuted = false) (hasIs : m.escaping = false) :
    Shows m fun name => values.lookup name where
  prints := hprints
  asIs := hasIs
  names := by
    intro cells name v hv
    have hframe (n : Machine) : n.inFrame? name { base := values } = some v := hv
    rw [Machine.lookup?, hframes, List.findSome?_cons, hframe]
    rfl

/-- **Printing.** A template whose pieces fit the shapes of the values is rendered, and its text is
the one that the pieces make of the values. -/
theorem renderTemplate_eq {templates : List (String × List Node)} {name : String} {ps : List Piece}
    {values : List (String × Value)} {shapes : List (String × Shape)}
    (htemplate : templates.lookup name = some (nodesOf ps)) (hfits : allFit ps shapes = true)
    (hold : AllHold shapes fun name => values.lookup name)
    (hdeep : nestingAll ps ≤ Machine.depthLimit) :
    renderTemplate templates name values = .ok (fillAll ps fun name => values.lookup name) := by
  obtain ⟨levels, hlevels⟩ : ∃ n, levelLimit = n + 1 := ⟨2 * Machine.depthLimit - 1, rfl⟩
  let m : Machine :=
    { frames := [{ base := values }], blocks := ownBlocks (nodesOf ps), extended := [name] }
  obtain ⟨cells, hrun⟩ := renderAll_nodesOf (m := m) ps hfits hold
    (shows_base rfl rfl rfl) (by change 0 + 1 + _ ≤ _; omega)
  rw [renderTemplate, htemplate, hlevels]
  change Except.map Prod.fst (renderBody (bodiesWithin templates levels) (nodesOf ps) m) = _
  have hbody : renderBody (bodiesWithin templates levels) (nodesOf ps) m =
      .ok (fillAll ps fun name => values.lookup name, { m with cells }) := by
    rw [renderBody, bind_of_ok (show (get : Run Machine) m = .ok (m, m) from rfl),
      bind_of_ok (show (set m : Run Unit) m = .ok ((), m) from rfl), bind_of_ok hrun]
    rfl
  rw [hbody]
  rfl

end ClientGen.Template
