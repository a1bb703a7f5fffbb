import ClientGen.Template.Basic

/-!
The names that a routine takes from where it is defined. A body is walked through in its order: a
name is free if it is used before it is given a value in this body or in one around it.
-/

namespace ClientGen.Template

/-- What is known about names in the middle of a body. -/
structure NameUse where
  /-- The names that are free. -/
  free : List String := []
  /-- The names that have values, those of the innermost body first. -/
  given : List (List String) := [[]]

namespace NameUse

def give (name : String) (u : NameUse) : NameUse :=
  match u.given with
  | [] => { u with given := [[name]] }
  | names :: outer => { u with given := (name :: names) :: outer }

def use (name : String) (u : NameUse) : NameUse :=
  if u.given.any (·.contains name) then u else give name { u with free := name :: u.free }

/-- Walks through a body with names of its own. -/
def inside (walk : NameUse → NameUse) (u : NameUse) : NameUse :=
  let inner := walk { u with given := [] :: u.given }
  { inner with given := inner.given.tail }

end NameUse

mutual

def Target.names : Target → NameUse → NameUse
  | .name s, u => u.give s
  | .field _ _, u => u
  | .list targets, u => targetsNames targets u

def targetsNames : List Target → NameUse → NameUse
  | [], u => u
  | t :: ts, u => targetsNames ts (t.names u)

end

mutual

def Expr.names : Expr → NameUse → NameUse
  | .absent, u | .body, u | .literal _, u => u
  | .name s, u => u.use s
  | .field e _, u => e.names u
  | .item e index, u => index.names (e.names u)
  | .slice e start stop step, u => step.names (stop.names (start.names (e.names u)))
  | .filter e _ args, u => argumentsNames args (e.names u)
  | .test e _ args, u => argumentsNames args (e.names u)
  | .negation e, u => e.names u
  | .opposite e, u => e.names u
  | .binary _ left right, u => right.names (left.names u)
  | .comparison first rest, u => comparisonsNames rest (first.names u)
  | .choice condition yes no, u => no.names (yes.names (condition.names u))
  | .list items, u => exprsNames items u
  | .map fields, u => fieldsNames fields u
  | .call callee args, u => argumentsNames args (callee.names u)

def Callee.names : Callee → NameUse → NameUse
  | .function name, u => u.use name
  | .block _, u => u
  | .method e _, u => e.names u
  | .value e, u => e.names u

def comparisonsNames : List Comparison → NameUse → NameUse
  | [], u => u
  | .mk _ e :: rest, u => comparisonsNames rest (e.names u)

def exprsNames : List Expr → NameUse → NameUse
  | [], u => u
  | e :: es, u => exprsNames es (e.names u)

def fieldsNames : List (Expr × Expr) → NameUse → NameUse
  | [], u => u
  | (k, e) :: fs, u => fieldsNames fs (e.names (k.names u))

def argumentsNames : List Argument → NameUse → NameUse
  | [], u => u
  | .plain e :: as, u | .named _ e :: as, u | .items e :: as, u | .fields e :: as, u =>
    argumentsNames as (e.names u)

end

/-- Parameters get values, and then their defaults are used. -/
def paramsNames (params : List (String × Expr)) (u : NameUse) : NameUse :=
  let u := params.foldl (fun u p => u.give p.1) u
  params.foldl (fun u p => p.2.names u) u

/-- Values for a body: each target gets one before the expression is used. -/
def valuesNames (values : List (Target × Expr)) (u : NameUse) : NameUse :=
  values.foldl (fun u v => v.2.names (v.1.names u)) u

mutual

/-- The names in a node get values or are used. -/
def Node.names : Node → NameUse → NameUse
  | .text _, u | .demand, u | .extend _, u | .insert _ _, u => u
  | .output e, u => e.names u
  | .choice condition yes no, u =>
    (condition.names u).inside (nodesNames yes) |>.inside (nodesNames no)
  | .loop (.mk target elements condition _ body empty), u =>
    u.inside (fun u =>
      nodesNames body (condition.names ((target.names (elements.names u)).give "loop")))
      |>.inside (nodesNames empty)
  | .assign target e, u => e.names (target.names u)
  | .assignBody target filters body, u =>
    filters.names ((target.names u).inside (nodesNames body))
  | .scope values body, u => u.inside fun u => nodesNames body (valuesNames values u)
  | .filterBody filters body, u => filters.names (u.inside (nodesNames body))
  | .escaping e body, u => (e.names u).inside (nodesNames body)
  | .block _ body, u => u.inside fun u => nodesNames body (u.give "super")
  | .load _ target, u => target.names u
  | .loadNames _ names, u => names.foldl (fun u n => u.give n.2) u
  | .define (.mk name params body), u => nodesNames body (paramsNames params (u.give name))
  | .callWith callee args (.mk _ params body), u =>
    nodesNames body (paramsNames params (argumentsNames args (callee.names u)))
  | .perform callee args, u => argumentsNames args (callee.names u)

def nodesNames : List Node → NameUse → NameUse
  | [], u => u
  | n :: ns, u => nodesNames ns (n.names u)

end

/-- The names that a routine takes from where it is defined. -/
def Routine.freeNames (r : Routine) : List String :=
  (nodesNames r.body (paramsNames r.params {})).free

mutual

def Node.blocks : Node → List (String × List Node)
  | .block name body => (name, body) :: nodesBlocks body
  | .choice _ yes no => nodesBlocks yes ++ nodesBlocks no
  | .loop (.mk _ _ _ _ body empty) => nodesBlocks body ++ nodesBlocks empty
  | .assignBody _ _ body | .scope _ body | .filterBody _ body | .escaping _ body =>
    nodesBlocks body
  | _ => []

def nodesBlocks : List Node → List (String × List Node)
  | [] => []
  | n :: ns => n.blocks ++ nodesBlocks ns

end

end ClientGen.Template
