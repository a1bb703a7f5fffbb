/-!
Templates: expressions, and the nodes of a text with gaps.
-/

namespace ClientGen.Template

/-- A value that is written down. -/
inductive Literal where
  | none
  | bool (b : Bool)
  | int (n : Nat)
  | float (x : Float)
  | text (s : String)
  deriving Inhabited

inductive Operator where
  | or
  | and
  | plus
  | minus
  | times
  | over
  /-- Whole division. -/
  | into
  | modulo
  | power
  /-- Prints both sides one behind the other. -/
  | join
  deriving DecidableEq

/-- A comparison of two values. -/
inductive Relation where
  | equal
  | unequal
  | less
  | atMost
  | greater
  | atLeast
  | within
  | notWithin
  deriving DecidableEq

mutual

inductive Expr where
  /-- Nothing is written. -/
  | absent
  /-- The text of the body that belongs to a tag. -/
  | body
  | literal (l : Literal)
  | name (s : String)
  | field (e : Expr) (name : String)
  | item (e index : Expr)
  /-- The items from one place up to another, in steps. -/
  | slice (e start stop step : Expr)
  | filter (e : Expr) (name : String) (args : List Argument)
  | test (e : Expr) (name : String) (args : List Argument)
  | negation (e : Expr)
  | opposite (e : Expr)
  | binary (op : Operator) (left right : Expr)
  /-- Every value compared with the one before it. -/
  | comparison (first : Expr) (rest : List Comparison)
  | choice (condition yes no : Expr)
  | list (items : List Expr)
  | map (fields : List (Expr × Expr))
  | call (callee : Callee) (args : List Argument)

/-- What is called. -/
inductive Callee where
  | function (name : String)
  /-- A block of this template. -/
  | block (name : String)
  /-- What a value has under a name. -/
  | method (e : Expr) (name : String)
  | value (e : Expr)

/-- A comparison with the value before it. -/
inductive Comparison where
  | mk (relation : Relation) (right : Expr)

inductive Argument where
  | plain (e : Expr)
  | named (name : String) (e : Expr)
  /-- Every item as an argument. -/
  | items (e : Expr)
  /-- Every field as a named argument. -/
  | fields (e : Expr)

end

instance : Inhabited Expr := ⟨.absent⟩

def hasNamed (args : List Argument) : Bool :=
  args.any fun
    | .named _ _ | .fields _ => true
    | _ => false

/-- What a value is given to. -/
inductive Target where
  | name (s : String)
  | field (e : Expr) (name : String)
  /-- One item for each target. -/
  | list (targets : List Target)

mutual

inductive Node where
  | text (s : String)
  | output (e : Expr)
  | choice (condition : Expr) (yes no : List Node)
  | loop (l : Loop)
  | assign (target : Target) (e : Expr)
  /-- The text of a body, through filters. -/
  | assignBody (target : Target) (filters : Expr) (body : List Node)
  /-- A body with values of its own. -/
  | scope (values : List (Target × Expr)) (body : List Node)
  /-- The text of a body through filters, in this place. -/
  | filterBody (filters : Expr) (body : List Node)
  /-- A body whose outputs are escaped, or not. -/
  | escaping (e : Expr) (body : List Node)
  /-- A part that a template may replace in the one that it extends. -/
  | block (name : String) (body : List Node)
  /-- The body of a block that has to be replaced. -/
  | demand
  | extend (e : Expr)
  /-- Another template in this place. An optional one may be missing. -/
  | insert (e : Expr) (optional : Bool)
  /-- The names of another template, as the fields of a value. -/
  | load (e : Expr) (target : Target)
  /-- Names of another template, each under a name here. -/
  | loadNames (e : Expr) (names : List (String × String))
  | define (r : Routine)
  /-- A call that may call a body back. -/
  | callWith (callee : Callee) (args : List Argument) (r : Routine)
  | perform (callee : Callee) (args : List Argument)

/-- A body for each element that meets a condition, or another one if there is none. -/
inductive Loop where
  | mk (target : Target) (elements condition : Expr) (recursive : Bool) (body empty : List Node)

/-- A body with parameters, of which some have defaults. -/
inductive Routine where
  | mk (name : String) (params : List (String × Expr)) (body : List Node)

end

instance : Inhabited Node := ⟨.text ""⟩

def Routine.name : Routine → String
  | .mk name _ _ => name

/-- The parameters of a routine, each with its default, which may be absent. -/
def Routine.params : Routine → List (String × Expr)
  | .mk _ params _ => params

def Routine.body : Routine → List Node
  | .mk _ _ body => body

end ClientGen.Template
