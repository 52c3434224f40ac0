namespace PreviewEnv.Template

/-- The operators between two expressions. -/
inductive Operator where
  | or
  | and
  | add
  | sub
  | concat
  | mul
  | div
  | floorDiv
  | rem
  | pow
deriving DecidableEq, Repr

/-- The comparisons of two values. -/
inductive Comparison where
  | eq
  | ne
  | lt
  | le
  | gt
  | ge
  /-- The left value is in the right one. -/
  | within
  | outside
deriving DecidableEq, Repr

inductive Expr where
  | none
  | bool (b : Bool)
  | int (n : Nat)
  | float (x : Float)
  | str (s : String)
  | var (name : String)
  | list (items : List Expr)
  | map (entries : List (Expr × Expr))
  | attr (e : Expr) (name : String)
  | item (e : Expr) (index : Expr)
  /-- The part of a sequence between two bounds, in steps; a bound that is missing is `none`. -/
  | slice (e start stop step : Expr)
  | call (f : Expr) (args : List Expr)
  | filter (name : String) (e : Expr) (args : List Expr)
  | test (name : String) (e : Expr) (args : List Expr)
  | neg (e : Expr)
  | not (e : Expr)
  | binary (op : Operator) (left right : Expr)
  /-- A chain of comparisons, all of which have to hold. -/
  | compare (first : Expr) (rest : List (Comparison × Expr))
  | cond (condition yes : Expr)
  | condElse (condition yes no : Expr)

/-- What a statement gives values to: a name, an attribute of a value, or targets for the items of a
sequence. -/
inductive Target where
  | name (s : String)
  | attr (e : Expr) (name : String)
  | items (ts : List Target)

/-- A filter with its arguments, before it has a value to work on. -/
structure FilterCall where
  name : String
  args : List Expr

/-- A statement, with the line on which it begins where it can fault. -/
inductive Stmt where
  | text (s : String)
  | emit (line : Nat) (e : Expr)
  | forEach (line : Nat) (target : Target) (subject : Expr) (condition : Option Expr)
      (body otherwise : List Stmt)
  | ifElse (line : Nat) (condition : Expr) (yes no : List Stmt)
  | set (line : Nat) (target : Target) (e : Expr)
  /-- Gives a target the text that the body prints, once it has gone through the filters. -/
  | capture (line : Nat) (target : Target) (filters : List FilterCall) (body : List Stmt)

end PreviewEnv.Template
