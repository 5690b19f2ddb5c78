/-!
# Templates

A template is text with slots for values, loops, branches, assignments and included templates.
-/

namespace TableScaffold.Template

/-- An operation on two values. -/
inductive Operation where
  | add
  | subtract
  | multiply
  | divide
  /-- Joins two values as text. -/
  | join
  deriving DecidableEq, Repr

/-- A comparison of two values. -/
inductive Comparison where
  | equal
  | unequal
  | less
  | atMost
  | greater
  | atLeast
  deriving DecidableEq, Repr

/-- An expression over the values that a template is given. -/
inductive Expr where
  | null
  | bool (b : Bool)
  | whole (n : Nat)
  /-- The number `digits · 10 ^ exponent`. -/
  | decimal (digits : Nat) (exponent : Int)
  | text (s : String)
  | emptyList
  /-- A list with one more item in front. -/
  | cons (first rest : Expr)
  | name (n : String)
  | entry (e : Expr) (key : String)
  | item (e key : Expr)
  | filter (e : Expr) (filter : String)
  | negative (e : Expr)
  | positive (e : Expr)
  | operation (op : Operation) (l r : Expr)
  | comparison (op : Comparison) (l r : Expr)
  | not (e : Expr)
  | and (l r : Expr)
  | or (l r : Expr)
  | choose (test yes no : Expr)
  /-- The value if the test holds, else nothing. -/
  | onlyIf (test yes : Expr)
  deriving DecidableEq, Repr

/-- A template, one part after the other. -/
inductive Body where
  | done
  | text (s : String) (rest : Body)
  | output (e : Expr) (rest : Body)
  /-- Goes through items; the second body stands in when there is none. -/
  | each (var : String) (items : Expr) (body otherwise rest : Body)
  | branch (test : Expr) (yes no rest : Body)
  | assign (var : String) (e : Expr) (rest : Body)
  /-- Another template; `optional` if it may be missing. -/
  | embed (file : Expr) (optional : Bool) (rest : Body)
  deriving DecidableEq, Repr

end TableScaffold.Template
