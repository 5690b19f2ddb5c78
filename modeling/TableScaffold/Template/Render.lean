import TableScaffold.Template.Operand
import TableScaffold.Template.Parse

/-!
# Rendering

A template is rendered over the values of its names. A loop and an included template see the names
around them; what they assign is gone after them. What a branch assigns stays.
-/

namespace TableScaffold.Template

/-- The values of names; the first one for a name counts. -/
abbrev Scope := List (String × Operand)

/-- The value of a name. -/
def Scope.find (scope : Scope) (n : String) : Operand := (scope.lookup n).getD (missingName n)

namespace Expr

/-- The value of a decimal number. -/
def decimalValue (digits : Nat) (exponent : Int) : Value :=
  .float (Float.ofScientific digits (exponent < 0) exponent.natAbs)

/-- The number with the opposite sign. -/
def negated : Value → Except RenderFault Value
  | .float x => .ok (.float (-x))
  | v =>
    match wholeOf? v with
    | some n => .ok (.int (-n))
    | none => .error .mismatch

/-- The number itself. -/
def asNumber : Value → Except RenderFault Value
  | .float x => .ok (.float x)
  | v =>
    match wholeOf? v with
    | some n => .ok (.int n)
    | none => .error .mismatch

/-- What an expression gives. -/
def eval (scope : Scope) : Expr → Except RenderFault Operand
  | null => .ok (.value .null)
  | bool b => .ok (.value (.bool b))
  | whole n => .ok (.value (.int n))
  | decimal d e => .ok (.value (decimalValue d e))
  | text s => .ok (.value (.str s))
  | emptyList => .ok (.value (.list []))
  | cons e es => do
    let v ← (← e.eval scope).get
    match ← es.eval scope with
    | .value (.list vs) => return .value (.list (v :: vs))
    | x => return x
  | name n => .ok (scope.find n)
  | entry e key => do return Template.entry (← (← e.eval scope).get) key
  | item e key => do
    let v ← (← e.eval scope).get
    return Template.item v (← (← key.eval scope).get)
  | filter e f => do return .value (← applyFilter f (← e.eval scope))
  | negative e => do return .value (← negated (← (← e.eval scope).get))
  | positive e => do return .value (← asNumber (← (← e.eval scope).get))
  | operation .join l r => do
    let a ← (← l.eval scope).text
    let b ← (← r.eval scope).text
    return .value (.str (a ++ b))
  | operation op l r => do
    let a ← (← l.eval scope).get
    let b ← (← r.eval scope).get
    return .value (← operate op a b)
  | comparison op l r => do
    let a ← (← l.eval scope).get
    let b ← (← r.eval scope).get
    return .value (.bool (← compare op a b))
  | not e => do return .value (.bool !(← (← e.eval scope).truthy))
  | and l r => do
    let a ← l.eval scope
    if ← a.truthy then r.eval scope else return a
  | or l r => do
    let a ← l.eval scope
    if ← a.truthy then return a else r.eval scope
  | choose test yes no => do
    if ← (← test.eval scope).truthy then yes.eval scope else no.eval scope
  | onlyIf test yes => do
    if ← (← test.eval scope).truthy then yes.eval scope else return .absent

end Expr

/-- What a loop tells of its state at one item. -/
def loopState (index length : Nat) : Value :=
  .map [("index", .int (index + 1)), ("index0", .int index), ("revindex", .int (length - index)),
    ("revindex0", .int (length - index - 1)), ("first", .bool (index == 0)),
    ("last", .bool (index + 1 == length)), ("length", .int length)]

/-- The scopes of a loop, one for each item. -/
def loopScopes (var : String) (items : List Value) (scope : Scope) : List Scope :=
  items.mapIdx fun i v =>
    (var, .value v) :: ("loop", .value (loopState i items.length)) :: scope

/-- How an included template is rendered. -/
abbrev Embedding := Scope → Operand → Except RenderFault String

namespace Body

/-- The text of a template, and the names after it. -/
def render (embedding : Embedding) : Body → Scope → Except RenderFault (String × Scope)
  | done, scope => .ok ("", scope)
  | text s rest, scope => do
    let (t, scope) ← rest.render embedding scope
    return (s ++ t, scope)
  | output e rest, scope => do
    let s ← (← e.eval scope).text
    let (t, scope) ← rest.render embedding scope
    return (s ++ t, scope)
  | each var e body otherwise rest, scope => do
    let vs ← items (← e.eval scope)
    let s ← if vs.isEmpty then (otherwise.render embedding scope).map (·.1)
      else ((loopScopes var vs scope).mapM fun inner =>
        (body.render embedding inner).map (·.1)).map String.join
    let (t, scope) ← rest.render embedding scope
    return (s ++ t, scope)
  | branch test yes no rest, scope => do
    let (s, scope) ← if ← (← test.eval scope).truthy then yes.render embedding scope
      else no.render embedding scope
    let (t, scope) ← rest.render embedding scope
    return (s ++ t, scope)
  | assign var e rest, scope => do
    let x ← e.eval scope
    rest.render embedding ((var, x) :: scope)
  | embed file isOptional rest, scope => do
    let s ← match embedding scope (← file.eval scope) with
      | .error .fileMissing => if isOptional then .ok "" else .error .fileMissing
      | r => r
    let (t, scope) ← rest.render embedding scope
    return (s ++ t, scope)

end Body

/-- A collection of templates under the names of their files. -/
abbrev Library := String → Except RenderFault Body

/-- Renders the template in a file; at most `depth` templates may include each other. -/
def Library.renderFile (library : Library) : Nat → Scope → String → Except RenderFault String
  | 0, _, _ => .error .tooDeep
  | depth + 1, scope, file => do
    let body ← library file
    let embedding : Embedding := fun scope x => do
      match ← x.get with
      | .str s => renderFile library depth scope s
      | _ => .error .mismatch
    return (← body.render embedding scope).1

/-- How many templates may include each other. -/
def depthLimit : Nat := 100

end TableScaffold.Template
