import TableScaffold.Logged
import TableScaffold.Value
import TableScaffold.Text.Case

/-!
# Referential actions

What happens to a row when the row that it refers to is deleted or changed. Spaces, underscores and
letter case do not matter in a spelling.
-/

namespace TableScaffold

/-- An action of a foreign key. -/
inductive ReferentialAction where
  | noAction
  | cascade
  | setNull
  | restrict
  | setDefault
  deriving DecidableEq, Repr

namespace ReferentialAction

/-- All actions. -/
def all : List ReferentialAction := [noAction, cascade, setNull, restrict, setDefault]

/-- The word of an action in the generated model. -/
def word : ReferentialAction → String
  | noAction => "NoAction"
  | cascade => "Cascade"
  | setNull => "SetNull"
  | restrict => "Restrict"
  | setDefault => "SetDefault"

/-- The action of a word. -/
def ofWord? (w : String) : Option ReferentialAction := all.find? (·.word == w)

@[simp] theorem ofWord?_word (a : ReferentialAction) : ofWord? a.word = some a := by
  cases a <;> decide

/-- A spelling without spaces and underscores, in lower case. -/
def key (spelling : String) : String :=
  Text.lower (String.ofList (spelling.toList.filter fun c => c != ' ' && c != '_'))

/-- The action of a spelling. -/
def ofSpelling? (spelling : String) : Option ReferentialAction :=
  [("noaction", noAction), ("cascade", cascade), ("setnull", setNull), ("restrict", restrict),
   ("setdefault", setDefault)].lookup (key spelling)

/-- The action that a value spells; an absent one is no action, and an unknown spelling is no action
with a warning. -/
def ofValue (v : Value) : Logged ReferentialAction :=
  if !v.truthy then pure noAction
  else
    match ofSpelling? v.text with
    | some a => pure a
    | none => do
      Logged.note (.unsupportedAction v.text)
      pure noAction

end ReferentialAction

end TableScaffold
