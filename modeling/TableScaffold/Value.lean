import TableScaffold.Decimal.Shortest
import TableScaffold.Decimal.Whole
import TableScaffold.Text.Quoted

/-!
# Dynamic values

Syntax trees, view models, settings and dumped schemas are trees of dynamic values. A mapping keeps
the order of its entries. A record carries the same entries as named attributes; unlike a mapping it
always counts as present, and its text shows that it is a record.
-/

namespace TableScaffold

/-- A value whose shape is known only when it is looked at. -/
inductive Value where
  | null
  | bool (b : Bool)
  | int (n : Int)
  | float (x : Float)
  | str (s : String)
  | list (items : List Value)
  | map (entries : List (String × Value))
  | record (entries : List (String × Value))
  deriving Inhabited, BEq

namespace Value

/-- The named entries of a mapping or a record. -/
def entries? : Value → Option (List (String × Value))
  | map es | record es => some es
  | _ => none

/-- The entry under a key; null when there is none or the value has no entries. -/
def field (v : Value) (key : String) : Value :=
  ((v.entries?.getD []).lookup key).getD null

@[simp] theorem field_map (es : List (String × Value)) (key : String) :
    (map es).field key = (es.lookup key).getD null := rfl

@[simp] theorem field_record (es : List (String × Value)) (key : String) :
    (record es).field key = (es.lookup key).getD null := rfl

/-- Whether a value counts as present: null, false, zero and empty values do not. A record always
does. -/
def truthy : Value → Bool
  | null => false
  | bool b => b
  | int n => n != 0
  | float x => x != 0
  | str s => !s.isEmpty
  | list items => !items.isEmpty
  | map es => !es.isEmpty
  | record _ => true

/-- Whether a value is null. -/
def isNull : Value → Bool
  | null => true
  | _ => false

/-- The value if it counts as present, else null. -/
def orNull (v : Value) : Value := if v.truthy then v else null

/-- The text of a truth value. -/
def boolText (b : Bool) : String := if b then "True" else "False"

mutual

/-- The text of a value inside a list or a mapping, where text is quoted. -/
def inner : Value → String
  | null => "None"
  | bool b => boolText b
  | int n => toString n
  | float x => Decimal.ofFloat x
  | str s => Text.quoted s
  | list items => "[" ++ innerList items ++ "]"
  | map es => "\x7b" ++ innerEntries es ++ "\x7d"
  | record es => "namespace(" ++ ", ".intercalate (innerAttributes es) ++ ")"

/-- The texts of the items, parted by commas. -/
def innerList : List Value → String
  | [] => ""
  | [v] => inner v
  | v :: rest => inner v ++ ", " ++ innerList rest

/-- The texts of the entries, parted by commas. -/
def innerEntries : List (String × Value) → String
  | [] => ""
  | [(k, v)] => Text.quoted k ++ ": " ++ inner v
  | (k, v) :: rest => Text.quoted k ++ ": " ++ inner v ++ ", " ++ innerEntries rest

/-- The texts of the attributes of a record; an attribute with an empty name is not shown. -/
def innerAttributes : List (String × Value) → List String
  | [] => []
  | (k, v) :: rest =>
    if k.isEmpty then innerAttributes rest else (k ++ "=" ++ inner v) :: innerAttributes rest

end

/-- The text of a value: text as it is, other values as they are written down. -/
def text : Value → String
  | str s => s
  | v => v.inner

mutual

/-- Whether a value has a text: the whole numbers in it must not be too long. -/
def isWritable : Value → Bool
  | int n => Decimal.isWritable n
  | list items => isWritableList items
  | map es | record es => isWritableEntries es
  | null | bool _ | float _ | str _ => true

/-- Whether all items have a text. -/
def isWritableList : List Value → Bool
  | [] => true
  | v :: rest => v.isWritable && isWritableList rest

/-- Whether the values of all entries have a text. -/
def isWritableEntries : List (String × Value) → Bool
  | [] => true
  | (_, v) :: rest => v.isWritable && isWritableEntries rest

end

/-- A present text, or null. -/
def ofOption : Option String → Value
  | some s => str s
  | none => null

theorem isWritable_ofOption (s : Option String) : (ofOption s).isWritable = true := by
  cases s <;> rfl

/-- A whole number, or null. -/
def ofWhole : Option Int → Value
  | some n => int n
  | none => null

end Value

end TableScaffold
