import TableScaffold.Definition
import TableScaffold.Logged

/-!
# Definitions from syntax trees

A syntax tree is a dynamic value in which mappings and records name the parts of a statement. The
reader is lenient: a name may stand for a mapping that holds it, one item for a list of one.
-/

namespace TableScaffold

namespace Tree

/-- The name of the first table: the table itself, or its name in a mapping or a list. -/
def firstTable : Value → Value
  | .list [] => .null
  | .list (.str s :: _) => .str s
  | .list (v :: _) => v.field "table"
  | .str s => .str s
  | v => v.field "table"

/-- The name of a column: a text, or the entry of a mapping. -/
def columnName : Value → Value
  | .str s => .str s
  | v => v.field "column"

/-- The names of columns; empty names are left out, and one column may stand for a list. -/
def columnNames (v : Value) : List String :=
  let nodes := if !v.truthy then [] else match v with
    | .list vs => vs
    | v => [v]
  (nodes.map columnName).filterMap fun n => if n.truthy then some n.text else none

/-- A length given as a number or as text. -/
def wholeOf : Value → Option Int
  | .int n => some n
  | .bool b => some (if b then 1 else 0)
  | .float x => Decimal.truncate? x
  | .str s => Decimal.whole? s
  | _ => none

/-- The length of a type; it may be wrapped in a mapping. -/
def lengthOf (definition : Value) : Option Int :=
  match definition.field "length" with
  | .int n => wholeOf (.int n)
  | .bool b => wholeOf (.bool b)
  | .str s => wholeOf (.str s)
  | v => wholeOf (v.field "value")

/-- A column entry. -/
def column (node : Value) : Checked ColumnDefinition :=
  let definition := node.field "definition"
  let name := (columnName (node.field "column")).orNull
  let nullability := ((node.field "nullable").field "type").orNull
  (Checked.under "data_type" (Check.optionalText (definition.field "dataType").orNull)).map
    fun dataType =>
      { name := if name.truthy then name.text else ""
        dataType
        length := lengthOf definition
        isOptional := nullability.truthy && Text.lower nullability.text == "null" }

/-- A foreign key entry. -/
def foreignKey (node : Value) : Logged (Checked ForeignKeyDefinition) := do
  let reference := node.field "reference_definition"
  let localColumns := columnNames (node.field "definition")
  let remoteColumns := columnNames (reference.field "definition")
  let table := (firstTable (reference.field "table")).orNull
  let onDelete ← ReferentialAction.ofValue (reference.field "on_delete")
  let onUpdate ← ReferentialAction.ofValue (reference.field "on_update")
  let name := Checked.under "name" (Check.optionalText (node.field "constraint"))
  let referencedTable := Checked.under "referenced_table"
    (if table.truthy then Check.text table else .ok "")
  pure (Checked.apply
    (name.map fun name referencedTable =>
      { name
        column := localColumns.headD ""
        referencedTable
        referencedColumn := remoteColumns.headD ""
        onDelete
        onUpdate })
    referencedTable)

/-- An index entry. -/
def index (node : Value) : Checked IndexDefinition :=
  (Checked.under "name" (Check.optionalText (node.field "index"))).map fun name =>
    { name, columns := columnNames (node.field "definition") }

/-- Whether a value is a given text. -/
def isText (v : Value) (s : String) : Bool :=
  match v with
  | .str t => t == s
  | _ => false

/-- One entry of a table. An entry of no known kind is left out with a notice. -/
def definition (node : Value) : Attempt TreeFault Definition := do
  let resource := node.field "resource"
  let constraintType := node.field "constraint_type"
  if isText resource "column" then
    Attempt.ofExcept ((column node).map Definition.column |>.mapError .problems)
  else if constraintType.truthy && Text.upper constraintType.text == "FOREIGN KEY" then
    let key ← Attempt.ofLogged (foreignKey node)
    Attempt.ofExcept (key.map Definition.foreignKey |>.mapError .problems)
  else if isText resource "index" then
    Attempt.ofExcept ((index node).map Definition.index |>.mapError .problems)
  else
    let label := if constraintType.truthy then constraintType else resource
    Attempt.note (.droppedDefinition label.text)
    pure (.other (if label.truthy then some label.text else none))

/-- The entries of a table: the items of a list, the keys of a mapping, the characters of a text. A
record cannot be gone through. -/
def entries (v : Value) : Except TreeFault (List Value) :=
  if !v.truthy then .ok []
  else match v with
    | .list vs => .ok vs
    | .map es => .ok (es.map fun e => .str e.1)
    | .str s => .ok (s.toList.map fun c => .str (String.singleton c))
    | _ => .error .entriesNotListed

/-- All entries of a table in order. -/
def definitions : List Value → Attempt TreeFault (List Definition)
  | [] => pure []
  | v :: rest => do
    let d ← definition v
    let ds ← definitions rest
    pure (d :: ds)

/-- Whether the type of a statement says that it creates something. -/
def isCreate (statementType : Value) : Except TreeFault Bool :=
  match statementType with
  | .str s => .ok (Text.lower s == "create")
  | v => if v.truthy then .error .typeNotText else .ok false

/-- A statement. The entries of a statement that creates nothing are not looked at. -/
def statement (node : Value) : Attempt TreeFault CreateStatement := do
  let statementType := node.field "type"
  let type := Checked.under "statement_type" (Check.optionalText statementType)
  if ← Attempt.ofExcept (isCreate statementType) then
    let nodes ← Attempt.ofExcept (entries (node.field "create_definitions"))
    let ds ← definitions nodes
    let keyword := Checked.under "keyword" (Check.optionalText (node.field "keyword"))
    let table := Checked.under "table_name"
      (Check.optionalText (firstTable (node.field "table")))
    let checked := type.map CreateStatement.mk
      |> (Checked.apply · keyword)
      |> (Checked.apply · table)
    Attempt.ofExcept ((checked.map fun f => f ds).mapError .problems)
  else
    Attempt.ofExcept
      ((type.map fun statementType => { statementType }).mapError .problems)

end Tree

end TableScaffold
