import TableScaffold.Decimal.Whole
import TableScaffold.Text.Case
import TableScaffold.Value

/-!
# Statements

A script is a list of statements. Of a CREATE statement the table and its entries are kept, of any
other statement only its kind. A statement is written out as a generic tree.
-/

namespace TableScaffold.Sql

/-- The name of a table, perhaps with the schema that holds it. -/
structure TableName where
  container : Option String := none
  name : String
  deriving DecidableEq, Repr

/-- A type as the dialect understands it, with the text of its first parameter. A type that is made up
of others, as an interval of days, has no name. -/
structure DataType where
  name : Option String
  size : Option String := none
  deriving DecidableEq, Repr

/-- A column. `after` is the script after the name, unless the name was written as a literal;
`emptyClause` says that a named constraint of the column has no content. -/
structure ColumnEntry where
  name : String
  after : Option (List Char) := none
  type : Option DataType := none
  nullable : Option Bool := none
  emptyClause : Bool := false
  deriving DecidableEq, Repr

/-- A foreign key with the actions that it names. -/
structure ForeignKeyEntry where
  name : Option String := none
  columns : List String
  table : Option TableName := none
  remoteColumns : List String := []
  onDelete : Option String := none
  onUpdate : Option String := none
  deriving DecidableEq, Repr

/-- An index. -/
structure IndexEntry where
  name : Option String := none
  columns : List String
  deriving DecidableEq, Repr

/-- One entry of the parenthesized list of a CREATE statement. -/
inductive Entry where
  | column (c : ColumnEntry)
  | foreignKey (k : ForeignKeyEntry)
  | index (i : IndexEntry)
  /-- What could have been the name of a column, with nothing behind it. -/
  | lone (label name : String)
  | other (label : String)
  deriving DecidableEq, Repr

/-- A statement. -/
inductive Statement where
  | create (keyword : String) (table : Option TableName) (entries : List Entry)
  | other (kind : String)
  deriving DecidableEq, Repr

/-- The entries of a statement: only a CREATE statement has any. -/
def Statement.entries : Statement → List Entry
  | .create _ _ entries => entries
  | .other _ => []

/-- Why a statement that was read cannot be written out. -/
inductive TreeError where
  /-- A type without a name, where no word behind the name of the column stands for it. -/
  | unnamedType
  /-- The digits of a length cannot be read as a number. -/
  | lengthNotRead
  /-- A named constraint of a column has no content. -/
  | emptyClause
  deriving DecidableEq, Repr

/-- Whether a character may start a type word. -/
def startsTypeWord (c : Char) : Bool := c.isAlpha || c = '_'

/-- Whether a character may stand inside a type word. -/
def inTypeWord (c : Char) : Bool := c.isAlphanum || c = '_'

/-- The word at the front of a script, after blanks. -/
def typeWord? (script : List Char) : Option String :=
  match script.dropWhile Text.isBlank with
  | [] => none
  | c :: cs =>
    if startsTypeWord c then some (String.ofList (c :: cs.takeWhile inTypeWord)) else none

/-- The type of a column: the word after its name in capital letters, else the name of the type. -/
def ColumnEntry.declaredType (c : ColumnEntry) (t : DataType) : Option String :=
  (c.after.bind typeWord? <|> t.name).map Text.upper

/-- The length that a type gives: its first parameter if that consists of digits. -/
def DataType.length (t : DataType) : Except TreeError (Option Int) :=
  match t.size with
  | none => .ok none
  | some s =>
    if !Text.isAllDigits s then .ok none
    else
      match Decimal.whole? s with
      | some n => .ok (some n)
      | none => .error .lengthNotRead

/-- A name as a reference to a column. -/
def columnReference (name : String) : Value := .map [("column", .str name)]

/-- A table as a tree. -/
def TableName.tree (t : TableName) : Value :=
  .map [("db", Value.ofOption t.container), ("table", .str t.name)]

/-- The one table of a statement, or none. -/
def tableList (t : Option TableName) : Value := .list (t.toList.map TableName.tree)

/-- The nullability of a column as a tree. -/
def nullabilityTree : Option Bool → Value
  | none => .null
  | some true => .map [("type", .str "null"), ("value", .str "null")]
  | some false => .map [("type", .str "not null"), ("value", .str "not null")]

/-- The declared type of a column with its length, if it has a type. -/
def ColumnEntry.typeAndLength (c : ColumnEntry) : Except TreeError (Option String × Option Int) :=
  match c.type with
  | none => .ok (none, none)
  | some t =>
    match c.declaredType t with
    | none => .error .unnamedType
    | some w => t.length.map (some w, ·)

/-- A column as a tree. -/
def ColumnEntry.tree (c : ColumnEntry) : Except TreeError Value := do
  let (type, length) ← c.typeAndLength
  if c.emptyClause then throw .emptyClause
  return .map
    [("resource", .str "column"), ("column", columnReference c.name),
     ("definition", .map [("dataType", Value.ofOption type), ("length", Value.ofWhole length)]),
     ("nullable", nullabilityTree c.nullable)]

/-- A foreign key as a tree. -/
def ForeignKeyEntry.tree (k : ForeignKeyEntry) : Value :=
  .map
    [("resource", .str "constraint"), ("constraint_type", .str "FOREIGN KEY"),
     ("constraint", Value.ofOption k.name),
     ("definition", .list (k.columns.map columnReference)),
     ("reference_definition", .map
      [("table", tableList k.table), ("definition", .list (k.remoteColumns.map columnReference)),
       ("on_delete", Value.ofOption k.onDelete), ("on_update", Value.ofOption k.onUpdate)])]

/-- An index as a tree. -/
def IndexEntry.tree (i : IndexEntry) : Value :=
  .map
    [("resource", .str "index"), ("index", Value.ofOption i.name),
     ("definition", .list (i.columns.map columnReference))]

/-- An entry as a tree. -/
def Entry.tree : Entry → Except TreeError Value
  | column c => c.tree
  | foreignKey k => .ok k.tree
  | index i => .ok i.tree
  | lone label _ | other label =>
    .ok (.map [("resource", .str "constraint"), ("constraint_type", .str label)])

/-- A statement as a tree. -/
def Statement.tree : Statement → Except TreeError Value
  | create keyword table entries => do
    let definitions ← entries.mapM Entry.tree
    return .map
      [("type", .str "create"), ("keyword", .str keyword), ("table", tableList table),
       ("create_definitions", .list definitions)]
  | other kind => .ok (.map [("type", .str (Text.lower kind))])

end TableScaffold.Sql
