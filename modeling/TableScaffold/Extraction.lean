import TableScaffold.Definition.Tree
import TableScaffold.Naming
import TableScaffold.Schema

/-!
# Extraction

The schema of a table is taken from its CREATE TABLE statement. A column without a type is left out
with a warning. A relation gets a name that no column has.
-/

namespace TableScaffold

/-- Why no schema can be extracted. -/
inductive ExtractionError where
  | notACreateTable
  | badTree (fault : TreeFault)
  deriving DecidableEq, Repr

/-- The text of the error for a statement that creates no table. -/
def ExtractionError.notACreateTableText : String :=
  "Provided SQL is not a CREATE TABLE statement."

namespace Extraction

/-- The column of a definition, unless it has no type. -/
def column? (d : ColumnDefinition) : Logged (Option Column) :=
  match d.dataType with
  | none => do
    Logged.note (.missingType d.name)
    pure none
  | some t =>
    if t.isEmpty then do
      Logged.note (.missingType d.name)
      pure none
    else do
      let persistenceType ← persistenceType d.dataType d.name
      pure (some
        { name := d.name
          sqlType := t
          semanticType := semanticType d.dataType
          persistenceType
          isOptional := d.isOptional
          length := d.length })

/-- The columns of a list of definitions, in order. -/
def columns : List Definition → Logged (List Column)
  | [] => pure []
  | .column d :: rest => do
    let c? ← column? d
    let cs ← columns rest
    pure (c?.toList ++ cs)
  | _ :: rest => columns rest

/-- The foreign keys of a list of definitions, in order. -/
def foreignKeys (ds : List Definition) : List ForeignKeyDefinition :=
  ds.filterMap fun
    | .foreignKey k => some k
    | _ => none

/-- The indexes of a list of definitions, in order, their columns joined by commas. -/
def indexes (ds : List Definition) : List Index :=
  ds.filterMap fun
    | .index i => some { name := i.name, fields := ", ".intercalate i.columns }
    | _ => none

/-- The model that a table name refers to. A name in capitals counts as written in small letters;
mixed case marks words and stays. -/
def relatedModel (table : String) : String :=
  Naming.singularClass (if Text.isAllUpper table then Text.lower table else table)

/-- A name without `Id` at its end. -/
def trimId (name : String) : String :=
  if ['I', 'd'].isSuffixOf name.toList then String.ofList (name.toList.dropLast.dropLast) else name

/-- The name of the relation of a key column: the column in camel case; if a column has that name,
without `Id` at the end; if that is empty or taken too, with `Relation` at the end. -/
def relationName (columnNames : List String) (column : String) : String :=
  let name := Naming.camelCase column
  if !columnNames.contains name then name
  else if !(trimId name).isEmpty && !columnNames.contains (trimId name) then trimId name
  else name ++ "Relation"

/-- The relation of a foreign key. -/
def relation (columnNames : List String) (k : ForeignKeyDefinition) : Relation where
  name := relationName columnNames k.column
  relatedModel := relatedModel k.referencedTable
  field := k.column
  references := k.referencedColumn
  onDelete := k.onDelete
  onUpdate := k.onUpdate

/-- The schema of a table with the given entries. -/
def schema (table : Option String) (ds : List Definition) : Logged TableSchema := do
  let cs ← columns ds
  pure
    { tableName := table.getD ""
      columns := cs
      relations := (foreignKeys ds).map (relation (cs.map (·.name)))
      indexes := indexes ds }

/-- The schema of a statement's syntax tree. -/
def ofStatement (node : Value) : Attempt ExtractionError TableSchema := do
  let s ← ExceptT.adapt ExtractionError.badTree (Tree.statement node)
  if s.isCreateTable then Attempt.ofLogged (schema s.tableName s.definitions)
  else throw .notACreateTable

end Extraction

/-- The schema of a syntax tree: of a statement, or of the first of a list of statements. -/
def extract : Value → Attempt ExtractionError TableSchema
  | .list [] => throw .notACreateTable
  | .list [v] => Extraction.ofStatement v
  | .list (v :: rest) => do
    Attempt.note (.ignoredStatements rest.length)
    Extraction.ofStatement v
  | v => Extraction.ofStatement v

end TableScaffold
