import TableScaffold.Check
import TableScaffold.ReferentialAction

/-!
# Table definitions

The entries of a CREATE TABLE statement, by kind: columns, foreign keys, indexes, and others that
the generator does not use.
-/

namespace TableScaffold

/-- A column as it is declared. -/
structure ColumnDefinition where
  name : String
  dataType : Option String := none
  length : Option Int := none
  isOptional : Bool := false
  deriving DecidableEq, Repr

/-- A foreign key. Only its first column counts. -/
structure ForeignKeyDefinition where
  name : Option String := none
  column : String
  referencedTable : String
  referencedColumn : String
  onDelete : ReferentialAction := .noAction
  onUpdate : ReferentialAction := .noAction
  deriving DecidableEq, Repr

/-- An index over columns. -/
structure IndexDefinition where
  name : Option String := none
  columns : List String
  deriving DecidableEq, Repr

/-- One entry of a table. -/
inductive Definition where
  | column (c : ColumnDefinition)
  | foreignKey (k : ForeignKeyDefinition)
  | index (i : IndexDefinition)
  | other (label : Option String)
  deriving DecidableEq, Repr

/-- The parts of a statement that matter. -/
structure CreateStatement where
  statementType : Option String := none
  keyword : Option String := none
  tableName : Option String := none
  definitions : List Definition := []
  deriving DecidableEq, Repr

/-- Whether a statement creates a table; a missing or empty keyword stands for `table`. -/
def CreateStatement.isCreateTable (s : CreateStatement) : Bool :=
  Text.lower (s.statementType.getD "") == "create" &&
    (match s.keyword with
      | none => true
      | some k => k.isEmpty || Text.lower k == "table")

/-- Why a syntax tree cannot be read. -/
inductive TreeFault where
  /-- Parts have the wrong shape. -/
  | problems (ps : List Problem)
  /-- The type of the statement is present but no text. -/
  | typeNotText
  /-- The entries of the table are not a list. -/
  | entriesNotListed
  deriving DecidableEq, Repr

end TableScaffold
