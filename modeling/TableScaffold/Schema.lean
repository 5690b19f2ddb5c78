import TableScaffold.ColumnType
import TableScaffold.ReferentialAction

/-!
# Table schemas

The columns, relations and indexes of one table, in the order of their declaration.
-/

namespace TableScaffold

/-- A column of the table. -/
structure Column where
  name : String
  sqlType : String
  semanticType : SemanticType
  persistenceType : PersistenceType
  isOptional : Bool := false
  length : Option Int := none
  deriving DecidableEq, Repr

/-- A reference to a row of another table. -/
structure Relation where
  name : String
  relatedModel : String
  field : String
  references : String
  onDelete : ReferentialAction := .noAction
  onUpdate : ReferentialAction := .noAction
  deriving DecidableEq, Repr

/-- A secondary index; its fields are joined by commas. -/
structure Index where
  name : Option String := none
  fields : String
  deriving DecidableEq, Repr

/-- A table. -/
structure TableSchema where
  tableName : String
  columns : List Column := []
  relations : List Relation := []
  indexes : List Index := []
  deriving DecidableEq, Repr

end TableScaffold
