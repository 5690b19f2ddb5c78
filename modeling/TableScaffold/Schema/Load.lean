import TableScaffold.Schema
import TableScaffold.Check

/-!
# Schemas from values

A value is read as a schema, or every problem with it is listed. Unknown fields do not matter.
-/

namespace TableScaffold

open Check

/-- A column from its fields. -/
def Column.ofFields (es : List (String × Value)) : Checked Column :=
  (required es "name" text).map Column.mk
    |> (Checked.apply · (required es "sql_type" text))
    |> (Checked.apply · (required es "semantic_type" (choice SemanticType.ofWord?)))
    |> (Checked.apply · (required es "persistence_type" (choice PersistenceType.ofWord?)))
    |> (Checked.apply · (withDefault es "is_optional" flag false))
    |> (Checked.apply · (withDefault es "length" optionalWhole none))

/-- A column from a value. -/
def Column.load (v : Value) : Checked Column := fields Column.ofFields v

/-- A relation from its fields. -/
def Relation.ofFields (es : List (String × Value)) : Checked Relation :=
  (required es "name" text).map Relation.mk
    |> (Checked.apply · (required es "related_model" text))
    |> (Checked.apply · (required es "field" text))
    |> (Checked.apply · (required es "references" text))
    |> (Checked.apply · (withDefault es "on_delete" (choice ReferentialAction.ofWord?) .noAction))
    |> (Checked.apply · (withDefault es "on_update" (choice ReferentialAction.ofWord?) .noAction))

/-- A relation from a value. -/
def Relation.load (v : Value) : Checked Relation := fields Relation.ofFields v

/-- An index from its fields. -/
def Index.ofFields (es : List (String × Value)) : Checked Index :=
  (withDefault es "name" optionalText none).map Index.mk
    |> (Checked.apply · (required es "fields" text))

/-- An index from a value. -/
def Index.load (v : Value) : Checked Index := Check.fields Index.ofFields v

/-- A schema from its fields. -/
def TableSchema.ofFields (es : List (String × Value)) : Checked TableSchema :=
  (required es "table_name" text).map TableSchema.mk
    |> (Checked.apply · (withDefault es "columns" (Check.list Column.load) []))
    |> (Checked.apply · (withDefault es "relations" (Check.list Relation.load) []))
    |> (Checked.apply · (withDefault es "indexes" (Check.list Index.load) []))

/-- A schema from a value. -/
def TableSchema.load (v : Value) : Checked TableSchema := fields TableSchema.ofFields v

end TableScaffold
