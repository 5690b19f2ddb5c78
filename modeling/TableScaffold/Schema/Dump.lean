import TableScaffold.Schema

/-!
# Schemas as values

A dumped schema is a mapping with every field, with enumerations as their words and absent values as
null.
-/

namespace TableScaffold

/-- A column as a mapping. -/
def Column.dump (c : Column) : Value :=
  .map [("name", .str c.name), ("sql_type", .str c.sqlType),
    ("semantic_type", .str c.semanticType.word), ("persistence_type", .str c.persistenceType.word),
    ("is_optional", .bool c.isOptional), ("length", Value.ofWhole c.length)]

/-- A relation as a mapping. -/
def Relation.dump (r : Relation) : Value :=
  .map [("name", .str r.name), ("related_model", .str r.relatedModel), ("field", .str r.field),
    ("references", .str r.references), ("on_delete", .str r.onDelete.word),
    ("on_update", .str r.onUpdate.word)]

/-- An index as a mapping. -/
def Index.dump (i : Index) : Value :=
  .map [("name", Value.ofOption i.name), ("fields", .str i.fields)]

/-- A schema as a mapping. -/
def TableSchema.dump (s : TableSchema) : Value :=
  .map [("table_name", .str s.tableName), ("columns", .list (s.columns.map Column.dump)),
    ("relations", .list (s.relations.map Relation.dump)),
    ("indexes", .list (s.indexes.map Index.dump))]

end TableScaffold
