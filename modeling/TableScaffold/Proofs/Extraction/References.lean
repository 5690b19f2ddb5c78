import TableScaffold.Proofs.Artifact.Content
import TableScaffold.Proofs.Extraction.Accounts

/-!
# Columns that keys and indexes refer to

Foreign keys and indexes are kept whether or not the columns that they name have a type, and a column
without a type is left out. So a relation or an index may name a field that the schema and its database
model do not have: exactly if no column of that name has a type (`references_declared`). A warning names
each such column that is defined at all.
-/

namespace TableScaffold

open Template

/-! ## References of a statement -/

namespace CreateStatement

/-- The names of the columns that a statement defines. -/
def columnNames (c : CreateStatement) : List String :=
  (c.definitions.filterMap Definition.column?).map (·.name)

/-- The names of those that have a type. -/
def typedNames (c : CreateStatement) : List String :=
  ((c.definitions.filterMap Definition.column?).filter (·.hasType)).map (·.name)

/-- The columns of the foreign keys. -/
def keyColumns (c : CreateStatement) : List String :=
  (c.definitions.filterMap Definition.foreignKey?).map (·.column)

/-- The columns of each index. -/
def indexColumns (c : CreateStatement) : List (List String) :=
  (c.definitions.filterMap Definition.index?).map (·.columns)

/-- All columns that foreign keys and indexes refer to. -/
def references (c : CreateStatement) : List String := c.keyColumns ++ c.indexColumns.flatten

theorem mem_columnNames {c : CreateStatement} {n : String} :
    n ∈ c.columnNames ↔ n ∈ c.typedNames ∨
      n ∈ ((c.definitions.filterMap Definition.column?).filter (!·.hasType)).map (·.name) := by
  unfold columnNames typedNames
  simp only [List.mem_map, List.mem_filter]
  constructor
  · rintro ⟨d, hd, rfl⟩
    cases htype : d.hasType with
    | true => exact .inl ⟨d, ⟨hd, htype⟩, rfl⟩
    | false => exact .inr ⟨d, ⟨hd, by rw [htype]; rfl⟩, rfl⟩
  · rintro (⟨d, ⟨hd, -⟩, rfl⟩ | ⟨d, ⟨hd, -⟩, rfl⟩) <;> exact ⟨d, hd, rfl⟩

end CreateStatement

namespace Tree

open Attempt

/-- The columns that an entry lists. A foreign key refers to the first of them, an index to all. -/
def listedColumns (node : Value) : List String := columnNames (node.field "definition")

/-- An entry and the definition that it is read as. -/
structure Listed (node : Value) (d : Definition) : Prop where
  read : (definition node).outcome = .ok d
  foreignKey : ∀ k, d = .foreignKey k → k.column = (listedColumns node).headD ""
  index : ∀ i, d = .index i → i.columns = listedColumns node

theorem column_foreignKey {node : Value} {k : ForeignKeyDefinition}
    (h : (foreignKey node).value = .ok k) : k.column = (listedColumns node).headD "" := by
  unfold foreignKey at h
  simp only [Logged.value_bind, Logged.value_pure] at h
  generalize Checked.under "name" _ = name at h
  generalize Checked.under "referenced_table" _ = table at h
  cases name <;> cases table <;> cases h
  rfl

theorem columns_index {node : Value} {i : IndexDefinition} (h : index node = .ok i) :
    i.columns = listedColumns node := by
  unfold index at h
  generalize Checked.under "name" _ = name at h
  cases name <;> cases h
  rfl

/-- A checked entry that is read as a definition. -/
theorem exists_of_checked {α : Type} {f : α → Definition} {x : Checked α} {d : Definition}
    (h : outcome (ofExcept ((x.map f).mapError TreeFault.problems)) = .ok d) :
    ∃ a, x = .ok a ∧ d = f a := by
  cases x with
  | error ps => cases h
  | ok a =>
    cases h
    exact ⟨a, rfl, rfl⟩

theorem listed_definition {node : Value} {d : Definition} (h : (definition node).outcome = .ok d) :
    Listed node d := by
  have hread := h
  unfold definition at h
  dsimp only at h
  split at h
  · obtain ⟨c, -, rfl⟩ := exists_of_checked h
    exact ⟨hread, fun _ hk => (nomatch hk), fun _ hi => (nomatch hi)⟩
  split at h
  · obtain ⟨key, hkey, hd, -⟩ := exists_of_bind h
    obtain ⟨k, rfl, rfl⟩ := exists_of_checked hd
    refine ⟨hread, fun k' hk => ?_, fun _ hi => (nomatch hi)⟩
    cases hk
    exact column_foreignKey (Except.ok.inj hkey)
  split at h
  · obtain ⟨i, hi, rfl⟩ := exists_of_checked h
    refine ⟨hread, fun _ hk => (nomatch hk), fun i' hi' => ?_⟩
    cases hi'
    exact columns_index hi
  · cases h
    exact ⟨hread, fun _ hk => (nomatch hk), fun _ hi => (nomatch hi)⟩

end Tree

/-! ## Fields of a database model -/

/-- The database model of a schema has a field: the line of the first column of that name. -/
def TableSchema.Declares (s : TableSchema) (n : String) : Prop :=
  ∃ column ∈ firstColumns s.columns, column.name = n

theorem TableSchema.declares_iff {s : TableSchema} {n : String} :
    s.Declares n ↔ n ∈ s.columns.map (·.name) := by
  unfold Declares firstColumns columnsOf
  constructor
  · rintro ⟨column, hcolumn, rfl⟩
    obtain ⟨m, -, hm⟩ := List.mem_filterMap.mp hcolumn
    exact List.mem_map_of_mem (List.mem_of_find?_eq_some hm)
  · intro hn
    obtain ⟨column, hcolumn, hname⟩ := List.mem_map.mp hn
    cases hfind : s.columns.find? (·.name == n) with
    | none => simpa [hname] using List.find?_eq_none.mp hfind column hcolumn
    | some first =>
      refine ⟨first, List.mem_filterMap.mpr ⟨n, List.mem_eraseDups.mpr hn, hfind⟩, ?_⟩
      simpa using List.find?_some hfind

/-! ## Extraction -/

namespace Accounted

variable {c : CreateStatement} {s : TableSchema} {notices : List Notice} (h : Accounted c s notices)

include h

theorem names_eq : s.columns.map (·.name) = c.typedNames := by
  have hcolumns := h.columns
  unfold CreateStatement.typedNames
  generalize (c.definitions.filterMap Definition.column?).filter (·.hasType) = ds at hcolumns
  generalize s.columns = columns at hcolumns
  induction hcolumns with
  | nil => rfl
  | cons hd _ ih => rw [List.map_cons, List.map_cons, hd.name, ih]

theorem fields_relations : s.relations.map (·.field) = c.keyColumns := by
  rw [h.relations, List.map_map]
  rfl

theorem fields_indexes : s.indexes.map (·.fields) = c.indexColumns.map (", ".intercalate ·) := by
  rw [h.indexes, CreateStatement.indexColumns, List.map_map, List.map_map]
  rfl

/-- The warnings name the definitions without a type. -/
theorem missingType_iff {n : String} : .missingType n ∈ notices ↔
    n ∈ ((c.definitions.filterMap Definition.column?).filter (!·.hasType)).map (·.name) := by
  rw [← h.missing, List.mem_filterMap]
  refine ⟨fun hn => ⟨_, hn, rfl⟩, ?_⟩
  rintro ⟨notice, hnotice, hmissing⟩
  cases notice <;> cases hmissing
  exact hnotice

/-- A column that no definition with a type has is named in a warning. -/
theorem missingType_mem {n : String} (hn : n ∈ c.columnNames) (htype : n ∉ c.typedNames) :
    .missingType n ∈ notices :=
  h.missingType_iff.2 ((CreateStatement.mem_columnNames.mp hn).resolve_left htype)

end Accounted

/-- **Which references of a schema are declared.** The fields of the relations and of the indexes are the
columns that the foreign keys and indexes of the statement refer to. Each of them that is defined at all
is a column of the schema, or it is none and a warning names it. All of them are columns of the schema,
and fields of its database model, exactly if all of them are defined with a type. -/
theorem references_declared {v : Value} {s : TableSchema} (h : (extract v).outcome = .ok s)
    (directory : String) :
    ∃ c nodes, (Tree.statement (statementOf v)).outcome = .ok c ∧
      Tree.entries ((statementOf v).field "create_definitions") = .ok nodes ∧
      List.Forall₂ Tree.Listed nodes c.definitions ∧
      s.relations.map (·.field) = c.keyColumns ∧
      s.indexes.map (·.fields) = c.indexColumns.map (", ".intercalate ·) ∧
      (∀ n ∈ c.references, n ∈ c.columnNames →
        n ∈ s.columns.map (·.name) ∨
          n ∉ s.columns.map (·.name) ∧ .missingType n ∈ (extract v).notices) ∧
      ((∀ n ∈ c.references, n ∈ s.columns.map (·.name)) ↔ ∀ n ∈ c.references, n ∈ c.typedNames) ∧
      (∀ n, s.Declares n ↔ n ∈ s.columns.map (·.name)) ∧
      ∃ artifacts, s.Generates directory Library.bundled artifacts ∧
        (artifacts.filter (·.name == "prisma-model")).map (·.content) = [textOf s.modelLines] := by
  obtain ⟨c, nodes, hc, hnodes, hread, haccounted⟩ := exists_accounted h
  obtain ⟨artifacts, hartifacts, hmodel⟩ := exists_persistenceModel s directory
  have hnames := haccounted.names_eq
  refine ⟨c, nodes, hc, hnodes, hread.imp fun _ _ => Tree.listed_definition,
    haccounted.fields_relations, haccounted.fields_indexes, fun n _ hn => ?_, by rw [hnames],
    fun n => TableSchema.declares_iff, artifacts, hartifacts, hmodel⟩
  rw [hnames]
  by_cases htype : n ∈ c.typedNames
  · exact .inl htype
  · exact .inr ⟨htype, haccounted.missingType_mem hn htype⟩

theorem extract_of_statement {v : Value} {c : CreateStatement}
    (hc : (Tree.statement (statementOf v)).outcome = .ok c) (hcreate : c.isCreateTable = true) :
    (extract v).outcome = .ok (Extraction.schema c.tableName c.definitions).value :=
  (extract_statementOf v).1.trans (Extraction.outcome_createTable hc hcreate)

/-- A column without a type that no key refers to leaves the keys of the other columns as they are. -/
theorem references_declared_beside : ∃ vs s,
    (Sql.trees .mysql ("CREATE TABLE s (a NOT NULL, tId INT, FOREIGN KEY (tId) REFERENCES t (id), " ++
      "INDEX i (tId))")).outcome = .ok vs ∧
    (extract (.list vs)).outcome = .ok s ∧ s.relations.map (·.field) = ["tId"] ∧
    s.Declares "tId" ∧ ¬ s.Declares "a" := by
  have heval : ((Sql.trees .mysql ("CREATE TABLE s (a NOT NULL, tId INT, " ++
      "FOREIGN KEY (tId) REFERENCES t (id), INDEX i (tId))")).outcome.toOption.bind fun vs =>
        (extract (.list vs)).outcome.toOption.map fun s =>
          (s.columns.map (·.name), s.relations.map (·.field))) = some (["tId"], ["tId"]) := by
    decide +kernel
  obtain ⟨vs, s, htrees, hs, hfields⟩ := Attempt.exists_of_eval heval
  obtain ⟨hcolumns, hrelations⟩ := Prod.mk.inj hfields
  obtain ⟨c, nodes, -, -, -, -, -, -, -, hdeclares, -⟩ := references_declared hs "out"
  refine ⟨vs, s, htrees, hs, hrelations, (hdeclares _).mpr ?_, fun ha => ?_⟩
  · rw [hcolumns]
    exact List.mem_singleton_self _
  · rw [hdeclares, hcolumns] at ha
    exact absurd ha (by decide)

/-- A relation and an index name a column that the statement defines and the schema lacks. -/
theorem references_undeclared : ∃ vs c s,
    (Sql.trees .mysql ("CREATE TABLE s (a NOT NULL, FOREIGN KEY (a) REFERENCES t (id), " ++
      "INDEX i (a))")).outcome = .ok vs ∧
    (Tree.statement (statementOf (.list vs))).outcome = .ok c ∧
    (extract (.list vs)).outcome = .ok s ∧
    (∀ n ∈ c.references, n ∈ c.columnNames) ∧
    s.relations.map (·.field) = ["a"] ∧ s.indexes.map (·.fields) = ["a"] ∧ ¬ s.Declares "a" := by
  have heval : ((Sql.trees .mysql ("CREATE TABLE s (a NOT NULL, FOREIGN KEY (a) REFERENCES t (id), " ++
      "INDEX i (a))")).outcome.toOption.bind fun vs =>
        (Tree.statement (statementOf (.list vs))).outcome.toOption.map id) =
      some ⟨some "create", some "table", some "s",
        [.column ⟨"a", none, none, false⟩, .foreignKey ⟨none, "a", "t", "id", .noAction, .noAction⟩,
          .index ⟨some "i", ["a"]⟩]⟩ := by
    decide +kernel
  obtain ⟨vs, c, htrees, hc, rfl⟩ := Attempt.exists_of_eval heval
  refine ⟨vs, _, _, htrees, hc, extract_of_statement hc (by decide +kernel), by decide, rfl, rfl, ?_⟩
  rw [TableSchema.declares_iff]
  exact List.not_mem_nil

end TableScaffold
