import TableScaffold.Proofs.Extraction.FieldNames

/-!
# Every definition is accounted for

Extraction sorts the definitions of a statement by kind. Each of them becomes a column, a relation or an
index, or is named in one notice: a column without a type, or an entry of another kind.

1. A step of the reader for entries makes a notice exactly for an entry of another kind, and so does
   its run over all entries (`recorded_definitions`).
2. The loop over the columns keeps those with a type and names the others (`notices_columns`).
3. A schema depends on the definitions of each kind and not on how they are mixed
   (`value_schema_congr`).
-/

namespace TableScaffold

/-! ## Kinds -/

namespace Definition

/-- The column of a definition. -/
def column? : Definition → Option ColumnDefinition
  | column c => some c
  | _ => none

/-- The foreign key of a definition. -/
def foreignKey? : Definition → Option ForeignKeyDefinition
  | foreignKey k => some k
  | _ => none

/-- The index of a definition. -/
def index? : Definition → Option IndexDefinition
  | index i => some i
  | _ => none

/-- The label of a definition of another kind. -/
def other? : Definition → Option (Option String)
  | other label => some label
  | _ => none

theorem filterMap_column? (c : ColumnDefinition) (ds : List Definition) :
    (column c :: ds).filterMap column? = c :: ds.filterMap column? := rfl

/-- Each definition is of one kind. -/
theorem length_kinds (ds : List Definition) :
    (ds.filterMap column?).length + (ds.filterMap foreignKey?).length +
      (ds.filterMap index?).length + (ds.filterMap other?).length = ds.length := by
  induction ds with
  | nil => rfl
  | cons d ds ih =>
    cases d <;> simp [List.filterMap_cons, column?, foreignKey?, index?, other?] <;> omega

end Definition

/-- Whether a column has a type. -/
def ColumnDefinition.hasType (d : ColumnDefinition) : Bool :=
  match d.dataType with
  | none => false
  | some type => !type.isEmpty

/-- The column that a notice says has no type. -/
def Notice.missing? : Notice → Option String
  | missingType column => some column
  | _ => none

/-- The label of the definition that a notice says is dropped. -/
def Notice.dropped? : Notice → Option String
  | droppedDefinition label => some label
  | _ => none

/-! ## Reading entries -/

/-- Notices name the definitions of other kinds, one by one, and no column. -/
structure Recorded (notices : List Notice) (ds : List Definition) : Prop where
  missing : notices.filterMap Notice.missing? = []
  dropped : List.Forall₂ (fun (text : String) label => ∀ t, label = some t → text = t)
    (notices.filterMap Notice.dropped?) (ds.filterMap Definition.other?)

namespace Recorded

variable {ns ns' : List Notice} {ds ds' : List Definition} {d : Definition}

theorem append (h : Recorded ns ds) (h' : Recorded ns' ds') : Recorded (ns ++ ns') (ds ++ ds') where
  missing := by rw [List.filterMap_append, h.missing, h'.missing, List.append_nil]
  dropped := by
    rw [List.filterMap_append, List.filterMap_append]
    exact List.rel_append h.dropped h'.dropped

/-- A definition of a known kind. -/
theorem known (hd : d.other? = none) (hmissing : ns.filterMap Notice.missing? = [])
    (hdropped : ns.filterMap Notice.dropped? = []) : Recorded ns [d] where
  missing := hmissing
  dropped := by
    rw [hdropped, List.filterMap_cons, hd]
    exact .nil

end Recorded

namespace Tree

open Attempt

theorem notices_ofValue (v : Value) :
    (ReferentialAction.ofValue v).notices.filterMap Notice.missing? = [] ∧
      (ReferentialAction.ofValue v).notices.filterMap Notice.dropped? = [] := by
  unfold ReferentialAction.ofValue
  split
  · exact ⟨rfl, rfl⟩
  · split <;> exact ⟨rfl, rfl⟩

theorem notices_foreignKey (node : Value) :
    (foreignKey node).notices.filterMap Notice.missing? = [] ∧
      (foreignKey node).notices.filterMap Notice.dropped? = [] := by
  have hdelete := notices_ofValue ((node.field "reference_definition").field "on_delete")
  have hupdate := notices_ofValue ((node.field "reference_definition").field "on_update")
  have hnotices : (foreignKey node).notices =
      (ReferentialAction.ofValue ((node.field "reference_definition").field "on_delete")).notices ++
        ((ReferentialAction.ofValue ((node.field "reference_definition").field "on_update")).notices ++
          []) := rfl
  simp [hnotices, List.filterMap_append, hdelete, hupdate, -List.filterMap_eq_nil_iff]

/-- A checked entry of a known kind. -/
theorem recorded_ofExcept {α : Type} {f : α → Definition} (hf : ∀ a, (f a).other? = none)
    {x : Checked α} {d : Definition}
    (h : outcome (ofExcept ((x.map f).mapError TreeFault.problems)) = .ok d) : d.other? = none := by
  cases x with
  | error ps => cases h
  | ok a =>
    cases h
    exact hf a

theorem recorded_definition {node : Value} {d : Definition} (h : (definition node).outcome = .ok d) :
    Recorded (definition node).notices [d] := by
  unfold definition at h ⊢
  dsimp only at h ⊢
  split at h
  · next hcolumn =>
    rw [if_pos hcolumn]
    exact .known (recorded_ofExcept (fun _ => rfl) h) rfl rfl
  · next hcolumn =>
    rw [if_neg hcolumn]
    split at h
    · next hkey =>
      rw [if_pos hkey]
      obtain ⟨key, -, hd, hnotices⟩ := exists_of_bind h
      rw [hnotices, notices_ofLogged, notices_ofExcept, List.append_nil]
      have hquiet := notices_foreignKey node
      exact .known (recorded_ofExcept (fun _ => rfl) hd) hquiet.1 hquiet.2
    · next hkey =>
      rw [if_neg hkey]
      split at h
      · next hindex =>
        rw [if_pos hindex]
        exact .known (recorded_ofExcept (fun _ => rfl) h) rfl rfl
      · next hindex =>
        rw [if_neg hindex]
        generalize (if (node.field "constraint_type").truthy then node.field "constraint_type"
          else node.field "resource") = label at h ⊢
        cases h
        refine ⟨rfl, .cons (fun t ht => ?_) .nil⟩
        split at ht
        · exact Option.some.inj ht
        · cases ht

/-- All entries of a statement, read one by one. -/
theorem recorded_definitions {nodes : List Value} {ds : List Definition}
    (h : (definitions nodes).outcome = .ok ds) :
    List.Forall₂ (fun node d => (definition node).outcome = .ok d) nodes ds ∧
      Recorded (definitions nodes).notices ds := by
  induction nodes generalizing ds with
  | nil =>
    cases h
    exact ⟨.nil, rfl, .nil⟩
  | cons node nodes ih =>
    obtain ⟨d, hd, hrest, hnotices⟩ := exists_of_bind h
    obtain ⟨ds', hds', hpure, hnotices'⟩ := exists_of_bind hrest
    cases hpure
    obtain ⟨hall, hrecorded⟩ := ih hds'
    refine ⟨.cons hd hall, ?_⟩
    unfold definitions
    rw [hnotices, hnotices', notices_pure, List.append_nil]
    exact (recorded_definition hd).append hrecorded

end Tree

/-! ## The loop over the columns -/

/-- A column with all that its definition declares. -/
structure Column.IsOf (column : Column) (d : ColumnDefinition) : Prop where
  name : column.name = d.name
  sqlType : d.dataType = some column.sqlType
  semanticType : column.semanticType = TableScaffold.semanticType d.dataType
  persistenceType : column.persistenceType = (TableScaffold.persistenceType d.dataType d.name).value
  isOptional : column.isOptional = d.isOptional
  length : column.length = d.length

namespace Extraction

theorem notices_persistenceType (sqlType : Option String) (column : String) :
    (persistenceType sqlType column).notices.filterMap Notice.missing? = [] ∧
      (persistenceType sqlType column).notices.filterMap Notice.dropped? = [] := by
  unfold persistenceType
  split <;> exact ⟨rfl, rfl⟩

/-- A column with a type is kept. -/
theorem column?_typed {d : ColumnDefinition} (h : d.hasType = true) :
    (∃ c : Column, (column? d).value = some c ∧ c.IsOf d) ∧
      (column? d).notices.filterMap Notice.missing? = [] ∧
      (column? d).notices.filterMap Notice.dropped? = [] := by
  cases htype : d.dataType with
  | none =>
    unfold ColumnDefinition.hasType at h
    rw [htype] at h
    cases h
  | some type =>
    have hne : type.isEmpty = false := by
      unfold ColumnDefinition.hasType at h
      rw [htype] at h
      simpa using h
    have hquiet := notices_persistenceType d.dataType d.name
    have hcolumn : column? d = (do
        let persistenceType ← persistenceType d.dataType d.name
        pure (some
          { name := d.name
            sqlType := type
            semanticType := semanticType d.dataType
            persistenceType
            isOptional := d.isOptional
            length := d.length })) := by
      simp [column?, htype, hne]
    rw [hcolumn]
    refine ⟨⟨_, rfl, rfl, htype, rfl, rfl, rfl, rfl⟩, ?_⟩
    rw [Logged.notices_bind, Logged.notices_pure, List.append_nil]
    exact hquiet

/-- A column without a type is left out and named. -/
theorem column?_untyped {d : ColumnDefinition} (h : d.hasType = false) :
    (column? d).value = none ∧ (column? d).notices = [.missingType d.name] := by
  unfold ColumnDefinition.hasType at h
  unfold column?
  cases htype : d.dataType with
  | none => exact ⟨rfl, rfl⟩
  | some type =>
    rw [htype] at h
    have hempty : type.isEmpty = true := by simpa using h
    dsimp only
    rw [if_pos hempty]
    exact ⟨rfl, rfl⟩

theorem columns_column (d : ColumnDefinition) (ds : List Definition) :
    (columns (.column d :: ds)).value = (column? d).value.toList ++ (columns ds).value ∧
      (columns (.column d :: ds)).notices = (column? d).notices ++ (columns ds).notices := by
  rw [columns, Logged.value_bind, Logged.value_bind, Logged.notices_bind, Logged.notices_bind,
    Logged.notices_pure, List.append_nil]
  exact ⟨rfl, rfl⟩

/-- The columns are the definitions of columns that have a type, in order. -/
theorem value_columns (ds : List Definition) :
    List.Forall₂ Column.IsOf (columns ds).value
      ((ds.filterMap Definition.column?).filter (·.hasType)) := by
  induction ds with
  | nil => exact .nil
  | cons d ds ih =>
    cases d with
    | column d =>
      rw [(columns_column d ds).1, Definition.filterMap_column?]
      cases htype : d.hasType with
      | true =>
        obtain ⟨⟨c, hc, hof⟩, -⟩ := column?_typed htype
        rw [hc, List.filter_cons_of_pos htype]
        exact .cons hof ih
      | false =>
        rw [(column?_untyped htype).1, List.filter_cons_of_neg (by simp [htype])]
        exact ih
    | foreignKey _ | index _ | other _ => exact ih

/-- The notices name the other ones, in order. -/
theorem notices_columns (ds : List Definition) :
    (columns ds).notices.filterMap Notice.missing? =
        ((ds.filterMap Definition.column?).filter (!·.hasType)).map (·.name) ∧
      (columns ds).notices.filterMap Notice.dropped? = [] := by
  induction ds with
  | nil => exact ⟨rfl, rfl⟩
  | cons d ds ih =>
    cases d with
    | column d =>
      rw [(columns_column d ds).2, List.filterMap_append, List.filterMap_append, ih.1, ih.2,
        Definition.filterMap_column?]
      cases htype : d.hasType with
      | true =>
        obtain ⟨-, hmissing, hdropped⟩ := column?_typed htype
        rw [hmissing, hdropped, List.filter_cons_of_neg (by simp [htype])]
        exact ⟨rfl, rfl⟩
      | false =>
        rw [(column?_untyped htype).2, List.filter_cons_of_pos (by simp [htype])]
        exact ⟨rfl, rfl⟩
    | foreignKey _ | index _ | other _ => exact ih

/-- The columns do not depend on definitions of other kinds. -/
theorem value_columns_eq (ds : List Definition) :
    (columns ds).value =
      (ds.filterMap Definition.column?).flatMap fun d => (column? d).value.toList := by
  induction ds with
  | nil => rfl
  | cons d ds ih =>
    cases d with
    | column d =>
      rw [(columns_column d ds).1, ih]
      rfl
    | foreignKey _ | index _ | other _ => exact ih

theorem foreignKeys_eq (ds : List Definition) : foreignKeys ds = ds.filterMap Definition.foreignKey? := by
  unfold foreignKeys
  congr 1

theorem indexes_eq (ds : List Definition) :
    indexes ds = (ds.filterMap Definition.index?).map fun i =>
      { name := i.name, fields := ", ".intercalate i.columns } := by
  unfold indexes
  rw [List.map_filterMap]
  congr 1
  funext d
  cases d <;> rfl

/-- Definitions that are the same, kind by kind, give the same schema. -/
theorem value_schema_congr {table : Option String} {ds ds' : List Definition}
    (hcolumns : ds.filterMap Definition.column? = ds'.filterMap Definition.column?)
    (hkeys : ds.filterMap Definition.foreignKey? = ds'.filterMap Definition.foreignKey?)
    (hindexes : ds.filterMap Definition.index? = ds'.filterMap Definition.index?) :
    (schema table ds).value = (schema table ds').value := by
  have hvalue : ∀ ds, (schema table ds).value =
      { tableName := table.getD ""
        columns := (columns ds).value
        relations := (foreignKeys ds).map (relation ((columns ds).value.map (·.name)))
        indexes := indexes ds } := fun _ => rfl
  rw [hvalue, hvalue, value_columns_eq, value_columns_eq, foreignKeys_eq, foreignKeys_eq, indexes_eq,
    indexes_eq, hcolumns, hkeys, hindexes]

end Extraction

/-! ## Statements -/

namespace Tree

open Attempt

/-- A statement that creates something says so in its type. -/
theorem isCreateTable_of_type {v : Value} {type : Option String}
    (hcreate : isCreate v = .ok false)
    (htype : Checked.under "statement_type" (Check.optionalText v) = .ok type) :
    CreateStatement.isCreateTable { statementType := type } = false := by
  cases v with
  | null =>
    cases htype
    decide +kernel
  | str s =>
    cases htype
    have hlower : (Text.lower s == "create") = false := Except.ok.inj hcreate
    simp [CreateStatement.isCreateTable, hlower]
  | _ => cases htype

/-- A statement that creates a table has the definitions that its entries are read as. -/
theorem statement_createTable {node : Value} {c : CreateStatement}
    (h : (statement node).outcome = .ok c) (hcreate : c.isCreateTable = true) :
    ∃ nodes, entries (node.field "create_definitions") = .ok nodes ∧
      (definitions nodes).outcome = .ok c.definitions ∧
      (statement node).notices = (definitions nodes).notices := by
  obtain ⟨create, htype, h, hnotices⟩ := exists_of_bind h
  cases create with
  | true =>
    rw [if_pos rfl] at h
    obtain ⟨nodes, hnodes, h, hrest⟩ := exists_of_bind h
    obtain ⟨ds, hds, h, hlast⟩ := exists_of_bind h
    refine ⟨nodes, hnodes, ?_, ?_⟩
    · rw [hds]
      generalize Checked.under "statement_type" _ = type at h
      generalize Checked.under "keyword" _ = keyword at h
      generalize Checked.under "table_name" _ = table at h
      cases type <;> cases keyword <;> cases table <;> cases h
      rfl
    · unfold statement
      rw [hnotices, if_pos rfl, hrest, hlast]
      simp
  | false =>
    rw [if_neg Bool.false_ne_true] at h
    cases hchecked : Checked.under "statement_type" (Check.optionalText (node.field "type")) with
    | error ps =>
      rw [hchecked] at h
      cases h
    | ok type =>
      rw [hchecked] at h
      cases h
      rw [isCreateTable_of_type htype hchecked] at hcreate
      cases hcreate

end Tree

/-- The statement of a syntax tree: the tree, or the first of a list. -/
def statementOf : Value → Value
  | .list (v :: _) => v
  | v => v

/-- What becomes of the definitions of a statement: the columns of the schema are those with a type, its
relations and indexes are the foreign keys and indexes, all in order, and every other definition is
named in one notice. -/
structure Accounted (c : CreateStatement) (s : TableSchema) (notices : List Notice) : Prop where
  table : s.tableName = c.tableName.getD ""
  columns : List.Forall₂ Column.IsOf s.columns
    ((c.definitions.filterMap Definition.column?).filter (·.hasType))
  relations : s.relations = (c.definitions.filterMap Definition.foreignKey?).map
    (Extraction.relation (s.columns.map (·.name)))
  indexes : s.indexes = (c.definitions.filterMap Definition.index?).map fun i =>
    { name := i.name, fields := ", ".intercalate i.columns }
  missing : notices.filterMap Notice.missing? =
    ((c.definitions.filterMap Definition.column?).filter (!·.hasType)).map (·.name)
  dropped : List.Forall₂ (fun (text : String) label => ∀ t, label = some t → text = t)
    (notices.filterMap Notice.dropped?) (c.definitions.filterMap Definition.other?)
  total : s.columns.length + s.relations.length + s.indexes.length +
      ((notices.filterMap Notice.missing?).length + (notices.filterMap Notice.dropped?).length) =
    c.definitions.length

theorem Extraction.accounted_schema {c : CreateStatement} {read : List Notice}
    (h : Recorded read c.definitions) :
    Accounted c (schema c.tableName c.definitions).value
      (read ++ (schema c.tableName c.definitions).notices) := by
  have hcolumns := value_columns c.definitions
  have hnotices := notices_columns c.definitions
  have hloop : (schema c.tableName c.definitions).notices = (columns c.definitions).notices :=
    List.append_nil _
  have hmissing : (read ++ (schema c.tableName c.definitions).notices).filterMap Notice.missing? =
      ((c.definitions.filterMap Definition.column?).filter (!·.hasType)).map (·.name) := by
    rw [hloop, List.filterMap_append, h.missing, hnotices.1, List.nil_append]
  have hdropped : (read ++ (schema c.tableName c.definitions).notices).filterMap Notice.dropped? =
      read.filterMap Notice.dropped? := by
    rw [hloop, List.filterMap_append, hnotices.2, List.append_nil]
  refine ⟨rfl, hcolumns, congrArg (List.map _) (foreignKeys_eq _), indexes_eq _, hmissing, ?_, ?_⟩
  · rw [hdropped]
    exact h.dropped
  · have hkinds := Definition.length_kinds c.definitions
    have htyped := hcolumns.length_eq
    have hother := h.dropped.length_eq
    have hsplit : ((c.definitions.filterMap Definition.column?).filter (·.hasType)).length +
        ((c.definitions.filterMap Definition.column?).filter (!·.hasType)).length =
        (c.definitions.filterMap Definition.column?).length := by
      rw [← List.countP_eq_length_filter, ← List.countP_eq_length_filter,
        List.length_eq_countP_add_countP (·.hasType)]
      simp
    have hkeys : (schema c.tableName c.definitions).value.relations.length =
        (c.definitions.filterMap Definition.foreignKey?).length := by
      rw [← foreignKeys_eq]
      exact List.length_map _
    have hindexes : (schema c.tableName c.definitions).value.indexes.length =
        (c.definitions.filterMap Definition.index?).length := by
      show (indexes c.definitions).length = _
      rw [indexes_eq, List.length_map]
    have hlength : (schema c.tableName c.definitions).value.columns.length =
        (columns c.definitions).value.length := rfl
    rw [hmissing, hdropped, List.length_map]
    omega

/-! ## Extraction -/

open Attempt

/-- A schema comes from a statement that creates a table. -/
theorem Extraction.schema_of_statement {node : Value} {s : TableSchema}
    (h : (ofStatement node).outcome = .ok s) :
    ∃ c, (Tree.statement node).outcome = .ok c ∧ c.isCreateTable = true ∧
      s = (schema c.tableName c.definitions).value ∧
      (ofStatement node).notices =
        (Tree.statement node).notices ++ (schema c.tableName c.definitions).notices := by
  obtain ⟨c, hc, hs, hnotices⟩ := exists_of_bind h
  rw [outcome_adapt] at hc
  cases hstatement : (Tree.statement node).outcome with
  | error e =>
    rw [hstatement] at hc
    cases hc
  | ok c' =>
    rw [hstatement] at hc
    cases hc
    split at hs
    · next hcreate =>
      refine ⟨c, rfl, hcreate, (Except.ok.inj hs).symm, ?_⟩
      unfold ofStatement
      rw [hnotices, notices_adapt, if_pos hcreate, notices_ofLogged]
    · cases hs

theorem Extraction.outcome_createTable {node : Value} {c : CreateStatement}
    (hc : (Tree.statement node).outcome = .ok c) (hcreate : c.isCreateTable = true) :
    (ofStatement node).outcome = .ok (schema c.tableName c.definitions).value := by
  unfold ofStatement
  rw [outcome_bind, outcome_adapt, hc]
  show outcome (if c.isCreateTable then _ else _) = _
  rw [if_pos hcreate, outcome_ofLogged]

/-- The statements behind the first are left out. -/
theorem extract_statementOf (v : Value) :
    (extract v).outcome = (Extraction.ofStatement (statementOf v)).outcome ∧
      ∃ front, (extract v).notices = front ++ (Extraction.ofStatement (statementOf v)).notices ∧
        Recorded front [] := by
  unfold extract
  split
  · exact ⟨rfl, [], rfl, rfl, .nil⟩
  · exact ⟨rfl, [], rfl, rfl, .nil⟩
  · next v rest hrest => exact ⟨outcome_bind _ _, [.ignoredStatements rest.length], rfl, rfl, .nil⟩
  · next hnil hone hmore =>
    have hv : statementOf v = v := by
      unfold statementOf
      split
      · exact (hmore _ _ rfl).elim
      · rfl
    rw [hv]
    exact ⟨rfl, [], rfl, rfl, .nil⟩

/-- The definitions of a statement are those of its entries, and each of them is accounted for. -/
theorem exists_accounted {v : Value} {s : TableSchema} (h : (extract v).outcome = .ok s) :
    ∃ c nodes, (Tree.statement (statementOf v)).outcome = .ok c ∧
      Tree.entries ((statementOf v).field "create_definitions") = .ok nodes ∧
      List.Forall₂ (fun node d => (Tree.definition node).outcome = .ok d) nodes c.definitions ∧
      Accounted c s (extract v).notices := by
  obtain ⟨houtcome, front, hfront, hquiet⟩ := extract_statementOf v
  obtain ⟨c, hc, hcreate, rfl, hnotices⟩ := Extraction.schema_of_statement (houtcome.symm.trans h)
  obtain ⟨nodes, hnodes, hds, hread⟩ := Tree.statement_createTable hc hcreate
  obtain ⟨hall, hrecorded⟩ := Tree.recorded_definitions hds
  refine ⟨c, nodes, hc, hnodes, hall, ?_⟩
  rw [hfront, hnotices, hread, ← List.append_assoc]
  exact Extraction.accounted_schema (hquiet.append hrecorded)

/-- Every definition of a statement is accounted for, and how the kinds of definitions are mixed makes
no difference to the schema. -/
theorem extract_accounts {v : Value} {s : TableSchema} (h : (extract v).outcome = .ok s) :
    ∃ c nodes, (Tree.statement (statementOf v)).outcome = .ok c ∧
      Tree.entries ((statementOf v).field "create_definitions") = .ok nodes ∧
      List.Forall₂ (fun node d => (Tree.definition node).outcome = .ok d) nodes c.definitions ∧
      Accounted c s (extract v).notices ∧
      ∀ w t c', (extract w).outcome = .ok t → (Tree.statement (statementOf w)).outcome = .ok c' →
        c'.tableName = c.tableName →
        c'.definitions.filterMap Definition.column? = c.definitions.filterMap Definition.column? →
        c'.definitions.filterMap Definition.foreignKey? =
          c.definitions.filterMap Definition.foreignKey? →
        c'.definitions.filterMap Definition.index? = c.definitions.filterMap Definition.index? →
        t = s := by
  obtain ⟨c, nodes, hc, hnodes, hall, haccounted⟩ := exists_accounted h
  refine ⟨c, nodes, hc, hnodes, hall, haccounted, ?_⟩
  intro w t c' hw hc' htable hcolumns hkeys hindexes
  obtain ⟨c₁, hc₁, -, rfl, -⟩ :=
    Extraction.schema_of_statement ((extract_statementOf v).1.symm.trans h)
  obtain ⟨c₂, hc₂, -, rfl, -⟩ :=
    Extraction.schema_of_statement ((extract_statementOf w).1.symm.trans hw)
  cases hc.symm.trans hc₁
  cases hc'.symm.trans hc₂
  rw [htable]
  exact Extraction.value_schema_congr hcolumns hkeys hindexes

/-- Two statements with the same columns, foreign keys and indexes in another order, one of them with a
primary key, have one schema. -/
theorem extract_accounts_mixed : ∃ vs ws c s,
    (Sql.trees .mysql ("CREATE TABLE s (FOREIGN KEY (tId) REFERENCES t (id), tId INT, " ++
      "PRIMARY KEY (tId), a NOT NULL, INDEX i (tId, a))")).outcome = .ok vs ∧
    (Sql.trees .mysql ("CREATE TABLE s (tId INT, INDEX i (tId, a), a NOT NULL, " ++
      "FOREIGN KEY (tId) REFERENCES t (id))")).outcome = .ok ws ∧
    (extract (.list vs)).outcome = .ok s ∧ (extract (.list ws)).outcome = .ok s ∧
    Accounted c s (extract (.list vs)).notices ∧ c.definitions.length = 5 := by
  have hfirst : ((Sql.trees .mysql ("CREATE TABLE s (FOREIGN KEY (tId) REFERENCES t (id), tId INT, " ++
      "PRIMARY KEY (tId), a NOT NULL, INDEX i (tId, a))")).outcome.toOption.bind fun vs =>
        (Tree.statement (statementOf (.list vs))).outcome.toOption.map id) =
      some ⟨some "create", some "table", some "s",
        [.foreignKey ⟨none, "tId", "t", "id", .noAction, .noAction⟩,
          .column ⟨"tId", some "INT", none, false⟩, .other (some "primary key"),
          .column ⟨"a", none, none, false⟩, .index ⟨some "i", ["tId", "a"]⟩]⟩ := by
    decide +kernel
  have hsecond : ((Sql.trees .mysql ("CREATE TABLE s (tId INT, INDEX i (tId, a), a NOT NULL, " ++
      "FOREIGN KEY (tId) REFERENCES t (id))")).outcome.toOption.bind fun vs =>
        (Tree.statement (statementOf (.list vs))).outcome.toOption.map id) =
      some ⟨some "create", some "table", some "s",
        [.column ⟨"tId", some "INT", none, false⟩, .index ⟨some "i", ["tId", "a"]⟩,
          .column ⟨"a", none, none, false⟩,
          .foreignKey ⟨none, "tId", "t", "id", .noAction, .noAction⟩]⟩ := by
    decide +kernel
  obtain ⟨vs, c, hvs, hc, rfl⟩ := exists_of_eval hfirst
  obtain ⟨ws, c', hws, hc', rfl⟩ := exists_of_eval hsecond
  have hvalue : ∀ vs c, (Tree.statement (statementOf (.list vs))).outcome = .ok c →
      c.isCreateTable = true → ∃ s, (extract (.list vs)).outcome = .ok s := fun vs c hc hcreate =>
    ⟨_, (extract_statementOf (.list vs)).1.trans (Extraction.outcome_createTable hc hcreate)⟩
  obtain ⟨s, hs⟩ := hvalue vs _ hc (by decide +kernel)
  obtain ⟨t, ht⟩ := hvalue ws _ hc' (by decide +kernel)
  obtain ⟨c, nodes, hfound, -, -, haccounted, hmixed⟩ := extract_accounts hs
  cases hc.symm.trans hfound
  have hsame := hmixed (.list ws) t _ ht hc' rfl rfl rfl rfl
  rw [hsame] at ht
  exact ⟨vs, ws, _, s, hvs, hws, hs, ht, haccounted, rfl⟩

end TableScaffold
