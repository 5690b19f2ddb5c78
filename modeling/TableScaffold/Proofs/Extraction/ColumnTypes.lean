import TableScaffold.Proofs.Definition.TypeCase
import TableScaffold.Proofs.Extraction.Accounts

/-!
# The types of columns

A column has the types that its SQL type stands for in both tables, and `any` and `String` if it stands
for none in either. In that case, and only then, a warning names the column and its type. The letter
case of ASCII letters in a SQL type makes no difference to the types.
-/

namespace TableScaffold

/-! ## Both tables -/

/-- The types of a column. -/
def Column.types (c : Column) : SemanticType × PersistenceType := (c.semanticType, c.persistenceType)

/-- The words for the types of a column. -/
def Column.typeNames (c : Column) : String × String := (c.semanticType.word, c.persistenceType.word)

/-- The words for the types that a SQL type may stand for, the last for one that is not recognised. -/
def typeNamePairs : List (String × String) :=
  [("string", "String"), ("number", "Int"), ("number", "Decimal"), ("number", "Float"),
   ("boolean", "Boolean"), ("Date", "DateTime"), ("any", "String")]

theorem typesOf?_mem {sqlType : Option String} {types : SemanticType × PersistenceType}
    (h : typesOf? sqlType = some types) : ∃ w, (w, types) ∈ typeWords := by
  obtain ⟨front, back, hwords, -⟩ := List.lookup_eq_some_iff.mp h
  exact ⟨_, hwords ▸ List.mem_append_right front List.mem_cons_self⟩

theorem typesOf?_small (sqlType : Option String) :
    typesOf? (sqlType.map Text.small) = typesOf? sqlType := by
  cases sqlType with
  | none => rfl
  | some t =>
    show typeWords.lookup (Text.lower (Text.small t)) = typeWords.lookup (Text.lower t)
    rw [Text.lower_small]

theorem semanticType_small (sqlType : Option String) :
    semanticType (sqlType.map Text.small) = semanticType sqlType := by
  rw [semanticType_eq, semanticType_eq, typesOf?_small]

theorem value_persistenceType_small (sqlType : Option String) (column : String) :
    (persistenceType (sqlType.map Text.small) column).value = (persistenceType sqlType column).value := by
  rw [persistenceType_eq, persistenceType_eq, typesOf?_small]
  cases typesOf? sqlType <;> rfl

/-! ## Columns and their warnings -/

/-- The column and the SQL type that a notice says is not recognised. -/
def Notice.unrecognized? : Notice → Option (String × Option String)
  | unrecognizedType column sqlType => some (column, sqlType)
  | _ => none

namespace Column

variable {c : Column}

/-- A column has the types that its SQL type stands for, or `any` and `String`. -/
theorem IsOf.types {d : ColumnDefinition} (h : c.IsOf d) :
    c.types = (typesOf? (some c.sqlType)).getD (.unknown, .string) := by
  rw [Column.types, h.semanticType, h.persistenceType, h.sqlType, semanticType_eq, persistenceType_eq]
  cases typesOf? (some c.sqlType) <;> rfl

theorem typeNames_mem (h : c.types = (typesOf? (some c.sqlType)).getD (.unknown, .string)) :
    c.typeNames ∈ typeNamePairs := by
  have hall : ∀ e ∈ typeWords, (e.2.1.word, e.2.2.word) ∈ typeNamePairs := by decide
  have hnames : c.typeNames = (c.types.1.word, c.types.2.word) := rfl
  rw [hnames, h]
  cases htypes : typesOf? (some c.sqlType) with
  | none => decide
  | some types =>
    obtain ⟨w, hw⟩ := typesOf?_mem htypes
    exact hall _ hw

theorem typeNames_any_iff (h : c.types = (typesOf? (some c.sqlType)).getD (.unknown, .string)) :
    c.typeNames = ("any", "String") ↔ typesOf? (some c.sqlType) = none := by
  have hall : ∀ e ∈ typeWords, (e.2.1.word, e.2.2.word) ≠ ("any", "String") := by decide
  have hnames : c.typeNames = (c.types.1.word, c.types.2.word) := rfl
  rw [hnames, h]
  cases htypes : typesOf? (some c.sqlType) with
  | none => exact iff_of_true (by decide) rfl
  | some types =>
    obtain ⟨w, hw⟩ := typesOf?_mem htypes
    exact iff_of_false (hall _ hw) (Option.some_ne_none types)

/-- What the warning for a column names. -/
def warned (c : Column) : String × Option String := (c.name, some c.sqlType)

end Column

namespace Extraction

theorem notices_column?_typed {d : ColumnDefinition} (h : d.hasType = true) :
    (column? d).notices = (persistenceType d.dataType d.name).notices := by
  unfold ColumnDefinition.hasType at h
  unfold column?
  cases htype : d.dataType with
  | none =>
    rw [htype] at h
    cases h
  | some t =>
    rw [htype] at h
    have hne : t.isEmpty = false := by simpa using h
    dsimp only
    rw [if_neg (by simp [hne]), Logged.notices_bind, Logged.notices_pure, List.append_nil]

theorem unrecognized_persistenceType (sqlType : Option String) (column : String) :
    (persistenceType sqlType column).notices.filterMap Notice.unrecognized? =
      if typesOf? sqlType = none then [(column, sqlType)] else [] := by
  rw [persistenceType_eq]
  cases typesOf? sqlType <;> rfl

/-- A warning names a column of a definition exactly if its types are `any` and `String`. -/
theorem unrecognized_column? (d : ColumnDefinition) :
    (column? d).notices.filterMap Notice.unrecognized? =
      ((column? d).value.toList.filter (·.typeNames = ("any", "String"))).map Column.warned := by
  cases htype : d.hasType with
  | false =>
    obtain ⟨hvalue, hnotices⟩ := column?_untyped htype
    rw [hvalue, hnotices]
    rfl
  | true =>
    obtain ⟨⟨c, hc, hof⟩, -⟩ := column?_typed htype
    rw [notices_column?_typed htype, unrecognized_persistenceType, hc, hof.sqlType, ← hof.name]
    have hany := Column.typeNames_any_iff hof.types
    by_cases hnone : typesOf? (some c.sqlType) = none
    · rw [if_pos hnone]
      simp [hany.mpr hnone, Column.warned]
    · rw [if_neg hnone]
      simp [mt hany.mp hnone]

theorem unrecognized_columns (ds : List Definition) :
    (columns ds).notices.filterMap Notice.unrecognized? =
      ((columns ds).value.filter (·.typeNames = ("any", "String"))).map Column.warned := by
  induction ds with
  | nil => rfl
  | cons d ds ih =>
    cases d with
    | column d =>
      rw [(columns_column d ds).1, (columns_column d ds).2, List.filterMap_append,
        List.filter_append, List.map_append, unrecognized_column?, ih]
    | foreignKey _ | index _ | other _ => exact ih

end Extraction

/-! ## Reading makes no such warning -/

namespace Tree

open Attempt

/-- A notice on the definitions of a statement. -/
abbrev OnDefinitions (n : Notice) : Prop := n.topic = "crudgen.sql.definitions"

theorem onDefinitions_ofValue (v : Value) : ∀ n ∈ (ReferentialAction.ofValue v).notices, OnDefinitions n := by
  unfold ReferentialAction.ofValue
  split
  · exact fun n hn => absurd hn List.not_mem_nil
  · split
    · exact fun n hn => absurd hn List.not_mem_nil
    · exact List.forall_mem_singleton.mpr rfl

theorem onDefinitions_foreignKey (node : Value) : ∀ n ∈ (foreignKey node).notices, OnDefinitions n := by
  have hnotices : (foreignKey node).notices =
      (ReferentialAction.ofValue ((node.field "reference_definition").field "on_delete")).notices ++
        ((ReferentialAction.ofValue ((node.field "reference_definition").field "on_update")).notices ++
          []) := rfl
  rw [hnotices, List.append_nil]
  exact List.forall_mem_append.mpr ⟨onDefinitions_ofValue _, onDefinitions_ofValue _⟩

theorem onDefinitions_definition (node : Value) :
    ∀ n ∈ (definition node).notices, OnDefinitions n := by
  have hnone : ∀ x : Except TreeFault Definition, ∀ n ∈ (ofExcept x).notices, OnDefinitions n :=
    fun x n hn => absurd hn List.not_mem_nil
  unfold definition
  dsimp only
  split
  · exact hnone _
  split
  · refine forall_notices_bind ?_ fun key => hnone _
    rw [notices_ofLogged]
    exact onDefinitions_foreignKey node
  split
  · exact hnone _
  · exact List.forall_mem_singleton.mpr rfl

theorem onDefinitions_definitions (nodes : List Value) :
    ∀ n ∈ (definitions nodes).notices, OnDefinitions n := by
  induction nodes with
  | nil => exact fun n hn => absurd hn List.not_mem_nil
  | cons node nodes ih =>
    refine forall_notices_bind (onDefinitions_definition node) fun d => ?_
    exact forall_notices_bind ih fun ds n hn => absurd hn List.not_mem_nil

/-- Reading a statement makes no warning on a type. -/
theorem unrecognized_definitions (nodes : List Value) :
    (definitions nodes).notices.filterMap Notice.unrecognized? = [] := by
  have htopics : "crudgen.core.types" ≠ "crudgen.sql.definitions" := by decide
  refine List.filterMap_eq_nil_iff.mpr fun n hn => ?_
  have htopic := onDefinitions_definitions nodes n hn
  cases n with
  | unrecognizedType => exact absurd htopic htopics
  | _ => rfl

end Tree

/-! ## Small ASCII letters -/

/-- A column with its SQL type in small ASCII letters. -/
def Column.small (c : Column) : Column := { c with sqlType := Text.small c.sqlType }

/-- A schema with the SQL types of its columns in small ASCII letters. -/
def TableSchema.small (s : TableSchema) : TableSchema := { s with columns := s.columns.map Column.small }

namespace Extraction

theorem value_column?_small (d : ColumnDefinition) :
    (column? d.small).value = (column? d).value.map Column.small := by
  unfold column? ColumnDefinition.small
  cases htype : d.dataType with
  | none => rfl
  | some t =>
    dsimp only [Option.map_some]
    rw [Text.isEmpty_small]
    split
    · rfl
    · have hsemantic := semanticType_small (some t)
      have hpersistence := value_persistenceType_small (some t) d.name
      dsimp only [Option.map_some] at hsemantic hpersistence
      simp only [Logged.value_bind, Logged.value_pure, hsemantic, hpersistence]
      rfl

theorem value_columns_small (ds : List Definition) :
    (columns (ds.map Definition.small)).value = (columns ds).value.map Column.small := by
  induction ds with
  | nil => rfl
  | cons d ds ih =>
    cases d with
    | column d =>
      rw [List.map_cons, Definition.small, (columns_column _ _).1, (columns_column _ _).1, ih,
        value_column?_small, List.map_append]
      cases (column? d).value <;> rfl
    | foreignKey _ | index _ | other _ => exact ih

theorem value_schema_small (table : Option String) (ds : List Definition) :
    (schema table (ds.map Definition.small)).value = (schema table ds).value.small := by
  have hkeys : foreignKeys (ds.map Definition.small) = foreignKeys ds := by
    rw [foreignKeys_eq, foreignKeys_eq, List.filterMap_map]
    congr 1
    funext d
    cases d <;> rfl
  have hindexes : indexes (ds.map Definition.small) = indexes ds := by
    rw [indexes_eq, indexes_eq, List.filterMap_map]
    congr 2
    funext d
    cases d <;> rfl
  have hnames : ((columns ds).value.map Column.small).map (·.name) = (columns ds).value.map (·.name) := by
    rw [List.map_map]
    rfl
  have hvalue : ∀ ds, (schema table ds).value =
      { tableName := table.getD ""
        columns := (columns ds).value
        relations := (foreignKeys ds).map (relation ((columns ds).value.map (·.name)))
        indexes := indexes ds } := fun _ => rfl
  rw [hvalue, hvalue, value_columns_small, hnames, hkeys, hindexes]
  rfl

theorem isCreateTable_small (c : CreateStatement) : c.small.isCreateTable = c.isCreateTable := rfl

theorem outcome_ofStatement_small (node : Value) :
    (ofStatement (Tree.smallTypes node)).outcome = (ofStatement node).outcome.map TableSchema.small := by
  unfold ofStatement
  rw [Attempt.outcome_bind, Attempt.outcome_bind, Attempt.outcome_adapt, Attempt.outcome_adapt,
    Tree.outcome_statement_smallTypes]
  cases (Tree.statement node).outcome with
  | error e => rfl
  | ok c =>
    show Attempt.outcome (if c.small.isCreateTable then _ else _) =
      Except.map _ (Attempt.outcome (if c.isCreateTable then _ else _))
    rw [isCreateTable_small]
    split
    · rw [Attempt.outcome_ofLogged, Attempt.outcome_ofLogged]
      exact congrArg Except.ok (value_schema_small c.tableName c.definitions)
    · rfl

end Extraction

/-- A syntax tree, the data types of its statements in small ASCII letters. -/
def smallTypes : Value → Value
  | .list vs => .list (vs.map Tree.smallTypes)
  | v => Tree.smallTypes v

theorem statementOf_smallTypes (v : Value) :
    statementOf (smallTypes v) = Tree.smallTypes (statementOf v) := by
  cases v with
  | list vs => cases vs <;> rfl
  | _ => rfl

/-- The letter case of the data types makes no difference but to the SQL types of the columns. -/
theorem outcome_extract_smallTypes (v : Value) :
    (extract (smallTypes v)).outcome = (extract v).outcome.map TableSchema.small := by
  rw [(extract_statementOf _).1, (extract_statementOf v).1, statementOf_smallTypes,
    Extraction.outcome_ofStatement_small]

/-! ## Schemas -/

theorem unrecognized_extract (v : Value) : (extract v).notices.filterMap Notice.unrecognized? =
    (Extraction.ofStatement (statementOf v)).notices.filterMap Notice.unrecognized? := by
  unfold extract
  split
  · rfl
  · rfl
  · rfl
  · next hnil hone hmore =>
    have hv : statementOf v = v := by
      unfold statementOf
      split
      · exact (hmore _ _ rfl).elim
      · rfl
    rw [hv]

/-- The columns of a schema have the types that their SQL types stand for, and there is a warning for
each of those that stand for none. -/
theorem extract_columns {v : Value} {s : TableSchema} (h : (extract v).outcome = .ok s) :
    (∀ c ∈ s.columns, c.types = (typesOf? (some c.sqlType)).getD (.unknown, .string)) ∧
      (extract v).notices.filterMap Notice.unrecognized? =
        (s.columns.filter (·.typeNames = ("any", "String"))).map Column.warned := by
  obtain ⟨c, hc, hcreate, rfl, hnotices⟩ :=
    Extraction.schema_of_statement ((extract_statementOf v).1.symm.trans h)
  obtain ⟨nodes, -, -, hread⟩ := Tree.statement_createTable hc hcreate
  refine ⟨fun column hcolumn => ?_, ?_⟩
  · obtain ⟨d, -, hof⟩ := exists_of_forall₂ (Extraction.value_columns c.definitions) hcolumn
    exact hof.types
  · have hloop : (Extraction.schema c.tableName c.definitions).notices =
        (Extraction.columns c.definitions).notices := List.append_nil _
    rw [unrecognized_extract, hnotices, List.filterMap_append, hread, hloop,
      Tree.unrecognized_definitions, List.nil_append, Extraction.unrecognized_columns]
    rfl

theorem unrecognized_mem_iff {notices : List Notice} {column : String} {sqlType : Option String} :
    .unrecognizedType column sqlType ∈ notices ↔
      (column, sqlType) ∈ notices.filterMap Notice.unrecognized? := by
  rw [List.mem_filterMap]
  constructor
  · exact fun h => ⟨_, h, rfl⟩
  · rintro ⟨n, hn, heq⟩
    cases n with
    | unrecognizedType => cases heq; exact hn
    | _ => cases heq

theorem typeNames_small (s : TableSchema) :
    s.small.columns.map Column.typeNames = s.columns.map Column.typeNames := by
  rw [TableSchema.small, List.map_map]
  rfl

/-- The two types of a column fit together, a warning tells where neither is known, and the letter case
of the data types makes no difference to them. -/
theorem column_types_fit {v : Value} {s : TableSchema} (h : (extract v).outcome = .ok s) :
    (∀ c ∈ s.columns, c.typeNames ∈ typeNamePairs ∧
      (c.typeNames = ("any", "String") ↔
        .unrecognizedType c.name (some c.sqlType) ∈ (extract v).notices)) ∧
      (extract v).notices.filterMap Notice.unrecognized? =
        (s.columns.filter (·.typeNames = ("any", "String"))).map (fun c => (c.name, some c.sqlType)) ∧
      ∀ w, smallTypes w = smallTypes v → ∃ t, (extract w).outcome = .ok t ∧ t.small = s.small ∧
        t.columns.map Column.typeNames = s.columns.map Column.typeNames := by
  obtain ⟨htypes, hwarned⟩ := extract_columns h
  refine ⟨fun c hc => ⟨Column.typeNames_mem (htypes c hc), ?_⟩, hwarned, fun w hw => ?_⟩
  · rw [unrecognized_mem_iff, hwarned, List.mem_map]
    constructor
    · exact fun hany => ⟨c, List.mem_filter.mpr ⟨hc, decide_eq_true hany⟩, rfl⟩
    · rintro ⟨c', hc', heq⟩
      obtain ⟨hmem, hany⟩ := List.mem_filter.mp hc'
      have hnone := (Column.typeNames_any_iff (htypes c' hmem)).mp (of_decide_eq_true hany)
      rw [(Prod.mk.inj heq).2] at hnone
      exact (Column.typeNames_any_iff (htypes c hc)).mpr hnone
  · have hsmall := outcome_extract_smallTypes w
    rw [hw, outcome_extract_smallTypes v, h] at hsmall
    cases hout : (extract w).outcome with
    | error e =>
      rw [hout] at hsmall
      cases hsmall
    | ok t =>
      rw [hout] at hsmall
      have heq : s.small = t.small := Except.ok.inj hsmall
      exact ⟨t, rfl, heq.symm, by rw [← typeNames_small t, ← heq, typeNames_small]⟩

/-- The tree of a table whose columns have the given names and data types. -/
def tableTree (types : List (String × String)) : Value :=
  .map [("type", .str "create"), ("keyword", .str "table"), ("table", .str "t"),
    ("create_definitions", .list (types.map fun c =>
      .map [("resource", .str "column"), ("column", .str c.1),
        ("definition", .map [("dataType", .str c.2)])]))]

theorem smallTypes_tableTree (types : List (String × String)) :
    smallTypes (tableTree types) = tableTree (types.map fun c => (c.1, Text.small c.2)) := by
  simp [smallTypes, Tree.smallTypes, tableTree, Value.mapEntry, Value.mapItems, Tree.smallEntry,
    Value.small]

theorem column_types_fit_point : ∃ s t,
    (extract (tableTree [("a", "VarChar"), ("b", "POINT")])).outcome = .ok s ∧
      (extract (tableTree [("a", "varchar"), ("b", "Point")])).outcome = .ok t ∧
      .unrecognizedType "b" (some "POINT") ∈
        (extract (tableTree [("a", "VarChar"), ("b", "POINT")])).notices ∧
      s.columns.map Column.typeNames = [("string", "String"), ("any", "String")] ∧
      t.columns.map Column.typeNames = [("string", "String"), ("any", "String")] := by
  have hsmall : smallTypes (tableTree [("a", "varchar"), ("b", "Point")]) =
      smallTypes (tableTree [("a", "VarChar"), ("b", "POINT")]) := by
    rw [smallTypes_tableTree, smallTypes_tableTree]
    exact congrArg tableTree (by decide +kernel)
  have hs : (extract (tableTree [("a", "VarChar"), ("b", "POINT")])).outcome =
      .ok ⟨"t", [⟨"a", "VarChar", .string, .string, false, none⟩,
        ⟨"b", "POINT", .unknown, .string, false, none⟩], [], []⟩ :=
    Attempt.ok_of_toOption (by decide +kernel)
  obtain ⟨hcolumns, -, hrecased⟩ := column_types_fit hs
  obtain ⟨t, ht, -, hnames⟩ := hrecased _ hsmall
  have hnames' := hnames.trans (by decide : _ = [("string", "String"), ("any", "String")])
  refine ⟨_, t, hs, ht, ?_, by decide, hnames'⟩
  exact (hcolumns _ (List.mem_cons_of_mem _ List.mem_cons_self)).2.mp (by decide)

end TableScaffold
