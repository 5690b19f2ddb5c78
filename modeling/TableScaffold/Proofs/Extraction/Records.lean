import TableScaffold.Proofs.Definition.Records
import TableScaffold.Proofs.Extraction.Acceptance

/-!
# Scripts as trees of records

The trees of a script give the same schema and the same notices when all their mappings are turned
into records, or they are refused in both forms (`extract_toRecords`). Where a value is taken as a
whole, a script is written out as texts, numbers and nulls, for each kind of entry (`Entry.leaves`).
So the reader never meets what a mapping and a record differ in.
-/

namespace TableScaffold

namespace Sql

open TableScaffold.Tree Value

variable {v : Value}

/-! ## Parts of a tree -/

/-- A list of references to columns holds the names as texts. -/
theorem mapFree_columnReferences (names : List String) :
    ∀ u ∈ columnNodes (.list (names.map columnReference)), (columnName u).MapFree :=
  List.forall_mem_map.2 fun _ _ => rfl

theorem mapFree_tableList (table : Option TableName) : (firstTable (tableList table)).MapFree := by
  cases table <;> rfl

theorem mapFree_nullability (nullable : Option Bool) :
    ((nullabilityTree nullable).field "type").MapFree := by
  match nullable with
  | none => rfl
  | some true => rfl
  | some false => rfl

/-- A value without a name for a column, by itself. -/
theorem mapFree_nameless (h : columnNodes v = [v]) (hname : columnName v = null) :
    ∀ u ∈ columnNodes v, (columnName u).MapFree := by
  rw [h]
  refine List.forall_mem_singleton.2 ?_
  rw [hname]
  rfl

/-! ## Entries and statements -/

theorem ColumnEntry.leaves {c : ColumnEntry} (h : c.tree = .ok v) : EntryLeaves v := by
  obtain ⟨length, rfl⟩ := c.tree_eq h
  exact
    { resource := rfl, constraintType := rfl, name := rfl, dataType := mapFree_ofOption _
      nullable := mapFree_nullability _, columns := mapFree_nameless rfl rfl, table := rfl
      remoteColumns := mapFree_nameless rfl rfl, onDelete := rfl, onUpdate := rfl }

theorem ForeignKeyEntry.leaves (k : ForeignKeyEntry) : EntryLeaves k.tree where
  resource := rfl
  constraintType := rfl
  name := rfl
  dataType := rfl
  nullable := rfl
  columns := mapFree_columnReferences k.columns
  table := mapFree_tableList k.table
  remoteColumns := mapFree_columnReferences k.remoteColumns
  onDelete := mapFree_ofOption k.onDelete
  onUpdate := mapFree_ofOption k.onUpdate

theorem IndexEntry.leaves (i : IndexEntry) : EntryLeaves i.tree where
  resource := rfl
  constraintType := rfl
  name := rfl
  dataType := rfl
  nullable := rfl
  columns := mapFree_columnReferences i.columns
  table := rfl
  remoteColumns := mapFree_nameless rfl rfl
  onDelete := rfl
  onUpdate := rfl

/-- In the tree of an entry no mapping stands where a value is taken as a whole. -/
theorem Entry.leaves {e : Entry} (h : e.tree = .ok v) : EntryLeaves v := by
  cases e with
  | column c => exact c.leaves h
  | foreignKey k =>
    cases h
    exact k.leaves
  | index i =>
    cases h
    exact i.leaves
  | lone name | other label =>
    cases h
    exact
      { resource := rfl, constraintType := rfl, name := rfl, dataType := rfl, nullable := rfl
        columns := mapFree_nameless rfl rfl, table := rfl, remoteColumns := mapFree_nameless rfl rfl
        onDelete := rfl, onUpdate := rfl }

/-- The same in the tree of a statement, whose entries are the trees of what it lists. -/
theorem Statement.leaves {s : Statement} (h : s.tree = .ok v) : StatementLeaves v := by
  cases s with
  | other kind =>
    cases h
    refine ⟨rfl, fun _ => Value.noConfusion, fun nodes hnodes => ?_⟩
    cases hnodes
    exact List.forall_mem_nil _
  | create keyword table entries =>
    obtain ⟨vs, hvs, rfl⟩ := Statement.tree_create h
    refine ⟨rfl, fun _ => Value.noConfusion, fun nodes hnodes u hu => ?_⟩
    have hlisted : Tree.entries (.list vs) = .ok vs := by cases vs <;> rfl
    obtain rfl : vs = nodes := Except.ok.inj (hlisted.symm.trans hnodes)
    obtain ⟨e, -, he⟩ := exists_of_mapM hvs hu
    exact e.leaves he

end Sql

/-! ## Scripts -/

/-- The trees of a script and the records in their place give the same schema with the same notices,
or neither of them creates a table. -/
theorem extract_toRecords {d : Sql.Dialect} {script : String} {vs : List Value}
    (h : (Sql.trees d script).outcome = .ok vs) :
    extract (Value.list vs).toRecords = extract (.list vs) ∧
      ((∃ s, (extract (.list vs)).outcome = .ok s) ∨
        (extract (.list vs)).outcome = .error .notACreateTable) := by
  obtain ⟨ss, -, hss⟩ := Sql.statements_of_trees h
  refine ⟨Extraction.extract_toRecords_of_leaves fun v hv => ?_, Sql.extract_cases hss⟩
  obtain ⟨s, -, hs⟩ := exists_of_mapM hss (List.mem_of_mem_head? hv)
  exact s.leaves hs

/-- A table with every kind of entry, and a script whose first statement makes a view. -/
theorem extract_toRecords_kinds : ∃ vs ws,
    (Sql.trees .mysql ("CREATE TABLE t (a DECIMAL(9) NULL, b POINT, PRIMARY KEY (a), " ++
      "INDEX i (a), FOREIGN KEY (b) REFERENCES u (id) ON DELETE CASCADE)")).outcome = .ok vs ∧
    (Sql.trees .mysql "CREATE VIEW v AS SELECT 1; CREATE TABLE t (a INT)").outcome = .ok ws ∧
    (extract (Value.list vs).toRecords).outcome = .ok
      ⟨"t", [⟨"a", "DECIMAL", .number, .decimal, true, some 9⟩,
          ⟨"b", "POINT", .unknown, .string, false, none⟩],
        [⟨"bRelation", "U", "b", "id", .cascade, .noAction⟩], [⟨some "i", "a"⟩]⟩ ∧
    (extract (Value.list vs).toRecords).notices = (extract (.list vs)).notices ∧
    (extract (Value.list ws).toRecords).outcome = .error .notACreateTable := by
  have hfirst : ((Sql.trees .mysql ("CREATE TABLE t (a DECIMAL(9) NULL, b POINT, PRIMARY KEY (a), " ++
      "INDEX i (a), FOREIGN KEY (b) REFERENCES u (id) ON DELETE CASCADE)")).outcome.toOption.bind
        fun vs => (extract (.list vs)).outcome.toOption.map id) = some
      ⟨"t", [⟨"a", "DECIMAL", .number, .decimal, true, some 9⟩,
          ⟨"b", "POINT", .unknown, .string, false, none⟩],
        [⟨"bRelation", "U", "b", "id", .cascade, .noAction⟩], [⟨some "i", "a"⟩]⟩ := by
    decide +kernel
  have hsecond : ((Sql.trees .mysql
      "CREATE VIEW v AS SELECT 1; CREATE TABLE t (a INT)").outcome.toOption.map fun ws =>
        (extract (.list ws)).outcome.toOption.isSome) = some false := by
    decide +kernel
  obtain ⟨vs, s, hvs, hs, rfl⟩ := Attempt.exists_of_eval hfirst
  obtain ⟨ws, hws, hnone⟩ := Option.map_eq_some_iff.1 hsecond
  have htrees := Attempt.ok_of_toOption hws
  have hsame := (extract_toRecords hvs).1
  obtain ⟨hsame', hrefused⟩ := extract_toRecords htrees
  have hnot : ¬ ∃ s, (extract (.list ws)).outcome = .ok s := by
    rintro ⟨s, hs⟩
    rw [hs] at hnone
    cases hnone
  refine ⟨vs, ws, hvs, htrees, ?_, by rw [hsame], ?_⟩
  · rw [hsame]
    exact hs
  · rw [hsame', hrefused.resolve_left hnot]

end TableScaffold
