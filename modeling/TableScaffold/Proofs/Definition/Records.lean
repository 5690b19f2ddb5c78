import TableScaffold.Extraction
import TableScaffold.Proofs.Definition.Tree

/-!
# Records in place of mappings

A tree in which every mapping is turned into a record is read as the same statement, with the same
notices (`statement_toRecords`), if no mapping stands where the reader takes a value as a whole: for
its truth, for its text, or to go through its items. In such a place the two differ, because a record
always counts as present and has another text. These places are the fields of `EntryLeaves` and
`StatementLeaves`; every other value is only asked for what stands under a key.
-/

namespace TableScaffold

/-! ## Values -/

namespace Value

mutual

/-- The value in which every mapping is a record with the same entries. -/
def toRecords : Value → Value
  | list vs => list (itemsToRecords vs)
  | map es | record es => record (entriesToRecords es)
  | v => v

/-- Items in which every mapping is a record. -/
def itemsToRecords : List Value → List Value
  | [] => []
  | v :: rest => toRecords v :: itemsToRecords rest

/-- Entries in whose values every mapping is a record. -/
def entriesToRecords : List (String × Value) → List (String × Value)
  | [] => []
  | (key, v) :: rest => (key, toRecords v) :: entriesToRecords rest

end

/-- No mapping stands in a value. -/
def MapFree (v : Value) : Prop := v.toRecords = v

theorem MapFree.eq {v : Value} (h : v.MapFree) : v.toRecords = v := h

theorem itemsToRecords_eq (vs : List Value) : itemsToRecords vs = vs.map toRecords := by
  induction vs with
  | nil => rfl
  | cons v vs ih => rw [itemsToRecords, ih, List.map_cons]

theorem toRecords_list (vs : List Value) : (list vs).toRecords = list (vs.map toRecords) := by
  rw [toRecords, itemsToRecords_eq]

theorem lookup_entriesToRecords (es : List (String × Value)) (key : String) :
    (entriesToRecords es).lookup key = (es.lookup key).map toRecords := by
  induction es with
  | nil => rfl
  | cons e es ih =>
    obtain ⟨k, v⟩ := e
    rw [entriesToRecords, List.lookup_cons, List.lookup_cons, ih]
    cases key == k <;> rfl

/-- What stands under a key is asked for in the same way. -/
@[simp] theorem field_toRecords (v : Value) (key : String) :
    v.toRecords.field key = (v.field key).toRecords := by
  have hentries (es : List (String × Value)) :
      ((entriesToRecords es).lookup key).getD null = ((es.lookup key).getD null).toRecords := by
    rw [lookup_entriesToRecords]
    cases es.lookup key <;> rfl
  cases v with
  | map es => exact hentries es
  | record es => exact hentries es
  | _ => rfl

theorem mapFree_ofOption (o : Option String) : (ofOption o).MapFree := by
  cases o <;> rfl

end Value

/-! ## Entries of a table -/

namespace Tree

open Value

variable {node v : Value}

theorem columnName_toRecords (v : Value) : columnName v.toRecords = (columnName v).toRecords := by
  cases v with
  | map es => exact field_toRecords (map es) "column"
  | record es => exact field_toRecords (record es) "column"
  | _ => rfl

theorem firstTable_toRecords (v : Value) : firstTable v.toRecords = (firstTable v).toRecords := by
  cases v with
  | map es => exact field_toRecords (map es) "table"
  | record es => exact field_toRecords (record es) "table"
  | list vs =>
    cases vs with
    | nil => rfl
    | cons v vs =>
      cases v with
      | map es => exact field_toRecords (map es) "table"
      | record es => exact field_toRecords (record es) "table"
      | _ => rfl
  | _ => rfl

/-- The values that stand for columns: the items of a list, or the value by itself. -/
def columnNodes : Value → List Value
  | .list vs => vs
  | v => [v]

theorem columnNodes_toRecords (v : Value) :
    columnNodes v.toRecords = (columnNodes v).map toRecords := by
  cases v with
  | list vs => exact itemsToRecords_eq vs
  | _ => rfl

/-- A value that does not count as present has no column with a name. So it does not matter that a
mapping without entries is no column at all, and a record without entries is one without a name. -/
theorem columnNames_eq (v : Value) :
    columnNames v = ((columnNodes v).map columnName).filterMap fun n =>
      if n.truthy then some n.text else none := by
  unfold columnNames
  cases hv : v.truthy with
  | true => cases v <;> rfl
  | false =>
    cases v with
    | str s => simp [columnNodes, columnName, hv]
    | list vs =>
      obtain rfl : vs = [] := by simpa [truthy] using hv
      rfl
    | map es =>
      obtain rfl : es = [] := by simpa [truthy] using hv
      rfl
    | record es => exact absurd hv (by simp [truthy])
    | _ => rfl

theorem columnNames_toRecords (h : ∀ u ∈ columnNodes v, (columnName u).MapFree) :
    columnNames v.toRecords = columnNames v := by
  rw [columnNames_eq, columnNames_eq, columnNodes_toRecords, List.map_map]
  congr 1
  refine List.map_congr_left fun u hu => ?_
  exact (columnName_toRecords u).trans (h u hu)

theorem wholeOf_toRecords (v : Value) : wholeOf v.toRecords = wholeOf v := by
  cases v <;> rfl

theorem lengthOf_toRecords (v : Value) : lengthOf v.toRecords = lengthOf v := by
  unfold lengthOf
  rw [field_toRecords]
  generalize v.field "length" = w
  have hwrapped : wholeOf (w.toRecords.field "value") = wholeOf (w.field "value") := by
    rw [field_toRecords, wholeOf_toRecords]
  cases w with
  | int n => rfl
  | bool b => rfl
  | str s => rfl
  | _ => exact hwrapped

theorem optionalText_toRecords (v : Value) :
    Check.optionalText v.toRecords = Check.optionalText v := by
  cases v <;> rfl

/-- In the parts of an entry that are taken as a whole stands no mapping. -/
structure EntryLeaves (node : Value) : Prop where
  resource : (node.field "resource").MapFree
  constraintType : (node.field "constraint_type").MapFree
  name : (columnName (node.field "column")).MapFree
  dataType : ((node.field "definition").field "dataType").MapFree
  nullable : ((node.field "nullable").field "type").MapFree
  columns : ∀ u ∈ columnNodes (node.field "definition"), (columnName u).MapFree
  table : (firstTable ((node.field "reference_definition").field "table")).MapFree
  remoteColumns : ∀ u ∈ columnNodes ((node.field "reference_definition").field "definition"),
    (columnName u).MapFree
  onDelete : ((node.field "reference_definition").field "on_delete").MapFree
  onUpdate : ((node.field "reference_definition").field "on_update").MapFree

namespace EntryLeaves

theorem column_toRecords (h : EntryLeaves node) : column node.toRecords = column node := by
  unfold column
  simp only [field_toRecords, columnName_toRecords, lengthOf_toRecords, h.name.eq, h.dataType.eq,
    h.nullable.eq]

theorem foreignKey_toRecords (h : EntryLeaves node) :
    foreignKey node.toRecords = foreignKey node := by
  have hlocal := columnNames_toRecords h.columns
  have hremote := columnNames_toRecords h.remoteColumns
  unfold foreignKey
  simp only [field_toRecords, firstTable_toRecords, optionalText_toRecords, hlocal, hremote,
    h.table.eq, h.onDelete.eq, h.onUpdate.eq]

theorem index_toRecords (h : EntryLeaves node) : index node.toRecords = index node := by
  unfold index
  simp only [field_toRecords, optionalText_toRecords, columnNames_toRecords h.columns]

theorem definition_toRecords (h : EntryLeaves node) :
    definition node.toRecords = definition node := by
  unfold definition
  simp only [field_toRecords, h.resource.eq, h.constraintType.eq, h.column_toRecords,
    h.foreignKey_toRecords, h.index_toRecords]

end EntryLeaves

theorem definitions_toRecords {nodes : List Value} (h : ∀ node ∈ nodes, EntryLeaves node) :
    definitions (nodes.map toRecords) = definitions nodes := by
  induction nodes with
  | nil => rfl
  | cons node nodes ih =>
    obtain ⟨hnode, hnodes⟩ := List.forall_mem_cons.1 h
    rw [List.map_cons, definitions, definitions, hnode.definition_toRecords, ih hnodes]

/-! ## Statements -/

theorem truthy_toRecords (h : ∀ es, v ≠ .map es) : v.toRecords.truthy = v.truthy := by
  cases v with
  | map es => exact absurd rfl (h es)
  | list vs => cases vs <;> rfl
  | _ => rfl

/-- Only a mapping is gone through in another way than the record in its place. -/
theorem entries_toRecords (h : ∀ es, v ≠ .map es) :
    entries v.toRecords = (entries v).map (List.map toRecords) := by
  unfold entries
  rw [truthy_toRecords h]
  split
  · rfl
  · cases v with
    | map es => exact absurd rfl (h es)
    | list vs => exact congrArg Except.ok (itemsToRecords_eq vs)
    | str s => simp [toRecords, Except.map, Function.comp_def]
    | _ => rfl

/-- In the parts of a statement that are taken as a whole stands no mapping. -/
structure StatementLeaves (node : Value) : Prop where
  type : (node.field "type").MapFree
  listed : ∀ es, node.field "create_definitions" ≠ .map es
  entries : ∀ nodes, entries (node.field "create_definitions") = .ok nodes →
    ∀ u ∈ nodes, EntryLeaves u

theorem StatementLeaves.statement_toRecords (h : StatementLeaves node) :
    statement node.toRecords = statement node := by
  unfold statement
  simp only [field_toRecords, firstTable_toRecords, optionalText_toRecords,
    entries_toRecords h.listed, h.type.eq]
  cases hnodes : Tree.entries (node.field "create_definitions") with
  | error f => rfl
  | ok nodes =>
    have hread := definitions_toRecords (h.entries nodes hnodes)
    simp only [Except.map, Attempt.ofExcept_ok, pure_bind, hread]

/-- A mapping without entries counts as no type, but a record without entries is a type that is no
text. -/
example : (statement (map [("type", map [])])).outcome =
      .error (.problems [⟨["statement_type"], .stringType⟩]) ∧
    (statement (map [("type", map [])]).toRecords).outcome = .error .typeNotText :=
  ⟨rfl, rfl⟩

end Tree

/-! ## Extraction -/

namespace Extraction

theorem ofStatement_toRecords {node : Value} (h : Tree.StatementLeaves node) :
    ofStatement node.toRecords = ofStatement node := by
  rw [ofStatement, ofStatement, h.statement_toRecords]

/-- Of a list of statements only the first one is looked at. -/
theorem extract_toRecords_of_leaves {nodes : List Value}
    (h : ∀ node ∈ nodes.head?, Tree.StatementLeaves node) :
    extract (Value.list nodes).toRecords = extract (.list nodes) := by
  rw [Value.toRecords_list]
  match nodes, h with
  | [], _ => rfl
  | [node], h => exact ofStatement_toRecords (h node rfl)
  | node :: next :: rest, h =>
    simp only [List.map_cons, extract, List.length_cons, List.length_map,
      ofStatement_toRecords (h node rfl)]

end Extraction

end TableScaffold
