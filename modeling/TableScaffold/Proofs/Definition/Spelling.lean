import Mathlib.Data.List.Forall2
import TableScaffold.Proofs.Decimal.Numeral
import TableScaffold.Proofs.Definition.Tree
import TableScaffold.Proofs.Sql.Entry
import TableScaffold.Proofs.Text.Letters

/-!
# Spellings of a definition

The parts of a definition may be spelled in several ways, each on its own: a name by itself or in a
mapping, one column for a list of one, a length as a number or as text, an action in any letter
case. `definition_of_spells`: the tree is read as the definition that its parts spell, without a
notice.

The columns of a foreign key are the first ones with a name: an empty name counts for nothing.
-/

namespace TableScaffold

namespace ReferentialAction

variable {a : ReferentialAction} {v : Value}

/-- The letters of a spelling, in lower case. -/
def letters (s : String) : List Char :=
  (s.toList.filter fun c => c != ' ' && c != '_').map Char.toLower

/-- A text spells an action if it has the letters of the words for it in a script, or of the word
for it in a generated model. -/
def Spells (a : ReferentialAction) (v : Value) : Prop :=
  ∃ s, v = .str s ∧ (letters s = letters (" ".intercalate a.spelling) ∨ letters s = letters a.word)

theorem letters_spelling (a : ReferentialAction) :
    letters (" ".intercalate a.spelling) = letters a.word := by
  cases a <;> decide

theorem ofSpelling?_of_letters {s : String} (h : letters s = letters a.word) :
    ofSpelling? s = some a := by
  have hascii : (String.ofList (letters a.word)).toList.all (·.toNat < 128) = true := by
    cases a <;> decide
  have hkey : key s = String.ofList (letters a.word) := by
    refine Text.lower_of_letters hascii ?_
    rw [String.toList_ofList, String.toList_ofList]
    exact h
  rw [ofSpelling?, hkey]
  cases a <;> decide

theorem ofValue_of_spells (h : a.Spells v) : ofValue v = pure a := by
  obtain ⟨s, rfl, hletters⟩ := h
  have hread := ofSpelling?_of_letters (hletters.elim (·.trans (letters_spelling a)) id)
  have hne : s ≠ "" := by
    rintro rfl
    have hnone : ofSpelling? "" = none := by decide
    rw [hnone] at hread
    cases hread
  simp [ofValue, Value.truthy, Value.text, hne, hread]

end ReferentialAction

namespace Tree

variable {name key : String} {names : List String} {v node : Value}

/-! ## Names -/

/-- A name by itself, or the mapping that holds it. -/
inductive Names (key name : String) : Value → Prop
  | text : Names key name (.str name)
  | entry {v : Value} (h : v.field key = .str name) : Names key name v

/-- A table, or a list that starts with it. -/
inductive SpellsTable (name : String) : Value → Prop
  | single {v : Value} (h : Names "table" name v) : SpellsTable name v
  | first {v : Value} {rest : List Value} (h : Names "table" name v) :
      SpellsTable name (.list (v :: rest))

/-- A list of columns, or a single column. -/
inductive SpellsColumns : List String → Value → Prop
  | single {name : String} {v : Value} (h : Names "column" name v) : SpellsColumns [name] v
  | listed {names : List String} {vs : List Value} (h : List.Forall₂ (Names "column") names vs) :
      SpellsColumns names (.list vs)

/-- Only a mapping or a record holds a name. -/
theorem exists_entries (h : v.field key = .str name) :
    ∃ e es, v = .map (e :: es) ∨ v = .record (e :: es) := by
  cases v with
  | map es =>
    cases es with
    | nil => cases h
    | cons e es => exact ⟨e, es, .inl rfl⟩
  | record es =>
    cases es with
    | nil => cases h
    | cons e es => exact ⟨e, es, .inr rfl⟩
  | _ => cases h

theorem columnName_of_names (h : Names "column" name v) : columnName v = .str name := by
  cases h with
  | text => rfl
  | entry h => obtain ⟨e, es, rfl | rfl⟩ := exists_entries h <;> exact h

theorem firstTable_of_spells (h : SpellsTable name v) : firstTable v = .str name := by
  cases h with
  | single h =>
    cases h with
    | text => rfl
    | entry h => obtain ⟨e, es, rfl | rfl⟩ := exists_entries h <;> exact h
  | first h =>
    cases h with
    | text => rfl
    | entry h => obtain ⟨e, es, rfl | rfl⟩ := exists_entries h <;> exact h

/-- The names that are present are those that are not empty. -/
theorem filterMap_columnName {vs : List Value} (h : List.Forall₂ (Names "column") names vs) :
    (vs.map columnName).filterMap (fun n => if n.truthy then some n.text else none) =
      names.filter (· ≠ "") := by
  induction h with
  | nil => rfl
  | @cons name v names vs hname _ ih =>
    rw [List.map_cons, List.filterMap_cons, columnName_of_names hname, ih]
    by_cases hs : name = "" <;> simp [Value.truthy, Value.text, hs]

theorem columnNames_of_spells (h : SpellsColumns names v) :
    columnNames v = names.filter (· ≠ "") := by
  cases h with
  | listed h =>
    cases h with
    | nil => rfl
    | cons hname hrest => exact filterMap_columnName (.cons hname hrest)
  | @single name _ h =>
    have hone := filterMap_columnName (.cons h .nil)
    cases h with
    | text =>
      by_cases hs : name = "" <;> simp [columnNames, columnName, Value.truthy, Value.text, hs]
    | entry h => obtain ⟨e, es, rfl | rfl⟩ := exists_entries h <;> exact hone

/-! ## Lengths -/

/-- A number, or its decimal text with at most as many digits as are read. -/
inductive SpellsWhole (n : Int) : Value → Prop
  | number : SpellsWhole n (.int n)
  | text {s : String} (h : Decimal.Writes n s) (hn : n.natAbs < 10 ^ Decimal.digitLimit) :
      SpellsWhole n (.str s)

/-- A length by itself, or the mapping that holds it; null is no length. -/
inductive SpellsLength : Option Int → Value → Prop
  | absent : SpellsLength none .null
  | bare {n : Int} {v : Value} (h : SpellsWhole n v) : SpellsLength (some n) v
  | entry {n : Int} {v : Value} (h : SpellsWhole n (v.field "value")) : SpellsLength (some n) v

theorem wholeOf_of_spells {n : Int} (h : SpellsWhole n v) : wholeOf v = some n := by
  cases h with
  | number => rfl
  | text h hn => exact Decimal.whole?_of_writes h hn

theorem lengthOf_of_spells {n : Option Int} (h : SpellsLength n (v.field "length")) :
    lengthOf v = n := by
  unfold lengthOf
  generalize v.field "length" = w at h
  cases h with
  | absent => rfl
  | bare h =>
    have hread := wholeOf_of_spells h
    cases h <;> exact hread
  | entry h =>
    have hread := wholeOf_of_spells h
    cases w with
    | map => exact hread
    | record => exact hread
    | _ => cases hread

/-! ## Entries -/

/-- The type of a nullability is the word for null, in any letter case. -/
def SaysNull (type : Option String) : Prop :=
  ∃ s ∈ type, s.toList.map Char.toLower = "null".toList

/-- The parts of a column. -/
structure SpellsColumn (c : ColumnDefinition) (node : Value) : Prop where
  resource : node.field "resource" = .str "column"
  name : Names "column" c.name (node.field "column")
  dataType : (node.field "definition").field "dataType" = .ofOption c.dataType
  dataType_ne : c.dataType ≠ some ""
  length : SpellsLength c.length ((node.field "definition").field "length")
  nullable : ∃ type, (node.field "nullable").field "type" = .ofOption type ∧
    (c.isOptional = true ↔ SaysNull type)

/-- The parts of an index. -/
structure SpellsIndex (i : IndexDefinition) (node : Value) : Prop where
  resource : node.field "resource" = .str "index"
  constraint : node.field "constraint_type" = .null
  name : node.field "index" = .ofOption i.name
  columns : SpellsColumns i.columns (node.field "definition")
  columns_ne : ∀ name ∈ i.columns, name ≠ ""

/-- A foreign key with all columns on either side. -/
structure ForeignKeyParts where
  name : Option String := none
  columns : List String
  table : String
  remoteColumns : List String
  onDelete : ReferentialAction
  onUpdate : ReferentialAction

/-- The first name that is not empty. -/
def firstName (names : List String) : String := (names.find? (· ≠ "")).getD ""

/-- The foreign key from the first column with a name to the first such column of the table. -/
def ForeignKeyParts.definition (k : ForeignKeyParts) : ForeignKeyDefinition where
  name := k.name
  column := firstName k.columns
  referencedTable := k.table
  referencedColumn := firstName k.remoteColumns
  onDelete := k.onDelete
  onUpdate := k.onUpdate

/-- The parts of a foreign key. -/
structure SpellsForeignKey (k : ForeignKeyParts) (node : Value) : Prop where
  resource : node.field "resource" = .str "constraint"
  constraint : ∃ s, node.field "constraint_type" = .str s ∧
    s.toList.map Char.toUpper = "FOREIGN KEY".toList
  name : node.field "constraint" = .ofOption k.name
  columns : SpellsColumns k.columns (node.field "definition")
  table : SpellsTable k.table ((node.field "reference_definition").field "table")
  remoteColumns : SpellsColumns k.remoteColumns
    ((node.field "reference_definition").field "definition")
  onDelete : k.onDelete.Spells ((node.field "reference_definition").field "on_delete")
  onUpdate : k.onUpdate.Spells ((node.field "reference_definition").field "on_update")

/-- A tree that spells a definition. -/
inductive Spells : Definition → Value → Prop
  | column {c : ColumnDefinition} {node : Value} (h : SpellsColumn c node) : Spells (.column c) node
  | index {i : IndexDefinition} {node : Value} (h : SpellsIndex i node) : Spells (.index i) node
  | foreignKey {k : ForeignKeyParts} {node : Value} (h : SpellsForeignKey k node) :
      Spells (.foreignKey k.definition) node

theorem saysNull_iff {type : Option String} :
    ((Value.ofOption type).orNull.truthy &&
      Text.lower (Value.ofOption type).orNull.text == "null") = true ↔ SaysNull type := by
  cases type with
  | none => simp [SaysNull, Value.ofOption, Value.orNull, Value.truthy]
  | some s =>
    have hword : SaysNull (some s) ↔ Text.lower s = "null" := by
      rw [Text.lower_eq_iff (by decide)]
      simp [SaysNull]
    rw [hword]
    by_cases hs : s = ""
    · subst hs
      decide
    · simp [Value.ofOption, Value.orNull, Value.truthy, Value.text, hs]

theorem headD_filter_ne (names : List String) :
    (names.filter (· ≠ "")).headD "" = firstName names := by
  rw [firstName, ← List.head?_filter, List.headD_eq_head?_getD]

theorem definition_of_spellsColumn {c : ColumnDefinition} (h : SpellsColumn c node) :
    definition node = pure (.column c) := by
  obtain ⟨type, htype, hoptional⟩ := h.nullable
  have hkind : isText (node.field "resource") "column" = true := by rw [h.resource]; rfl
  refine definition_column hkind ?_
  rw [column_eq (columnName_of_names h.name) h.dataType h.dataType_ne, lengthOf_of_spells h.length,
    htype, ← Bool.eq_iff_iff.mpr (hoptional.trans saysNull_iff.symm)]

theorem definition_of_spellsIndex {i : IndexDefinition} (h : SpellsIndex i node) :
    definition node = pure (.index i) := by
  have hkind : isText (node.field "resource") "index" = true := by rw [h.resource]; rfl
  have hkey : (node.field "constraint_type").truthy = false := by rw [h.constraint]; rfl
  refine definition_index hkind hkey ?_
  have hcolumns : columnNames (node.field "definition") = i.columns := by
    rw [columnNames_of_spells h.columns]
    exact List.filter_eq_self.mpr fun name hname => by simpa using h.columns_ne name hname
  rw [index, h.name, optionalText_ofOption, hcolumns]
  rfl

theorem definition_of_spellsForeignKey {k : ForeignKeyParts} (h : SpellsForeignKey k node) :
    definition node = pure (.foreignKey k.definition) := by
  obtain ⟨kind, hkind, hword⟩ := h.constraint
  have hcolumn : isText (node.field "resource") "column" = false := by rw [h.resource]; rfl
  have hupper : Text.upper kind = "FOREIGN KEY" := Text.upper_of_letters (by decide) hword
  have hpresent : kind ≠ "" := by
    rintro rfl
    cases hword
  refine definition_foreignKey hcolumn ⟨?_, ?_⟩ ?_
  · simp [hkind, Value.truthy, hpresent]
  · rw [hkind]
    exact hupper
  · refine foreignKey_eq h.name ?_ (firstTable_of_spells h.table) ?_
      (ReferentialAction.ofValue_of_spells h.onDelete)
      (ReferentialAction.ofValue_of_spells h.onUpdate)
    · rw [columnNames_of_spells h.columns, headD_filter_ne]
    · rw [columnNames_of_spells h.remoteColumns, headD_filter_ne]

/-- A tree is read as the definition that its parts spell, without a notice. -/
theorem definition_of_spells {d : Definition} (h : Spells d node) : definition node = pure d := by
  cases h with
  | column h => exact definition_of_spellsColumn h
  | index h => exact definition_of_spellsIndex h
  | foreignKey h => exact definition_of_spellsForeignKey h

theorem definition_of_spells_mixed :
    definition (.map
      [("resource", .str "column"), ("column", .map [("column", .str "name")]),
       ("definition", .map [("dataType", .str "VARCHAR"),
         ("length", .map [("value", .str " +40\t")])]),
       ("nullable", .map [("type", .str "Null")])]) =
      pure (.column { name := "name", dataType := some "VARCHAR", length := some 40
                      isOptional := true }) ∧
    definition (.record
      [("resource", .str "index"), ("index", .str "ix"),
       ("definition", .list [.str "a", .map [("column", .str "b")]])]) =
      pure (.index { name := some "ix", columns := ["a", "b"] }) ∧
    definition (.map
      [("resource", .str "constraint"), ("constraint_type", .str "Foreign Key"),
       ("definition", .str "owner_id"),
       ("reference_definition", .record
         [("table", .list [.str "owners"]), ("definition", .list [.map [("column", .str "uid")]]),
          ("on_delete", .str "set_Null"), ("on_update", .str "NO ACTION")])]) =
      pure (.foreignKey { column := "owner_id", referencedTable := "owners"
                          referencedColumn := "uid", onDelete := .setNull }) := by
  refine ⟨definition_of_spells (.column ?_), definition_of_spells (.index ?_),
    definition_of_spells (.foreignKey
      (k := ⟨none, ["owner_id"], "owners", ["uid"], .setNull, .noAction⟩) ?_)⟩
  · have hlength : Decimal.Writes 40 " +40\t" :=
      ⟨[' '], _, ['\t'], by decide +kernel, .plus 40, List.forall_mem_singleton.mpr (by decide),
        List.forall_mem_singleton.mpr (by decide)⟩
    exact
      { resource := rfl, name := .entry rfl, dataType := rfl, dataType_ne := by decide
        length := .entry (.text hlength (by decide +kernel))
        nullable := ⟨some "Null", rfl, fun _ => ⟨"Null", rfl, rfl⟩, fun _ => rfl⟩ }
  · exact
      { resource := rfl, constraint := rfl, name := rfl
        columns := .listed (.cons .text (.cons (.entry rfl) .nil)), columns_ne := by decide }
  · exact
      { resource := rfl, constraint := ⟨_, rfl, by decide⟩, name := rfl, columns := .single .text
        table := .first .text, remoteColumns := .listed (.cons (.entry rfl) .nil)
        onDelete := ⟨_, rfl, .inl (by decide)⟩, onUpdate := ⟨_, rfl, .inl (by decide)⟩ }

/-- The first column of a list does not count if its name is empty. -/
theorem definition_first_nameless : ¬ ∀ (k : ForeignKeyParts) (node : Value), k.columns ≠ [] →
    k.remoteColumns ≠ [] → SpellsForeignKey k node →
      definition node = pure (.foreignKey
        { name := k.name, column := k.columns.headD "", referencedTable := k.table
          referencedColumn := k.remoteColumns.headD "", onDelete := k.onDelete
          onUpdate := k.onUpdate }) := by
  intro hall
  have hspells : SpellsForeignKey ⟨none, ["", "b"], "t", ["id"], .cascade, .noAction⟩ (.map
      [("resource", .str "constraint"), ("constraint_type", .str "FOREIGN KEY"),
       ("definition", .list [.str "", .str "b"]),
       ("reference_definition", .map
         [("table", .str "t"), ("definition", .list [.str "id"]), ("on_delete", .str "CASCADE"),
          ("on_update", .str "NO ACTION")])]) :=
    { resource := rfl, constraint := ⟨_, rfl, by decide⟩, name := rfl
      columns := .listed (.cons .text (.cons .text .nil)), table := .single .text
      remoteColumns := .listed (.cons .text .nil), onDelete := ⟨_, rfl, .inl (by decide)⟩
      onUpdate := ⟨_, rfl, .inl (by decide)⟩ }
  have hfirst := hall _ _ (by decide) (by decide) hspells
  rw [definition_of_spellsForeignKey hspells] at hfirst
  have hsame := Except.ok.inj (congrArg Attempt.outcome hfirst)
  exact absurd hsame (by decide)

end Tree

end TableScaffold
