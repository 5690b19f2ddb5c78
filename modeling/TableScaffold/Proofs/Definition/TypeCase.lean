import TableScaffold.Extraction
import TableScaffold.Proofs.Attempt
import TableScaffold.Proofs.Text.Letters

/-!
# The letter case of data types

A tree whose data types are written in small ASCII letters is read as the same statement, but for the
letters of its data types (`outcome_extract_smallTypes`). A change of one entry of a mapping is seen
under its own key only (`field_mapEntry_ne`).
-/

namespace TableScaffold

/-! ## Entries of values -/

namespace Value

variable {key k : String} {f : Value → Value}

/-- Changes what lies under a key. -/
def mapEntry (key : String) (f : Value → Value) : Value → Value
  | map es => map (es.map fun e => (e.1, if e.1 = key then f e.2 else e.2))
  | record es => record (es.map fun e => (e.1, if e.1 = key then f e.2 else e.2))
  | v => v

/-- Changes the items of a list. -/
def mapItems (f : Value → Value) : Value → Value
  | list vs => list (vs.map f)
  | v => v

/-- A text with its ASCII letters in lower case; other values stay. -/
def small : Value → Value
  | str s => str (Text.small s)
  | v => v

theorem lookup_mapEntry (es : List (String × Value)) (k : String) :
    (es.map fun e => (e.1, if e.1 = key then f e.2 else e.2)).lookup k =
      (es.lookup k).map fun v => if k = key then f v else v := by
  induction es with
  | nil => rfl
  | cons e es ih =>
    rw [List.map_cons, List.lookup_cons, List.lookup_cons, ih]
    by_cases hk : k = e.1
    · simp [hk]
    · have hne : (k == e.1) = false := by simpa using hk
      rw [hne]

theorem field_mapEntry (hf : f null = null) (v : Value) :
    (v.mapEntry key f).field k = if k = key then f (v.field k) else v.field k := by
  have hentries : ∀ es : List (String × Value),
      ((es.map fun e => (e.1, if e.1 = key then f e.2 else e.2)).lookup k).getD null =
        if k = key then f ((es.lookup k).getD null) else (es.lookup k).getD null := by
    intro es
    rw [lookup_mapEntry]
    cases es.lookup k <;> split <;> simp [hf]
  cases v with
  | map es => exact hentries es
  | record es => exact hentries es
  | _ =>
    show null = if k = key then f null else null
    rw [hf, ite_self]

theorem field_mapEntry_self (hf : f null = null) (v : Value) :
    (v.mapEntry key f).field key = f (v.field key) := by
  rw [field_mapEntry hf, if_pos rfl]

theorem field_mapEntry_ne (hf : f null = null) (hk : k ≠ key) (v : Value) :
    (v.mapEntry key f).field k = v.field k := by
  rw [field_mapEntry hf, if_neg hk]

theorem truthy_mapEntry (v : Value) : (v.mapEntry key f).truthy = v.truthy := by
  cases v <;> simp [mapEntry, truthy]

theorem truthy_mapItems (v : Value) : (v.mapItems f).truthy = v.truthy := by
  cases v <;> simp [mapItems, truthy]

theorem truthy_small (v : Value) : v.small.truthy = v.truthy := by
  cases v with
  | str s => exact congrArg (!·) (Text.isEmpty_small s)
  | _ => rfl

theorem orNull_small (v : Value) : v.small.orNull = v.orNull.small := by
  unfold orNull
  rw [truthy_small]
  split <;> rfl

end Value

/-! ## Definitions -/

/-- A definition with its data type in small ASCII letters. -/
def ColumnDefinition.small (c : ColumnDefinition) : ColumnDefinition :=
  { c with dataType := c.dataType.map Text.small }

/-- A column definition with its data type in small ASCII letters; other definitions stay. -/
def Definition.small : Definition → Definition
  | column c => column c.small
  | d => d

namespace Tree

open Value

/-- The tree of an entry with its data type in small ASCII letters. -/
def smallEntry (node : Value) : Value := node.mapEntry "definition" (·.mapEntry "dataType" small)

variable (node : Value) {k : String}

theorem field_smallEntry (hk : k ≠ "definition") : (smallEntry node).field k = node.field k :=
  field_mapEntry_ne rfl hk node

theorem field_smallEntry_definition :
    (smallEntry node).field "definition" = (node.field "definition").mapEntry "dataType" small :=
  field_mapEntry_self rfl node

theorem columnName_mapEntry {key : String} {f : Value → Value} (hf : f null = null)
    (hkey : "column" ≠ key) (v : Value) : columnName (v.mapEntry key f) = columnName v := by
  cases v with
  | map es => exact field_mapEntry_ne hf hkey (map es)
  | record es => exact field_mapEntry_ne hf hkey (record es)
  | _ => rfl

theorem columnNames_mapEntry {key : String} {f : Value → Value} (hf : f null = null)
    (hkey : "column" ≠ key) (v : Value) : columnNames (v.mapEntry key f) = columnNames v := by
  have hname := columnName_mapEntry hf hkey v
  unfold columnNames
  rw [truthy_mapEntry]
  cases v with
  | map | record =>
    dsimp only [mapEntry] at hname ⊢
    split
    · rfl
    · rw [List.map_singleton, List.map_singleton, hname]
  | _ => rfl

theorem lengthOf_mapEntry {key : String} {f : Value → Value} (hf : f null = null)
    (hkey : "length" ≠ key) (v : Value) : lengthOf (v.mapEntry key f) = lengthOf v := by
  unfold lengthOf
  rw [field_mapEntry_ne hf hkey]

theorem optionalText_small (v : Value) :
    Check.optionalText v.small = (Check.optionalText v).map (Option.map Text.small) := by
  cases v <;> rfl

theorem column_smallEntry : column (smallEntry node) = (column node).map ColumnDefinition.small := by
  unfold column
  simp only [field_smallEntry_definition, field_smallEntry node (k := "column") (by decide),
    field_smallEntry node (k := "nullable") (by decide), field_mapEntry_self (f := small) rfl,
    lengthOf_mapEntry (f := small) rfl (by decide : "length" ≠ "dataType"), orNull_small,
    optionalText_small]
  cases Check.optionalText ((node.field "definition").field "dataType").orNull <;> rfl

theorem foreignKey_smallEntry : foreignKey (smallEntry node) = foreignKey node := by
  unfold foreignKey
  simp only [field_smallEntry_definition,
    field_smallEntry node (k := "reference_definition") (by decide),
    field_smallEntry node (k := "constraint") (by decide),
    columnNames_mapEntry (f := small) rfl (by decide : "column" ≠ "dataType")]

theorem index_smallEntry : index (smallEntry node) = index node := by
  unfold index
  simp only [field_smallEntry_definition, field_smallEntry node (k := "index") (by decide),
    columnNames_mapEntry (f := small) rfl (by decide : "column" ≠ "dataType")]

theorem outcome_definition_smallEntry :
    (definition (smallEntry node)).outcome = (definition node).outcome.map Definition.small := by
  unfold definition
  simp only [column_smallEntry, foreignKey_smallEntry, index_smallEntry,
    field_smallEntry node (k := "resource") (by decide),
    field_smallEntry node (k := "constraint_type") (by decide)]
  split
  · cases column node <;> rfl
  split
  · rw [Attempt.outcome_bind, Attempt.outcome_ofLogged]
    cases (foreignKey node).value <;> rfl
  split
  · cases index node <;> rfl
  · rfl

theorem outcome_definitions_smallEntry (nodes : List Value) :
    (definitions (nodes.map smallEntry)).outcome =
      (definitions nodes).outcome.map (List.map Definition.small) := by
  induction nodes with
  | nil => rfl
  | cons node nodes ih =>
    simp only [List.map_cons, definitions, Attempt.outcome_bind, Attempt.outcome_pure,
      outcome_definition_smallEntry, ih]
    cases (definition node).outcome <;> cases (definitions nodes).outcome <;> rfl

/-! ## Statements -/

/-- The tree of a statement with its data types in small ASCII letters. -/
def smallTypes (node : Value) : Value :=
  node.mapEntry "create_definitions" (·.mapItems smallEntry)

theorem field_smallTypes (hk : k ≠ "create_definitions") :
    (smallTypes node).field k = node.field k :=
  field_mapEntry_ne rfl hk node

theorem entries_smallTypes : entries ((smallTypes node).field "create_definitions") =
    (entries (node.field "create_definitions")).map (List.map smallEntry) := by
  rw [smallTypes, field_mapEntry_self rfl]
  generalize node.field "create_definitions" = v
  unfold entries
  rw [truthy_mapItems]
  split
  · rfl
  · cases v with
    | list vs => rfl
    | map es => simp [mapItems, smallEntry, mapEntry, Except.map, Function.comp_def]
    | str s => simp [mapItems, smallEntry, mapEntry, Except.map, Function.comp_def]
    | _ => rfl

end Tree

/-- A statement with its data types in small ASCII letters. -/
def CreateStatement.small (c : CreateStatement) : CreateStatement :=
  { c with definitions := c.definitions.map Definition.small }

namespace Tree

variable (node : Value)

theorem outcome_statement_smallTypes :
    (statement (smallTypes node)).outcome = (statement node).outcome.map CreateStatement.small := by
  unfold statement
  simp only [Attempt.outcome_bind, Attempt.outcome_ofExcept, entries_smallTypes,
    field_smallTypes node (k := "type") (by decide), field_smallTypes node (k := "keyword") (by decide),
    field_smallTypes node (k := "table") (by decide)]
  generalize Checked.under "statement_type" _ = type
  generalize Checked.under "keyword" _ = keyword
  generalize Checked.under "table_name" _ = table
  rcases isCreate (node.field "type") with f | _ | _
  · rfl
  · cases type <;> rfl
  show Attempt.outcome (if true = true then _ else _) =
    Except.map _ (Attempt.outcome (if true = true then _ else _))
  rw [if_pos rfl, if_pos rfl]
  simp only [Attempt.outcome_bind, Attempt.outcome_ofExcept]
  rcases entries (node.field "create_definitions") with f | nodes
  · rfl
  simp only [Except.map, bind, Except.bind, outcome_definitions_smallEntry]
  rcases (definitions nodes).outcome with f | ds
  · rfl
  cases type <;> cases keyword <;> cases table <;> rfl

end Tree

end TableScaffold
