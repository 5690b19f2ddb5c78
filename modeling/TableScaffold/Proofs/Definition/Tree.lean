import TableScaffold.Definition.Tree

/-!
# Reading definitions

An entry whose kind is told by its tree is read by the reader for that kind, without a notice.
-/

namespace TableScaffold

namespace Attempt

variable {ε α : Type}

@[simp] theorem ofExcept_ok (a : α) : (ofExcept (.ok a) : Attempt ε α) = pure a := rfl

@[simp] theorem ofLogged_pure (a : α) : (ofLogged (pure a) : Attempt ε α) = pure a := rfl

end Attempt

namespace Tree

variable {node : Value}

/-- A name counts as present or is empty. -/
theorem text_orNull (s : String) :
    (if (Value.str s).orNull.truthy then (Value.str s).orNull.text else "") = s := by
  by_cases hs : s = "" <;> simp [Value.orNull, Value.truthy, Value.text, hs]

/-- A present text or nothing passes the check of an optional text. -/
theorem optionalText_ofOption (o : Option String) :
    Check.optionalText (.ofOption o) = .ok o := by
  cases o <;> rfl

/-- A column with a name, and a type that is not empty or none. -/
theorem column_eq {name : String} {dataType : Option String}
    (hname : columnName (node.field "column") = .str name)
    (htype : (node.field "definition").field "dataType" = .ofOption dataType)
    (hne : dataType ≠ some "") :
    column node = .ok
      { name
        dataType
        length := lengthOf (node.field "definition")
        isOptional := ((node.field "nullable").field "type").orNull.truthy &&
          Text.lower ((node.field "nullable").field "type").orNull.text == "null" } := by
  have hpresent : (Value.ofOption dataType).orNull = .ofOption dataType := by
    cases dataType with
    | none => rfl
    | some s =>
      have hs : s ≠ "" := fun hs => hne (congrArg some hs)
      simp [Value.ofOption, Value.orNull, Value.truthy, hs]
  unfold column
  simp only [hname, htype, hpresent, optionalText_ofOption, text_orNull]
  rfl

theorem definition_column {c : ColumnDefinition}
    (hkind : isText (node.field "resource") "column" = true)
    (h : column node = .ok c) : definition node = pure (.column c) := by
  unfold definition
  simp only [hkind, if_true, h]
  rfl

theorem foreignKey_eq {name : Option String} {column table remote : String}
    {onDelete onUpdate : ReferentialAction} (hname : node.field "constraint" = .ofOption name)
    (hcolumn : (columnNames (node.field "definition")).headD "" = column)
    (htable : firstTable ((node.field "reference_definition").field "table") = .str table)
    (hremote :
      (columnNames ((node.field "reference_definition").field "definition")).headD "" = remote)
    (hdelete : ReferentialAction.ofValue ((node.field "reference_definition").field "on_delete") =
      pure onDelete)
    (hupdate : ReferentialAction.ofValue ((node.field "reference_definition").field "on_update") =
      pure onUpdate) :
    foreignKey node = pure (.ok
      { name, column, referencedTable := table, referencedColumn := remote, onDelete
        onUpdate }) := by
  have hreferenced : Checked.under "referenced_table" (if (Value.str table).orNull.truthy then
      Check.text (Value.str table).orNull else .ok "") = .ok table := by
    by_cases hs : table = "" <;> simp [Value.orNull, Value.truthy, Check.text, hs]
  unfold foreignKey
  simp only [hname, optionalText_ofOption, hcolumn, htable, hremote, hdelete, hupdate, hreferenced,
    pure_bind]
  rfl

theorem definition_foreignKey {k : ForeignKeyDefinition}
    (hcolumn : isText (node.field "resource") "column" = false)
    (hkind : (node.field "constraint_type").truthy = true ∧
      Text.upper (node.field "constraint_type").text = "FOREIGN KEY")
    (h : foreignKey node = pure (.ok k)) : definition node = pure (.foreignKey k) := by
  unfold definition
  simp only [hcolumn, hkind.1, hkind.2, h]
  rfl

theorem definition_index {i : IndexDefinition}
    (hkind : isText (node.field "resource") "index" = true)
    (hkey : (node.field "constraint_type").truthy = false) (h : index node = .ok i) :
    definition node = pure (.index i) := by
  have hcolumn : isText (node.field "resource") "column" = false := by
    unfold isText at hkind ⊢
    split at hkind
    · next s _ =>
      obtain rfl : s = "index" := by simpa using hkind
      decide
    · exact absurd hkind (by simp)
  unfold definition
  simp only [hcolumn, hkey, hkind, h]
  rfl

end Tree

end TableScaffold
