import TableScaffold.Proofs.Artifact.Content

/-!
# The transfer class and the request class of a schema

Both classes declare one property for each column that users see, by the same line. The request class
has the checks of each property in front of its line, and its only empty lines stand between two
properties.
-/

namespace TableScaffold

open Template

/-- The lines that stand in front of a property in a request class. -/
def Column.checkLines (c : Column) : List String :=
  (if c.isOptional then "  @IsOptional()" else "  @IsNotEmpty()") :: c.semanticType.checkLines

theorem Column.requestLines_eq (c : Column) : c.requestLines = c.checkLines ++ [c.propertyLine] :=
  rfl

theorem SemanticType.checkLines_visible {t : SemanticType} {line : String}
    (h : line ∈ t.checkLines) : '(' ∈ line.toList := by
  cases t with
  | string | number | boolean =>
    rw [checkLines, List.mem_singleton] at h
    subst h
    decide
  | date =>
    rw [checkLines, List.mem_cons, List.mem_singleton] at h
    rcases h with rfl | rfl <;> decide
  | unknown => exact absurd h List.not_mem_nil

/-- No line of a property is blank, whatever the column is called. -/
theorem Column.requestLines_visible (c : Column) :
    ∀ line ∈ c.requestLines, ∃ d ∈ line.toList, Text.isBlank d = false := by
  intro line hline
  rw [requestLines_eq, checkLines, List.cons_append, List.mem_cons, List.mem_append,
    List.mem_singleton] at hline
  rcases hline with rfl | hcheck | rfl
  · refine ⟨'@', ?_, by decide⟩
    split <;> decide
  · exact ⟨'(', SemanticType.checkLines_visible hcheck, by decide⟩
  · refine ⟨';', ?_, by decide⟩
    unfold propertyLine
    simp

theorem TableSchema.userColumns_eq (s : TableSchema) :
    s.userColumns = s.columns.filter fun c => c.name ∉
      ["createdOn", "updatedOn", "deletedOn", "createdBy", "updatedBy", "deletedBy"] := by
  unfold userColumns
  refine List.filter_congr fun c _ => ?_
  rw [decide_not, ← List.contains_eq_mem]
  rfl

/-- The request class with the property lines of the transfer class. -/
theorem TableSchema.requestLines_eq (s : TableSchema) :
    s.userColumns.map Column.requestLines =
      List.zipWith (fun c line => c.checkLines ++ [line]) s.userColumns
        (s.userColumns.map Column.propertyLine) := by
  rw [List.zipWith_map_right, List.zipWith_self]
  rfl

/-- The transfer class and the request class consist of exactly these lines. Their properties are the
same, in the order of the columns, whatever the schema holds. -/
theorem generate_classes (s : TableSchema) (directory : String) :
    ∃ artifacts properties,
      s.Generates directory Library.bundled artifacts ∧
      s.Generates directory Library.written artifacts ∧
      (s.userColumns = s.columns.filter fun c => c.name ∉
        ["createdOn", "updatedOn", "deletedOn", "createdBy", "updatedBy", "deletedBy"]) ∧
      properties = s.userColumns.map Column.propertyLine ∧
      (artifacts.filter (·.name == "dto")).map (·.content) =
        [textOf (["export class " ++ Naming.singularClass s.tableName ++ "Dto" ++ " \x7b"] ++
          properties ++ ["\x7d"])] ∧
      (artifacts.filter (·.name == "request")).map (·.content) =
        [textOf (["import \x7b Type \x7d from 'class-transformer';",
            "import \x7b IsBoolean, IsDate, IsNotEmpty, IsNumber, IsOptional, IsString \x7d" ++
              " from 'class-validator';",
            "",
            "export class " ++ Naming.singularClass s.tableName ++ "Request" ++ " \x7b"] ++
          [""].intercalate (List.zipWith (fun c line => c.checkLines ++ [line])
            s.userColumns properties) ++
          ["\x7d"])] ∧
      ∀ c ∈ s.userColumns, ∀ line ∈ c.requestLines,
        ∃ d ∈ line.toList, Text.isBlank d = false := by
  refine ⟨View.layout.map (View.made s), _, generates_bundled s directory,
    generates_written s directory, s.userColumns_eq, rfl, contents_made s .dto, ?_,
    fun c _ => c.requestLines_visible⟩
  rw [← s.requestLines_eq]
  exact contents_made s .request

end TableScaffold
