import TableScaffold.Proofs.Artifact.Model

/-!
# The lines of the transfer class and the request class

Both classes have a property for each column that users see, in the order of the columns. In the
request class the checks of a property stand in front of it, and an empty line stands between two
properties.
-/

namespace TableScaffold

open Template

/-- The line that declares the property of a column. -/
def Column.propertyLine (c : Column) : String :=
  "  " ++ c.name ++ c.optionalMark ++ ": " ++ c.semanticType.word ++ ";"

/-- The lines that check the type of a property. -/
def SemanticType.checkLines : SemanticType → List String
  | string => ["  @IsString()"]
  | number => ["  @IsNumber()"]
  | boolean => ["  @IsBoolean()"]
  | date => ["  @Type(() => Date)", "  @IsDate()"]
  | unknown => []

/-- The lines of a column in a request class. -/
def Column.requestLines (c : Column) : List String :=
  [if c.isOptional then "  @IsOptional()" else "  @IsNotEmpty()"] ++ c.semanticType.checkLines ++
    [c.propertyLine]

/-- The lines of the transfer class of a schema. -/
def TableSchema.dtoLines (s : TableSchema) : List String :=
  ["export class " ++ Naming.singularClass s.tableName ++ "Dto" ++ " \x7b"] ++
    s.userColumns.map Column.propertyLine ++ ["\x7d"]

/-- The lines of the request class of a schema. -/
def TableSchema.requestLines (s : TableSchema) : List String :=
  ["import \x7b Type \x7d from 'class-transformer';",
   "import \x7b IsBoolean, IsDate, IsNotEmpty, IsNumber, IsOptional, IsString \x7d" ++
     " from 'class-validator';",
   "",
   "export class " ++ Naming.singularClass s.tableName ++ "Request" ++ " \x7b"] ++
    [""].intercalate (s.userColumns.map Column.requestLines) ++ ["\x7d"]

namespace Template

variable {embedding : Embedding} {scope : Scope} {rest : Body} {t : String}

theorem Renders.propertyLine {c : Column} (hc : scope.find "column" = .value c.userField)
    (h : Renders embedding scope rest t) :
    Renders embedding scope (Bundled.propertyLine rest) (c.propertyLine ++ "\n" ++ t) := by
  refine Renders.of_eq (Renders.text <| Renders.slot (Gives.field hc rfl) <|
    Renders.mark (Gives.field hc rfl) (Gives.text "?") <| Renders.text <|
    Renders.slot (Gives.field hc rfl) <| Renders.text h) ?_
  unfold Column.propertyLine
  simp only [String.append_assoc]
  rw [append_lineEnd (u := ";\n") rfl]
  rfl

theorem Gives.hasType {c : Column} (hc : scope.find "column" = .value c.userField)
    (type : SemanticType) :
    Gives scope (Bundled.hasType type.word) (.bool (c.semanticType = type)) := by
  have words : (c.semanticType.word == type.word) = decide (c.semanticType = type) := by
    cases c.semanticType <;> cases type <;> decide
  have typed : Gives scope (.entry (.name "column") "type") (.str c.semanticType.word) :=
    Gives.field hc rfl
  rw [← words]
  exact Gives.equal typed (Gives.text type.word)

theorem Renders.typeCheck {c : Column} (hc : scope.find "column" = .value c.userField)
    (h : Renders embedding scope rest t) :
    Renders embedding scope (Bundled.typeCheck rest) (textOf c.semanticType.checkLines ++ t) := by
  refine Renders.of_eq (Renders.branch (Gives.hasType hc .string) (Renders.text Renders.done)
    (Renders.branch (Gives.hasType hc .number) (Renders.text Renders.done)
      (Renders.branch (Gives.hasType hc .boolean) (Renders.text Renders.done)
        (Renders.branch (Gives.hasType hc .date) (Renders.text <| Renders.text Renders.done)
          Renders.done Renders.done) Renders.done) Renders.done) h) ?_
  cases c.semanticType <;>
    simp [SemanticType.checkLines, Value.truthy, textOf_cons, textOf_nil]

theorem Renders.requestLines {c : Column} {i n : Nat}
    (hc : scope.find "column" = .value c.userField)
    (hl : scope.find "loop" = .value (loopState i n)) :
    Renders embedding scope
      (.branch (.entry (.name "column") "is_optional")
        (.text "  @IsOptional()\n" .done) (.text "  @IsNotEmpty()\n" .done) <|
      Bundled.typeCheck <|
      Bundled.propertyLine <|
      .branch (.not (.entry (.name "loop") "last")) (.text "\n" .done) .done .done)
      (textOf c.requestLines ++ if i + 1 = n then "" else "\n") := by
  have last : Gives scope (.entry (.name "loop") "last") (.bool (i + 1 == n)) :=
    Gives.field hl rfl
  refine Renders.of_eq (Renders.branch (Gives.field hc rfl) (Renders.text Renders.done)
    (Renders.text Renders.done) <| Renders.typeCheck hc <| Renders.propertyLine hc <|
    Renders.branch (Gives.not last) (Renders.text Renders.done) Renders.done Renders.done) ?_
  have head (u : String) : (if (Value.bool c.isOptional).truthy
      then "  @IsOptional()\n" else "  @IsNotEmpty()\n") ++ u =
      (if c.isOptional then "  @IsOptional()" else "  @IsNotEmpty()") ++ ("\n" ++ u) := by
    cases c.isOptional with
    | false => exact (append_lineEnd (s := "  @IsNotEmpty()") (u := "  @IsNotEmpty()\n") rfl u).symm
    | true => exact (append_lineEnd (s := "  @IsOptional()") (u := "  @IsOptional()\n") rfl u).symm
  have foot : (if (Value.bool !(Value.bool (i + 1 == n)).truthy).truthy then "\n" else "") =
      if i + 1 = n then "" else "\n" := by
    by_cases h : i + 1 = n <;> simp [Value.truthy, h]
  unfold Column.requestLines
  simp only [textOf_append, textOf_cons, textOf_nil, String.append_assoc, String.append_empty]
  rw [head, foot]

end Template

/-- The template of the transfer class renders to the lines of the class. -/
theorem View.renders_dto (s : TableSchema) (embedding : Embedding) :
    Renders embedding (dto.scope s) dto.bundled (textOf s.dtoLines) := by
  have columns : Gives (dto.scope s) (.name "columns")
      (.list (s.userColumns.map Column.userField)) := Gives.name rfl
  refine Renders.of_eq (Renders.text <| Renders.slot (Gives.name rfl) <| Renders.text <|
    Renders.eachLine columns (fun c _ h => Renders.of_eq (Renders.propertyLine h Renders.done)
      String.append_empty) <|
    Renders.text Renders.done) ?_
  unfold TableSchema.dtoLines
  simp only [textOf_append, textOf_cons, textOf_nil, String.append_assoc, String.empty_append]
  rw [append_lineEnd (u := " \x7b\n") rfl, append_lineEnd (u := "\x7d\n") rfl]
  rfl

/-- The template of the request class renders to the lines of the class. -/
theorem View.renders_request (s : TableSchema) (embedding : Embedding) :
    Renders embedding (request.scope s) request.bundled (textOf s.requestLines) := by
  have columns : Gives (request.scope s) (.name "columns")
      (.list (s.userColumns.map Column.userField)) := Gives.name rfl
  refine Renders.of_eq (Renders.text <| Renders.text <| Renders.text <| Renders.text <|
    Renders.text <| Renders.slot (Gives.name rfl) <| Renders.text <|
    Renders.eachLines (by decide) columns (fun _ _ _ h hl => Renders.requestLines h hl) <|
    Renders.text Renders.done) ?_
  unfold TableSchema.requestLines
  simp only [textOf_append, textOf_cons, textOf_nil, String.append_assoc, String.empty_append]
  rw [append_lineEnd (s := "import \x7b Type \x7d from 'class-transformer';") rfl,
    append_lineEnd (s := " from 'class-validator';") rfl, append_lineEnd (s := " \x7b") rfl,
    append_lineEnd (s := "\x7d") rfl]
  rfl

end TableScaffold
