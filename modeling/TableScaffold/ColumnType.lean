import TableScaffold.Logged
import TableScaffold.Text.Case

/-!
# Column types

A SQL type word stands for a type in the generated sources and for a type in the database schema.
Words are compared in lower case. An unknown word gives `any` and `String`, with a warning.
-/

namespace TableScaffold

/-- A type in transfer objects and requests. -/
inductive SemanticType where
  | string
  | number
  | boolean
  | date
  | unknown
  deriving DecidableEq, Repr

/-- A type in the database schema. -/
inductive PersistenceType where
  | string
  | int
  | decimal
  | float
  | dateTime
  | boolean
  deriving DecidableEq, Repr

/-- The word of a semantic type. -/
def SemanticType.word : SemanticType → String
  | string => "string"
  | number => "number"
  | boolean => "boolean"
  | date => "Date"
  | unknown => "any"

/-- The word of a persistence type. -/
def PersistenceType.word : PersistenceType → String
  | string => "String"
  | int => "Int"
  | decimal => "Decimal"
  | float => "Float"
  | dateTime => "DateTime"
  | boolean => "Boolean"

/-- The semantic type of a word. -/
def SemanticType.ofWord? (w : String) : Option SemanticType :=
  [string, number, boolean, date, unknown].find? (·.word == w)

/-- The persistence type of a word. -/
def PersistenceType.ofWord? (w : String) : Option PersistenceType :=
  [string, int, decimal, float, dateTime, boolean].find? (·.word == w)

@[simp] theorem SemanticType.ofWord?_word (t : SemanticType) : ofWord? t.word = some t := by
  cases t <;> decide

@[simp] theorem PersistenceType.ofWord?_word (t : PersistenceType) : ofWord? t.word = some t := by
  cases t <;> decide

/-- The semantic types of SQL type words. -/
def semanticWords : List (String × SemanticType) :=
  [("varchar", .string), ("text", .string), ("char", .string), ("int", .number),
   ("integer", .number), ("decimal", .number), ("float", .number), ("double", .number),
   ("datetime", .date), ("timestamp", .date), ("tinyint", .boolean)]

/-- The persistence types of SQL type words. -/
def persistenceWords : List (String × PersistenceType) :=
  [("varchar", .string), ("text", .string), ("char", .string), ("int", .int), ("integer", .int),
   ("decimal", .decimal), ("float", .float), ("double", .float), ("datetime", .dateTime),
   ("timestamp", .dateTime), ("tinyint", .boolean)]

/-- The semantic type of a SQL type. -/
def semanticType (sqlType : Option String) : SemanticType :=
  match sqlType with
  | none => .unknown
  | some t => if t.isEmpty then .unknown else (semanticWords.lookup (Text.lower t)).getD .unknown

/-- The persistence type of a column with the given SQL type; a warning names a column whose type is
not recognised. -/
def persistenceType (sqlType : Option String) (column : String) : Logged PersistenceType :=
  match persistenceWords.lookup (Text.lower (sqlType.getD "")) with
  | some t => pure t
  | none => do
    Logged.note (.unrecognizedType column sqlType)
    pure .string

/-! ## Both tables -/

/-- The type words that are recognised, with both of their types. -/
def typeWords : List (String × SemanticType × PersistenceType) :=
  [("varchar", .string, .string), ("text", .string, .string), ("char", .string, .string),
   ("int", .number, .int), ("integer", .number, .int), ("decimal", .number, .decimal),
   ("float", .number, .float), ("double", .number, .float), ("datetime", .date, .dateTime),
   ("timestamp", .date, .dateTime), ("tinyint", .boolean, .boolean)]

/-- The types that a SQL type stands for, if it is recognised. -/
def typesOf? (sqlType : Option String) : Option (SemanticType × PersistenceType) :=
  typeWords.lookup (Text.lower (sqlType.getD ""))

theorem lookup_map_snd {α β : Type} (f : α → β) (es : List (String × α)) (w : String) :
    (es.map fun e => (e.1, f e.2)).lookup w = (es.lookup w).map f := by
  induction es with
  | nil => rfl
  | cons e es ih =>
    obtain ⟨v, a⟩ := e
    rw [List.map_cons, List.lookup_cons, List.lookup_cons]
    cases w == v with
    | true => rfl
    | false => exact ih

theorem semanticType_eq (sqlType : Option String) :
    semanticType sqlType = ((typesOf? sqlType).map (·.1)).getD .unknown := by
  have hwords : semanticWords = typeWords.map fun e => (e.1, e.2.1) := rfl
  have hempty : typesOf? (some "") = none := by decide
  cases sqlType with
  | none => exact (congrArg (fun o => (Option.map (·.1) o).getD .unknown) hempty).symm
  | some t =>
    unfold semanticType
    dsimp only
    split
    · next h =>
      obtain rfl : t = "" := by simpa using h
      rw [hempty]
      rfl
    · rw [hwords, lookup_map_snd Prod.fst]
      rfl

theorem persistenceType_eq (sqlType : Option String) (column : String) :
    persistenceType sqlType column =
      match typesOf? sqlType with
      | some (_, t) => pure t
      | none => (do
        Logged.note (.unrecognizedType column sqlType)
        pure .string) := by
  have hwords : persistenceWords = typeWords.map fun e => (e.1, e.2.2) := rfl
  unfold persistenceType typesOf?
  rw [hwords, lookup_map_snd Prod.snd]
  cases typeWords.lookup (Text.lower (sqlType.getD "")) <;> rfl

end TableScaffold
