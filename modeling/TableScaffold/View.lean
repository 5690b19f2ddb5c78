import TableScaffold.Annotation
import TableScaffold.Naming
import TableScaffold.Schema.Dump

/-!
# View models

A view model holds what one template needs to know of a schema. Each is a projection of its own.
-/

namespace TableScaffold

/-- The view models of a schema. -/
inductive View where
  | dto
  | request
  | response
  | listResponse
  | controller
  | handler
  | dbService
  | notFoundError
  | constants
  | moduleClass
  | persistenceModel
  deriving DecidableEq, Repr

/-- A view model: named values in order. -/
abbrev ViewModel := List (String × Value)

/-- The columns that users see. -/
def TableSchema.userColumns (s : TableSchema) : List Column := s.columns.filter (!·.isAudit)

/-- A user's column in a view model. -/
def Column.userField (c : Column) : Value :=
  .map [("name", .str c.name), ("type", .str c.semanticType.word),
    ("is_optional", .bool c.isOptional)]

/-- The columns whose names are not among those seen, the first of each name. -/
def firstOfNames (seen : List String) : List Column → List Column
  | [] => []
  | c :: rest =>
    if seen.contains c.name then firstOfNames seen rest
    else c :: firstOfNames (c.name :: seen) rest

/-- The first column of each name. -/
def uniqueColumns (cs : List Column) : List Column := firstOfNames [] cs

/-- A column in the view model of the database. -/
def Column.modelField (c : Column) : Value :=
  .map [("name", .str c.name), ("type", .str c.persistenceType.word),
    ("is_id", .bool c.annotation.isId), ("is_optional", .bool c.isOptional),
    ("db_specific", Value.ofOption c.annotation.nativeType), ("length", Value.ofWhole c.length)]

/-- Whether the view model of the database can be built: the annotations of its columns must be such that
they can be written. -/
def TableSchema.hasModel (s : TableSchema) : Bool := (uniqueColumns s.columns).all Column.isAnnotated

namespace View

/-- All view models. -/
def all : List View :=
  [dto, request, response, listResponse, controller, handler, dbService, notFoundError, constants,
   moduleClass, persistenceModel]

/-- The key of a view model. -/
def key : View → String
  | dto => "dto"
  | request => "request"
  | response => "response"
  | listResponse => "list_response"
  | controller => "controller"
  | handler => "handler"
  | dbService => "db_service"
  | notFoundError => "not_found_error"
  | constants => "constants"
  | moduleClass => "module"
  | persistenceModel => "persistence_model"

/-- What the view model of a schema holds. -/
def build (s : TableSchema) (view : View) : ViewModel :=
  let names := Names.ofTable s.tableName
  let singularFile := ("dashed_file_name", Value.str names.singularFile)
  let pluralFile := ("dashed_file_name_plural", Value.str names.pluralFile)
  let userFields := ("columns", Value.list (s.userColumns.map Column.userField))
  let dtoClass := Value.str (names.singularClass ++ "Dto")
  match view with
  | dto => [("class_name", dtoClass), userFields]
  | request =>
    [("class_name", .str (names.singularClass ++ "Request")), userFields, singularFile]
  | response =>
    [("class_name", .str (names.singularClass ++ "Response")), ("dto_class_name", dtoClass),
     singularFile]
  | listResponse =>
    [("class_name", .str (names.pluralClass ++ "ListResponse")),
     ("response_dto_class_name", dtoClass), singularFile, pluralFile]
  | controller =>
    [("class_name", .str (names.pluralClass ++ "Controller")),
     ("handler_class_name", .str (names.pluralClass ++ "Handler")),
     ("request_class_name", .str (names.singularClass ++ "Request")),
     ("dto_class_name", dtoClass),
     ("response_class_name", .str (names.singularClass ++ "Response")),
     ("list_response_class_name", .str (names.pluralClass ++ "ListResponse")),
     singularFile, pluralFile, ("route_name", .str (Text.lower names.pluralClass))]
  | handler =>
    [("class_name", .str (names.pluralClass ++ "Handler")),
     ("db_service_class_name", .str (names.pluralClass ++ "DbService")),
     ("dto_class_name", dtoClass), singularFile, pluralFile]
  | dbService =>
    [("class_name", .str (names.pluralClass ++ "DbService")), ("dto_class_name", dtoClass),
     ("not_found_error_class_name", .str (names.singularClass ++ "NotFoundError")),
     singularFile, pluralFile, ("plural_class_name", .str names.pluralClass)]
  | notFoundError =>
    [("class_name", .str names.singularClass), ("lower_case_class_name", .str names.singularFile),
     ("upper_case_class_name", .str names.constant)]
  | constants => [("upper_case_class_name", .str names.constant)]
  | moduleClass =>
    [("plural_class_name", .str names.pluralClass), pluralFile]
  | persistenceModel =>
    [("model_name", .str names.pluralClass),
     ("columns", .list ((uniqueColumns s.columns).map Column.modelField)),
     ("relations", .list (s.relations.map Relation.dump)),
     ("indexes", .list (s.indexes.map Index.dump))]

/-- The view model of a schema, if it can be built. -/
def build? (s : TableSchema) (view : View) : Option ViewModel :=
  if view = persistenceModel && !s.hasModel then none else some (view.build s)

end View

/-- The view models of a schema, each under its key. -/
def TableSchema.viewModels? (s : TableSchema) : Option (List (String × ViewModel)) :=
  View.all.mapM fun view => (view.build? s).map (view.key, ·)

end TableScaffold
