import TableScaffold.Template.Library

/-!
# Artifacts

An artifact is one generated file: the template of one view model, rendered over it. The paths of all
artifacts follow from the table name alone.
-/

namespace TableScaffold

/-- One rendered file; its path leads from the root of the output. -/
structure Artifact where
  name : String
  path : String
  content : String
  deriving DecidableEq, Repr

namespace View

/-- The view models in the order in which their artifacts are made. -/
def layout : List View :=
  [persistenceModel, dto, handler, controller, dbService, response, listResponse, notFoundError,
   constants, moduleClass, request]

/-- The path of the artifact of a view model. -/
def artifactPath (names : Names) : View → String
  | persistenceModel => names.pluralFile ++ ".model.prisma"
  | dto => "dtos/" ++ names.singularFile ++ ".dto.ts"
  | handler => "handlers/" ++ names.pluralFile ++ ".handler.ts"
  | controller => "controllers/" ++ names.pluralFile ++ ".controller.ts"
  | dbService => "data/" ++ names.pluralFile ++ "-db.service.ts"
  | response => "http/responses/" ++ names.singularFile ++ ".response.ts"
  | listResponse => "http/responses/" ++ names.pluralFile ++ "-list.response.ts"
  | notFoundError => "exceptions/" ++ names.singularFile ++ "-not-found-error.ts"
  | constants => "config/constants.ts"
  | moduleClass => names.pluralFile ++ ".module.ts"
  | request => "http/requests/" ++ names.singularFile ++ ".request.ts"

end View

/-- The path of one artifact of a schema. -/
def TableSchema.pathOf (s : TableSchema) (view : View) : String :=
  view.artifactPath (Names.ofTable s.tableName)

/-- The paths of all artifacts of a schema, in order. -/
def TableSchema.artifactPaths (s : TableSchema) : List String := View.layout.map s.pathOf

/-- Why a template cannot be rendered. -/
inductive RenderError where
  | unknownTemplate (name : String)
  /-- The template of a view model, taken from a directory, has a fault. -/
  | fault (view : View) (directory : String) (fault : Template.RenderFault)
  deriving DecidableEq, Repr

/-- The message of a fault that lies in a template; none for a fault that lies in its use. -/
def RenderError.message? : RenderError → Option String
  | unknownTemplate name => some ("Unknown template: " ++ name)
  | fault view directory .fileMissing | fault view directory (.unread _) =>
    some ("Template file not found: " ++
      ((Path.ofText directory).join (Path.ofText view.templateFile)).text)
  | fault view _ (.undefined report) =>
    some ("Failed to render '" ++ view.template ++ "': " ++ report)
  | fault view _ .malformed =>
    some ("Failed to render '" ++ view.template ++ "': " ++ Text.omitted)
  | fault _ _ .fileNotText | fault _ _ .mismatch | fault _ _ .divisionByZero
  | fault _ _ .tooLong | fault _ _ .tooDeep => none

/-- The message of an error; that of a fault in the use of a template is not told. -/
def RenderError.message (e : RenderError) : String := e.message?.getD Text.omitted

/-- Renders a template by its name. -/
def renderTemplate (directory : String) (library : Template.Library) (name : String)
    (model : ViewModel) : Except RenderError String :=
  match View.ofTemplate? name with
  | none => .error (.unknownTemplate name)
  | some view => (library.renderView view.templateFile model).mapError (.fault view directory)

/-- Why files cannot be generated. -/
inductive GenerationError where
  /-- The artifact at a path cannot be made. -/
  | notMade (path : String) (cause : RenderError)
  /-- A file cannot be written. -/
  | notWritten (target : String) (cause : FileError)
  /-- A directory for the output cannot be made. -/
  | noDirectory (cause : FileError)
  deriving DecidableEq, Repr

/-- The message of a generation error. -/
def GenerationError.message : GenerationError → String
  | notMade path cause => "Failed to generate " ++ path ++ ": " ++ cause.message
  | notWritten target cause => "Failed to write " ++ target ++ ": " ++ cause.message
  | noDirectory cause => cause.message

/-- Renders the artifact of a view model, which is built first. -/
def View.render (s : TableSchema) (library : Template.Library) (view : View) :
    Except Template.RenderFault String :=
  match view.build? s with
  | some model => library.renderView view.templateFile model
  | none => .error .tooLong

/-- The artifact of a view model, given its rendered text. -/
def View.artifact (s : TableSchema) (directory : String) (view : View)
    (text : Except Template.RenderFault String) : Except GenerationError Artifact :=
  match text with
  | .ok content => .ok ⟨view.template, s.pathOf view, content⟩
  | .error f => .error (.notMade (s.pathOf view) (.fault view directory f))

/-- The artifacts of view models up to the first that cannot be made, and why it cannot. -/
def artifactsOf (s : TableSchema) (directory : String) (library : Template.Library) :
    List View → List Artifact × Option GenerationError
  | [] => ([], none)
  | view :: rest =>
    match view.artifact s directory (view.render s library) with
    | .ok a =>
      let (as, e) := artifactsOf s directory library rest
      (a :: as, e)
    | .error e => ([], some e)

/-- All artifacts of a schema. -/
def generate (s : TableSchema) (directory : String) (library : Template.Library) :
    Except GenerationError (List Artifact) :=
  View.layout.mapM fun view => view.artifact s directory (view.render s library)

/-- The name under which the bundled templates are shown. -/
def bundledDirectory : String := "<templates>"

end TableScaffold
