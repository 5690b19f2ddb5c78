import TableScaffold.Disk
import TableScaffold.Template.Bundled
import TableScaffold.Template.Render
import TableScaffold.View

/-!
# Template files

Each view model has a template of its own. The templates come with the program or from the files of
a directory.
-/

namespace TableScaffold

namespace View

/-- The name of the template of a view model. -/
def template : View → String
  | dto => "dto"
  | request => "request"
  | response => "response"
  | listResponse => "listresponse"
  | controller => "controller"
  | handler => "handler"
  | dbService => "dbservice"
  | notFoundError => "notfound-error"
  | constants => "constants"
  | moduleClass => "module"
  | persistenceModel => "prisma-model"

/-- The file of the template of a view model. -/
def templateFile : View → String
  | persistenceModel => "prisma-model.prisma.j2"
  | view => view.template ++ ".ts.j2"

/-- The view model that a template is for. -/
def ofTemplate? (name : String) : Option View := all.find? (·.template == name)

theorem ofTemplate?_template (view : View) : ofTemplate? view.template = some view := by
  cases view <;> decide +kernel

/-- The bundled template of a view model. -/
def bundled : View → Template.Body
  | dto => Template.Bundled.dto
  | request => Template.Bundled.request
  | response => Template.Bundled.response
  | listResponse => Template.Bundled.listResponse
  | controller => Template.Bundled.controller
  | handler => Template.Bundled.handler
  | dbService => Template.Bundled.dbService
  | notFoundError => Template.Bundled.notFoundError
  | constants => Template.Bundled.constants
  | moduleClass => Template.Bundled.moduleClass
  | persistenceModel => Template.Bundled.persistenceModel

end View

namespace Template

/-- The bundled templates. -/
def Library.bundled : Library := fun file =>
  match View.all.find? (·.templateFile == file) with
  | some view => .ok view.bundled
  | none => .error .fileMissing

theorem Library.bundled_templateFile (view : View) :
    Library.bundled view.templateFile = .ok view.bundled := by
  have h : View.all.find? (·.templateFile == view.templateFile) = some view := by
    cases view <;> decide +kernel
  simp [Library.bundled, h]

/-- The template that the content of a file stands for. It is malformed too if it has more than what is
read of the template language. -/
def Body.ofContent (content : ByteArray) : Except RenderFault Body :=
  match String.fromUTF8? content with
  | none => .error .fileNotText
  | some s =>
    match Body.ofText? s.toList with
    | some b => .ok b
    | none => .error .malformed

/-- The path of a template file in a directory. The name of the file must not lead out of it. -/
def filePath? (directory file : String) : Option String :=
  if (Path.parts file).contains ".." then none
  else some ("/".intercalate (directory :: (Path.parts file).filter Path.isName))

/-- Renders the template in a file over a view model. No value may be named `self`. -/
def Library.renderView (library : Library) (file : String) (model : ViewModel) :
    Except RenderFault String :=
  if (model.lookup "self").isSome then do
    let _ ← library file
    .error .mismatch
  else library.renderFile depthLimit (model.map fun e => (e.1, .value e.2)) file

end Template

/-- The templates in a directory of a disk. -/
def Disk.library (d : Disk) (directory : String) : Template.Library := fun file =>
  match (Template.filePath? directory file).bind d.find? with
  | some (.file content) => Template.Body.ofContent content
  | _ => .error .fileMissing

end TableScaffold
