import TableScaffold.Artifact
import TableScaffold.Extraction
import TableScaffold.Host
import TableScaffold.Settings
import TableScaffold.Sql.Script
import TableScaffold.Text.LineEnd

/-!
# Generation

A run reads a script, extracts the schema of its table, and writes the artifacts one after the other,
each rendered only when its turn has come. Nothing is made before the schema is known; a failure
leaves what was written before it. How scripts are read is for a grammar to say.
-/

namespace TableScaffold

/-- Why a script cannot be read. -/
inductive InputError where
  | file (e : FileError)
  | notText
  deriving DecidableEq, Repr

/-- The message of an input error. -/
def InputError.message (e : InputError) : String :=
  "Error reading SQL script file: " ++
    match e with
    | file e => e.message
    | notText => Text.omitted

/-- The message for a script that is no script of its dialect. -/
def unreadableScript : String := "Failed to parse SQL script: " ++ Text.omitted

/-- Why a run fails. -/
inductive RunError where
  | input (e : InputError)
  | script (e : Sql.ScriptError)
  | extraction (e : ExtractionError)
  | generation (e : GenerationError)
  /-- A path holds the NUL character. -/
  | nulInPath
  deriving DecidableEq, Repr

/-- The message of a failure that is reported; the other ones are defects of the input that no
message foresees. -/
def RunError.message? : RunError → Option String
  | input e => some e.message
  | script (.reading .unreadable) => some unreadableScript
  | extraction .notACreateTable => some ExtractionError.notACreateTableText
  | generation e => some e.message
  | script (.reading .broken) | script (.tree _) | extraction (.badTree _) | nulInPath => none

/-- A failed file operation as the failure of a run. -/
def RunError.ofFile (report : FileError → RunError) (e : FileError) : RunError :=
  if e.fault = .nulInPath then .nulInPath else report e

/-- The text of a script's content. -/
def scriptText? (content : ByteArray) : Option String :=
  (String.fromUTF8? content).map fun s => String.ofList (Text.unifyLines s.toList)

/-- What a run has done. -/
structure Generated where
  tableName : String
  outputDir : String
  written : List String
  deriving DecidableEq, Repr

/-- The directories below the root of the output. -/
def outputDirectories : List String :=
  ["config", "controllers", "data", "dtos", "exceptions", "handlers", "http/requests",
   "http/responses"]

variable {m : Type → Type} [Monad m] [Host m]

/-- The text of the script at a path, its lines ended by line feeds. -/
def readScript (path : String) : ExceptT RunError m String := do
  match ← Host.read (m := m) path with
  | .error f => throw (.ofFile (fun e => .input (.file e)) ⟨f, path⟩)
  | .ok content =>
    match scriptText? content with
    | some s => return s
    | none => throw (.input .notText)

/-- The schema of the table that a script creates. -/
def schemaOfScript (g : Sql.Grammar) (d : Sql.Dialect) (script : String) :
    Attempt RunError TableSchema := do
  let trees ← ExceptT.adapt RunError.script (g.trees d script)
  ExceptT.adapt RunError.extraction (extract (.list trees))

/-- Makes the directories below a root. -/
def makeOutputDirectories (root : Path) : List String → m (Except FileError Unit)
  | [] => return .ok ()
  | name :: rest => do
    match ← Host.makeDirectories (root.join (Path.ofText name)) with
    | .ok () => makeOutputDirectories root rest
    | .error e => return .error e

/-- Makes the output directories; those that are there stay as they are. -/
def ensureTree (root : Path) : m (Except FileError Unit) :=
  makeOutputDirectories root outputDirectories

/-- Writes an artifact and gives the path of its file. -/
def writeArtifact (root : Path) (a : Artifact) : ExceptT RunError m String := do
  let target := root.join (Path.ofText a.path)
  let report := RunError.ofFile fun e => .generation (.notWritten target.text e)
  match ← Host.makeDirectories (m := m) target.parent with
  | .error e => throw (report e)
  | .ok () =>
    match ← Host.write (m := m) target.text a.content.toUTF8 with
    | .error f => throw (report ⟨f, target.text⟩)
    | .ok () =>
      (Host.note (.wrote target.text) : m Unit)
      return target.text

/-- Writes artifacts and gives the paths of their files. -/
def writeArtifacts (root : Path) : List Artifact → ExceptT RunError m (List String)
  | [] => return []
  | a :: rest => do
    let target ← writeArtifact root a
    return target :: (← writeArtifacts root rest)

/-- Where templates come from. -/
inductive TemplateSource where
  | bundled
  | directory (path : String)
  deriving DecidableEq, Repr

namespace TemplateSource

/-- The source that a setting names; an empty one names none. -/
def ofSetting : Option String → TemplateSource
  | none => bundled
  | some path => if path = "" then bundled else directory path

/-- How a source is shown. -/
def shown : TemplateSource → String
  | bundled => bundledDirectory
  | directory path => (Path.ofText path).text

/-- Renders with the templates of a source. -/
def render (source : TemplateSource)
    (work : Template.Library → Except Template.RenderFault String) :
    m (Except Template.RenderFault String) :=
  match source with
  | bundled => return work Template.Library.bundled
  | directory _ => Host.renderFrom source.shown work

end TemplateSource

/-- Renders and writes the artifacts of view models, one after the other. -/
def writeViews (s : TableSchema) (source : TemplateSource) (root : Path) :
    List View → ExceptT RunError m (List String)
  | [] => return []
  | view :: rest => do
    let text ← source.render (m := m) (view.render s)
    match view.artifact s source.shown text with
    | .error e => throw (.generation e)
    | .ok a =>
      let target ← writeArtifact root a
      return target :: (← writeViews s source root rest)

/-- Generates all artifacts for the table that a script creates. -/
def run (g : Sql.Grammar) (scriptPath : String) (settings : Settings) :
    ExceptT RunError m Generated := do
  let script ← readScript scriptPath
  let s ← ExceptT.mk (Host.attempt (m := m) (schemaOfScript g settings.dialect script))
  (Host.note (.extracted s.tableName s.columns.length s.relations.length s.indexes.length) : m Unit)
  let source := TemplateSource.ofSetting settings.templateDir
  (Host.note (.loadingTemplates source.shown) : m Unit)
  let root := Path.ofText settings.outputDir
  match ← ensureTree (m := m) root with
  | .error e => throw (.ofFile (fun e => .generation (.noDirectory e)) e)
  | .ok () =>
    let written ← writeViews s source root View.layout
    return ⟨s.tableName, root.text, written⟩

end TableScaffold
