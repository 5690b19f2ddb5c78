import TableScaffold.Host
import TableScaffold.Settings
import TableScaffold.Yaml.Content

/-!
# Where settings come from

Settings come from exactly one place: the file that is asked for, or the usual file if it is there,
or the environment. Values given beside go on top.
-/

namespace TableScaffold

/-- Why settings cannot be loaded. -/
inductive SettingsError where
  | fileMissing (path : String)
  | file (path : String) (e : FileError)
  | malformed (path : String)
  /-- A file has no content for another reason than that it is no YAML. -/
  | unread (fault : Yaml.Fault)
  | notAMapping (path : String)
  | keyNotText
  | invalid (problems : List Problem)
  deriving DecidableEq, Repr

/-- The message of a failure that is reported. -/
def SettingsError.message? : SettingsError → Option String
  | fileMissing path => some ("Configuration file not found: " ++ path)
  | file path e => some ("Error reading configuration file: " ++ path ++ "\n" ++ e.message)
  | malformed path => some ("Invalid YAML configuration: " ++ path ++ "\n" ++ Text.omitted)
  | notAMapping path =>
    some ("Configuration file must contain a YAML dictionary: " ++ path)
  | invalid _ => some ("Invalid generator configuration:\n" ++ Text.omitted)
  | unread _ | keyNotText => none

namespace Settings

/-- The file that settings come from if it is there. -/
def usualFile : String := "crudgen.yaml"

/-- The environment variables that hold settings, and the settings they hold. -/
def environmentNames : List (String × String) :=
  [("CRUDGEN_OUTPUT_DIR", "output_dir"), ("CRUDGEN_DIALECT", "dialect"),
   ("CRUDGEN_TEMPLATE_DIR", "template_dir")]

/-- The content of a setting as a value. A setting takes text, also as bytes, and some take null; of
any other content only its being something else is kept. -/
def valueOf : Yaml.Content → Value
  | .null => .null
  | .text s | .bytes (some s) => .str s
  | .bytes none | .scalar => .bool true
  | .list => .list []
  | .mapping _ => .map []

/-- The settings of entries, if all keys are texts; the last entry for a key comes first. -/
def fieldsOf? (entries : List (Yaml.Content × Yaml.Content)) : Option (List (String × Value)) :=
  (entries.reverse.mapM fun (k, v) =>
    match k with
    | .text s => some (s, valueOf v)
    | _ => none)

/-- The entries of a settings file. -/
def entriesOf (y : Yaml.Reader) (path : String) (content : ByteArray) :
    Except SettingsError (List (Yaml.Content × Yaml.Content)) :=
  match y content with
  | .error .malformed => .error (.malformed path)
  | .error f => .error (.unread f)
  | .ok .null => .ok []
  | .ok (.mapping entries) => .ok entries
  | .ok _ => .error (.notAMapping path)

/-- Settings from the fields of a source, with other fields on top. A field that is null on top does
not count. -/
def combine (source overrides : List (String × Value)) : Except SettingsError Settings :=
  (ofFields (overrides.filter (!·.2.isNull) ++ source)).mapError .invalid

variable {m : Type → Type} [Monad m] [Host m]

/-- The fields of a settings file. -/
def loadFile (y : Yaml.Reader) (path : String) : ExceptT SettingsError m (List (String × Value)) := do
  if !(← Host.isThere (m := m) path) then throw (.fileMissing path)
  match ← Host.read (m := m) path with
  | .error f => throw (.file path ⟨f, path⟩)
  | .ok content =>
    let entries ← ExceptT.mk (pure (entriesOf y path content))
    (Host.note (.settingsFromFile path) : m Unit)
    match fieldsOf? entries with
    | some fields => return fields
    | none => throw .keyNotText

/-- The fields that are in the environment; an empty variable does not count. -/
def loadEnvironment : List (String × String) → m (List (String × Value))
  | [] => return []
  | (name, key) :: rest => do
    let value ← Host.environment name
    let fields ← loadEnvironment rest
    match value with
    | some s => return if s = "" then fields else (key, .str s) :: fields
    | none => return fields

/-- The fields of the one place that settings come from. -/
def source (y : Yaml.Reader) (file : Option String) : ExceptT SettingsError m (List (String × Value)) := do
  match file.filter (· != "") with
  | some path => loadFile y path
  | none =>
    if ← Host.isThere (m := m) usualFile then loadFile y usualFile
    else
      let fields ← (loadEnvironment environmentNames : m _)
      if !fields.isEmpty then (Host.note .settingsFromEnvironment : m Unit)
      return fields

/-- Loads settings from a file, if one is given, or the usual place, with values on top. -/
def load (y : Yaml.Reader) (file : Option String) (overrides : List (String × Value)) :
    ExceptT SettingsError m Settings := do
  let fields ← source y file
  ExceptT.mk (pure (combine fields overrides))

end Settings

end TableScaffold
