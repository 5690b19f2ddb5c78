import TableScaffold.Proofs.Host.Machine
import TableScaffold.Settings.Load

/-!
# Loading settings on a machine

What loading settings comes to is read off the disk and the environment of a machine, and the machine
stays as it is (`outcome_load`). Only one place is read: a file or the environment.
-/

namespace TableScaffold.Settings

open OnMachine

/-! ## Files -/

/-- What loading a settings file of a disk comes to. -/
def fileOutcome (y : Yaml.Reader) (d : Disk) (path : String) :
    Except SettingsError (List (String × Value)) :=
  if (d.find? path).isSome then
    match d.read path with
    | .error f => .error (.file path ⟨f, path⟩)
    | .ok content =>
      (entriesOf y path content).bind fun entries =>
        match fieldsOf? entries with
        | some fields => .ok fields
        | none => .error .keyNotText
  else .error (.fileMissing path)

theorem outcome_loadFile (y : Yaml.Reader) (path : String) (m : Machine) :
    outcome (loadFile y path) m = (fileOutcome y m.disk path, m) := by
  unfold loadFile fileOutcome
  rw [outcome_liftM_bind, result_isThere]
  dsimp only
  cases (m.disk.find? path).isSome with
  | false => rfl
  | true =>
    rw [if_pos rfl]
    show outcome (liftM (Host.read path : OnMachine _) >>= _) m = _
    rw [outcome_liftM_bind, result_read]
    dsimp only
    cases m.disk.read path with
    | error f => rfl
    | ok content =>
      dsimp only
      rw [outcome_bind, outcome_mk, result_pure]
      cases entriesOf y path content with
      | error e => rfl
      | ok entries =>
        show outcome (liftM (Host.note (.settingsFromFile path) : OnMachine Unit) >>= _) m = _
        rw [outcome_liftM_bind, result_note]
        dsimp only [Except.bind]
        cases fieldsOf? entries <;> rfl

/-! ## The environment -/

/-- The fields that variables of an environment hold. -/
def environmentFields (environment : List (String × String)) (names : List (String × String)) :
    List (String × Value) :=
  names.filterMap fun entry =>
    ((environment.lookup entry.1).filter (· != "")).map fun s => (entry.2, .str s)

theorem result_loadEnvironment (names : List (String × String)) (m : Machine) :
    result (loadEnvironment names) m = (environmentFields m.environment names, m) := by
  induction names with
  | nil => rfl
  | cons entry rest ih =>
    rw [loadEnvironment, result_bind, result_environment, result_bind, environmentFields,
      List.filterMap_cons]
    dsimp only
    rw [ih]
    cases m.environment.lookup entry.1 with
    | none => rfl
    | some s => by_cases hs : s = "" <;> simp [hs, Option.filter, environmentFields]

/-! ## The place -/

/-- A place that settings come from. -/
inductive Place where
  | file (path : String)
  | environment
  deriving DecidableEq, Repr

/-- The one place that settings come from: the file that is asked for, else the usual file if it is
there, else the environment. -/
def place (file : Option String) (m : Machine) : Place :=
  match file.filter (· != "") with
  | some path => .file path
  | none => if (m.disk.find? usualFile).isSome then .file usualFile else .environment

/-- What loading the fields of a place comes to. -/
def placeOutcome (y : Yaml.Reader) (m : Machine) : Place → Except SettingsError (List (String × Value))
  | .file path => fileOutcome y m.disk path
  | .environment => .ok (environmentFields m.environment environmentNames)

theorem outcome_source (y : Yaml.Reader) (file : Option String) (m : Machine) :
    outcome (source y file) m = (placeOutcome y m (place file m), m) := by
  unfold source place
  cases file.filter (· != "") with
  | some path => exact outcome_loadFile y path m
  | none =>
    dsimp only
    rw [outcome_liftM_bind, result_isThere]
    dsimp only
    cases (m.disk.find? usualFile).isSome with
    | true => exact outcome_loadFile y usualFile m
    | false =>
      show outcome (liftM (loadEnvironment environmentNames : OnMachine _) >>= _) m = _
      rw [outcome_liftM_bind, result_loadEnvironment]
      split <;> rfl

theorem outcome_load (y : Yaml.Reader) (file : Option String) (overrides : List (String × Value))
    (m : Machine) :
    outcome (load y file overrides) m =
      ((placeOutcome y m (place file m)).bind (combine · overrides), m) := by
  unfold load
  rw [outcome_bind, outcome_source]
  cases placeOutcome y m (place file m) <;> rfl

/-- Loading settings changes nothing on a machine. -/
theorem kept_load (y : Yaml.Reader) (file : Option String) (overrides : List (String × Value))
    (m : Machine) : (outcome (load y file overrides) m).2 = m := by
  rw [outcome_load]

end TableScaffold.Settings
