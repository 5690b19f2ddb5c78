import TableScaffold.Proofs.Generation.Failure
import TableScaffold.Proofs.Settings.Priority

/-!
# Settings that cannot be loaded

Loading ends with settings or with an error, and an error without a message ends the command on the
spot. `load_reported_iff`: there is a message unless the one place that settings come from is a file
of which the YAML reader finds something worse than that it is no YAML, or whose mapping has a key that
is no text. A reader finds something worse in a file that is no text and in a scalar that does not fit
its tag.
-/

namespace TableScaffold

open OnMachine

namespace Settings

variable {α β : Type}

/-- An outcome is a result or an error that has a message. -/
def Reported (r : Except SettingsError α) : Prop :=
  ∀ e, r = .error e → e.message?.isSome = true

@[simp] theorem reported_ok (a : α) : Reported (.ok a) := fun _ he => nomatch he

@[simp] theorem reported_error {e : SettingsError} :
    Reported (.error e : Except SettingsError α) ↔ e.message?.isSome = true := by
  simp [Reported]

/-- Steps that only fail with a message do not matter. -/
theorem reported_bind {r : Except SettingsError α} {f : α → Except SettingsError β}
    (hf : ∀ a, Reported (f a)) : Reported (r.bind f) ↔ Reported r := by
  cases r with
  | error e => simp [Except.bind]
  | ok a => simpa [Except.bind] using hf a

/-! ## Files -/

/-- A settings file of which every fault is reported. -/
structure Clear (y : Yaml.Reader) (content : ByteArray) : Prop where
  /-- Nothing worse is wrong with it than that it is no YAML. -/
  faults : ∀ fault, y content = .error fault → fault = .malformed
  keys : ∀ entries, y content = .ok (.mapping entries) →
    ∀ entry ∈ entries, ∃ key, entry.1 = .text key

/-- The fields of entries, if there are any. -/
def fieldsOrError (entries : List (Yaml.Content × Yaml.Content)) :
    Except SettingsError (List (String × Value)) :=
  match fieldsOf? entries with
  | some fields => .ok fields
  | none => .error .keyNotText

theorem reported_fieldsOrError {entries : List (Yaml.Content × Yaml.Content)} :
    Reported (fieldsOrError entries) ↔ ∀ entry ∈ entries, ∃ key, entry.1 = .text key := by
  rw [← exists_fieldsOf?_iff]
  unfold fieldsOrError
  cases fieldsOf? entries <;> simp [SettingsError.message?]

theorem reported_entriesOf {y : Yaml.Reader} {path : String} {content : ByteArray} :
    Reported ((entriesOf y path content).bind fieldsOrError) ↔ Clear y content := by
  have hclear : Clear y content ↔ (∀ fault, y content = .error fault → fault = .malformed) ∧
      ∀ entries, y content = .ok (.mapping entries) →
        ∀ entry ∈ entries, ∃ key, entry.1 = .text key :=
    ⟨fun h => ⟨h.faults, h.keys⟩, fun ⟨hfaults, hkeys⟩ => ⟨hfaults, hkeys⟩⟩
  rw [hclear]
  unfold entriesOf
  cases y content with
  | error fault => cases fault <;> simp [Except.bind, SettingsError.message?]
  | ok c =>
    cases c with
    | mapping entries => simpa [Except.bind] using reported_fieldsOrError
    | null => simp [Except.bind, fieldsOrError, fieldsOf?]
    | text _ | bytes _ | scalar | list => simp [Except.bind, SettingsError.message?]

theorem reported_fileOutcome (y : Yaml.Reader) (d : Disk) (path : String) :
    Reported (fileOutcome y d path) ↔ ∀ content, d.read path = .ok content → Clear y content := by
  cases hread : d.read path with
  | error f =>
    refine iff_of_true ?_ fun _ h => nomatch h
    unfold fileOutcome
    rw [hread]
    split <;> simp [SettingsError.message?]
  | ok content =>
    have hthere : (d.find? path).isSome = true := by rw [Disk.read_eq_ok.mp hread]; rfl
    have hout : fileOutcome y d path = (entriesOf y path content).bind fieldsOrError := by
      unfold fileOutcome
      rw [if_pos hthere, hread]
      rfl
    rw [hout, reported_entriesOf]
    simp

/-! ## Loading -/

theorem reported_combine (fields overrides : List (String × Value)) :
    Reported (combine fields overrides) := by
  intro e he
  unfold combine at he
  cases hfields : ofFields (overrides.filter (!·.2.isNull) ++ fields) with
  | error ps =>
    rw [hfields] at he
    cases he
    rfl
  | ok s =>
    rw [hfields] at he
    cases he

theorem reported_load {y : Yaml.Reader} {file : Option String} {overrides : List (String × Value)}
    {m : Machine} :
    Reported (outcome (load y file overrides) m).1 ↔
      ∀ path content, place file m = .file path → m.disk.read path = .ok content →
        Clear y content := by
  rw [outcome_load, reported_bind fun fields => reported_combine fields overrides]
  cases place file m with
  | environment => simp [placeOutcome]
  | file path =>
    refine (reported_fileOutcome y m.disk path).trans ⟨?_, fun h content => h path content rfl⟩
    rintro h _ content ⟨⟩
    exact h content

end Settings

/-! ## The command -/

namespace CommandLine

/-- How the command ends if its settings cannot be loaded: with code one and the message, or on the
spot if there is none. -/
def settingsEnding (e : SettingsError) : Outcome :=
  match e.message? with
  | some message => { ending := .exit 1, errors := "Error: " ++ message ++ "\n" }
  | none => { ending := .crash (.settings e) }

theorem result_generateCommand_error {y : Yaml.Reader} {g : Sql.Grammar} {a : Arguments}
    {m : Machine} {e : SettingsError}
    (h : (outcome (Settings.load y (settingsFile a) (overrides a)) m).1 = .error e) :
    (result (generateCommand y g a) m).1 = settingsEnding e := by
  have hload : outcome (Settings.load y (settingsFile a) (overrides a)) m = (.error e, m) :=
    Prod.ext h (Settings.kept_load ..)
  unfold generateCommand settingsEnding
  rw [result_bind]
  unfold outcome at hload
  rw [hload]
  dsimp only
  cases e.message? <;> rfl

end CommandLine

namespace Settings

open CommandLine (settingsEnding)

/-- **When settings that cannot be loaded are reported.** However files are read as YAML, there is a
message unless the file that settings come from is not clear, whatever stands in the environment and
on top. With it the command ends with code one, and without it on the spot. -/
theorem load_reported_iff (y : Yaml.Reader) (file : Option String)
    (overrides : List (String × Value)) (m : Machine) :
    (Reported (outcome (load y file overrides) m).1 ↔
      ∀ path content, place file m = .file path → m.disk.read path = .ok content →
        Clear y content) ∧
    ∀ g a e, CommandLine.settingsFile a = file → CommandLine.overrides a = overrides →
      (outcome (load y file overrides) m).1 = .error e →
        (result (CommandLine.generateCommand y g a) m).1 = settingsEnding e := by
  refine ⟨reported_load, fun g a e hfile hoverrides h => ?_⟩
  subst hfile hoverrides
  exact CommandLine.result_generateCommand_error h

/-- A machine with a settings file whose only key is a number. -/
def numberKey : Machine where
  disk := (Disk.withWorkingDirectory ["w"]).putFile "1: x".toUTF8 ["c.yaml", "w"]
  environment := []

/-- The command with this file and nothing else. -/
def numberKeyCall : CommandLine.Arguments where
  command := true
  values := [("config", "c.yaml")]

theorem load_numberKey :
    (outcome (load Yaml.reader (some "c.yaml") (CommandLine.overrides numberKeyCall)) numberKey).1 =
      .error .keyNotText := by
  decide +kernel

/-- The command with this file ends on the spot. -/
theorem load_reported_iff_number :
    ¬ Clear Yaml.reader "1: x".toUTF8 ∧
      (result (CommandLine.generateCommand Yaml.reader Sql.grammar numberKeyCall) numberKey).1 =
        { ending := .crash (.settings .keyNotText) } := by
  have hread : numberKey.disk.read "c.yaml" = .ok "1: x".toUTF8 := by decide +kernel
  have hplace : place (some "c.yaml") numberKey = .file "c.yaml" := rfl
  obtain ⟨hreported, hcommand⟩ :=
    load_reported_iff Yaml.reader (some "c.yaml") (CommandLine.overrides numberKeyCall) numberKey
  refine ⟨fun hclear => ?_, hcommand _ _ _ rfl rfl load_numberKey⟩
  have hall := hreported.mpr fun path content hpath hcontent => by
    rw [hplace] at hpath
    cases hpath
    rw [hread] at hcontent
    cases hcontent
    exact hclear
  exact absurd (hall _ load_numberKey) (by decide)

/-- A key that is a number is reported by no message. -/
theorem not_reported_number_key :
    (outcome (load Yaml.reader (some "c.yaml") []) numberKey).1 = .error .keyNotText ∧
      ¬ Reported (outcome (load Yaml.reader (some "c.yaml") []) numberKey).1 := by
  have hload : (outcome (load Yaml.reader (some "c.yaml") []) numberKey).1 = .error .keyNotText := by
    decide +kernel
  exact ⟨hload, fun h => absurd (h _ hload) (by decide)⟩

end Settings

end TableScaffold
