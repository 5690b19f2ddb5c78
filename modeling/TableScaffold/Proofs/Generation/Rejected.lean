import TableScaffold.Proofs.Generation.Failure
import TableScaffold.Proofs.Generation.Watched

/-!
# Rejected scripts

A run rejects a script that cannot be read, that is no script of its dialect, or that creates no table.
Only what lies at the path of the script decides that (`run_rejected_iff`), and nothing but reading it
has been done by then: the machine stays as it is. Where the settings of the command cannot be loaded,
no run is started, and not even the script is read.
-/

namespace TableScaffold

open OnMachine Watched

variable {g : Sql.Grammar} {scriptPath : String} {settings : Settings} {m : Machine} {e : RunError}

/-- An error that rejects the script of a run. -/
def RunError.IsRejection : RunError → Prop
  | input _ => True
  | script e => e = .reading .unreadable
  | extraction e => e = .notACreateTable
  | generation _ => False
  | nulInPath => False

theorem RunError.ofFile_generation (report : FileError → GenerationError) (e : FileError) :
    ¬ (RunError.ofFile (fun e => .generation (report e)) e).IsRejection := by
  unfold ofFile
  split <;> exact id

/-! ## Runs -/

/-- Whatever fails after the schema is known is no rejection. -/
theorem not_isRejection_of_writeViews {s : TableSchema} {source : TemplateSource} {root : Path}
    {views : List View} (h : (outcome (writeViews s source root views) m).1 = .error e) :
    ¬ e.IsRejection := by
  induction views generalizing m with
  | nil => cases h
  | cons view rest ih =>
    rw [outcome_writeViews_cons] at h
    cases hmade : s.artifactOn source m.disk view with
    | error cause =>
      rw [hmade] at h
      cases h
      exact id
    | ok a =>
      rw [hmade] at h
      dsimp only at h
      have hone := artifactWritten root a m
      revert h hone
      rcases outcome (writeArtifact root a) m with ⟨e' | t, m'⟩ <;> intro h hone <;> dsimp only at h
      · cases h
        obtain ⟨cause, rfl, -⟩ := hone.failed _ rfl
        exact RunError.ofFile_generation _ cause
      · have hrest := ih (m := m')
        revert h hrest
        rcases outcome (writeViews s source root rest) m' with ⟨e' | ts, m''⟩ <;> intro h hrest
        · exact hrest h
        · cases h

/-- A run without a schema is over before anything is done to the machine. -/
theorem outcome_run_of_error (h : m.disk.schemaAt g settings.dialect scriptPath = .error e) :
    outcome (run g scriptPath settings) m = (.error e, m) := by
  rw [outcome_run, h]

/-- A run rejects its script exactly if the script, as it lies on the disk, has no schema for such a
reason. -/
theorem run_rejected_iff (he : e.IsRejection) :
    (outcome (run g scriptPath settings) m).1 = .error e ↔
      m.disk.schemaAt g settings.dialect scriptPath = .error e := by
  refine ⟨fun h => ?_, fun h => congrArg Prod.fst (outcome_run_of_error h)⟩
  rw [outcome_run] at h
  cases hschema : m.disk.schemaAt g settings.dialect scriptPath with
  | error e' =>
    rw [hschema] at h
    cases h
    rfl
  | ok s =>
    rw [hschema] at h
    dsimp only at h
    revert h
    rcases result (ensureTree settings.outputRoot) m with ⟨cause | ⟨⟩, m'⟩ <;> dsimp only <;> intro h
    · cases h
      exact absurd he (RunError.ofFile_generation _ cause)
    · have hviews : ∀ e', (outcome (writeViews s settings.templateSource settings.outputRoot
          View.layout) m').1 = .error e' → ¬ e'.IsRejection := fun _ => not_isRejection_of_writeViews
      revert h hviews
      rcases outcome (writeViews s settings.templateSource settings.outputRoot View.layout) m' with
        ⟨e' | ts, m''⟩ <;> intro h hviews
      · cases h
        exact absurd he (hviews e rfl)
      · cases h

/-! ## What a rejected run has done -/

theorem accesses_readScript (path : String) (m : Machine) :
    (readScript path : ExceptT RunError Watched _).run.accesses m = [.read path] := by
  unfold readScript
  rw [accesses_liftM_bind]
  show [Access.read path] ++ _ = _
  cases (result (Host.read path : Watched _).work m).1 with
  | error f => rfl
  | ok content =>
    dsimp only
    cases scriptText? content <;> rfl

theorem accesses_attempt {ε α : Type} (x : Attempt ε α) (m : Machine) :
    (Host.attempt x : Watched _).accesses m = [] := by
  have hnotices : ∀ notices : List Notice, (notices.forM Host.note : Watched Unit).accesses m = [] := by
    intro notices
    induction notices with
    | nil => rfl
    | cons n notices ih => exact ih
  show (x.notices.forM Host.note : Watched Unit).accesses m ++ [] = []
  rw [hnotices, List.append_nil]

/-- A run without a schema has read the script and done nothing else. -/
theorem accesses_run_of_error (h : m.disk.schemaAt g settings.dialect scriptPath = .error e) :
    (run g scriptPath settings : ExceptT RunError Watched _).run.accesses m = [.read scriptPath] := by
  have hread : outcome (workT (readScript scriptPath)) m = (m.disk.scriptAt scriptPath, m) := by
    rw [work_readScript, outcome_readScript]
  unfold run
  cases hscript : m.disk.scriptAt scriptPath with
  | error e' =>
    rw [hscript] at hread
    rw [accesses_bind_error hread, accesses_readScript]
  | ok script =>
    rw [hscript] at hread
    rw [Disk.schemaAt_of_scriptAt hscript] at h
    have hschema : outcome (workT (ExceptT.mk (Host.attempt (schemaOfScript g settings.dialect script)))) m
        = (.error e, m) := by
      show outcome (ExceptT.mk (Host.attempt _ : Watched _).work) m = _
      rw [work_attempt, outcome_mk, result_attempt, h]
    rw [accesses_bind_ok hread, accesses_readScript, accesses_bind_error hschema]
    exact congrArg ([Access.read scriptPath] ++ ·) (accesses_attempt _ m)

/-! ## The command -/

open CommandLine

/-- A command whose settings cannot be loaded ends with the failure, and only loading has been done. -/
theorem generateCommand_unsettled {y : Yaml.Reader} {a : Arguments} {e : SettingsError}
    (h : (outcome (Settings.load y (settingsFile a) (overrides a)) m).1 = .error e) :
    result (generateCommand y g a) m = (failed (.settings e) (e.message?.map ("Error: " ++ ·)), m) ∧
      (generateCommand y g a : Watched _).accesses m =
        (Settings.load y (settingsFile a) (overrides a) :
          ExceptT SettingsError Watched _).run.accesses m := by
  have hload : result (Settings.load y (settingsFile a) (overrides a)).run m = (.error e, m) :=
    Prod.ext h (Settings.kept_load ..)
  refine ⟨?_, ?_⟩
  · unfold generateCommand
    rw [result_bind, hload]
    rfl
  · have hwork : (Settings.load y (settingsFile a) (overrides a) :
        ExceptT SettingsError Watched _).run.work = (Settings.load y (settingsFile a) (overrides a)).run :=
      Settings.work_load _ _ _
    unfold generateCommand
    show _ ++ Watched.accesses _ _ = _
    rw [hwork, hload]
    exact List.append_nil _

/-- **A rejected script leaves the machine as it is.** A run that rejects its script has read it and done
nothing else. A command whose settings cannot be loaded ends with that failure; it has looked at the
settings file and perhaps read it, and done nothing else. -/
theorem rejected_untouched (m : Machine) :
    (∀ g scriptPath settings e after, RunError.IsRejection e →
      outcome (run g scriptPath settings) m = (.error e, after) →
        after = m ∧
        (run g scriptPath settings : ExceptT RunError Watched _).run.accesses m = [.read scriptPath]) ∧
    ∀ y g a e, (outcome (Settings.load y (settingsFile a) (overrides a)) m).1 = .error e →
      result (generateCommand y g a) m = (failed (.settings e) (e.message?.map ("Error: " ++ ·)), m) ∧
      ∀ access ∈ (generateCommand y g a : Watched _).accesses m,
        access = .look (Settings.filePath (settingsFile a)) ∨
          access = .read (Settings.filePath (settingsFile a)) := by
  refine ⟨fun g scriptPath settings e after he hrun => ?_, fun y g a e h => ?_⟩
  · have hschema := (run_rejected_iff he).1 (congrArg Prod.fst hrun)
    rw [outcome_run_of_error hschema] at hrun
    exact ⟨(congrArg Prod.snd hrun).symm, accesses_run_of_error hschema⟩
  · obtain ⟨hresult, haccesses⟩ := generateCommand_unsettled h
    refine ⟨hresult, ?_⟩
    rw [haccesses]
    exact Settings.within_load _ _ _ m

/-- A machine with a script that creates nothing, an output directory, and a settings file that is no
mapping. -/
def droppingScript : Machine where
  disk := (((Disk.withWorkingDirectory ["w"]).addDirectory ["output", "w"]).putFile
    "DROP TABLE a".toUTF8 ["t.sql", "w"]).putFile "- dialect".toUTF8 ["crudgen.yaml", "w"]
  environment := []

/-- The script of a run is rejected, and the command with the same script ends because of its
settings. -/
theorem rejected_untouched_dropping :
    (∃ after, outcome (run Sql.grammar "t.sql" {}) droppingScript =
        (.error (.extraction .notACreateTable), after) ∧ after = droppingScript ∧
      (run Sql.grammar "t.sql" {} : ExceptT RunError Watched _).run.accesses droppingScript =
        [.read "t.sql"]) ∧
    result (generateCommand Yaml.reader Sql.grammar { operand := some "t.sql" }) droppingScript =
        ({ ending := .exit 1
           errors := "Error: Configuration file must contain a YAML dictionary: crudgen.yaml\n" },
          droppingScript) ∧
      ∀ access ∈ (generateCommand Yaml.reader Sql.grammar { operand := some "t.sql" } :
          Watched _).accesses droppingScript,
        access = .look "crudgen.yaml" ∨ access = .read "crudgen.yaml" := by
  have hrun : (outcome (run Sql.grammar "t.sql" {}) droppingScript).1 =
      .error (.extraction .notACreateTable) := by
    decide +kernel
  have hload : (outcome (Settings.load Yaml.reader (settingsFile { operand := some "t.sql" })
      (overrides { operand := some "t.sql" })) droppingScript).1 =
        .error (.notAMapping "crudgen.yaml") := by
    decide +kernel
  obtain ⟨hrejected, hunsettled⟩ := rejected_untouched droppingScript
  obtain ⟨hresult, haccesses⟩ := hunsettled Yaml.reader Sql.grammar _ _ hload
  refine ⟨?_, hresult, haccesses⟩
  rcases hafter : outcome (run Sql.grammar "t.sql" {}) droppingScript with ⟨r, after⟩
  rw [hafter] at hrun
  subst hrun
  have hrejection : RunError.IsRejection (.extraction .notACreateTable) := rfl
  exact ⟨after, rfl, hrejected Sql.grammar "t.sql" {} _ after hrejection hafter⟩

end TableScaffold
