import TableScaffold.CommandLine
import TableScaffold.Proofs.Host.Watched

/-!
# Watched runs

Loading settings, a run and the command do the same whether they are watched or not
(`work_generateCommand`), so what is recorded of watched work is what a machine is asked for. Of these
only a run makes or writes anything: loading settings looks at the settings file and reads it.
-/

namespace TableScaffold

open OnMachine Watched

/-! ## Settings -/

namespace Settings

/-- The file that settings come from: the one that is asked for, or the usual one. -/
def filePath (file : Option String) : String := (file.filter (· != "")).getD usualFile

/-- What may be done to a settings file. -/
def Loads (path : String) (access : Access) : Prop := access = .look path ∨ access = .read path

theorem work_loadFile (y : Yaml.Reader) (path : String) :
    workT (loadFile y path : ExceptT SettingsError Watched _) = loadFile y path := by
  refine workT_next rfl fun isThere => ?_
  cases isThere with
  | false => rfl
  | true =>
    refine workT_next rfl fun r => ?_
    cases r with
    | error f => rfl
    | ok content =>
      refine workT_step rfl fun entries => workT_next rfl fun _ => ?_
      cases fieldsOf? entries <;> rfl

theorem work_loadEnvironment (names : List (String × String)) :
    (loadEnvironment names : Watched _).work = loadEnvironment names := by
  induction names with
  | nil => rfl
  | cons entry rest ih =>
    obtain ⟨name, key⟩ := entry
    refine work_step rfl fun value => work_step ih fun fields => ?_
    cases value <;> rfl

theorem work_source (y : Yaml.Reader) (file : Option String) :
    workT (source y file : ExceptT SettingsError Watched _) = source y file := by
  unfold source
  cases file.filter (· != "") with
  | some path => exact work_loadFile y path
  | none =>
    refine workT_next rfl fun isThere => ?_
    cases isThere with
    | true => exact work_loadFile y usualFile
    | false =>
      refine workT_next (work_loadEnvironment _) fun fields => ?_
      cases fields.isEmpty <;> rfl

theorem work_load (y : Yaml.Reader) (file : Option String) (overrides : List (String × Value)) :
    workT (load y file overrides : ExceptT SettingsError Watched _) = load y file overrides :=
  workT_step (work_source y file) fun _ => rfl

theorem within_loadFile (y : Yaml.Reader) (path : String) :
    Within (Loads path) (loadFile y path : ExceptT SettingsError Watched _).run := by
  refine .liftM_bind (.making (.inl rfl) _) fun isThere => ?_
  cases isThere with
  | false => exact .throw _
  | true =>
    refine .liftM_bind (.making (.inr rfl) _) fun r => ?_
    cases r with
    | error f => exact .throw _
    | ok content =>
      refine .bindT (.quiet _) fun entries => .liftM_bind (.quiet _) fun _ => ?_
      cases fieldsOf? entries with
      | some fields => exact .pure _
      | none => exact .throw _

theorem within_loadEnvironment (P : Access → Prop) (names : List (String × String)) :
    Within P (loadEnvironment names) := by
  induction names with
  | nil => exact .pure _
  | cons entry rest ih =>
    obtain ⟨name, key⟩ := entry
    refine .bind (.quiet _) fun value => .bind ih fun fields => ?_
    cases value <;> exact .pure _

theorem within_source (y : Yaml.Reader) (file : Option String) :
    Within (Loads (filePath file)) (source y file : ExceptT SettingsError Watched _).run := by
  unfold source filePath
  cases file.filter (· != "") with
  | some path => exact within_loadFile y path
  | none =>
    refine .liftM_bind (.making (.inl rfl) _) fun isThere => ?_
    cases isThere with
    | true => exact within_loadFile y usualFile
    | false =>
      refine .liftM_bind (within_loadEnvironment _ _) fun fields => ?_
      cases fields.isEmpty with
      | true => exact .pure _
      | false => exact .liftM_bind (.quiet _) fun _ => .pure _

/-- Nothing is done to any file but the one that settings come from. -/
theorem within_load (y : Yaml.Reader) (file : Option String) (overrides : List (String × Value)) :
    Within (Loads (filePath file)) (load y file overrides : ExceptT SettingsError Watched _).run :=
  .bindT (within_source y file) fun _ => .quiet _

end Settings

/-! ## Runs -/

theorem work_attempt {ε α : Type} (x : Attempt ε α) :
    (Host.attempt x : Watched _).work = Host.attempt x := by
  have hnotices : ∀ notices : List Notice,
      (notices.forM Host.note : Watched Unit).work = notices.forM Host.note := by
    intro notices
    induction notices with
    | nil => rfl
    | cons n notices ih => exact work_step rfl fun _ => ih
  exact work_step (hnotices x.notices) fun _ => rfl

theorem work_readScript (path : String) :
    workT (readScript path : ExceptT RunError Watched _) = readScript path := by
  refine workT_next rfl fun r => ?_
  cases r with
  | error f => rfl
  | ok content =>
    dsimp only
    cases scriptText? content <;> rfl

theorem work_settleDirectory (path : String) :
    (Host.settleDirectory path : Watched _).work = Host.settleDirectory path := by
  refine work_step rfl fun r => ?_
  cases r <;> rfl

theorem work_settlePath (root : String) (names : List String) :
    (Host.settlePath root names : Watched _).work = Host.settlePath root names := by
  induction names with
  | nil => exact work_step (work_settleDirectory _) fun _ => rfl
  | cons name parents ih =>
    refine work_step rfl fun r => ?_
    cases r with
    | ok => rfl
    | error f =>
      cases f with
      | notFound =>
        refine work_step ih fun above => ?_
        cases above with
        | ok => exact work_step (work_settleDirectory _) fun _ => rfl
        | error e => rfl
      | _ => rfl

theorem work_makeOutputDirectories (root : Path) (names : List String) :
    (makeOutputDirectories root names : Watched _).work = makeOutputDirectories root names := by
  induction names with
  | nil => rfl
  | cons name rest ih =>
    refine work_step (work_settlePath _ _) fun r => ?_
    cases r with
    | ok => exact ih
    | error e => rfl

theorem work_writeArtifact (root : Path) (a : Artifact) :
    workT (writeArtifact root a : ExceptT RunError Watched _) = writeArtifact root a := by
  refine workT_next (work_settlePath _ _) fun r => ?_
  cases r with
  | error e => rfl
  | ok =>
    refine workT_next rfl fun r => ?_
    cases r <;> rfl

theorem work_render (source : TemplateSource)
    (render : Template.Library → Except Template.RenderFault String) :
    (source.render render : Watched _).work = source.render render := by
  cases source <;> rfl

theorem work_writeViews (s : TableSchema) (source : TemplateSource) (root : Path)
    (views : List View) :
    workT (writeViews s source root views : ExceptT RunError Watched _) =
      writeViews s source root views := by
  induction views with
  | nil => rfl
  | cons view rest ih =>
    refine workT_next (work_render _ _) fun text => ?_
    cases view.artifact s source.shown text with
    | error e => rfl
    | ok a => exact workT_step (work_writeArtifact root a) fun _ => workT_step ih fun _ => rfl

theorem work_run (g : Sql.Grammar) (scriptPath : String) (settings : Settings) :
    workT (run g scriptPath settings : ExceptT RunError Watched _) = run g scriptPath settings := by
  refine workT_step (work_readScript scriptPath) fun script => ?_
  refine workT_step (congrArg ExceptT.mk (work_attempt _)) fun s => ?_
  refine workT_next rfl fun _ => workT_next rfl fun _ => ?_
  refine workT_next (work_makeOutputDirectories _ _) fun r => ?_
  cases r with
  | error e => rfl
  | ok => exact workT_step (work_writeViews _ _ _ _) fun _ => rfl

/-- The command does the same if it is watched. -/
theorem work_generateCommand (y : Yaml.Reader) (g : Sql.Grammar) (a : CommandLine.Arguments) :
    (CommandLine.generateCommand y g a : Watched _).work = CommandLine.generateCommand y g a := by
  refine work_step (Settings.work_load _ _ _) fun r => ?_
  cases r with
  | error e => rfl
  | ok settings =>
    refine work_step (work_run _ _ _) fun r => ?_
    cases r <;> rfl

end TableScaffold
