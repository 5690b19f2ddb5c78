import TableScaffold.Proofs.Attempt
import TableScaffold.Proofs.Generation.Writing
import TableScaffold.Proofs.Template.Reading

/-!
# Rendering in turn

Each artifact is rendered when its turn has come, after the files of those before it have been written
to the disk on which the templates lie. `outcome_writeViews_layout`: if no template file is among the
targets, it comes to the same to render everything at the start and then to write it.

A template directory may be reachable only through directories that are made on the way. Therefore the
first artifact stands apart: before it nothing has been made, and once it is rendered, the directory is
known to be there.
-/

namespace TableScaffold

open OnMachine Template

variable {s : TableSchema} {source : TemplateSource} {root : Path} {m : Machine} {d d' d'' : Disk}
  {ts : List String}

/-! ## Templates on a disk -/

namespace TemplateSource

/-- The templates of a source, as they lie on a disk. -/
def library (source : TemplateSource) (d : Disk) : Library :=
  match source with
  | bundled => Library.bundled
  | directory _ => d.library source.shown

/-- The path of a template file, if it comes from the disk. -/
def filePath? (source : TemplateSource) (file : String) : Option String :=
  match source with
  | bundled => none
  | directory _ => Template.filePath? source.shown file

@[simp] theorem result_render (source : TemplateSource)
    (work : Library → Except RenderFault String) (m : Machine) :
    result (source.render work) m = (work (source.library m.disk), m) := by
  cases source <;> rfl

/-- No template file that work reads from a library lies where a target leads. -/
def Apart (source : TemplateSource) (library : Library)
    (work : Library → Except RenderFault String) (ts : List String) (d : Disk) : Prop :=
  ∀ file path, Reads library work file → source.filePath? file = some path →
    ∀ t ∈ ts, ¬ d.Joined path t

/-- A template stays what it is while files are written that lie elsewhere. -/
theorem library_eq (h : d.Grown ts d') (h' : d'.Grown ts d'') {known : String}
    (hknown : source.library d known ≠ .error .fileMissing) {file : String}
    (hapart : ∀ path, source.filePath? file = some path → ∀ t ∈ ts, ¬ d''.Joined path t) :
    source.library d' file = source.library d file := by
  cases source with
  | bundled => rfl
  | directory path =>
    refine Disk.library_eq_of_grown h (Path.sound_ofText path).text_ne_empty hknown ?_
    rintro p hp t ht ⟨l, hpl, htl⟩
    exact hapart p hp t ht ⟨l, h'.locate hpl, h'.locate htl⟩

end TemplateSource

/-! ## Artifacts on their own -/

/-- The artifact of a view model, rendered on its own. -/
def TableSchema.artifactOn (s : TableSchema) (source : TemplateSource) (d : Disk) (view : View) :
    Except GenerationError Artifact :=
  view.artifact s source.shown (view.render s (source.library d))

theorem View.artifact_ok {directory : String} {view : View} {text : Except RenderFault String}
    {a : Artifact} (h : view.artifact s directory text = .ok a) :
    a.path = s.pathOf view ∧ text = .ok a.content := by
  cases text with
  | error f => cases h
  | ok content =>
    cases h
    exact ⟨rfl, rfl⟩

theorem View.target_of_artifact {directory : String} {view : View} {text : Except RenderFault String}
    {a : Artifact} (h : view.artifact s directory text = .ok a) (root : Path) :
    a.target root = s.targetOf root view := by
  rw [Artifact.target, (View.artifact_ok h).1]
  rfl

/-- The file of a view model's artifact is among the targets of its schema. -/
theorem grown_writeArtifactOn {view : View} {a : Artifact} (h : s.artifactOn source d view = .ok a)
    (root : Path) (m : Machine) :
    Machine.Grown (s.targets root) m (outcome (writeArtifact root a) m).2 := by
  have hgrown := grown_writeArtifact root a m
  rw [View.target_of_artifact h root] at hgrown
  exact hgrown.mono (List.cons_subset.mpr ⟨s.targetOf_mem root view, List.nil_subset _⟩)

/-! ## Making artifacts beforehand -/

theorem View.nodup_layout : View.layout.Nodup := by decide

/-- View models and their artifacts, each rendered on its own. -/
abbrev TableSchema.Made (s : TableSchema) (source : TemplateSource) (d : Disk) :
    List View → List Artifact → Prop :=
  List.Forall₂ fun view a => s.artifactOn source d view = .ok a

namespace TableSchema.Made

variable {views rest : List View} {artifacts : List Artifact}

/-- What is made of the first view models comes before what is made of the other ones. -/
theorem artifactsOf_append (h : s.Made source d views artifacts) (rest : List View) :
    artifactsOf s source.shown (source.library d) (views ++ rest) =
      (artifacts ++ (artifactsOf s source.shown (source.library d) rest).1,
        (artifactsOf s source.shown (source.library d) rest).2) := by
  induction h with
  | nil => rfl
  | cons hview _ ih =>
    rw [List.cons_append, artifactsOf]
    unfold artifactOn at hview
    rw [hview]
    dsimp only
    rw [ih]
    rfl

/-- Where the artifacts go. -/
theorem targets_eq (h : s.Made source d views artifacts) (root : Path) :
    artifacts.map (Artifact.target root) = views.map (s.targetOf root) := by
  induction h with
  | nil => rfl
  | cons hview _ ih => rw [List.map_cons, List.map_cons, View.target_of_artifact hview root, ih]

theorem texts_eq (h : s.Made source d views artifacts) (root : Path) :
    artifacts.map (fun a => (a.target root).text) =
      views.map fun u => (s.targetOf root u).text := by
  have htargets := congrArg (List.map Path.text) (h.targets_eq root)
  rwa [List.map_map, List.map_map] at htargets

theorem exists_mem (h : s.Made source d views artifacts) {view : View} (hview : view ∈ views) :
    ∃ a ∈ artifacts, s.artifactOn source d view = .ok a :=
  exists_of_forall₂ h hview

/-- The artifacts of different view models have their files at different places. -/
theorem apart (h : s.Made source d views artifacts) (hviews : views.Nodup) (hroot : root.Sound) :
    artifacts.Pairwise fun a b => ∀ d : Disk,
      ¬ d.Joined (a.target root).text (b.target root).text := by
  have htargets := s.pairwise_targets hroot hviews
  rw [← h.texts_eq root] at htargets
  exact List.pairwise_map.mp htargets

end TableSchema.Made

/-! ## Writing in turn -/

theorem outcome_writeViews_cons (s : TableSchema) (source : TemplateSource) (root : Path)
    (view : View) (rest : List View) (m : Machine) :
    outcome (writeViews s source root (view :: rest)) m =
      match s.artifactOn source m.disk view with
      | .error e => (.error (.generation e), m)
      | .ok a =>
        match outcome (writeArtifact root a) m with
        | (.error e, m') => (.error e, m')
        | (.ok t, m') =>
          match outcome (writeViews s source root rest) m' with
          | (.error e, m'') => (.error e, m'')
          | (.ok ts, m'') => (.ok (t :: ts), m'') := by
  rw [writeViews, outcome_liftM_bind, TemplateSource.result_render]
  show outcome (match s.artifactOn source m.disk view with
    | .error e => _
    | .ok a => _) m = _
  cases s.artifactOn source m.disk view with
  | error e => rfl
  | ok a =>
    dsimp only
    rw [outcome_bind]
    rcases outcome (writeArtifact root a) m with ⟨e | t, m'⟩
    · rfl
    · dsimp only
      rw [outcome_bind]
      rcases outcome (writeViews s source root rest) m' with ⟨e | ts, m''⟩ <;> rfl

/-- Whatever happens, only the files of the artifacts are touched. -/
theorem grown_writeViews (s : TableSchema) (source : TemplateSource) (root : Path)
    (views : List View) (m : Machine) :
    Machine.Grown (s.targets root) m (outcome (writeViews s source root views) m).2 := by
  induction views generalizing m with
  | nil => exact .refl _ m
  | cons view rest ih =>
    rw [outcome_writeViews_cons]
    cases hmade : s.artifactOn source m.disk view with
    | error e => exact .refl _ m
    | ok a =>
      have hone := grown_writeArtifactOn hmade root m
      revert hone
      dsimp only
      rcases outcome (writeArtifact root a) m with ⟨e | t, m'⟩ <;> intro hone
      · exact hone
      · have hrest := ih m'
        revert hrest
        dsimp only
        rcases outcome (writeViews s source root rest) m' with ⟨e | us, m''⟩ <;> intro hrest <;>
          exact hone.comp hrest

/-- Writes artifacts that were made beforehand, and then fails if not all could be made. -/
def writeMade {m : Type → Type} [Monad m] [Host m] (root : Path)
    (made : List Artifact × Option GenerationError) : ExceptT RunError m (List String) := do
  let ts ← writeArtifacts root made.1
  match made.2 with
  | none => return ts
  | some e => throw (.generation e)

theorem outcome_writeMade (root : Path) (made : List Artifact × Option GenerationError)
    (m : Machine) :
    outcome (writeMade root made) m =
      match outcome (writeArtifacts root made.1) m with
      | (.error e, m') => (.error e, m')
      | (.ok ts, m') =>
        match made.2 with
        | none => (.ok ts, m')
        | some e => (.error (.generation e), m') := by
  rw [writeMade, outcome_bind]
  rcases outcome (writeArtifacts root made.1) m with ⟨e | ts, m'⟩
  · rfl
  · cases made.2 <;> rfl

/-- Rendering in turn is rendering beforehand, over a library that renders each view model like the
templates that lie on the disk at the time. -/
theorem outcome_writeViews_eq {views : List View} {library : Library}
    (hsame : ∀ view ∈ views, ∀ d : Disk, m.disk.Grown (s.targets root) d →
      d.Grown (s.targets root) (outcome (writeViews s source root views) m).2.disk →
      view.render s (source.library d) = view.render s library) :
    outcome (writeViews s source root views) m =
      outcome (writeMade root (artifactsOf s source.shown library views)) m := by
  induction views generalizing m with
  | nil => rfl
  | cons view rest ih =>
    have hrender : s.artifactOn source m.disk view =
        view.artifact s source.shown (view.render s library) :=
      congrArg _ (hsame view List.mem_cons_self m.disk (.refl _ _)
        (grown_writeViews s source root _ m).disk)
    rw [outcome_writeMade, artifactsOf, ← hrender]
    rw [outcome_writeViews_cons] at hsame ⊢
    cases hmade : s.artifactOn source m.disk view with
    | error e => rfl
    | ok a =>
      rw [hmade] at hsame
      have hone := grown_writeArtifactOn hmade root m
      dsimp only at hsame ⊢
      rw [outcome_writeArtifacts_cons]
      revert hsame hone
      rcases outcome (writeArtifact root a) m with ⟨e | t, m'⟩ <;> intro hsame hone
      · rfl
      dsimp only at hsame ⊢
      have hrest := ih (m := m') fun v hv d hd hd' => by
        refine hsame v (List.mem_cons_of_mem _ hv) d (hone.disk.comp hd) ?_
        revert hd'
        rcases outcome (writeViews s source root rest) m' with ⟨e | us, m''⟩ <;> exact id
      rw [hrest, outcome_writeMade]
      rcases outcome (writeArtifacts root (artifactsOf s source.shown library rest).1) m' with
        ⟨e | us, m''⟩
      · rfl
      · cases (artifactsOf s source.shown library rest).2 <;> rfl

/-- Rendering in turn is rendering at the start, if no template file is among the targets. -/
theorem outcome_writeViews_layout
    (hapart : ∀ view : View, source.Apart (source.library m.disk) (view.render s) (s.targets root)
      (outcome (writeViews s source root View.layout) m).2.disk) :
    outcome (writeViews s source root View.layout) m =
      outcome (writeMade root (artifactsOf s source.shown (source.library m.disk) View.layout)) m := by
  by_cases hknown : source.library m.disk View.persistenceModel.templateFile = .error .fileMissing
  · -- the first artifact fails at once
    obtain ⟨f, hfails⟩ := View.exists_render_error hknown s
    rw [View.layout, outcome_writeViews_cons, TableSchema.artifactOn, artifactsOf, hfails]
    rfl
  · refine outcome_writeViews_eq fun view _ d hd hd' => ?_
    refine (View.tracked_render s view).congr _ _ fun file hreads => ?_
    exact TemplateSource.library_eq hd hd' hknown fun path hpath => hapart view file path hreads hpath

end TableScaffold
