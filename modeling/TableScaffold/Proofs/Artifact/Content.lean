import TableScaffold.Proofs.Artifact.Fields

/-!
# The contents of the artifacts

Every artifact of a schema is a list of lines. Those of a plain template are the lines of its text
with their slots filled; the transfer class, the request class and the database model have the lines
of their own. Rendering gives exactly these lines, whatever the schema holds, so generation gives all
artifacts. It fails only where the database model cannot be built, because it tells a length that has too
many digits.
-/

namespace TableScaffold

open Template

namespace View

/-- The lines of a plain template with what stands in its slots. -/
def filledLines (s : TableSchema) (view : View) : List String :=
  view.lines.map (fill (view.slotText s.names))

/-- The lines of an artifact. -/
def contentLines (s : TableSchema) : View → List String
  | dto => s.dtoLines
  | request => s.requestLines
  | persistenceModel => s.modelLines
  | view => view.filledLines s

theorem contentLines_plain (s : TableSchema) {view : View} (h : view ∈ plain) :
    view.contentLines s = view.filledLines s := by
  simp only [plain, List.mem_cons, List.not_mem_nil, or_false] at h
  rcases h with rfl | rfl | rfl | rfl | rfl | rfl | rfl | rfl <;> rfl

/-! ## Building -/

/-- Only the database model may be missing. -/
theorem build?_eq {s : TableSchema} {view : View} (h : view = persistenceModel → s.hasModel = true) :
    view.build? s = some (view.build s) := by
  unfold build?
  rw [if_neg]
  intro hmissing
  simp only [Bool.and_eq_true, decide_eq_true_eq, Bool.not_eq_true'] at hmissing
  exact absurd (h hmissing.1) (by simp [hmissing.2])

end View

/-- Every column has a length of at most 4300 digits, if it has one. -/
def TableSchema.Writable (s : TableSchema) : Prop :=
  ∀ c ∈ s.columns, ∀ n ∈ c.length, n.natAbs < Nat.pow 10 Decimal.digitLimit

theorem Column.isAnnotated_of_length {c : Column}
    (h : ∀ n ∈ c.length, n.natAbs < Nat.pow 10 Decimal.digitLimit) : c.isAnnotated = true := by
  unfold isAnnotated
  split
  · next n _ _ hn => exact decide_eq_true (h n hn)
  · rfl

/-- Lengths of at most 4300 digits can be told. -/
theorem TableSchema.Writable.hasModel {s : TableSchema} (h : s.Writable) : s.hasModel = true := by
  refine List.all_eq_true.mpr fun c hc => Column.isAnnotated_of_length (h c ?_)
  rw [uniqueColumns_eq] at hc
  obtain ⟨n, -, hn⟩ := List.mem_filterMap.mp hc
  exact List.mem_of_find?_eq_some hn

namespace View

/-! ## Rendering -/

theorem find_scope {s : TableSchema} {view : View} (h : view ∈ plain) {n : String}
    (hn : n ∈ view.keys) :
    (view.scope s).find n = .value (.str (view.slotText s.names n)) := by
  unfold scope
  rw [build_plain s h, List.map_map]
  exact Scope.find_map (fun n => .value (.str (view.slotText _ n))) hn

/-- A plain template renders to the lines of its text with their slots filled. -/
theorem renders_plain (s : TableSchema) {view : View} (h : view ∈ plain) (embedding : Embedding) :
    Renders embedding (view.scope s) view.bundled (textOf (view.filledLines s)) := by
  have plainBody := plain_bundled h
  unfold filledLines
  rw [textOf_fill]
  refine plainBody.renders fun name filter hmem => ?_
  exact find_scope h (view.reads_bundled name (plainBody.mem_reads hmem))

theorem renders_bundled (s : TableSchema) (view : View) (embedding : Embedding) :
    Renders embedding (view.scope s) view.bundled (textOf (view.contentLines s)) := by
  cases view with
  | dto => exact renders_dto s embedding
  | request => exact renders_request s embedding
  | persistenceModel => exact renders_persistenceModel s embedding
  | _ => exact renders_plain s (by decide) embedding

theorem render_bundled {s : TableSchema} {view : View}
    (h : view = persistenceModel → s.hasModel = true) :
    view.render s Library.bundled = .ok (textOf (view.contentLines s)) := by
  have noSelf : ((view.build s).lookup "self").isSome = false := by cases view <;> rfl
  unfold render
  rw [build?_eq h]
  dsimp only
  unfold Library.renderView
  rw [if_neg (by simp [noSelf])]
  show Library.renderFile _ (99 + 1) (view.scope s) _ = _
  unfold Library.renderFile
  rw [Library.bundled_templateFile]
  show (view.bundled.render _ _).map (·.1) = _
  rw [renders_bundled s view]
  rfl

end View

/-! ## Generation -/

/-- The artifact that the lines of a view model make. -/
def View.made (s : TableSchema) (view : View) : Artifact :=
  ⟨view.template, s.pathOf view, textOf (view.contentLines s)⟩

/-- The error of generation where the database model cannot be built. -/
def TableSchema.unmodelled (s : TableSchema) (directory : String) : GenerationError :=
  .notMade (s.pathOf .persistenceModel) (.fault .persistenceModel directory .tooLong)

/-- The artifacts of a schema over some templates. Generation gives all of them, unless the database model,
which comes first, cannot be built. The others are made in any case, without it. -/
structure TableSchema.Generates (s : TableSchema) (directory : String) (library : Library)
    (artifacts : List Artifact) : Prop where
  outcome : generate s directory library =
    if s.hasModel then .ok artifacts else .error (s.unmodelled directory)
  others : artifactsOf s directory library View.layout.tail = (artifacts.tail, none)

theorem View.artifact_bundled {s : TableSchema} {view : View}
    (h : view = persistenceModel → s.hasModel = true) (directory : String) :
    view.artifact s directory (view.render s Library.bundled) = .ok (view.made s) := by
  rw [View.render_bundled h]
  rfl

theorem artifactsOf_bundled {s : TableSchema} {views : List View}
    (h : .persistenceModel ∈ views → s.hasModel = true) (directory : String) :
    artifactsOf s directory Library.bundled views = (views.map (View.made s), none) := by
  induction views with
  | nil => rfl
  | cons view views ih =>
    have hview : view = .persistenceModel → s.hasModel = true := by
      rintro rfl
      exact h List.mem_cons_self
    unfold artifactsOf
    rw [View.artifact_bundled hview, ih fun hmem => h (List.mem_cons_of_mem view hmem)]
    rfl

/-- The database model comes first, so without it there is nothing. -/
theorem generate_unmodelled {s : TableSchema} (hs : s.hasModel = false) (directory : String)
    (library : Library) : generate s directory library = .error (s.unmodelled directory) := by
  have hbuild : View.persistenceModel.build? s = none := by simp [View.build?, hs]
  unfold generate View.layout
  rw [List.mapM_cons]
  unfold View.render
  rw [hbuild]
  rfl

/-- All artifacts are generated, or the database model cannot be built. -/
theorem generate_bundled (s : TableSchema) (directory : String) :
    generate s directory Library.bundled =
      if s.hasModel then .ok (View.layout.map (View.made s)) else .error (s.unmodelled directory) := by
  cases hs : s.hasModel with
  | true =>
    unfold generate
    simp only [View.artifact_bundled fun _ => hs]
    rfl
  | false => exact generate_unmodelled hs directory Library.bundled

theorem generates_bundled (s : TableSchema) (directory : String) :
    s.Generates directory Library.bundled (View.layout.map (View.made s)) :=
  have hothers : .persistenceModel ∉ View.layout.tail := by decide
  ⟨generate_bundled s directory, artifactsOf_bundled (fun h => absurd h hothers) directory⟩

theorem generates_written (s : TableSchema) (directory : String) :
    s.Generates directory Library.written (View.layout.map (View.made s)) := by
  obtain ⟨houtcome, hothers⟩ := generates_bundled s directory
  exact ⟨(generate_written s directory).trans houtcome,
    (artifactsOf_written s directory View.layout.tail).trans hothers⟩

theorem filter_made (s : TableSchema) (view : View) :
    ((View.layout.map (View.made s)).filter (·.name == view.template)) = [view.made s] := by
  cases view <;> rfl

theorem contents_made (s : TableSchema) (view : View) :
    ((View.layout.map (View.made s)).filter (·.name == view.template)).map (·.content) =
      [textOf (view.contentLines s)] := by
  rw [filter_made]
  rfl

section

variable {s : TableSchema}

theorem generate_bundled_ok (hs : s.Writable) (directory : String) :
    generate s directory Library.bundled = .ok (View.layout.map (View.made s)) := by
  rw [generate_bundled, if_pos hs.hasModel]

theorem generate_written_ok (hs : s.Writable) (directory : String) :
    generate s directory Library.written = .ok (View.layout.map (View.made s)) := by
  rw [generate_written, generate_bundled_ok hs]

end

/-- Generation over the bundled templates never fails, and no template reads a name that its view
model lacks. It gives one artifact for each entry of the layout, in order and at its path. The
content of a plain template is its text, line for line, with the derived names in its slots. -/
theorem generate_complete {s : TableSchema} (hs : s.Writable) (directory : String) :
    (∀ view ∈ View.layout, ∀ n ∈ view.bundled.reads, n ∈ (view.build s).map (·.1)) ∧
    ∃ artifacts,
      generate s directory Library.bundled = .ok artifacts ∧
      generate s directory Library.written = .ok artifacts ∧
      artifactsOf s directory Library.bundled View.layout = (artifacts, none) ∧
      artifacts.map (·.name) =
        ["prisma-model", "dto", "handler", "controller", "dbservice", "response", "listresponse",
         "notfound-error", "constants", "module", "request"] ∧
      artifacts.map (·.path) = s.artifactPaths ∧
      ∀ view ∈ View.plain,
        (artifacts.filter (·.name == view.template)).map (·.content) =
          [textOf (view.lines.map (fill (view.slotText s.names)))] := by
  refine ⟨fun view _ n hn => ?_, View.layout.map (View.made s), generate_bundled_ok hs directory,
    generate_written_ok hs directory, artifactsOf_bundled (fun _ => hs.hasModel) directory, rfl, ?_,
    fun view h => ?_⟩
  · rw [View.keys_build]
    exact view.reads_bundled n hn
  · rw [List.map_map]
    rfl
  · rw [filter_made]
    exact congrArg (fun lines => [textOf lines]) (View.contentLines_plain s h)

/-- A table whose name looks like a slot, with a name of bounded length. -/
def slotNamed : TableSchema where
  tableName := "\x7b\x7b model \x7d\x7ds"
  columns :=
    [⟨"id", "CHAR", .string, .string, false, some 36⟩,
     ⟨"name", "VARCHAR", .string, .string, true, some 40⟩]

theorem slotNamed_writable : slotNamed.Writable := by
  unfold TableSchema.Writable
  decide +kernel

/-- What looks like a slot in a table name is left as it is. -/
theorem generate_complete_slotNamed :
    ∃ artifacts, generate slotNamed bundledDirectory Library.bundled = .ok artifacts ∧
      artifacts.length = 11 ∧
      (artifacts.filter (·.name == "constants")).map (·.content) =
        [textOf ["export const \x7b\x7b MODEL \x7d\x7d_NOT_FOUND = '\x7b\x7b MODEL \x7d\x7d_NOT_FOUND';"]] := by
  obtain ⟨-, artifacts, hartifacts, -, -, hnames, -, hcontents⟩ :=
    generate_complete slotNamed_writable bundledDirectory
  have hlines : View.constants.lines.map (fill (View.constants.slotText slotNamed.names)) =
      ["export const \x7b\x7b MODEL \x7d\x7d_NOT_FOUND = '\x7b\x7b MODEL \x7d\x7d_NOT_FOUND';"] := by
    decide +kernel
  refine ⟨artifacts, hartifacts, ?_, ?_⟩
  · rw [← List.length_map (·.name), hnames]
    rfl
  · exact (hcontents .constants (by decide)).trans (by rw [hlines])

/-! ## The database model -/

/-- One artifact holds the database model. -/
theorem exists_persistenceModel (s : TableSchema) (directory : String) :
    ∃ artifacts, s.Generates directory Library.bundled artifacts ∧
      (artifacts.filter (·.name == "prisma-model")).map (·.content) = [textOf s.modelLines] :=
  ⟨View.layout.map (View.made s), generates_bundled s directory,
    congrArg (List.map (·.content)) (filter_made s .persistenceModel)⟩

/-- The database model has exactly its lines: no other line, and none of them blank. -/
theorem generate_model {s : TableSchema} (hs : s.Writable) (directory : String) :
    ∃ artifacts,
      generate s directory Library.bundled = .ok artifacts ∧
      generate s directory Library.written = .ok artifacts ∧
      (artifacts.filter (·.name == "prisma-model")).map (·.content) = [textOf s.modelLines] ∧
      ∀ line ∈ s.modelLines, ∃ c ∈ line.toList, Text.isBlank c = false := by
  refine ⟨View.layout.map (View.made s), generate_bundled_ok hs directory,
    generate_written_ok hs directory, ?_, s.modelLines_visible⟩
  exact congrArg (List.map (·.content)) (filter_made s .persistenceModel)

/-- An id is a key whatever its length, and another text tells how long it may be. -/
theorem generate_model_slotNamed :
    ∃ artifacts, generate slotNamed bundledDirectory Library.bundled = .ok artifacts ∧
      (artifacts.filter (·.name == "prisma-model")).map (·.content) =
        [textOf ["model \x7b\x7b model \x7d\x7ds \x7b", "  id String @id @db.Uuid",
          "  name String? @db.VarChar(40)", "\x7d"]] := by
  obtain ⟨artifacts, hartifacts, -, hmodel, -⟩ := generate_model slotNamed_writable bundledDirectory
  have hlines : slotNamed.modelLines = ["model \x7b\x7b model \x7d\x7ds \x7b",
      "  id String @id @db.Uuid", "  name String? @db.VarChar(40)", "\x7d"] := by
    decide +kernel
  exact ⟨artifacts, hartifacts, hmodel.trans (by rw [hlines])⟩

end TableScaffold
