import Mathlib.Logic.Function.Basic
import TableScaffold.Proofs.Artifact.Content

/-!
# What an artifact depends on

Two schemas of one table name are compared. The paths and the plain artifacts show the table name only;
the transfer class and the request class also show what users see of their columns; the database model
also shows the first column of each name, the relations and the indexes. Nothing else of a schema
reaches an artifact, so schemas that agree on a part have the same artifacts for that part
(`artifacts_depend`).
-/

namespace TableScaffold

open Template

/-- What the classes for users show of a column. -/
def Column.userFacts (c : Column) : String × SemanticType × Bool :=
  (c.name, c.semanticType, c.isOptional)

/-- What the database model shows of a column. -/
def Column.modelFacts (c : Column) : String × PersistenceType × Bool × Option Int :=
  (c.name, c.persistenceType, c.isOptional, c.length)

/-- Users see the same of both schemas. -/
def TableSchema.UsersAgree (s t : TableSchema) : Prop :=
  s.userColumns.map Column.userFacts = t.userColumns.map Column.userFacts

/-- The database model shows the same of both schemas. -/
structure TableSchema.ModelsAgree (s t : TableSchema) : Prop where
  columns : (firstColumns s.columns).map Column.modelFacts =
    (firstColumns t.columns).map Column.modelFacts
  relations : s.relations = t.relations
  indexes : s.indexes = t.indexes

/-! ## Lines of a column -/

/-- Columns with the same facts have the same images under a function that uses the facts only. -/
theorem map_eq_of_factorsThrough {α β γ : Type} {facts : α → β} {f : α → γ}
    (hf : f.FactorsThrough facts) {xs ys : List α} (h : xs.map facts = ys.map facts) :
    xs.map f = ys.map f := by
  induction xs generalizing ys with
  | nil => rw [List.map_eq_nil_iff.1 h.symm]
  | cons x xs ih =>
    obtain ⟨y, ys, rfl, hx, hxs⟩ := List.map_eq_cons_iff.1 h.symm
    rw [List.map_cons, List.map_cons, hf hx.symm, ih hxs.symm]

variable {c d : Column}

theorem Column.propertyLine_congr (h : c.userFacts = d.userFacts) :
    c.propertyLine = d.propertyLine := by
  obtain ⟨hname, htype, hoptional⟩ : c.name = d.name ∧ c.semanticType = d.semanticType ∧
      c.isOptional = d.isOptional := by simpa [userFacts] using h
  simp only [propertyLine, optionalMark, hname, htype, hoptional]

theorem Column.requestLines_congr (h : c.userFacts = d.userFacts) :
    c.requestLines = d.requestLines := by
  obtain ⟨-, htype, hoptional⟩ : c.name = d.name ∧ c.semanticType = d.semanticType ∧
      c.isOptional = d.isOptional := by simpa [userFacts] using h
  simp only [requestLines, htype, hoptional, propertyLine_congr h]

theorem Column.modelLine_congr (h : c.modelFacts = d.modelFacts) : c.modelLine = d.modelLine := by
  obtain ⟨hname, htype, hoptional, hlength⟩ : c.name = d.name ∧
      c.persistenceType = d.persistenceType ∧ c.isOptional = d.isOptional ∧
        c.length = d.length := by simpa [modelFacts] using h
  simp only [modelLine, optionalMark, nativeMark, nativeType?, lengthType?, hname, htype, hoptional,
    hlength]

/-! ## Lines of an artifact -/

variable {s t : TableSchema}

theorem View.filledLines_congr (hname : s.tableName = t.tableName) (view : View) :
    view.filledLines s = view.filledLines t := by
  have hnames : s.names = t.names := congrArg Names.ofTable hname
  simp only [View.filledLines, hnames]

theorem TableSchema.dtoLines_congr (hname : s.tableName = t.tableName) (h : s.UsersAgree t) :
    s.dtoLines = t.dtoLines := by
  simp only [dtoLines, hname, map_eq_of_factorsThrough (fun _ _ => Column.propertyLine_congr) h]

theorem TableSchema.requestLines_congr (hname : s.tableName = t.tableName) (h : s.UsersAgree t) :
    s.requestLines = t.requestLines := by
  simp only [requestLines, hname, map_eq_of_factorsThrough (fun _ _ => Column.requestLines_congr) h]

theorem TableSchema.modelLines_congr (hname : s.tableName = t.tableName) (h : s.ModelsAgree t) :
    s.modelLines = t.modelLines := by
  have hcolumns := map_eq_of_factorsThrough (fun _ _ => Column.modelLine_congr) h.columns
  simp only [modelLines, hname, hcolumns, h.relations, h.indexes]

/-! ## Artifacts -/

/-- The contents of the artifacts of a view model. -/
def contentsOf (artifacts : List Artifact) (view : View) : List String :=
  (artifacts.filter (·.name == view.template)).map (·.content)

theorem contentsOf_made (s : TableSchema) (view : View) :
    contentsOf (View.layout.map (View.made s)) view = [textOf (view.contentLines s)] := by
  unfold contentsOf
  rw [filter_made]
  rfl

/-- Two schemas with the same table name have artifacts with the same names, at the same paths. The
plain ones have the same contents, whatever the columns, relations and indexes are. If users see the
same of both, so have the transfer class and the request class; if the database model shows the same
of both, so has the model. -/
theorem artifacts_depend (hname : s.tableName = t.tableName) (hs : s.Writable) (ht : t.Writable)
    (directory : String) :
    ∃ as bs,
      (generate s directory Library.bundled = .ok as ∧ generate s directory Library.written = .ok as) ∧
      (generate t directory Library.bundled = .ok bs ∧ generate t directory Library.written = .ok bs) ∧
      as.map (·.name) = bs.map (·.name) ∧
      as.map (·.path) = bs.map (·.path) ∧
      (∀ view ∈ View.plain, contentsOf as view = contentsOf bs view) ∧
      (s.UsersAgree t → contentsOf as .dto = contentsOf bs .dto ∧
        contentsOf as .request = contentsOf bs .request) ∧
      (s.ModelsAgree t → contentsOf as .persistenceModel = contentsOf bs .persistenceModel) := by
  refine ⟨View.layout.map (View.made s), View.layout.map (View.made t),
    ⟨generate_bundled_ok hs directory, generate_written_ok hs directory⟩,
    ⟨generate_bundled_ok ht directory, generate_written_ok ht directory⟩, ?_, ?_, ?_, ?_, ?_⟩
  · rw [List.map_map, List.map_map]
    rfl
  · have hpath : ∀ view, s.pathOf view = t.pathOf view := fun view =>
      congrArg (fun name => view.artifactPath (Names.ofTable name)) hname
    simp only [List.map_map, Function.comp_def, View.made, hpath]
  · intro view hview
    rw [contentsOf_made, contentsOf_made, View.contentLines_plain s hview,
      View.contentLines_plain t hview, View.filledLines_congr hname]
  · intro husers
    simp only [contentsOf_made, View.contentLines, TableSchema.dtoLines_congr hname husers,
      TableSchema.requestLines_congr hname husers, and_self]
  · intro hmodels
    simp only [contentsOf_made, View.contentLines, TableSchema.modelLines_congr hname hmodels]

/-- Users, with a name of bounded length and a column that records who made a row. -/
def shortUsers : TableSchema where
  tableName := "users"
  columns :=
    [⟨"name", "VARCHAR", .string, .string, false, some 40⟩,
     ⟨"createdBy", "CHAR", .string, .string, false, none⟩]

/-- The same users, with other type words, another type of the audit column for users, and a second
column of its name. -/
def longUsers : TableSchema where
  tableName := "users"
  columns :=
    [⟨"name", "TEXT", .string, .string, false, some 40⟩,
     ⟨"createdBy", "UUID", .unknown, .string, false, none⟩,
     ⟨"createdBy", "INT", .number, .int, true, some 7⟩]

/-- Two different schemas that agree on every part have the same artifacts. -/
theorem artifacts_depend_users :
    shortUsers ≠ longUsers ∧ shortUsers.tableName = longUsers.tableName ∧
      shortUsers.UsersAgree longUsers ∧ shortUsers.ModelsAgree longUsers ∧
      ∃ as bs, generate shortUsers bundledDirectory Library.bundled = .ok as ∧
        generate longUsers bundledDirectory Library.bundled = .ok bs ∧
        as.map (·.path) = bs.map (·.path) ∧
        contentsOf as .handler = contentsOf bs .handler ∧
        contentsOf as .dto = contentsOf bs .dto ∧ contentsOf as .request = contentsOf bs .request ∧
        contentsOf as .persistenceModel = contentsOf bs .persistenceModel := by
  have husers : shortUsers.UsersAgree longUsers := by unfold TableSchema.UsersAgree; decide
  have hmodels : shortUsers.ModelsAgree longUsers := ⟨by decide, rfl, rfl⟩
  have hshort : shortUsers.Writable := by unfold TableSchema.Writable; decide +kernel
  have hlong : longUsers.Writable := by unfold TableSchema.Writable; decide +kernel
  obtain ⟨as, bs, ⟨has, -⟩, ⟨hbs, -⟩, -, hpaths, hplain, hshown, hstored⟩ :=
    artifacts_depend (s := shortUsers) (t := longUsers) rfl hshort hlong bundledDirectory
  exact ⟨by decide, rfl, husers, hmodels, as, bs, has, hbs, hpaths, hplain .handler (by decide),
    (hshown husers).1, (hshown husers).2, hstored hmodels⟩

end TableScaffold
