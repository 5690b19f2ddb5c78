import TableScaffold.Extraction
import TableScaffold.Proofs.Definition.Tree
import TableScaffold.Sql.Script

/-!
# From the entries of a statement to its schema

`extract_create`: if the entries of the one statement of a script can be written out, and the trees
are read as definitions without a notice, then the script has the schema of these definitions.
-/

namespace TableScaffold.Sql

/-- What a tree reader makes of an entry, if the entry can be written out as a tree. -/
def Entry.definition? (e : Entry) : Except TreeError (Attempt TreeFault Definition) :=
  e.tree.map Tree.definition

/-- The definitions of trees that are read one by one. -/
theorem mapM_tree {es : List Entry} {ds : List Definition}
    (h : es.map Entry.definition? = ds.map fun d => .ok (pure d)) :
    ∃ vs, es.mapM Entry.tree = .ok vs ∧ Tree.definitions vs = pure ds := by
  induction es generalizing ds with
  | nil =>
    cases ds with
    | nil => exact ⟨[], rfl, rfl⟩
    | cons => exact absurd h (by simp)
  | cons e es ih =>
    cases ds with
    | nil => exact absurd h (by simp)
    | cons d ds =>
      obtain ⟨he, hes⟩ := List.cons.inj h
      obtain ⟨vs, hvs, hds⟩ := ih hes
      unfold Entry.definition? at he
      cases hv : e.tree with
      | error => rw [hv] at he; exact absurd he (by simp [Except.map])
      | ok v =>
        rw [hv] at he
        have hd : Tree.definition v = pure d := Except.ok.inj he
        refine ⟨v :: vs, ?_, ?_⟩
        · rw [List.mapM_cons, hv, hvs]
          rfl
        · simp [Tree.definitions, hd, hds]

/-- The tree of a statement that creates a table, given those of its entries. -/
def tableTree (name : String) (vs : List Value) : Value :=
  .map
    [("type", .str "create"), ("keyword", .str "table"),
     ("table", tableList (some ⟨none, name⟩)), ("create_definitions", .list vs)]

theorem statement_tableTree (name : String) {vs : List Value} {ds : List Definition}
    (hvs : Tree.definitions vs = pure ds) :
    Tree.statement (tableTree name vs) = pure ⟨some "create", some "table", some name, ds⟩ := by
  have hlower : Text.lower "create" = "create" := by decide +kernel
  have hcreate : Tree.isCreate (.str "create") = .ok true := by simp [Tree.isCreate, hlower]
  have hentries : Tree.entries (.list vs) = .ok vs := by
    cases vs <;> rfl
  have htype : (tableTree name vs).field "type" = .str "create" := rfl
  have hlist : (tableTree name vs).field "create_definitions" = .list vs := rfl
  unfold Tree.statement
  simp only [htype, hlist, hcreate, hentries, hvs, Attempt.ofExcept_ok, pure_bind, if_true]
  rfl

theorem extract_tableTree (name : String) {vs : List Value} {ds : List Definition} {s : TableSchema}
    (hvs : Tree.definitions vs = pure ds) (hs : Extraction.schema (some name) ds = pure s) :
    extract (.list [tableTree name vs]) = pure s := by
  have hlower : Text.lower "create" = "create" ∧ Text.lower "table" = "table" := by decide +kernel
  have hcreate : CreateStatement.isCreateTable
      ⟨some "create", some "table", some name, ds⟩ = true := by
    simp [CreateStatement.isCreateTable, hlower]
  have hadapt : ExceptT.adapt ExtractionError.badTree (Tree.statement (tableTree name vs)) =
      pure ⟨some "create", some "table", some name, ds⟩ := by
    rw [statement_tableTree name hvs]
    rfl
  show Extraction.ofStatement (tableTree name vs) = _
  unfold Extraction.ofStatement
  rw [hadapt, pure_bind, if_pos hcreate, hs]
  rfl

variable {d : Dialect} {text name : String} {es : List Entry}

theorem trees_create {vs : List Value}
    (hparse : parse d text = some [.create "table" (some ⟨none, name⟩) es])
    (hvs : es.mapM Entry.tree = .ok vs) : trees d text = pure [tableTree name vs] := by
  have htree : Statement.tree (.create "table" (some ⟨none, name⟩) es) = .ok (tableTree name vs) := by
    unfold Statement.tree
    simp only [hvs]
    rfl
  unfold trees Grammar.trees grammar
  simp only [hparse, treesOf, htree, Attempt.ofExcept_ok, pure_bind]
  rfl

/-- A script that creates one table has the schema of its definitions: no notice is made and nothing
fails. -/
theorem extract_create {ds : List Definition} {s : TableSchema}
    (hparse : parse d text = some [.create "table" (some ⟨none, name⟩) es])
    (hes : es.map Entry.definition? = ds.map fun d => .ok (pure d))
    (hs : Extraction.schema (some name) ds = pure s) :
    ∃ tree, trees d text = pure [tree] ∧ extract (.list [tree]) = pure s := by
  obtain ⟨vs, hvs, hds⟩ := mapM_tree hes
  exact ⟨tableTree name vs, trees_create hparse hvs, extract_tableTree name hds hs⟩

end TableScaffold.Sql
