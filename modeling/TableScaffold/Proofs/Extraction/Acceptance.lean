import TableScaffold.Proofs.Definition.Tree
import TableScaffold.Proofs.Extraction.Accounts
import TableScaffold.Proofs.Sql.Convert
import TableScaffold.Proofs.Sql.Kinds
import TableScaffold.Proofs.Text.Ascii

/-!
# Every tree of a script is accepted

Extraction reads whatever a script is written out as: the trees of a script give a schema, or they are
refused because the first of them creates no table (`extract_trees_iff`). Only the type and the keyword
of the first tree decide which.
-/

namespace TableScaffold

/-- A tree says that it creates a table; an empty keyword stands for `table`. -/
def CreatesTable (v : Value) : Prop :=
  v.field "type" = .str "create" ∧ (v.field "keyword" = .str "table" ∨ v.field "keyword" = .str "")

namespace Tree

open Attempt

variable {node : Value} {c : CreateStatement} {type keyword : String}

/-- A statement that creates something keeps its type and its keyword. -/
theorem kind_of_statement (htype : node.field "type" = .str type)
    (hcreate : Text.lower type = "create") (hkeyword : node.field "keyword" = .str keyword)
    (h : (statement node).outcome = .ok c) :
    c.statementType = some type ∧ c.keyword = some keyword := by
  unfold statement at h
  have hread : isCreate (.str type) = .ok true := by simp [isCreate, hcreate]
  simp only [htype, hkeyword, hread, ofExcept_ok, pure_bind, if_true] at h
  obtain ⟨nodes, -, h, -⟩ := exists_of_bind h
  obtain ⟨ds, -, h, -⟩ := exists_of_bind h
  generalize Checked.under "table_name" _ = table at h
  cases table with
  | error ps => cases h
  | ok name =>
    cases h
    exact ⟨rfl, rfl⟩

/-- Any other statement creates no table. -/
theorem isCreateTable_of_other (htype : node.field "type" = .str type)
    (hother : Text.lower type ≠ "create") (h : (statement node).outcome = .ok c) :
    c.isCreateTable = false := by
  unfold statement at h
  have hread : isCreate (.str type) = .ok false := by simp [isCreate, hother]
  simp only [htype, hread, ofExcept_ok, pure_bind, Bool.false_eq_true, if_false] at h
  cases h
  exact isCreateTable_of_type (v := .str type) hread rfl

end Tree

namespace Sql

/-- No kind of another statement is mistaken for `create`, also if it is lower-cased twice. -/
theorem lower_kind_ne {kind : String} (h : kind ∈ otherKinds) :
    Text.lower kind ≠ "create" ∧ Text.lower (Text.lower kind) ≠ "create" := by
  have hall : otherKinds.all (fun k => k.toList.all (·.toNat < 128) &&
      String.ofList (k.toList.map Char.toLower) != "create") = true := by decide +kernel
  obtain ⟨hascii, hne⟩ : (∀ c ∈ kind.toList, c.toNat < 128) ∧
      String.ofList (kind.toList.map Char.toLower) ≠ "create" := by
    simpa using List.all_eq_true.1 hall kind h
  rw [Text.lower_lower_ascii hascii, Text.lower_ascii hascii]
  exact ⟨hne, hne⟩

/-- The keyword of a CREATE statement is read as `table` only if it is `table`. -/
theorem keyword_iff {keyword : String} (h : keyword ∈ createKeywords) :
    (keyword.isEmpty || Text.lower keyword == "table") = true ↔ keyword = "table" ∨ keyword = "" := by
  have hall : ∀ k ∈ createKeywords,
      ((k.isEmpty || Text.lower k == "table") = true ↔ k = "table" ∨ k = "") := by decide +kernel
  exact hall keyword h

/-- The tree of a CREATE statement holds those of its entries. -/
theorem Statement.tree_create {keyword : String} {table : Option TableName} {entries : List Entry}
    {v : Value} (h : Statement.tree (.create keyword table entries) = .ok v) :
    ∃ vs, entries.mapM Entry.tree = .ok vs ∧ v = .map
      [("type", .str "create"), ("keyword", .str keyword), ("table", tableList table),
       ("create_definitions", .list vs)] := by
  cases hvs : entries.mapM Entry.tree with
  | error e => simp [Statement.tree, hvs, bind, Except.bind] at h
  | ok vs =>
    simp only [Statement.tree, hvs, bind, Except.bind, pure, Except.pure, Except.ok.injEq] at h
    exact ⟨vs, rfl, h.symm⟩

/-- The tree of a statement is read as one that creates a table exactly if it says so. -/
theorem Statement.isCreateTable_iff {s : Statement} (hknown : s.Known) {v : Value} (h : s.tree = .ok v)
    {c : CreateStatement} (hc : (Tree.statement v).outcome = .ok c) :
    c.isCreateTable = true ↔ CreatesTable v := by
  cases s with
  | other kind =>
    cases h
    obtain ⟨hlower, hlower'⟩ := lower_kind_ne hknown
    have hcreates : ¬ CreatesTable (.map [("type", .str (Text.lower kind))]) := fun h =>
      hlower (Value.str.inj h.1)
    rw [Tree.isCreateTable_of_other rfl hlower' hc]
    simp [hcreates]
  | create keyword table entries =>
    obtain ⟨vs, -, hv⟩ := Statement.tree_create h
    have htype : v.field "type" = .str "create" := hv ▸ rfl
    have hkeyword : v.field "keyword" = .str keyword := hv ▸ rfl
    have hcreate : Text.lower "create" = "create" := by decide +kernel
    obtain ⟨hread, hread'⟩ := Tree.kind_of_statement htype hcreate hkeyword hc
    have hcreates : c.isCreateTable = (keyword.isEmpty || Text.lower keyword == "table") := by
      unfold CreateStatement.isCreateTable
      rw [hread, hread']
      simp [hcreate]
    rw [hcreates, keyword_iff hknown]
    simp [CreatesTable, htype, hkeyword]

end Sql

theorem Extraction.outcome_noTable {node : Value} {c : CreateStatement}
    (hc : (Tree.statement node).outcome = .ok c) (hcreate : c.isCreateTable = false) :
    (ofStatement node).outcome = .error .notACreateTable := by
  unfold ofStatement
  rw [Attempt.outcome_bind, Attempt.outcome_adapt, hc]
  show Attempt.outcome (if c.isCreateTable then _ else _) = _
  rw [hcreate, if_neg Bool.false_ne_true, Attempt.outcome_throw]

/-- The trees of a script give a schema exactly if the first of them creates a table. -/
theorem extract_trees_cases {d : Sql.Dialect} {script : String} {vs : List Value}
    (h : (Sql.trees d script).outcome = .ok vs) :
    (∃ s, (extract (.list vs)).outcome = .ok s) ∧ (∃ v ∈ vs.head?, CreatesTable v) ∨
      (extract (.list vs)).outcome = .error .notACreateTable ∧ ¬ ∃ v ∈ vs.head?, CreatesTable v := by
  obtain ⟨ss, hparse, hvs⟩ := Sql.statements_of_trees h
  rw [(extract_statementOf (.list vs)).1]
  cases vs with
  | nil => exact .inr ⟨rfl, by simp⟩
  | cons v rest =>
    obtain ⟨s, hs, hv⟩ := exists_of_mapM hvs List.mem_cons_self
    obtain ⟨c, hc⟩ := s.statement_isOk hv
    have hiff := Sql.Statement.isCreateTable_iff (Sql.known_of_parse hparse s hs) hv hc
    have hhead : (∃ w ∈ (v :: rest).head?, CreatesTable w) ↔ CreatesTable v := by simp
    rw [hhead, ← hiff]
    cases hcreate : c.isCreateTable with
    | true => exact .inl ⟨⟨_, Extraction.outcome_createTable hc hcreate⟩, rfl⟩
    | false => exact .inr ⟨Extraction.outcome_noTable hc hcreate, Bool.false_ne_true⟩

/-- Extraction accepts the trees of every script: it gives a schema or refuses them, and it refuses
them exactly if there is no tree or the first one creates no table. -/
theorem extract_trees_iff {d : Sql.Dialect} {script : String} {vs : List Value}
    (h : (Sql.trees d script).outcome = .ok vs) :
    ((∃ s, (extract (.list vs)).outcome = .ok s) ∨
      (extract (.list vs)).outcome = .error .notACreateTable) ∧
    ((extract (.list vs)).outcome = .error .notACreateTable ↔
      vs = [] ∨ ∃ v rest, vs = v :: rest ∧ ¬ CreatesTable v) := by
  have hhead : (∃ v ∈ vs.head?, CreatesTable v) ↔
      ¬ (vs = [] ∨ ∃ v rest, vs = v :: rest ∧ ¬ CreatesTable v) := by
    cases vs <;> simp
  rcases extract_trees_cases h with ⟨⟨s, hs⟩, hcreates⟩ | ⟨hrefused, hcreates⟩
  · refine ⟨.inl ⟨s, hs⟩, ?_⟩
    rw [hs]
    exact iff_of_false (by simp) (hhead.1 hcreates)
  · exact ⟨.inr hrefused, iff_of_true hrefused (not_not.1 (mt hhead.2 hcreates))⟩

/-- Whether a tree says that it creates a table, by evaluation. -/
def saysTable (v : Value) : Bool :=
  Tree.isText (v.field "type") "create" &&
    (Tree.isText (v.field "keyword") "table" || Tree.isText (v.field "keyword") "")

theorem saysTable_iff (v : Value) : saysTable v = true ↔ CreatesTable v := by
  have htext : ∀ (w : Value) (s : String), Tree.isText w s = true ↔ w = .str s := by
    intro w s
    cases w <;> simp [Tree.isText]
  simp only [saysTable, CreatesTable, Bool.and_eq_true, Bool.or_eq_true, htext]

/-- A table is accepted whose entries lack names, types, columns and references; a script whose first
statement makes a view is refused. -/
theorem extract_trees_partial : ∃ vs ws s,
    (Sql.trees .mysql ("CREATE TABLE s (CONSTRAINT x CHECK (a > 0), b NOT NULL, FOREIGN KEY (), c, " ++
      "INDEX (), FOREIGN KEY (b) REFERENCES t)")).outcome = .ok vs ∧
    (Sql.trees .mysql "CREATE VIEW v AS SELECT 1; CREATE TABLE t (a INT)").outcome = .ok ws ∧
    (extract (.list vs)).outcome = .ok s ∧
    (extract (.list ws)).outcome = .error .notACreateTable := by
  have hfirst : ((Sql.trees .mysql ("CREATE TABLE s (CONSTRAINT x CHECK (a > 0), b NOT NULL, " ++
      "FOREIGN KEY (), c, INDEX (), FOREIGN KEY (b) REFERENCES t)")).outcome.toOption.map
        (·.map saysTable)) = some [true] := by
    decide +kernel
  have hsecond : ((Sql.trees .mysql
      "CREATE VIEW v AS SELECT 1; CREATE TABLE t (a INT)").outcome.toOption.map
        (·.map saysTable)) = some [false, true] := by
    decide +kernel
  obtain ⟨vs, hvs, hsays⟩ := Option.map_eq_some_iff.1 hfirst
  obtain ⟨ws, hws, hsays'⟩ := Option.map_eq_some_iff.1 hsecond
  obtain ⟨v, rfl, hv⟩ := List.map_eq_singleton_iff.1 hsays
  obtain ⟨w, rest, rfl, hw, -⟩ := List.map_eq_cons_iff.1 hsays'
  have htrees := Attempt.ok_of_toOption hvs
  have htrees' := Attempt.ok_of_toOption hws
  obtain ⟨haccepted, hrefused⟩ := extract_trees_iff htrees
  have hcreates : (extract (.list [v])).outcome ≠ .error .notACreateTable := by
    rw [ne_eq, hrefused]
    rintro (h | ⟨u, us, h, hu⟩)
    · cases h
    · cases h
      exact hu ((saysTable_iff v).1 hv)
  have hview : ¬ CreatesTable w := by
    rw [← saysTable_iff, hw]
    exact Bool.false_ne_true
  obtain ⟨s, hs⟩ := haccepted.resolve_right hcreates
  exact ⟨[v], w :: rest, s, htrees, htrees', hs,
    (extract_trees_iff htrees').2.2 (.inr ⟨w, rest, rfl, hview⟩)⟩

end TableScaffold
