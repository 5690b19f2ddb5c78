import TableScaffold.Proofs.Extraction.Acceptance
import TableScaffold.Proofs.Extraction.Commented
import TableScaffold.Proofs.Extraction.References

/-!
# The columns of a script that are kept

What names a column in a script is read as a column if anything follows the name, and as an entry of its own
if nothing does. A column becomes a column of the schema if it has a type, and a warning names it if it has
none; a name that stands alone is taken for a constraint, and nothing tells that it is left out
(`columns_kept_iff`). This is so whatever the grammar reads as columns and names.
-/

namespace TableScaffold

namespace Sql

/-- The name of a column that an entry gives, with or without anything behind it. -/
def Entry.columnName? : Entry → Option String
  | .column c => some c.name
  | .lone _ name => some name
  | .foreignKey _ | .index _ | .other _ => none

/-- Whether a column has a type, in its script or in its dialect. -/
def ColumnEntry.isTyped (c : ColumnEntry) : Bool := (c.type.bind c.declaredType).any (!·.isEmpty)

end Sql

namespace Tree

/-- What a column is read as: its name, and its type if that is not empty. -/
theorem column_reads {node : Value} {name : String} {type : Option String} {cd : ColumnDefinition}
    (h : column node = .ok cd) (hname : columnName (node.field "column") = .str name)
    (htype : (node.field "definition").field "dataType" = Value.ofOption type) :
    cd.name = name ∧ cd.hasType = type.any (!·.isEmpty) := by
  unfold column at h
  simp only [hname, htype, text_orNull] at h
  cases type with
  | none =>
    cases h
    exact ⟨rfl, rfl⟩
  | some type =>
    by_cases hempty : type = ""
    · subst hempty
      cases h
      exact ⟨rfl, rfl⟩
    · have hpresent : (Value.str type).orNull = .str type := by
        simp [Value.orNull, Value.truthy, hempty]
      simp only [Value.ofOption, hpresent] at h
      cases h
      exact ⟨rfl, by simp [ColumnDefinition.hasType]⟩

/-- What does not say that it is a column is read as none. -/
theorem column?_definition {node : Value} {def' : Definition} (h : (definition node).outcome = .ok def')
    (hkind : isText (node.field "resource") "column" = false) : def'.column? = none := by
  unfold definition at h
  dsimp only at h
  rw [hkind, if_neg Bool.false_ne_true] at h
  split at h
  · obtain ⟨key, -, hd, -⟩ := Attempt.exists_of_bind h
    obtain ⟨k, -, rfl⟩ := exists_of_checked hd
    rfl
  split at h
  · obtain ⟨i, -, rfl⟩ := exists_of_checked h
    rfl
  · cases h
    rfl

end Tree

namespace Sql

variable {es : List Entry} {ds : List Definition} {def' : Definition}

theorem exists_tree {e : Entry} (h : e.read? = some def') :
    ∃ v, e.tree = .ok v ∧ (Tree.definition v).outcome = .ok def' := by
  obtain ⟨x, hx, hdef⟩ := Option.bind_eq_some_iff.1 h
  have hx := Attempt.ok_of_toOption hx
  unfold Entry.definition? at hx
  cases htree : e.tree with
  | error err =>
    rw [htree] at hx
    cases hx
  | ok v =>
    rw [htree] at hx
    cases hx
    exact ⟨v, rfl, Attempt.ok_of_toOption hdef⟩

/-- A column is read as a column definition, with a type exactly if it has one. -/
theorem read?_column {c : ColumnEntry} (h : (Entry.column c).read? = some def') :
    ∃ cd, def'.column? = some cd ∧ cd.name = c.name ∧ cd.hasType = c.isTyped := by
  obtain ⟨v, htree, hdef⟩ := exists_tree h
  obtain ⟨length, rfl⟩ := ColumnEntry.tree_eq htree
  obtain ⟨cd, hcd, rfl⟩ := Tree.exists_of_checked hdef
  exact ⟨cd, rfl, Tree.column_reads hcd rfl rfl⟩

theorem read?_noColumn {e : Entry} (h : e.read? = some def') (hcolumn : e.isColumn = false) :
    def'.column? = none := by
  obtain ⟨v, htree, hdef⟩ := exists_tree h
  refine Tree.column?_definition hdef ?_
  cases e with
  | column c => cases hcolumn
  | foreignKey | index | lone | other =>
    cases htree
    rfl

/-- The columns among the definitions are those among the entries. -/
theorem columns_read (h : List.Forall₂ (fun e def' => e.read? = some def') es ds) (typed : Bool)
    (n : String) :
    (∃ cd ∈ ds.filterMap Definition.column?, cd.hasType = typed ∧ cd.name = n) ↔
      ∃ c, .column c ∈ es ∧ c.isTyped = typed ∧ c.name = n := by
  induction h with
  | nil => simp
  | @cons e def' es ds hd _ ih =>
    cases e with
    | column c =>
      obtain ⟨cd, hcd, hname, htype⟩ := read?_column hd
      simp only [List.filterMap_cons_some hcd, List.mem_cons, or_and_right, exists_or, exists_eq_left,
        Entry.column.injEq, ih, htype, hname]
    | foreignKey | index | lone | other =>
      rw [List.filterMap_cons_none (read?_noColumn hd rfl), ih]
      simp

end Sql

namespace Accounted

variable {c : CreateStatement} {s : TableSchema} {notices : List Notice} (h : Accounted c s notices)

include h

theorem mem_names {n : String} : n ∈ s.columns.map (·.name) ↔
    ∃ cd ∈ c.definitions.filterMap Definition.column?, cd.hasType = true ∧ cd.name = n := by
  rw [h.names_eq, CreateStatement.typedNames, List.mem_map]
  simp only [List.mem_filter, and_assoc]

theorem mem_missingType {n : String} : .missingType n ∈ notices ↔
    ∃ cd ∈ c.definitions.filterMap Definition.column?, cd.hasType = false ∧ cd.name = n := by
  rw [h.missingType_iff, List.mem_map]
  simp only [List.mem_filter, and_assoc, Bool.not_eq_true']

/-- What is read from a column stays in the schema or is named in a warning; of anything else nothing
does. -/
theorem kept_iff {es : List Sql.Entry}
    (hds : List.Forall₂ (fun e def' => e.read? = some def') es c.definitions) {n : String} :
    (n ∈ s.columns.map (·.name) ∨ .missingType n ∈ notices) ↔ ∃ c, .column c ∈ es ∧ c.name = n := by
  rw [h.mem_names, h.mem_missingType, Sql.columns_read hds, Sql.columns_read hds]
  constructor
  · rintro (⟨c, hc, -, hn⟩ | ⟨c, hc, -, hn⟩) <;> exact ⟨c, hc, hn⟩
  · rintro ⟨c, hc, hn⟩
    cases htype : c.isTyped with
    | true => exact .inl ⟨c, hc, htype, hn⟩
    | false => exact .inr ⟨c, hc, htype, hn⟩

end Accounted

/-- Where a script gives a schema, the columns of the schema and the warnings are those of the entries of
its first statement, if that is a CREATE statement. -/
theorem exists_entries {g : Sql.Grammar} {d : Sql.Dialect} {script : String} {vs : List Value}
    {s : TableSchema} (htrees : (g.trees d script).outcome = .ok vs)
    (hs : (extract (.list vs)).outcome = .ok s) :
    ∃ first rest, g d script = .ok (first :: rest) ∧ (first.entries = [] ∨
      ∃ c, List.Forall₂ (fun e def' => e.read? = some def') first.entries c.definitions ∧
        Accounted c s (extract (.list vs)).notices) := by
  obtain ⟨ss, hread, hvs⟩ := Sql.Grammar.statements_of_trees htrees
  obtain ⟨c, nodes, hc, -, -, haccounted⟩ := exists_accounted hs
  cases mapM_eq_ok.1 hvs with
  | nil => cases hs
  | @cons first _ rest _ htree _ =>
    refine ⟨first, rest, hread, ?_⟩
    cases first with
    | other kind => exact .inl rfl
    | create keyword table es =>
      obtain ⟨ds, hds, hstatement⟩ := Sql.statement_create htree
      cases hstatement.symm.trans hc
      exact .inr ⟨⟨some "create", some keyword, table.map (·.name), ds⟩, hds, haccounted⟩

/-- **Which columns of a script are kept.** A column of the first statement is a column of the schema if it
has a type, and a warning names it if it has none. A name that stands alone is lost: so no name of a column
disappears exactly if each name that stands alone is also that of a column at another place. This holds
in every grammar. -/
theorem columns_kept_iff {g : Sql.Grammar} {d : Sql.Dialect} {script : String} {vs : List Value}
    {s : TableSchema} (htrees : (g.trees d script).outcome = .ok vs)
    (hs : (extract (.list vs)).outcome = .ok s) :
    ∃ first rest, g d script = .ok (first :: rest) ∧
      (∀ c, .column c ∈ first.entries →
        if c.isTyped then c.name ∈ s.columns.map (·.name)
          else .missingType c.name ∈ (extract (.list vs)).notices) ∧
      ((∀ e ∈ first.entries, ∀ n, e.columnName? = some n →
          n ∈ s.columns.map (·.name) ∨ .missingType n ∈ (extract (.list vs)).notices) ↔
        ∀ label n, .lone label n ∈ first.entries → ∃ c, .column c ∈ first.entries ∧ c.name = n) := by
  obtain ⟨first, rest, hread, hempty | ⟨c, hds, haccounted⟩⟩ := exists_entries htrees hs
  · exact ⟨first, rest, hread, by simp [hempty], by simp [hempty]⟩
  refine ⟨first, rest, hread, fun c hc => ?_, ?_⟩
  · split
    · next htype => exact haccounted.mem_names.2 ((Sql.columns_read hds _ _).2 ⟨c, hc, htype, rfl⟩)
    · next htype =>
      have htype := Bool.eq_false_iff.2 htype
      exact haccounted.mem_missingType.2 ((Sql.columns_read hds _ _).2 ⟨c, hc, htype, rfl⟩)
  · simp only [haccounted.kept_iff hds]
    refine ⟨fun h label n hn => h _ hn n rfl, fun h e he n hn => ?_⟩
    cases e with
    | column c =>
      cases hn
      exact ⟨c, he, rfl⟩
    | lone label name =>
      cases hn
      exact h label n he
    | foreignKey | index | other => cases hn

/-- A column without a type is named in a warning. -/
theorem columns_kept_untyped : ∃ vs s,
    (Sql.trees .mysql "CREATE TABLE t (a INT, b NOT NULL, PRIMARY KEY (a))").outcome = .ok vs ∧
    (extract (.list vs)).outcome = .ok s ∧ s.columns.map (·.name) = ["a"] ∧
    .missingType "b" ∈ (extract (.list vs)).notices := by
  have heval : ((Sql.trees .mysql
      "CREATE TABLE t (a INT, b NOT NULL, PRIMARY KEY (a))").outcome.toOption.bind fun vs =>
        (extract (.list vs)).outcome.toOption.map fun s => s.columns.map (·.name)) = some ["a"] := by
    decide +kernel
  have hparse : (Sql.grammar .mysql "CREATE TABLE t (a INT, b NOT NULL, PRIMARY KEY (a))").map
      (·.map fun s => s.entries.map fun e => (e.isColumn, e.columnName?)) =
        .ok [[(true, some "a"), (true, some "b"), (false, none)]] := by
    decide +kernel
  obtain ⟨vs, s, htrees, hs, hnames⟩ := Attempt.exists_of_eval heval
  obtain ⟨first, rest, hread, -, hkept⟩ := columns_kept_iff htrees hs
  rw [hread] at hparse
  have hentries : first.entries.map (fun e => (e.isColumn, e.columnName?)) =
      [(true, some "a"), (true, some "b"), (false, none)] :=
    (List.cons.inj (Except.ok.inj hparse)).1
  have hmem : ∀ {isColumn name}, (∃ e ∈ first.entries, (e.isColumn, e.columnName?) = (isColumn, name)) ↔
      (isColumn, name) ∈ [(true, some "a"), (true, some "b"), (false, none)] := by
    intro isColumn name
    rw [← hentries, List.mem_map]
  have hlone : ∀ label n, .lone label n ∉ first.entries := fun label n hn => by
    simpa [Sql.Entry.isColumn, Sql.Entry.columnName?] using hmem.1 ⟨_, hn, rfl⟩
  obtain ⟨e, he, hb⟩ := hmem.2 (by decide : (true, some "b") ∈ _)
  have hb := hkept.2 (fun label n hn => absurd hn (hlone label n)) e he "b" (Prod.mk.inj hb).2
  rw [hnames] at hb
  exact ⟨vs, s, htrees, hs, hnames, hb.resolve_left (by decide)⟩

/-- A name that stands alone is lost without a warning. -/
theorem lone_name_lost : ∃ vs s first,
    (Sql.trees .mysql "CREATE TABLE t (a, b INT)").outcome = .ok vs ∧
    (extract (.list vs)).outcome = .ok s ∧
    Sql.grammar .mysql "CREATE TABLE t (a, b INT)" = .ok [first] ∧
    .lone "identifier" "a" ∈ first.entries ∧ "a" ∉ s.columns.map (·.name) ∧
    .missingType "a" ∉ (extract (.list vs)).notices := by
  have heval : ((Sql.trees .mysql "CREATE TABLE t (a, b INT)").outcome.toOption.bind fun vs =>
      (extract (.list vs)).outcome.toOption.map fun s =>
        (s.columns.map (·.name), (extract (.list vs)).notices.filterMap Notice.missing?)) =
          some (["b"], []) := by
    decide +kernel
  have hparse : Sql.grammar .mysql "CREATE TABLE t (a, b INT)" =
      .ok [.create "table" (some ⟨none, "t"⟩)
        [.lone "identifier" "a",
          .column ⟨"b", some " INT)".toList, some ⟨some "INT", none⟩, none, false⟩]] := by
    decide +kernel
  obtain ⟨vs, hvs, heval⟩ := Option.bind_eq_some_iff.1 heval
  obtain ⟨s, hs, heval⟩ := Option.map_eq_some_iff.1 heval
  obtain ⟨hcolumns, hmissing⟩ := Prod.mk.inj heval
  refine ⟨vs, s, _, Attempt.ok_of_toOption hvs, Attempt.ok_of_toOption hs, hparse, List.mem_cons_self,
    ?_, fun hnotice => ?_⟩
  · rw [hcolumns]
    decide
  · have hmem : "a" ∈ (extract (.list vs)).notices.filterMap Notice.missing? :=
      List.mem_filterMap.2 ⟨_, hnotice, rfl⟩
    rw [hmissing] at hmem
    exact List.not_mem_nil hmem

end TableScaffold
