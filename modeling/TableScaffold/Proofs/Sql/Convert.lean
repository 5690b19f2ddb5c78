import TableScaffold.Extraction
import TableScaffold.Sql.Script
import TableScaffold.Proofs.Attempt
import TableScaffold.Proofs.Decimal.Digits

/-!
# Statements that can be written out

A statement that was read has a tree unless one of its columns is in the way: a type without a name, a
length whose digits are no number, or a named constraint without content (`Statement.Converts`). A tree
that there is can be read again: extraction finds a schema in it, or no CREATE TABLE statement. All this
is so in every grammar.
-/

namespace TableScaffold

namespace Sql

/-! ## Writing out -/

/-- The first parameter of a type is a length that can be read, or no length at all. -/
def DataType.Converts (t : DataType) : Prop :=
  ∀ s ∈ t.size, Text.isAllDigits s = true →
    (∀ c ∈ s.toList, (Text.decimalValue? c).isSome = true) ∧ s.toList.length ≤ Decimal.digitLimit

/-- A column is not in the way of its statement. -/
structure ColumnEntry.Converts (c : ColumnEntry) : Prop where
  named : ∀ t ∈ c.type, (c.declaredType t).isSome = true
  length : ∀ t ∈ c.type, t.Converts
  clause : c.emptyClause = false

/-- No column of a statement is in its way. -/
def Statement.Converts : Statement → Prop
  | .create _ _ entries => ∀ c, .column c ∈ entries → c.Converts
  | .other _ => True

theorem DataType.length_isOk {t : DataType} : (∃ n, t.length = .ok n) ↔ t.Converts := by
  unfold DataType.length DataType.Converts
  cases t.size with
  | none => simp
  | some s =>
    simp only [Option.mem_some_iff, forall_eq']
    cases hdigits : Text.isAllDigits s with
    | false => simp
    | true =>
      rw [← Decimal.whole?_isSome_iff hdigits]
      cases Decimal.whole? s <;> simp

/-- A column has a type that can be written out, or none. -/
theorem ColumnEntry.typeAndLength_isOk {c : ColumnEntry} : (∃ p, c.typeAndLength = .ok p) ↔
    ∀ t ∈ c.type, (c.declaredType t).isSome = true ∧ t.Converts := by
  unfold ColumnEntry.typeAndLength
  cases c.type with
  | none => simp
  | some t =>
    simp only [Option.mem_some_iff, forall_eq', ← t.length_isOk]
    cases c.declaredType t with
    | none => simp
    | some w => cases t.length <;> simp [Except.map]

theorem ColumnEntry.tree_isOk {c : ColumnEntry} : (∃ v, c.tree = .ok v) ↔ c.Converts := by
  have hparts : c.Converts ↔ (∃ p, c.typeAndLength = .ok p) ∧ c.emptyClause = false := by
    rw [typeAndLength_isOk]
    exact ⟨fun h => ⟨fun t ht => ⟨h.named t ht, h.length t ht⟩, h.clause⟩,
      fun h => ⟨fun t ht => (h.1 t ht).1, fun t ht => (h.1 t ht).2, h.2⟩⟩
  rw [hparts]
  unfold ColumnEntry.tree
  cases c.typeAndLength <;> cases c.emptyClause <;> simp [bind, Except.bind, pure, Except.pure]

theorem Entry.tree_isOk {e : Entry} : (∃ v, e.tree = .ok v) ↔ ∀ c, e = .column c → c.Converts := by
  cases e with
  | column c => simpa [Entry.tree] using c.tree_isOk
  | foreignKey k => simp [Entry.tree]
  | index i => simp [Entry.tree]
  | lone label name => simp [Entry.tree]
  | other label => simp [Entry.tree]

theorem Statement.tree_isOk {s : Statement} : (∃ v, s.tree = .ok v) ↔ s.Converts := by
  cases s with
  | other kind => simp [Statement.tree, Statement.Converts]
  | create keyword table entries =>
    have hentries : (∃ vs, entries.mapM Entry.tree = .ok vs) ↔
        Statement.Converts (.create keyword table entries) := by
      rw [mapM_isOk]
      refine ⟨fun h c hc => Entry.tree_isOk.mp (h _ hc) c rfl, fun h e he => ?_⟩
      exact Entry.tree_isOk.mpr fun c hc => h c (hc ▸ he)
    rw [← hentries]
    cases hvs : entries.mapM Entry.tree <;>
      simp [Statement.tree, hvs, bind, Except.bind, pure, Except.pure]

/-- Statements are written out in order, if none is in the way. -/
theorem outcome_treesOf (ss : List Statement) :
    (treesOf ss).outcome = ss.mapM Statement.tree := by
  induction ss with
  | nil => rfl
  | cons s rest ih =>
    rw [List.mapM_cons, ← ih]
    cases s <;> simp only [treesOf, Attempt.outcome_bind, Attempt.outcome_pure,
      Attempt.outcome_note, Attempt.outcome_ofExcept] <;> rfl

namespace Grammar

variable (g : Grammar) (d : Dialect) (script : String)

/-- A script that is read up to its end has no statement that is in the way; the reader may refuse it, but
does not break off. -/
def Converts : Prop :=
  match g d script with
  | .ok ss => ∀ s ∈ ss, s.Converts
  | .error f => f = .unreadable

theorem outcome_trees : (g.trees d script).outcome =
    match g d script with
    | .ok ss => (ss.mapM Statement.tree).mapError ScriptError.tree
    | .error f => .error (.reading f) := by
  unfold trees
  cases g d script with
  | error f => rfl
  | ok ss =>
    dsimp only
    rw [Attempt.outcome_adapt, outcome_treesOf]

/-- The statements that the trees of a script come from. -/
theorem statements_of_trees {g : Grammar} {d : Dialect} {script : String} {vs : List Value}
    (h : (g.trees d script).outcome = .ok vs) :
    ∃ ss, g d script = .ok ss ∧ ss.mapM Statement.tree = .ok vs := by
  rw [outcome_trees] at h
  cases hread : g d script with
  | error f =>
    rw [hread] at h
    cases h
  | ok ss =>
    rw [hread] at h
    dsimp only at h
    cases hvs : ss.mapM Statement.tree with
    | error e =>
      rw [hvs] at h
      cases h
    | ok vs' =>
      rw [hvs] at h
      cases h
      exact ⟨ss, rfl, hvs⟩

end Grammar

theorem grammar_eq_ok {d : Dialect} {script : String} {ss : List Statement} :
    grammar d script = .ok ss ↔ parse d script = some ss := by
  unfold grammar
  cases parse d script <;> simp

/-- The statements that the trees of a script come from, in the grammar of this library. -/
theorem statements_of_trees {d : Dialect} {script : String} {vs : List Value}
    (h : (trees d script).outcome = .ok vs) :
    ∃ ss, parse d script = some ss ∧ ss.mapM Statement.tree = .ok vs := by
  obtain ⟨ss, hss, hvs⟩ := Grammar.statements_of_trees h
  exact ⟨ss, grammar_eq_ok.1 hss, hvs⟩

theorem outcome_trees {d : Dialect} {script : String} {ss : List Statement}
    (h : parse d script = some ss) :
    (trees d script).outcome = (ss.mapM Statement.tree).mapError ScriptError.tree := by
  unfold trees
  rw [Grammar.outcome_trees, grammar_eq_ok.2 h]

end Sql

/-! ## Reading again -/

namespace Tree

/-- A text, or nothing. -/
def Textual (v : Value) : Prop := v = .null ∨ ∃ s, v = .str s

theorem textual_ofOption (o : Option String) : Textual (Value.ofOption o) := by
  cases o with
  | none => exact .inl rfl
  | some s => exact .inr ⟨s, rfl⟩

theorem Textual.orNull {v : Value} (h : Textual v) : Textual v.orNull := by
  unfold Value.orNull
  split
  · exact h
  · exact .inl rfl

theorem Textual.optionalText {v : Value} (h : Textual v) : ∃ o, Check.optionalText v = .ok o := by
  rcases h with rfl | ⟨s, rfl⟩
  · exact ⟨none, rfl⟩
  · exact ⟨some s, rfl⟩

/-- An entry is read if its names are texts or nothing. -/
theorem definition_isOk {node : Value}
    (htype : Textual ((node.field "definition").field "dataType"))
    (hname : Textual (node.field "constraint")) (hindex : Textual (node.field "index"))
    (htable : Textual (firstTable ((node.field "reference_definition").field "table"))) :
    ∃ d, (definition node).outcome = .ok d := by
  have hcolumn : ∃ c, column node = .ok c := by
    obtain ⟨o, ho⟩ := htype.orNull.optionalText
    unfold column
    dsimp only
    rw [ho]
    exact ⟨_, rfl⟩
  have hkey : ∃ k, (foreignKey node).value = .ok k := by
    obtain ⟨o, ho⟩ := hname.optionalText
    obtain ⟨r, hr⟩ : ∃ r, (if (firstTable ((node.field "reference_definition").field "table")).orNull.truthy
        then Check.text (firstTable ((node.field "reference_definition").field "table")).orNull
        else .ok "") = .ok r := by
      rcases htable.orNull with h | ⟨s, h⟩ <;> rw [h]
      · exact ⟨"", rfl⟩
      · split <;> exact ⟨_, rfl⟩
    unfold foreignKey
    simp only [Logged.value_bind, Logged.value_pure, ho, hr]
    exact ⟨_, rfl⟩
  have hentry : ∃ i, index node = .ok i := by
    obtain ⟨o, ho⟩ := hindex.optionalText
    unfold index
    rw [ho]
    exact ⟨_, rfl⟩
  obtain ⟨c, hc⟩ := hcolumn
  obtain ⟨k, hk⟩ := hkey
  obtain ⟨i, hi⟩ := hentry
  unfold definition
  dsimp only
  split
  · exact ⟨.column c, by simp [hc, Except.map, Except.mapError]⟩
  split
  · exact ⟨.foreignKey k, by rw [Attempt.outcome_bind, Attempt.outcome_ofLogged, hk]; rfl⟩
  split
  · exact ⟨.index i, by simp [hi, Except.map, Except.mapError]⟩
  · exact ⟨_, rfl⟩

theorem definitions_isOk {vs : List Value} (h : ∀ v ∈ vs, ∃ d, (definition v).outcome = .ok d) :
    ∃ ds, (definitions vs).outcome = .ok ds := by
  induction vs with
  | nil => exact ⟨[], rfl⟩
  | cons v vs ih =>
    obtain ⟨d, hd⟩ := h v List.mem_cons_self
    obtain ⟨ds, hds⟩ := ih fun w hw => h w (List.mem_cons_of_mem _ hw)
    exact ⟨d :: ds, by simp only [definitions, Attempt.outcome_bind, hd, hds]; rfl⟩

/-- A statement is read if its names are texts or nothing and its entries are read. -/
theorem statement_isOk {node : Value} {type : String} {vs : List Value}
    (htype : node.field "type" = .str type) (hkeyword : Textual (node.field "keyword"))
    (htable : Textual (firstTable (node.field "table")))
    (hentries : entries (node.field "create_definitions") = .ok vs)
    (hvs : ∀ v ∈ vs, ∃ d, (definition v).outcome = .ok d) :
    ∃ cs, (statement node).outcome = .ok cs := by
  obtain ⟨ds, hds⟩ := definitions_isOk hvs
  obtain ⟨keyword, hkeyword⟩ := hkeyword.optionalText
  obtain ⟨table, htable⟩ := htable.optionalText
  unfold statement
  dsimp only
  rw [htype, Attempt.outcome_bind]
  show ∃ cs, (if Text.lower type == "create" then _ else _ : Attempt _ _).outcome = .ok cs
  split
  · rw [Attempt.outcome_bind, hentries]
    show ∃ cs, Attempt.outcome (definitions vs >>= _) = .ok cs
    rw [Attempt.outcome_bind, hds]
    show ∃ cs, Attempt.outcome (Attempt.ofExcept _) = .ok cs
    rw [Attempt.outcome_ofExcept, hkeyword, htable]
    exact ⟨_, rfl⟩
  · exact ⟨_, rfl⟩

end Tree

namespace Sql

open TableScaffold.Tree

theorem ColumnEntry.typeAndLength_eq {c : ColumnEntry} {type : Option String} {length : Option Int}
    (h : c.typeAndLength = .ok (type, length)) : type = c.type.bind c.declaredType := by
  unfold ColumnEntry.typeAndLength at h
  cases htype : c.type with
  | none =>
    rw [htype] at h
    cases h
    rfl
  | some t =>
    rw [htype] at h
    dsimp only at h
    cases hdeclared : c.declaredType t with
    | none =>
      rw [hdeclared] at h
      cases h
    | some w =>
      rw [hdeclared] at h
      cases hlength : t.length with
      | error e =>
        rw [hlength] at h
        cases h
      | ok n =>
        rw [hlength] at h
        cases h
        exact hdeclared.symm

/-- The tree of a column, whatever its length. -/
theorem ColumnEntry.tree_eq {c : ColumnEntry} {v : Value} (h : c.tree = .ok v) :
    ∃ length, v = .map
      [("resource", .str "column"), ("column", columnReference c.name),
       ("definition", .map
        [("dataType", Value.ofOption (c.type.bind c.declaredType)), ("length", Value.ofWhole length)]),
       ("nullable", nullabilityTree c.nullable)] := by
  have hconverts := ColumnEntry.tree_isOk.mp ⟨v, h⟩
  obtain ⟨⟨type, length⟩, hpair⟩ := ColumnEntry.typeAndLength_isOk.2 fun t ht =>
    ⟨hconverts.named t ht, hconverts.length t ht⟩
  unfold ColumnEntry.tree at h
  rw [hpair, hconverts.clause] at h
  refine ⟨length, ?_⟩
  rw [← ColumnEntry.typeAndLength_eq hpair]
  exact (Except.ok.inj h).symm

theorem textual_tableList (table : Option TableName) : Textual (firstTable (tableList table)) := by
  cases table with
  | none => exact .inl rfl
  | some t => exact .inr ⟨t.name, rfl⟩

/-- The tree of an entry is read. -/
theorem Entry.definition_isOk {e : Entry} {v : Value} (h : e.tree = .ok v) :
    ∃ d, (definition v).outcome = .ok d := by
  cases e with
  | column c =>
    obtain ⟨length, rfl⟩ := ColumnEntry.tree_eq h
    exact Tree.definition_isOk (textual_ofOption _) (.inl rfl) (.inl rfl) (.inl rfl)
  | foreignKey k =>
    cases h
    exact Tree.definition_isOk (.inl rfl) (textual_ofOption _) (.inl rfl) (textual_tableList _)
  | index i =>
    cases h
    exact Tree.definition_isOk (.inl rfl) (.inl rfl) (textual_ofOption _) (.inl rfl)
  | lone label name | other label =>
    cases h
    exact Tree.definition_isOk (.inl rfl) (.inl rfl) (.inl rfl) (.inl rfl)

/-- The tree of a statement is read. -/
theorem Statement.statement_isOk {s : Statement} {v : Value} (h : s.tree = .ok v) :
    ∃ cs, (Tree.statement v).outcome = .ok cs := by
  cases s with
  | other kind =>
    cases h
    exact Tree.statement_isOk rfl (.inl rfl) (.inl rfl) rfl fun _ hv => nomatch hv
  | create keyword table entries =>
    cases hvs : entries.mapM Entry.tree with
    | error e => simp [Statement.tree, hvs, bind, Except.bind] at h
    | ok vs =>
      simp only [Statement.tree, hvs, bind, Except.bind, pure, Except.pure, Except.ok.injEq] at h
      subst h
      have hentries : ∀ v ∈ vs, ∃ d, (Tree.definition v).outcome = .ok d := by
        intro v hv
        obtain ⟨e, -, he⟩ := exists_of_mapM hvs hv
        exact Entry.definition_isOk he
      refine Tree.statement_isOk rfl (.inr ⟨_, rfl⟩) (textual_tableList table) ?_ hentries
      cases vs <;> rfl

/-- The trees of statements can be extracted from, unless the first one creates no table. -/
theorem extract_cases {ss : List Statement} {vs : List Value} (h : ss.mapM Statement.tree = .ok vs) :
    (∃ s, (extract (.list vs)).outcome = .ok s) ∨
      (extract (.list vs)).outcome = .error .notACreateTable := by
  have hstatement : ∀ v ∈ vs, (∃ s, (Extraction.ofStatement v).outcome = .ok s) ∨
      (Extraction.ofStatement v).outcome = .error .notACreateTable := by
    intro v hv
    obtain ⟨s, -, hs⟩ := exists_of_mapM h hv
    obtain ⟨cs, hcs⟩ := s.statement_isOk hs
    unfold Extraction.ofStatement
    rw [Attempt.outcome_bind, Attempt.outcome_adapt, hcs]
    show (∃ s, Attempt.outcome (if cs.isCreateTable then _ else _) = .ok s) ∨
      Attempt.outcome (if cs.isCreateTable then _ else _) = _
    split
    · exact .inl ⟨_, rfl⟩
    · exact .inr rfl
  cases vs with
  | nil => exact .inr rfl
  | cons v rest =>
    have hv := hstatement v List.mem_cons_self
    cases rest with
    | nil => exact hv
    | cons w rest =>
      unfold extract
      rw [Attempt.outcome_bind]
      exact hv

end Sql

end TableScaffold
