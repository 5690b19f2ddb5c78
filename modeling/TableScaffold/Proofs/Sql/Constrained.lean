import TableScaffold.Proofs.Sql.Constraint
import TableScaffold.Proofs.Sql.KeyClause

/-!
# Tables with constraints and clauses

A constrained table is a CREATE TABLE statement of columns with any constraints, foreign keys with any
clauses, and whatever else is read without a notice, in any order. Its schema is read from it without a
notice (`extracts`).

1. `last_null_decides`: a column is optional exactly if the last of its constraints on null is `NULL`.
2. `first_action_counts`: a relation has the first action of each event.
-/

namespace TableScaffold.Sql

open Reading

variable {ps : List Part}

/-! ## Columns -/

/-- A column with constraints. -/
structure ConstrainedColumn where
  before : Layout
  name : AnyName
  between : Parting
  type : TypeWord
  length : Option WrittenLength
  constraints : List ColumnConstraint
  after : Layout

namespace ConstrainedColumn

/-- What stands behind the type of a column. -/
def tailParts (c : ConstrainedColumn) : List Part :=
  c.constraints.flatMap ColumnConstraint.parts ++ c.after.parts

/-- What stands behind the type word. -/
def behindType (c : ConstrainedColumn) : List Part :=
  c.length.elim [] WrittenLength.parts ++ c.tailParts

def parts (c : ConstrainedColumn) : List Part :=
  c.before.parts ++ c.name.part :: (c.between.parts ++ .word c.type.word :: c.behindType)

/-- What stands behind the type word does not run into it. -/
theorem endsWord_behindType (c : ConstrainedColumn) (h : EndsWord (script ps)) :
    EndsWord (script (c.behindType ++ ps)) := by
  rw [behindType, tailParts, List.append_assoc, List.append_assoc]
  cases c.length with
  | none => exact endsWord_all c.constraints (c.after.endsWord_parts h)
  | some l => exact l.endsWord_parts _

theorem trails_behindType (c : ConstrainedColumn) (h : Trails ps) : Trails (c.behindType ++ ps) := by
  refine ⟨?_, c.endsWord_behindType h.endsWord⟩
  have htail := ColumnConstraint.trails_all c.constraints (c.after.trails_parts h)
  rw [behindType, tailParts, List.append_assoc, List.append_assoc]
  cases c.length with
  | none => exact htail.fit
  | some l => exact l.fit_parts htail.fit

theorem fit_parts (c : ConstrainedColumn) (h : Trails ps) : Fit .mysql (c.parts ++ ps) := by
  have htype := fit_word c.type.isWordText_word (c.trails_behindType h)
  have hname := c.name.fit_part (c.between.trails_parts htype)
  simpa [parts] using c.before.fit_parts hname

@[simp] theorem semicolon_notMem_parts (c : ConstrainedColumn) : .mark ';' ∉ c.parts := by
  have hlength : .mark ';' ∉ c.length.elim [] WrittenLength.parts := by
    cases c.length <;> simp [WrittenLength.parts, Space.parts, blanks]
  simp [parts, behindType, tailParts, hlength]

/-- What the constraints of a column say of null: what the last of them says that says anything. -/
def nullable (c : ConstrainedColumn) : Option Bool :=
  (c.constraints.filterMap ColumnConstraint.nullable).getLast?

/-- A column is optional exactly if there is a `NULL` behind which no other constraint on null stands. -/
theorem nullable_eq_some_true_iff (c : ConstrainedColumn) : c.nullable = some true ↔
    ∃ front words back, c.constraints = front ++ .null words :: back ∧
      ∀ x ∈ back, x.nullable = none := by
  have hnull (x : ColumnConstraint) : x.nullable = some true ↔ ∃ words, x = .null words := by
    cases x <;> simp [ColumnConstraint.nullable]
  rw [nullable, List.getLast?_eq_some_iff]
  constructor
  · rintro ⟨ns, hns⟩
    obtain ⟨front, rest, hsplit, -, hrest⟩ := List.filterMap_eq_append_iff.1 hns
    obtain ⟨gap, x, back, rfl, -, hx, hback⟩ := List.filterMap_eq_cons_iff.1 hrest
    obtain ⟨words, rfl⟩ := (hnull x).1 hx
    exact ⟨front ++ gap, words, back, by rw [hsplit, List.append_assoc],
      List.filterMap_eq_nil_iff.1 hback⟩
  · rintro ⟨front, words, back, hsplit, hback⟩
    refine ⟨front.filterMap ColumnConstraint.nullable, ?_⟩
    rw [hsplit, List.filterMap_append, List.filterMap_cons_some ((hnull _).2 ⟨words, rfl⟩),
      List.filterMap_eq_nil_iff.2 hback]

/-- The definition of a column. -/
def definition (c : ConstrainedColumn) : ColumnDefinition where
  name := c.name.text
  dataType := some c.type.key
  length := c.length.map fun l => (l.number : Int)
  isOptional := c.nullable == some true

/-- The column in the schema. -/
def column (c : ConstrainedColumn) : Column where
  name := c.name.text
  sqlType := c.type.key
  semanticType := c.type.kind.2.1
  persistenceType := c.type.kind.2.2
  isOptional := c.nullable == some true
  length := c.length.map fun l => (l.number : Int)

theorem column?_definition (c : ConstrainedColumn) :
    Extraction.column? c.definition = pure (some c.column) :=
  column?_typeWord c.type rfl

/-- A column is read as its definition. -/
theorem entries_parts (c : ConstrainedColumn) (h : EndsItem ps) :
    ∃ es, (entries .mysql).run (tokens (c.parts ++ ps)) = some (some es, tokens ps) ∧
      es.map Entry.definition? = [.ok (pure (.column c.definition))] := by
  have hafter := c.after.endsItem_parts h
  have hends := endsConstraint_all c.constraints hafter
  obtain ⟨vs, hvs, hnulls⟩ := run_columnClauses_constraints c.constraints hafter _ (Nat.le_refl _)
  have htail : c.constraints.flatMap ColumnConstraint.parts ++ (c.after.parts ++ ps) =
      c.tailParts ++ ps := (List.append_assoc _ _ _).symm
  rw [htail, c.after.tokens_parts] at hvs
  rw [htail] at hends
  let rest := c.length.elim [] WrittenLength.parts ++ (c.tailParts ++ ps)
  have hrest : c.behindType ++ ps = rest := List.append_assoc _ _ _
  obtain ⟨type, htype, hlength⟩ := c.type.run_dataType c.length .mysql (script rest) hends.endsType
  have hword : typeWord? (c.between.chars ++ script (.word c.type.word :: rest)) =
      some c.type.word :=
    typeWord?_word _ c.between.blank c.type.isWordText_word
      (hrest ▸ c.endsWord_behindType h.endsWord)
  have hshown : tokens (c.parts ++ ps) =
      c.name.token (c.between.chars ++ script (.word c.type.word :: rest)) ::
        ⟨.word, c.type.word, script rest⟩ :: tokens rest := by
    rw [← hrest]
    simp [parts, tokens]
  have hnullable : Clause.lastNullable ((vs.map some).filterMap id) = c.nullable := by
    have hself : (vs.map some).filterMap id = vs := by simp [List.filterMap_map]
    rw [hself, lastNullable_eq, hnulls, nullable]
  have hspells : Token.Spells c.type.key ⟨.word, c.type.word, script rest⟩ := ⟨rfl, rfl⟩
  rw [hshown]
  have hread := run_entries_clauses .mysql (c.name.kind_token _)
    (c.name.isOneOf_token _ (List.Subset.refl _)) (by rwa [AnyName.rest_token]) hspells htype hlength
    (hends.isWord_eq_false (by decide)) hvs (by simp)
  rw [hnullable, AnyName.text_token] at hread
  simpa [Dialect.width?, definition] using hread

end ConstrainedColumn

/-! ## Entries -/

/-- What is read as an entry of a table wherever it stands between two commas. No semicolon cuts it, and
it does not start as a query does. -/
structure ReadableEntry where
  parts : List Part
  definitions : List Definition
  fits : ∀ ps, Trails ps → Fit .mysql (parts ++ ps)
  whole : .mark ';' ∉ parts
  starts : ∀ ps, ∃ t us, tokens (parts ++ ps) = t :: us ∧ t.kind ≠ .mark ∧
    t.isOneOf ["SELECT", "WITH"] = false
  reads : ∀ ps, EndsItem ps →
    ∃ es, (entries .mysql).run (tokens (parts ++ ps)) = some (some es, tokens ps) ∧
      es.map Entry.definition? = definitions.map fun d => .ok (pure d)

/-- A column starts with its name. -/
def ConstrainedColumn.readable (c : ConstrainedColumn) : ReadableEntry where
  parts := c.parts
  definitions := [.column c.definition]
  fits _ := c.fit_parts
  whole := c.semicolon_notMem_parts
  starts _ := ⟨_, _, by simp [parts]; exact ⟨rfl, rfl⟩, (c.name.namesTable_token _).noMark,
    c.name.isOneOf_token _ (by decide)⟩
  reads _ := c.entries_parts

/-- A key starts with a word of its own. -/
def WrittenKey.readable (k : WrittenKey) : ReadableEntry where
  parts := k.parts
  definitions := [.foreignKey k.definition]
  fits _ := k.fit_parts
  whole := k.semicolon_notMem_parts
  starts ps := ⟨_, _, by simp [parts, tokens]; rfl, by simp,
    (k.foreign.spells (script (k.key.parts ++ (k.column.parts ++ (k.referenceParts ++ ps))))).isOneOf
      ["SELECT", "WITH"]⟩
  reads _ := k.entries_parts

/-- An index starts with a word of its own. -/
def DeclaredIndex.readable (i : DeclaredIndex) : ReadableEntry where
  parts := i.parts
  definitions := [.index i.definition]
  fits _ := i.fit_parts
  whole := i.semicolon_not_mem_parts
  starts _ := ⟨_, _, rfl, by simp,
    (spells_capital (w := "INDEX") (by decide) _).isOneOf ["SELECT", "WITH"]⟩
  reads _ := entries_index i

/-- An entry of a table. Any `other` entry has its columns without a notice, and no foreign key. -/
inductive TableEntry where
  | column (c : ConstrainedColumn)
  | key (k : WrittenKey)
  | other (e : ReadableEntry) (columns : List Column)
    (taken : Extraction.columns e.definitions = pure columns)
    (keyless : Extraction.foreignKeys e.definitions = [])

namespace TableEntry

def readable : TableEntry → ReadableEntry
  | column c => c.readable
  | key k => k.readable
  | other e _ _ _ => e

/-- What an entry adds to the columns of the schema. -/
def columns : TableEntry → List Column
  | column c => [c.column]
  | key _ => []
  | other _ cs _ _ => cs

def key? : TableEntry → Option WrittenKey
  | column _ | other _ _ _ _ => none
  | key k => some k

/-- An entry has its columns, without a notice. -/
theorem columns_definitions (e : TableEntry) :
    Extraction.columns e.readable.definitions = pure e.columns := by
  cases e with
  | column c => simp [readable, ConstrainedColumn.readable, Extraction.columns, columns,
      c.column?_definition]
  | key k => rfl
  | other e cs taken keyless => exact taken

theorem foreignKeys_definitions (e : TableEntry) :
    Extraction.foreignKeys e.readable.definitions = (e.key?.map WrittenKey.definition).toList := by
  cases e with
  | column c => rfl
  | key k => rfl
  | other e cs taken keyless => exact keyless

end TableEntry

/-- An index is an entry that has no column and is no foreign key. -/
def TableEntry.index (i : DeclaredIndex) : TableEntry := .other i.readable [] rfl rfl

/-! ## Tables -/

/-- A table with at least one entry. Its name is not one that is found as a word even between quotes. A
semicolon may end the statement, with blanks behind it. -/
structure ConstrainedTable where
  start : Layout
  create : Keyword "CREATE"
  table : Phrase ["TABLE"]
  between : Parting
  name : AnyName
  legible : Text.upper name.text ∉ creationWords
  before : Layout
  entries : List TableEntry
  nonempty : entries ≠ []
  after : Layout
  semicolon : Option Layout

namespace ConstrainedTable

def keys (t : ConstrainedTable) : List WrittenKey := t.entries.filterMap TableEntry.key?

/-- The columns of all entries. -/
def columns (t : ConstrainedTable) : List Column := t.entries.flatMap TableEntry.columns

def readable (t : ConstrainedTable) : List ReadableEntry := t.entries.map TableEntry.readable

def definitions (t : ConstrainedTable) : List Definition := t.readable.flatMap (·.definitions)

/-- The statement up to its semicolon. -/
def parts (t : ConstrainedTable) : List Part :=
  t.start.parts ++ .word t.create.text :: (t.table.parts ++ (t.between.parts ++ t.name.part ::
    (t.before.parts ++ .mark '(' :: (joined [] (t.readable.map (·.parts)) ++
      .mark ')' :: t.after.parts))))

/-- The semicolon with what follows. -/
def endParts (t : ConstrainedTable) : List Part :=
  t.semicolon.elim [] fun l => .mark ';' :: l.parts

/-- The statement that creates the table. -/
def text (t : ConstrainedTable) : String := String.ofList (script (t.parts ++ t.endParts))

/-- The relation of a key of the table. -/
def relation (t : ConstrainedTable) (k : WrittenKey) : Relation where
  name := Extraction.relationName (t.columns.map (·.name)) k.column.name.text
  relatedModel := Extraction.relatedModel k.table.text
  field := k.column.name.text
  references := k.remote.name.text
  onDelete := (KeyClause.first? .delete k.clauses).getD .noAction
  onUpdate := (KeyClause.first? .update k.clauses).getD .noAction

/-- The schema of the table. -/
def schema (t : ConstrainedTable) : TableSchema where
  tableName := t.name.text
  columns := t.columns
  relations := t.keys.map t.relation
  indexes := Extraction.indexes t.definitions

theorem fit_parts (t : ConstrainedTable) : Fit .mysql (t.parts ++ t.endParts) := by
  have hend : Fit .mysql t.endParts := by
    unfold endParts
    cases t.semicolon with
    | none => trivial
    | some l =>
      have hlayout : Fit .mysql (l.parts ++ []) := l.fit_parts trivial
      rw [List.append_nil] at hlayout
      exact ⟨by simp [Part.Fits, closers], hlayout⟩
  have hitems : ∀ p ∈ t.readable.map (·.parts), ∀ qs, Trails qs → Fit .mysql (p ++ qs) := by
    intro p hp qs hqs
    obtain ⟨e, -, rfl⟩ := List.mem_map.1 hp
    exact e.fits qs hqs
  have hclose := trails_mark (c := ')') (by decide) (t.after.fit_parts hend)
  have hentries : Fit .mysql (joined [] (t.readable.map (·.parts)) ++
      .mark ')' :: (t.after.parts ++ t.endParts)) := fit_joined [] (fun _ hqs => hqs) hitems hclose
  have hopen := trails_mark (c := '(') (by decide) hentries
  have hname := t.between.trails_parts (t.name.fit_part (t.before.trails_parts hopen))
  have hcreate := fit_word (t.create.isWordText_text (by decide))
    (t.table.trails_parts (by decide) hname)
  simpa [parts] using t.start.fit_parts hcreate

theorem semicolon_notMem_parts (t : ConstrainedTable) : .mark ';' ∉ t.parts := by
  have hall : (joined [] (t.readable.map (·.parts))).all (· ≠ .mark ';') = true := by
    refine all_joined (by decide) rfl fun p hp => ?_
    obtain ⟨e, -, rfl⟩ := List.mem_map.1 hp
    refine List.all_eq_true.2 fun q hq => decide_eq_true ?_
    rintro rfl
    exact e.whole hq
  have hentries : .mark ';' ∉ joined [] (t.readable.map (·.parts)) := fun h =>
    of_decide_eq_true (List.all_eq_true.1 hall _ h) rfl
  simp [parts, hentries]

/-- The list of entries starts with a token that starts no query. -/
theorem tokens_entries (t : ConstrainedTable) (ps : List Part) :
    ∃ u us, tokens (joined [] (t.readable.map (·.parts)) ++ ps) = u :: us ∧
      u.kind ≠ .mark ∧ u.isOneOf ["SELECT", "WITH"] = false := by
  obtain ⟨e, es, hes⟩ := List.exists_cons_of_ne_nil t.nonempty
  rw [readable, hes, List.map_cons, List.map_cons]
  cases es with
  | nil => exact e.readable.starts ps
  | cons e' es =>
    rw [List.map_cons, List.map_cons, joined, List.append_assoc]
    exact e.readable.starts _

/-- The statement of a table is read as its entries, whatever is written behind it. -/
theorem run_statement (t : ConstrainedTable) (behind : List Char) :
    ∃ es, (statement .mysql).run (tokens (t.parts ++ blanks behind)) =
        some (.create "table" (some ⟨none, t.name.text⟩) es, []) ∧
      es.map Entry.definition? = t.definitions.map fun d => .ok (pure d) := by
  have hnonempty : t.readable ≠ [] := fun h => t.nonempty (List.map_eq_nil_iff.1 h)
  obtain ⟨ess, hess, hdefinitions⟩ := closedList_joined (f := List.map Entry.definition?)
    [] rfl hnonempty (fun e _ => e.reads)
    (endsItem_mark (c := ')') (by decide) (t.after.parts ++ blanks behind)) rfl
  obtain ⟨u, us, hfirst, hmark, hquery⟩ :=
    t.tokens_entries (.mark ')' :: (t.after.parts ++ blanks behind))
  let rest := joined [] (t.readable.map (·.parts)) ++ .mark ')' :: (t.after.parts ++ blanks behind)
  obtain ⟨table, hword, htable⟩ := t.table.exists_token (t.between.parts ++ t.name.part ::
    (t.before.parts ++ .mark '(' :: rest))
  obtain ⟨x, z, z', hshown⟩ : ∃ x z z', tokens (t.parts ++ blanks behind) =
      ⟨.word, t.create.text, x⟩ :: table :: t.name.token z :: .ofMark '(' z' :: tokens rest := by
    exact ⟨_, _, _, by simp [parts, tokens, rest] at hword ⊢; exact ⟨rfl, hword⟩⟩
  have hnone : tokens (t.after.parts ++ blanks behind) = [] := by simp
  rw [hfirst, hnone] at hess
  rw [show tokens rest = u :: us from hfirst] at hshown
  refine ⟨ess.flatten, ?_, ?_⟩
  · rw [hshown, ← t.name.text_token z]
    exact Reading.run_statement (t.create.spells x) htable (t.name.namesTable_token z)
      (t.name.hasText_token t.legible) z' (run_body .mysql z' hmark hquery hess)
  · rw [List.map_flatten, hdefinitions, definitions, List.map_flatMap, List.flatMap_def]

/-- The statement of a table is read as its entries, with or without its semicolon. -/
theorem parse_text (t : ConstrainedTable) :
    ∃ es, parse .mysql t.text = some [.create "table" (some ⟨none, t.name.text⟩) es] ∧
      es.map Entry.definition? = t.definitions.map fun d => .ok (pure d) := by
  -- the statement ends in front of the semicolon, but its tokens know the script behind it
  obtain ⟨es, hes, hdefinitions⟩ := t.run_statement (script t.endParts)
  have hsemicolon : .mark ';' ∉ t.parts ++ blanks (script t.endParts) := by
    simp [t.semicolon_notMem_parts, blanks]
  have hend : tokens t.endParts = [] ∨ ∃ r, tokens t.endParts = [.ofMark ';' r] := by
    unfold endParts
    cases t.semicolon with
    | none => exact .inl rfl
    | some l => exact .inr ⟨_, congrArg (Token.ofMark ';' _ :: ·) (tokens_blanks _)⟩
  have htext : t.text.toList = script (t.parts ++ t.endParts) := String.toList_ofList
  refine ⟨es, parse_statement htext t.fit_parts (isMark_of_mem_tokens hsemicolon) ?_ hes,
    hdefinitions⟩
  rw [tokens_append t.parts t.endParts]
  rcases hend with hend | ⟨r, hend⟩
  · exact .inl (by rw [hend, List.append_nil])
  · exact .inr ⟨r, by rw [hend]⟩

/-- The columns of definitions are taken over one by one. -/
theorem columns_concat (ds ds' : List Definition) :
    Extraction.columns (ds ++ ds') = (do
      let cs ← Extraction.columns ds
      let cs' ← Extraction.columns ds'
      pure (cs ++ cs')) := by
  induction ds with
  | nil => simp [Extraction.columns]
  | cons d ds ih =>
    cases d with
    | column c =>
      simp only [List.cons_append, Extraction.columns, ih, bind_assoc, pure_bind, List.append_assoc]
    | foreignKey k => exact ih
    | index i => exact ih
    | other label => exact ih

/-- The columns of the definitions are those of the entries, one entry after the other. -/
theorem columns_definitions (es : List TableEntry) :
    Extraction.columns ((es.map TableEntry.readable).flatMap (·.definitions)) =
      pure (es.flatMap TableEntry.columns) := by
  induction es with
  | nil => rfl
  | cons e es ih =>
    rw [List.map_cons, List.flatMap_cons, List.flatMap_cons, columns_concat,
      e.columns_definitions, ih]
    rfl

theorem foreignKeys_definitions (es : List TableEntry) :
    Extraction.foreignKeys ((es.map TableEntry.readable).flatMap (·.definitions)) =
      (es.filterMap TableEntry.key?).map WrittenKey.definition := by
  induction es with
  | nil => rfl
  | cons e es ih =>
    have hfirst := e.foreignKeys_definitions
    unfold Extraction.foreignKeys at hfirst ih ⊢
    rw [List.map_cons, List.flatMap_cons, List.filterMap_append, hfirst, ih, List.filterMap_cons]
    cases e.key? <;> rfl

/-- The schema of the definitions, without a notice. -/
theorem schema_definitions (t : ConstrainedTable) :
    Extraction.schema (some t.name.text) t.definitions = pure t.schema := by
  have hcolumns : Extraction.columns t.definitions = pure t.columns := columns_definitions t.entries
  have hkeys : Extraction.foreignKeys t.definitions = t.keys.map WrittenKey.definition :=
    foreignKeys_definitions t.entries
  rw [Extraction.schema, hcolumns, hkeys, pure_bind, List.map_map]
  rfl

/-- A table has its schema, without a notice. -/
theorem extracts (t : ConstrainedTable) : Extracts .mysql t.text t.schema := by
  obtain ⟨es, hparse, hes⟩ := t.parse_text
  exact extract_create hparse hes t.schema_definitions

/-- A table is read without a notice, and each of its entries on its own: a column is optional exactly
if it has a constraint `NULL` behind which it has no other constraint on null. -/
theorem last_null_decides (t : ConstrainedTable) :
    ∃ s, Extracts .mysql t.text s ∧ s.columns = t.entries.flatMap TableEntry.columns ∧
      ∀ c, .column c ∈ t.entries → (c.column.isOptional = true ↔
        ∃ front words back, c.constraints = front ++ .null words :: back ∧
          ∀ x ∈ back, x.nullable = none) := by
  refine ⟨t.schema, t.extracts, rfl, fun c _ => ?_⟩
  rw [← c.nullable_eq_some_true_iff]
  exact beq_iff_eq

/-- A `NULL` that is a default value or that stands in a text says nothing of null. -/
example :
    let gap : Parting := ⟨⟨[' '], List.forall_mem_singleton.2 (by decide)⟩, by decide⟩
    let null : Keyword "NULL" := ⟨"null", by decide⟩
    let comment : TextLiteral := ⟨'\'', .inl rfl, ['N', 'U', 'L', 'L'], ['N', 'U', 'L', 'L'],
      .plain (by decide) (.plain (by decide) (.plain (by decide) (.plain (by decide) .nil)))⟩
    let column : ConstrainedColumn :=
      { before := ⟨[], List.forall_mem_nil _⟩
        name := .quoted ⟨['a'], by decide, ['a'], .plain (by decide) .nil⟩
        between := gap
        type := ⟨"INT", ("int", .number, .int), by decide, by decide⟩
        length := none
        constraints :=
          [.notNull (.cons gap ⟨"NOT", by decide⟩ (.cons gap null .nil)),
           .default (.cons gap ⟨"DEFAULT", by decide⟩ .nil) (.null (.cons gap null .nil)),
           .comment (.cons gap ⟨"COMMENT", by decide⟩ .nil) gap comment]
        after := ⟨[], List.forall_mem_nil _⟩ }
    String.ofList (script column.parts) = "\x60a\x60 INT NOT null DEFAULT null COMMENT 'NULL'" ∧
      column.column.isOptional = false := by
  decide +kernel

end ConstrainedTable

end TableScaffold.Sql
