import TableScaffold.Proofs.Attempt
import TableScaffold.Proofs.Sql.RoundTrip
import TableScaffold.Proofs.Sql.Written

/-!
# Written tables in every dialect

`dialects_agree_iff`: a written table has the declared schema in every dialect, without a notice, but
for one thing: a decimal column has a length in one dialect, although none is written. So all dialects
agree on a table exactly if it has no decimal column.

1. The tokens of a written table do not depend on its layout, and neither do the columns read from them
   (`WrittenColumn.entries_parts`).
2. The dialects take a type word for different types, but the type of a column is the written word. Only
   the length is taken from the type of the dialect (`run_dataType`).
3. So the statement has the declared schema with the lengths of the dialect (`extracts`).
-/

namespace TableScaffold.Sql

open Reading

/-! ## Schemas in a dialect -/

/-- Whether a script is one statement with the given schema; no notice is made. -/
def Extracts (d : Dialect) (text : String) (s : TableSchema) : Prop :=
  ∃ tree, trees d text = pure [tree] ∧ extract (.list [tree]) = pure s

/-- The length of a column that is written without one. -/
def Dialect.width? (d : Dialect) (sqlType : String) : Option Int :=
  if d = .snowflake ∧ sqlType = "DECIMAL" then some 38 else none

/-- A schema with the lengths that a dialect adds. -/
def Dialect.completed (d : Dialect) (s : TableSchema) : TableSchema :=
  { s with columns := s.columns.map fun c => { c with length := c.length <|> d.width? c.sqlType } }

variable {d : Dialect} {text : String} {s s' : TableSchema}

/-- A script has one schema at most. -/
theorem Extracts.unique (h : Extracts d text s) (h' : Extracts d text s') : s = s' := by
  obtain ⟨tree, htree, hs⟩ := h
  obtain ⟨tree', htree', hs'⟩ := h'
  have hsame : Except.ok [tree] = .ok [tree'] := congrArg Attempt.outcome (htree.symm.trans htree')
  cases hsame
  exact Except.ok.inj (congrArg Attempt.outcome (hs.symm.trans hs'))

/-- The width of a type is that of its word. -/
theorem defaultSize_typeOfWord? (d : Dialect) {key name : String} (hkey : key ∈ typeKeys)
    (hname : d.typeOfWord? key = some name) (n : String) :
    DataType.length ⟨some n, Dialect.defaultSize d name⟩ = .ok (d.width? key) := by
  have hall : ∀ d ∈ Dialect.all, ∀ k ∈ typeKeys,
      (d.typeOfWord? k).bind (Dialect.defaultSize d) = (d.width? k).map fun _ => "38" := by
    decide +kernel
  have hd : d ∈ Dialect.all := by cases d <;> decide
  have hsize := hall d hd key hkey
  rw [hname, Option.bind_some] at hsize
  have hdigits : Text.isAllDigits "38" = true := by decide +kernel
  have hread : Decimal.whole? "38" = some 38 := by decide +kernel
  rw [hsize, Dialect.width?]
  by_cases hwide : d = .snowflake ∧ key = "DECIMAL"
  · rw [if_pos hwide]
    simp [DataType.length, hdigits, hread]
  · rw [if_neg hwide]
    rfl

/-! ## Tokens -/

variable {ps : List Part}

/-- Layout has no tokens. -/
@[simp] theorem Space.tokens_parts (s : Space) (ps : List Part) : tokens (s.parts ++ ps) = tokens ps :=
  tokens_append_of_nil (tokens_blanks _) ps

theorem Keyword.spells {w : String} (k : Keyword w) (r : List Char) : Token.Spells w ⟨.word, k.text, r⟩ :=
  ⟨rfl, k.spelled⟩

theorem WrittenColumn.saysNull_tailParts (c : WrittenColumn) (h : EndsItem ps) :
    SaysNull (c.notNull.map fun _ => false) (tokens (c.tailParts ++ ps)) (tokens ps) := by
  refine ⟨?_, h.mark⟩
  rw [tailParts, List.append_assoc]
  cases c.notNull with
  | none => exact ⟨[], trivial, Space.tokens_parts _ _⟩
  | some n =>
    obtain ⟨p, q, htokens⟩ : ∃ p q, tokens (n.parts ++ (c.after.parts ++ ps)) =
        [⟨.word, n.negation.text, p⟩, ⟨.word, n.null.text, q⟩] ++ tokens ps := by
      simp [NotNull.parts, tokens]
    exact ⟨[⟨.word, n.negation.text, p⟩, ⟨.word, n.null.text, q⟩],
      ⟨n.negation.spells p, n.null.spells q, trivial⟩, htokens⟩

/-- A type is read with the length that is written behind it, if there is one. -/
theorem TypeWord.run_dataType (w : TypeWord) (length : Option WrittenLength) (d : Dialect)
    (r : List Char) (h : EndsType (tokens ps)) :
    ∃ type, (dataType d).run
        (⟨.word, w.word, r⟩ :: tokens (length.elim [] WrittenLength.parts ++ ps)) =
          some (type, tokens ps) ∧
      type.length = .ok ((length.map fun l => (l.number : Int)) <|> d.width? w.key) := by
  have hword : Token.Spells w.key ⟨.word, w.word, r⟩ := ⟨rfl, rfl⟩
  obtain ⟨name, hname, -⟩ := typeOfWord?_key d w.key_mem
  cases length with
  | none =>
    exact ⟨_, run_dataType_plain d hword w.key_mem hname h,
      defaultSize_typeOfWord? d w.key_mem hname name⟩
  | some l =>
    obtain ⟨p, q, q', htokens⟩ : ∃ p q q', tokens (l.parts ++ ps) =
        .ofMark '(' p :: ⟨.number, l.digits, q⟩ :: .ofMark ')' q' :: tokens ps := by
      simp [WrittenLength.parts, tokens]
    refine ⟨⟨some name, some l.digits⟩, ?_, ?_⟩
    · show (dataType d).run (_ :: tokens (l.parts ++ ps)) = _
      rw [htokens]
      exact run_dataType_sized d hword w.key_mem hname (by simp) p q' h
    · unfold DataType.length
      simp only [Decimal.isAllDigits_digits l.nonempty l.decimal,
        Decimal.whole?_digits l.nonempty l.decimal l.readable]
      rfl

/-- The length of a column in a dialect. -/
def WrittenColumn.lengthIn (c : WrittenColumn) (d : Dialect) : Option Int :=
  (c.length.map fun l => (l.number : Int)) <|> d.width? c.type.key

/-! ## Columns -/

/-- The definition of a column in a dialect. -/
def WrittenColumn.definition (c : WrittenColumn) (d : Dialect) : ColumnDefinition :=
  { c.declared.definition with length := c.lengthIn d }

/-- A column of the schema in a dialect. -/
def WrittenColumn.columnIn (c : WrittenColumn) (d : Dialect) : Column :=
  { c.declared.column with length := c.lengthIn d }

/-- A column is taken over without a notice. -/
theorem WrittenColumn.column?_definition (c : WrittenColumn) (d : Dialect) :
    Extraction.column? (c.definition d) = pure (some (c.columnIn d)) :=
  column?_typeWord c.type rfl

/-- The column is the declared one with the length that the dialect adds. -/
theorem WrittenColumn.columnIn_eq (c : WrittenColumn) (d : Dialect) :
    c.columnIn d = { c.declared.column with
      length := c.declared.column.length <|> d.width? c.declared.column.sqlType } := by
  have hlength : c.declared.column.length = c.length.map fun l => (l.number : Int) := by
    cases hl : c.length <;> simp [DeclaredColumn.column, declared, hl]
  rw [columnIn, lengthIn, hlength]
  rfl

/-- The name of a column or a table is no word that starts something else. -/
theorem PlainName.isOneOf (n : PlainName) (r : List Char) {ws : List String}
    (hws : ws ⊆ specialWords) : Token.isOneOf ws ⟨.word, n.text, r⟩ = false := by
  have hfree := n.free
  have hspecial : Token.isOneOf specialWords ⟨.word, n.text, r⟩ = false := by
    simpa [Token.isOneOf, Token.upper] using hfree
  exact Token.isOneOf_of_subset hspecial hws

/-- Nor does it say such a word in other letters. -/
theorem PlainName.hasText (n : PlainName) (r : List Char) {ws : List String} (hws : ws ⊆ specialWords) :
    Token.hasText ws ⟨.word, n.text, r⟩ = false := by
  have hascii : Text.upper n.text = String.ofList (n.text.toList.map Char.toUpper) := by
    refine Text.upper_ascii fun c hc => ?_
    have hin := n.inTypeWord_of_mem hc
    simp only [inTypeWord, Bool.or_eq_true, decide_eq_true_eq] at hin
    rcases hin with hin | rfl
    · exact Text.toNat_lt_of_isAlphanum hin
    · decide
  have hfree : Token.hasText specialWords ⟨.word, n.text, r⟩ = false := by
    simpa [Token.hasText, hascii] using n.free
  exact Token.hasText_of_subset hfree hws

/-- A column is read as its definition. -/
theorem WrittenColumn.entries_parts (c : WrittenColumn) (d : Dialect) (h : EndsItem ps) :
    ∃ es, (entries d).run (tokens (c.parts ++ ps)) = some (some es, tokens ps) ∧
      es.map Entry.definition? = [.ok (pure (.column (c.definition d)))] := by
  have hnull := c.saysNull_tailParts h
  let rest := c.length.elim [] WrittenLength.parts ++ (c.tailParts ++ ps)
  have hrest : c.behindType ++ ps = rest := List.append_assoc _ _ _
  -- the dialect reads some type from the tokens, the written word is read from behind the name
  obtain ⟨type, htype, hlength⟩ := c.type.run_dataType c.length d (script rest) hnull.endsType.1
  have hafter : typeWord? (c.between.text.toList ++ script (.word c.type.word :: rest)) =
      some c.type.word :=
    typeWord?_word _ (fun _ => c.between.isBlank_of_mem) c.type.isWordText_word
      (hrest ▸ c.endsWord_behindType h.endsWord)
  have hshown : tokens (c.parts ++ ps) =
      ⟨.word, c.name.text, c.between.text.toList ++ script (.word c.type.word :: rest)⟩ ::
        ⟨.word, c.type.word, script rest⟩ :: tokens rest := by
    rw [← hrest]
    simp [parts, tokens]
  rw [hshown]
  exact run_entries_typed d (.inl rfl) (c.name.isOneOf _ (List.Subset.refl _)) hafter ⟨rfl, rfl⟩ htype hlength
    hnull

/-! ## Statements -/

theorem PlainName.namesTable (n : PlainName) (d : Dialect) (r : List Char) :
    NamesTable d ⟨.word, n.text, r⟩ where
  plain := by
    have hreserved : Token.isOneOf reservedWords ⟨.word, n.text, r⟩ = false :=
      n.isOneOf r (by decide)
    have hnot : Token.isOneOf ["NOT"] ⟨.word, n.text, r⟩ = false := n.isOneOf r (by decide)
    simp_all [isPlainName, Token.isOneOf, Token.isWord]
  noMark := by simp
  undotted _ h := absurd (n.inTypeWord_of_mem h) (by decide)

/-- What is written behind some parts is to them as if it were blank. -/
theorem tokens_append (ps qs : List Part) :
    tokens (ps ++ qs) = tokens (ps ++ blanks (script qs)) ++ tokens qs := by
  induction ps with
  | nil => simp
  | cons p ps ih => cases p <;> simp [tokens, ih]

namespace WrittenTable

/-- The list of entries starts with the name of the first column. -/
theorem tokens_columns (t : WrittenTable) (ps : List Part) :
    ∃ (n : PlainName) (q : List Char) (us : List Token),
      tokens (joined [] (t.columns.map WrittenColumn.parts) ++ ps) = ⟨.word, n.text, q⟩ :: us := by
  obtain ⟨c, cs, hcs⟩ := List.exists_cons_of_ne_nil t.nonempty
  rw [hcs]
  refine ⟨c.name, ?_⟩
  cases cs <;> simp [joined, WrittenColumn.parts, tokens]

/-- The statement of a table is read as its columns, whatever is written behind it. -/
theorem run_statement (t : WrittenTable) (d : Dialect) (behind : List Char) :
    ∃ es, (statement d).run (tokens (t.parts ++ blanks behind)) =
        some (.create "table" (some ⟨none, t.name.text⟩) es, []) ∧
      es.map Entry.definition? =
        (t.columns.map fun c => .column (c.definition d)).map fun d => .ok (pure d) := by
  obtain ⟨ess, hess, hdefinitions⟩ := closedList_joined (f := List.map Entry.definition?)
    [] rfl t.nonempty (fun c _ ps hps => c.entries_parts d hps)
    (endsItem_mark (c := ')') (by decide) (t.after.parts ++ blanks behind)) rfl
  obtain ⟨n, q, us, hfirst⟩ := t.tokens_columns (.mark ')' :: (t.after.parts ++ blanks behind))
  obtain ⟨x, y, z, z', hshown⟩ : ∃ x y z z', tokens (t.parts ++ blanks behind) =
      ⟨.word, t.create.text, x⟩ :: ⟨.word, t.table.text, y⟩ :: ⟨.word, t.name.text, z⟩ ::
        .ofMark '(' z' :: tokens (joined [] (t.columns.map WrittenColumn.parts) ++
          .mark ')' :: (t.after.parts ++ blanks behind)) := by
    simp [parts, tokens]
  have hnone : tokens (t.after.parts ++ blanks behind) = [] := by simp
  rw [hfirst] at hess hshown
  rw [hnone] at hess
  refine ⟨ess.flatten, ?_, ?_⟩
  · rw [hshown]
    exact Reading.run_statement (t.create.spells x) (t.table.spells y) (t.name.namesTable d z)
      (t.name.hasText z (by decide)) z' (run_body d z' (by simp) (n.isOneOf q (by decide)) hess)
  · rw [List.map_flatten, hdefinitions, List.map_map, ← List.flatMap_def]
    exact List.map_eq_flatMap.symm

/-- A statement is read in every dialect, with or without its semicolon. -/
theorem parse_text (t : WrittenTable) (d : Dialect) :
    ∃ es, parse d t.text = some [.create "table" (some ⟨none, t.name.text⟩) es] ∧
      es.map Entry.definition? =
        (t.columns.map fun c => .column (c.definition d)).map fun d => .ok (pure d) := by
  -- the statement ends in front of the semicolon, but its tokens know the script behind it
  obtain ⟨es, hes, hdefinitions⟩ := t.run_statement d (script t.endParts)
  have hsemicolon : .mark ';' ∉ t.parts ++ blanks (script t.endParts) := by
    rw [List.mem_append, not_or]
    refine ⟨fun h => ?_, by simp [blanks]⟩
    exact absurd (List.all_eq_true.1 t.all_isBare _ h) (by decide)
  have hend : tokens t.endParts = [] ∨ ∃ r, tokens t.endParts = [.ofMark ';' r] := by
    unfold endParts
    cases t.semicolon with
    | none => exact .inl rfl
    | some s => exact .inr ⟨_, congrArg (Token.ofMark ';' _ :: ·) (tokens_blanks _)⟩
  refine ⟨es, parse_statement t.toList_text (t.fit_parts d) (isMark_of_mem_tokens hsemicolon) ?_ hes,
    hdefinitions⟩
  rw [tokens_append t.parts t.endParts]
  rcases hend with hend | ⟨r, hend⟩
  · exact .inl (by rw [hend, List.append_nil])
  · exact .inr ⟨r, by rw [hend]⟩

theorem columns_completed (t : WrittenTable) (d : Dialect) :
    (d.completed t.declared.schema).columns = t.columns.map (WrittenColumn.columnIn · d) := by
  simp only [Dialect.completed, DeclaredTable.schema, declared, List.map_map]
  exact List.map_congr_left fun c _ => (c.columnIn_eq d).symm

/-- The schema of the definitions, without a notice. -/
theorem schema_definitions (t : WrittenTable) (d : Dialect) :
    Extraction.schema (some t.name.text) (t.columns.map fun c => .column (c.definition d)) =
      pure (d.completed t.declared.schema) := by
  have hcolumns : Extraction.columns (t.columns.map fun c => .column (c.definition d)) =
      pure (t.columns.map (WrittenColumn.columnIn · d)) := by
    rw [← List.append_nil (t.columns.map fun c => Definition.column (c.definition d))]
    exact columns_append (fun c => c.column?_definition d) t.columns rfl
  have hkeys : Extraction.foreignKeys (t.columns.map fun c => .column (c.definition d)) = [] := by
    simp [Extraction.foreignKeys, List.filterMap_map]
  have hindexes : Extraction.indexes (t.columns.map fun c => .column (c.definition d)) = [] := by
    simp [Extraction.indexes, List.filterMap_map]
  rw [Extraction.schema, hcolumns, hkeys, hindexes, ← t.columns_completed]
  rfl

/-- A written table has the declared schema, with the lengths of the dialect. -/
theorem extracts (t : WrittenTable) (d : Dialect) :
    Extracts d t.text (d.completed t.declared.schema) := by
  obtain ⟨es, hparse, hes⟩ := t.parse_text d
  exact extract_create hparse hes (t.schema_definitions d)

/-- The types of the columns are the written words in capital letters. -/
theorem sqlTypes_declared (t : WrittenTable) :
    t.declared.schema.columns.map (·.sqlType) = t.columns.map fun c => Text.upper c.type.word := by
  simp only [DeclaredTable.schema, declared, List.map_map]
  exact List.map_congr_left fun c _ => c.type.upper_word.symm

/-- Only a decimal column has a length that is not written. -/
theorem lengths_agree_iff (t : WrittenTable) :
    (∀ d d' : Dialect, d.completed t.declared.schema = d'.completed t.declared.schema) ↔
      ∀ c ∈ t.columns, c.type.key ≠ "DECIMAL" := by
  constructor
  · intro hsame c hc hkey
    have hcolumns := congrArg TableSchema.columns (hsame .mysql .snowflake)
    rw [t.columns_completed, t.columns_completed, List.map_inj_left] at hcolumns
    have hlength := congrArg Column.length (hcolumns c hc)
    have hnone : c.length = none := by
      have hsized := c.sized
      rw [hkey] at hsized
      cases hl : c.length with
      | none => rfl
      | some l => exact absurd (hsized (by rw [hl]; rfl)) (by decide)
    simp [WrittenColumn.columnIn, WrittenColumn.lengthIn, hnone, hkey, Dialect.width?] at hlength
  · intro hkeys d d'
    have hsame : ∀ c ∈ t.columns, c.columnIn d = c.columnIn d' := by
      intro c hc
      have hwidth (d : Dialect) : d.width? c.type.key = none := if_neg fun h => hkeys c hc h.2
      simp [WrittenColumn.columnIn, WrittenColumn.lengthIn, hwidth]
    have hcolumns : (d.completed t.declared.schema).columns =
        (d'.completed t.declared.schema).columns := by
      rw [t.columns_completed, t.columns_completed, List.map_congr_left hsame]
    exact congrArg (fun cs => { t.declared.schema with columns := cs }) hcolumns

/-- A table is read in every dialect, with the written type words as the types of its columns and
without a notice. Its schema is the same in all dialects exactly if it has no decimal column. -/
theorem dialects_agree_iff (t : WrittenTable) :
    (∀ d, Extracts d t.text (d.completed t.declared.schema)) ∧
      (t.declared.schema.columns.map (·.sqlType) = t.columns.map fun c => Text.upper c.type.word) ∧
      ((∃ s, ∀ d, Extracts d t.text s) ↔ ∀ c ∈ t.columns, c.type.key ≠ "DECIMAL") := by
  refine ⟨t.extracts, t.sqlTypes_declared, ?_⟩
  rw [← t.lengths_agree_iff]
  constructor
  · rintro ⟨s, hs⟩ d d'
    exact ((t.extracts d).unique (hs d)).trans ((hs d').unique (t.extracts d'))
  · intro hsame
    refine ⟨Dialect.mysql.completed t.declared.schema, fun d => ?_⟩
    rw [hsame .mysql d]
    exact t.extracts d

/-- A table with one decimal column. -/
def decimal : WrittenTable where
  start := ⟨"", by decide⟩
  create := ⟨"CREATE", by decide⟩
  first := ⟨⟨" ", by decide⟩, by decide⟩
  table := ⟨"TABLE", by decide⟩
  second := ⟨⟨" ", by decide⟩, by decide⟩
  name := ⟨"t", by decide, by decide, by decide⟩
  before := ⟨" ", by decide⟩
  columns :=
    [{ before := ⟨"", by decide⟩
       name := ⟨"a", by decide, by decide, by decide⟩
       between := ⟨⟨" ", by decide⟩, by decide⟩
       type := ⟨"DECIMAL", ("decimal", .number, .decimal), by decide, by decide⟩
       length := none
       sized := by decide
       notNull := none
       after := ⟨"", by decide⟩ }]
  nonempty := by decide
  after := ⟨"", by decide⟩
  semicolon := none

/-- A decimal column without a length gets one in one dialect and none in another. -/
theorem decimal_dialects_differ :
    decimal.text = "CREATE TABLE t (a DECIMAL)" ∧
      ∃ s s', Extracts .mysql "CREATE TABLE t (a DECIMAL)" s ∧
        Extracts .snowflake "CREATE TABLE t (a DECIMAL)" s' ∧
        s.columns.map (·.length) = [none] ∧ s'.columns.map (·.length) = [some 38] := by
  have htext : decimal.text = "CREATE TABLE t (a DECIMAL)" := by decide +kernel
  refine ⟨htext, _, _, htext ▸ decimal.extracts .mysql, htext ▸ decimal.extracts .snowflake, ?_, ?_⟩ <;>
    decide +kernel

end WrittenTable

end TableScaffold.Sql
