import TableScaffold.Proofs.Sql.Type
import TableScaffold.ReferentialAction
import TableScaffold.Sql.Body

/-!
# Reading the entries of a table

A column, an index and a foreign key, each in front of the mark that ends its entry. An expression
that is a quoted name alone ends at that mark too.
-/

namespace TableScaffold

/-- The words of an action in a script. -/
def ReferentialAction.spelling : ReferentialAction → List String
  | noAction => ["NO", "ACTION"]
  | cascade => ["CASCADE"]
  | setNull => ["SET", "NULL"]
  | restrict => ["RESTRICT"]
  | setDefault => ["SET", "DEFAULT"]

namespace Sql.Reading

variable {t : Token} {ts : List Token}

/-! ## In front of a mark -/

/-- No clause starts with a mark. -/
theorem run_clause_mark (d : Dialect) (c : Char) (r : List Char) :
    (clause d).run (.ofMark c r :: ts) = some (none, .ofMark c r :: ts) := by
  unfold clause
  simp only [run_words_else, run_word_else, run_oneOf_else, Token.isWord_ofMark, Token.isOneOf_ofMark]
  cases d <;> simp

theorem run_columnClauses_mark (d : Dialect) (fuel : Nat) (c : Char) (r : List Char) :
    (columnClauses d fuel).run (.ofMark c r :: ts) = some ([], .ofMark c r :: ts) := by
  cases fuel <;> simp [columnClauses, columnClause, run_clause_mark]

/-! ## Columns -/

theorem run_clause_notNull (d : Dialect) {not null : Token} (hnot : not.Spells "NOT")
    (hnull : null.Spells "NULL") :
    (clause d).run (not :: null :: ts) =
      some (some ⟨.other "notnullcolumnconstraint", some false⟩, ts) := by
  have hwords : afterWords ["NOT", "NULL"] (not :: null :: ts) = some ts := by
    simp [afterWords, hnot.isWord, hnull.isWord]
  unfold clause
  rw [run_words_then hwords]
  rfl

theorem run_clause_null (d : Dialect) {null : Token} (hnull : null.Spells "NULL") :
    (clause d).run (null :: ts) = some (some ⟨.other "notnullcolumnconstraint", some true⟩, ts) := by
  unfold clause
  rw [run_words_else (by simp [hnull.isWord]), run_word_then (by simp [hnull.isWord])]
  rfl

/-- A clause in front of further ones. -/
theorem run_columnClauses_cons (d : Dialect) {us vs : List Token} {c : Clause}
    {cs : List (Option Clause)} {fuel : Nat} (hus : ∀ t ∈ us.head?, t.isWord "CONSTRAINT" = false)
    (hc : (clause d).run us = some (some c, vs))
    (hcs : (columnClauses d fuel).run vs = some (cs, ts)) :
    (columnClauses d (fuel + 1)).run us = some (some c :: cs, ts) := by
  cases us with
  | nil => simp [columnClauses, columnClause, hc, hcs]
  | cons t us =>
    have ht := hus t rfl
    simp [columnClauses, columnClause, ht, hc, hcs]

/-- A word that is none of the special ones stands for no value. -/
theorem valueWord?_eq_none (d : Dialect) {w : String} (h : w ∉ allValueWords) :
    d.valueWord? w = none := by
  have hd : d ∈ Dialect.all := by cases d <;> decide
  refine List.find?_eq_none.2 fun v hv heq => h ?_
  obtain rfl : v.word = w := by simpa using heq
  exact List.mem_flatMap.2 ⟨d, hd, List.mem_map_of_mem hv⟩

/-- A column begins with its name, unless that is a special word. -/
theorem run_head (d : Dialect) (hfree : t.isOneOf specialWords = false) :
    (head d t).run ts = some (.ofToken t, ts) := by
  have hsubset : allValueWords ⊆ specialWords := fun w hw => by
    rw [specialWords, List.append_assoc]
    exact List.mem_append_right _ (List.mem_append_left _ hw)
  have hvalues : t.isOneOf allValueWords = false := Token.isOneOf_of_subset hfree hsubset
  have hnone : (if t.kind == .word then d.valueWord? t.upper else none) = none := by
    by_cases hk : t.kind = .word
    · have hw : t.upper ∉ allValueWords := by simpa [Token.isOneOf, hk] using hvalues
      simp [valueWord?_eq_none d hw]
    · simp [hk]
  unfold head
  rw [hnone]
  rfl

/-- A column with a type. -/
theorem run_column (d : Dialect) (h : Head) {us vs : List Token} {type : DataType}
    {cs : List (Option Clause)} (htype : (dataType d).run us = some (type, vs))
    (hvs : ∀ t ∈ vs.head?, t.isWord "AS" = false)
    (hcs : (columnClauses d vs.length).run vs = some (cs, ts)) :
    (column d h).run us = some (.column
      { name := h.name
        after := h.after
        type := some type
        nullable := Clause.lastNullable (cs.filterMap id)
        emptyClause := cs.any (·.isNone) }, ts) := by
  have hcomputed : (computed d true).run vs = some (false, vs) := by
    cases vs with
    | nil => simp [computed]
    | cons t vs => simp [computed, hvs t rfl]
  unfold column
  simp [dataType?, htype, hcomputed, hcs]

/-- An entry that starts with a name is a column. The words for a key are names too, unless `KEY`
follows. -/
theorem run_entries_column (d : Dialect) {us : List Token} {e : Entry}
    (hkind : t.kind = .word ∨ t.kind = .name) (hfree : t.isOneOf specialWords = false)
    (hkey : t.kind = .word → ∀ u ∈ us.head?, u.isWord "KEY" = false)
    (h : (column d ⟨t.text, some t.rest, "identifier", true⟩).run us = some (e, ts)) :
    (entries d).run (t :: us) = some (some [e], ts) := by
  have hmark : t.kind ≠ .mark := by rcases hkind with hk | hk <;> rw [hk] <;> decide
  have hhead : Head.ofToken t = ⟨t.text, some t.rest, "identifier", true⟩ := by
    rcases hkind with hk | hk <;> simp [Head.ofToken, hk]
  have hwords : t.isOneOf ["CHECK", "LIKE", "UNIQUE"] = false :=
    Token.isOneOf_of_subset hfree (by decide)
  have hindex : t.isOneOf indexWords = false := Token.isOneOf_of_subset hfree (by decide)
  have hconstraint : t.isWord "CONSTRAINT" = false := Token.isWord_of_isOneOf hfree (by decide)
  have hexclude : t.isWord "EXCLUDE" = false := Token.isWord_of_isOneOf hfree (by decide)
  have hselect : t.isWord "SELECT" = false := Token.isWord_of_isOneOf hfree (by decide)
  have hnoKey (w : String) : afterWords [w, "KEY"] (t :: us) = none := by
    rcases hkind with hk | hk
    · cases us with
      | nil => cases hw : t.isWord w <;> simp [afterWords, hw]
      | cons u us => cases hw : t.isWord w <;> simp [afterWords, hw, hkey hk u rfl]
    · simp [afterWords, Token.isWord_eq_false (by rw [hk]; decide : t.kind ≠ .word)]
  have hstarts : (startsTableClause d).run (t :: us) = some (false, t :: us) := by
    cases hp : t.isOneOf ["PRIMARY", "FOREIGN"] <;>
      simp [startsTableClause, hwords, hindex, hnoKey, hp]
  have hany : isAnyName t = true := by simp [isAnyName, hmark, hselect]
  cases d <;>
    simp [entries, hconstraint, hstarts, hexclude, hany, Token.isMark_eq_false hmark, run_head _ hfree,
      hhead, h]

/-! ## The end of a value -/

/-- The marks that carry a value on. -/
def valueMarks : List Char := valueOperators ++ ['<', '(', '.', '[', ':']

/-- Whether a value ends in front of some tokens. -/
structure EndsValue (ts : List Token) : Prop where
  noText : ∀ t ∈ ts.head?, t.kind ≠ .text
  noMark : ∀ t ∈ ts.head?, isMarkOf valueMarks t = false
  noWord : ∀ t ∈ ts.head?, t.isOneOf (valueWords ++ ["AT", "START"]) = false

theorem isMarkOf_ofMark (cs : List Char) (c : Char) (r : List Char) :
    isMarkOf cs (.ofMark c r) = cs.contains c := by
  unfold isMarkOf
  rw [List.contains_eq_any_beq]
  exact congrArg cs.any (funext fun x => Token.isMark_ofMark c x r)

/-- A token that is none of some marks is none of fewer. -/
theorem isMarkOf_of_subset {cs ds : List Char} (h : isMarkOf ds t = false) (hcs : cs ⊆ ds) :
    isMarkOf cs t = false :=
  List.any_eq_false.2 fun c hc => List.any_eq_false.1 h c (hcs hc)

theorem isMark_of_isMarkOf {c : Char} {cs : List Char} (h : isMarkOf cs t = false) (hc : c ∈ cs) :
    t.isMark c = false := by
  simpa using List.any_eq_false.1 h c hc

theorem endsValue_mark {c : Char} (hc : c ∈ itemEnds) (r : List Char) :
    EndsValue (.ofMark c r :: ts) := by
  have hmark : valueMarks.contains c = false := by
    rcases itemEnds_cases hc with rfl | rfl <;> decide
  refine ⟨by simp, ?_, by simp⟩
  rintro u hu
  obtain rfl : .ofMark c r = u := Option.some.inj hu
  rw [isMarkOf_ofMark, hmark]

theorem endsValue_word {w : String} (ht : t.Spells w) (hw : w ∉ valueWords ++ ["AT", "START"]) :
    EndsValue (t :: ts) := by
  refine ⟨?_, ?_, ?_⟩ <;> rintro u hu <;> obtain rfl : t = u := Option.some.inj hu
  · simp [ht.1]
  · exact List.any_eq_false.2 fun c _ => by simp [ht.isMark]
  · rw [ht.isOneOf]
    simpa using hw

theorem run_marks_else {a b : Char} (h : t.isMark a = false) :
    (marks a b).run (t :: ts) = some (false, t :: ts) := by
  cases ts <;> simp [marks, h]

namespace EndsValue

theorem isMark (h : EndsValue (t :: ts)) {c : Char} (hc : c ∈ valueMarks) : t.isMark c = false :=
  isMark_of_isMarkOf (h.noMark t rfl) hc

theorem run_attached (h : EndsValue ts) (d : Dialect) (fuel : Nat) :
    (attached d fuel).run ts = some ((), ts) := by
  cases fuel with
  | zero => simp [attached]
  | succ fuel =>
    cases ts with
    | nil => simp [attached, marks]
    | cons t ts =>
      have hpoint := h.isMark (c := '.') (by decide)
      have hbracket := h.isMark (c := '[') (by decide)
      have hcolon := h.isMark (c := ':') (by decide)
      simp [attached, hpoint, hbracket, run_marks_else hcolon]

theorem run_call (h : EndsValue ts) (d : Dialect) (fuel : Nat) :
    (call d (fuel + 1) false).run ts = some ((), ts) := by
  cases ts with
  | nil => simp [call, h.run_attached]
  | cons t ts =>
    have hopen := h.isMark (c := '(') (by decide)
    have htext := h.noText t rfl
    simp [call, hopen, htext, h.run_attached]

theorem run_operator (h : EndsValue ts) : (operator .value).run ts = some (false, ts) := by
  cases ts with
  | nil => simp [operator, marks, afterWords]
  | cons t ts =>
    have hshift := h.isMark (c := '<') (by decide)
    have hjoin : isMarkOf valueOperators t = false :=
      isMarkOf_of_subset (h.noMark t rfl) (List.subset_append_left _ _)
    have hword : t.isOneOf valueWords = false :=
      Token.isOneOf_of_subset (h.noWord t rfl) (List.subset_append_left _ _)
    have hzone : t.isWord "AT" = false := Token.isWord_of_isOneOf (h.noWord t rfl) (by decide)
    simp [operator, run_marks_else hshift, hjoin, hword, afterWords, hzone]

end EndsValue

/-! ## Indexes -/

theorem run_operand_name (d : Dialect) (fuel : Nat) (s : String) (q : List Char) {c : Char}
    (hc : c ∈ itemEnds) (r : List Char) :
    (operand d (fuel + 2)).run (⟨.name, s, q⟩ :: .ofMark c r :: ts) =
      some ((), .ofMark c r :: ts) := by
  simp [operand, take, (endsValue_mark hc r).run_call]

theorem run_operator_mark (e : Extent) {c : Char} (hc : c ∈ itemEnds) (r : List Char) :
    (operator e).run (.ofMark c r :: ts) = some (false, .ofMark c r :: ts) := by
  have hne : c ≠ '<' ∧ c ∉ valueOperators ∧ c ∉ conditionOperators := by
    rcases itemEnds_cases hc with rfl | rfl <;> decide
  cases e with
  | value => exact (endsValue_mark hc r).run_operator
  | condition =>
    have hshift : (Token.ofMark c r).isMark '<' = false := by simp [hne]
    simp [operator, run_marks_else hshift, isMarkOf_ofMark, hne, afterWords]

theorem run_expression_name (d : Dialect) (fuel : Nat) (s : String) (q : List Char) {c : Char}
    (hc : c ∈ itemEnds) (r : List Char) :
    (expression d .condition (fuel + 3)).run (⟨.name, s, q⟩ :: .ofMark c r :: ts) =
      some ((), .ofMark c r :: ts) := by
  rw [expression]
  simp [run_operand_name d fuel s q hc, run_operator_mark _ hc, afterWords]

/-- A quoted name is a condition of its own. -/
theorem run_condition_name (d : Dialect) (s : String) (q : List Char) {c : Char} (hc : c ∈ itemEnds)
    (r : List Char) :
    (condition d).run (⟨.name, s, q⟩ :: .ofMark c r :: ts) = some ((), .ofMark c r :: ts) := by
  unfold condition
  rw [StateT.run_bind, StateT.run_get]
  exact run_expression_name d _ s q hc r

/-- A quoted name is a column of an index. -/
theorem run_orderedColumn_name (d : Dialect) (s : String) (q : List Char) {c : Char}
    (hc : c ∈ itemEnds) (r : List Char) :
    (orderedColumn d).run (⟨.name, s, q⟩ :: .ofMark c r :: ts) =
      some (some s, .ofMark c r :: ts) := by
  simp [orderedColumn, run_condition_name d s q hc, columnOf]

/-- An index with a name and a list of columns. -/
theorem run_index (d : Dialect) (s : String) (p q : List Char) {us : List Token}
    {columns : List String} {c : Char} (r : List Char)
    (h : (closedList (orderedColumn d)).run us = some (columns, .ofMark c r :: ts)) :
    (index d "INDEX").run (⟨.name, s, p⟩ :: .ofMark '(' q :: us) =
      some (⟨.index ⟨(some s).filter (!·.isEmpty), columns⟩, none⟩, .ofMark c r :: ts) := by
  have hoptions (fuel : Nat) :
      (indexOptions fuel).run (.ofMark c r :: ts) = some ((), .ofMark c r :: ts) := by
    cases fuel <;> simp [indexOptions, afterWords]
  simp [index, isPlainName, parenthesized, expect, afterWords, h, hoptions]

theorem run_clause_index {us : List Token} {c : Clause} (ht : t.Spells "INDEX")
    (h : (index .mysql "INDEX").run us = some (c, ts)) :
    (clause .mysql).run (t :: us) = some (some c, ts) := by
  unfold clause
  simp only [run_words_else, run_word_else, run_oneOf_else, ht.isWord, ht.isOneOf, String.reduceBEq,
    List.contains_cons, List.contains_nil, Bool.or_self]
  simp [ht.isWord, ht.isOneOf, ht.2, indexWords, h]

theorem run_entries_index {us : List Token} {c : Clause} (ht : t.Spells "INDEX")
    (h : (index .mysql "INDEX").run us = some (c, ts)) :
    (entries .mysql).run (t :: us) = some (some [c.entry], ts) := by
  have hstarts : (startsTableClause .mysql).run (t :: us) = some (true, t :: us) := by
    simp [startsTableClause, ht.isOneOf, indexWords]
  simp [entries, ht.isWord, hstarts, run_clause_index ht h]

/-! ## Foreign keys -/

/-- Whether tokens are the given words, one for each. -/
def SpellsAll : List String → List Token → Prop
  | [], [] => True
  | w :: ws, t :: ts => t.Spells w ∧ SpellsAll ws ts
  | _, _ => False

@[simp] theorem spellsAll_nil {us : List Token} : SpellsAll [] us ↔ us = [] := by
  cases us <;> simp [SpellsAll]

@[simp] theorem spellsAll_cons {w : String} {ws : List String} {us : List Token} :
    SpellsAll (w :: ws) us ↔ ∃ t vs, us = t :: vs ∧ t.Spells w ∧ SpellsAll ws vs := by
  cases us with
  | nil => simp [SpellsAll]
  | cons u us =>
    constructor
    · rintro ⟨hu, hus⟩
      exact ⟨u, us, rfl, hu, hus⟩
    · rintro ⟨t, vs, h, ht, hvs⟩
      obtain ⟨rfl, rfl⟩ := List.cons.inj h
      exact ⟨ht, hvs⟩

/-- The words of each action are read as that action. -/
theorem run_firstOf_actions (a : ReferentialAction) {us : List Token} (h : SpellsAll a.spelling us) :
    (firstOf actions).run (us ++ ts) = some (some (" ".intercalate a.spelling), ts) := by
  cases a <;> simp only [ReferentialAction.spelling, spellsAll_cons, spellsAll_nil] at h
  case noAction | setNull | setDefault =>
    obtain ⟨x, _, rfl, hx, y, _, rfl, hy, rfl⟩ := h
    simp [firstOf, actions, afterWords, hx.isWord, hy.isWord, ReferentialAction.spelling]
  case cascade | restrict =>
    obtain ⟨x, _, rfl, hx, rfl⟩ := h
    simp [firstOf, actions, afterWords, hx.isWord, ReferentialAction.spelling]

theorem run_firstOf_mark (ws : List (List String)) (hws : [] ∉ ws) (c : Char) (r : List Char) :
    (firstOf ws).run (.ofMark c r :: ts) = some (none, .ofMark c r :: ts) := by
  induction ws with
  | nil => rfl
  | cons w ws ih =>
    cases w with
    | nil => simp at hws
    | cons w _ =>
      have ih := ih (by simp at hws; exact hws)
      simp [firstOf, afterWords, ih]

/-- No option of a key starts with a mark. -/
theorem run_keyOptions_mark (fuel : Nat) (c : Char) (r : List Char) :
    (keyOptions fuel).run (.ofMark c r :: ts) = some ([], .ofMark c r :: ts) := by
  cases fuel with
  | zero => simp [keyOptions]
  | succ fuel =>
    have hoption : keyOption.run (.ofMark c r :: ts) = some (false, .ofMark c r :: ts) := by
      unfold keyOption
      simp [run_firstOf_mark]
    simp [keyOptions, hoption]

/-- An event with its action, in front of further options. -/
theorem run_keyOptions_cons {on event : Token} {a : ReferentialAction} {us vs : List Token}
    {options : List (String × String)} {fuel : Nat} (hon : on.Spells "ON") (he : event.kind = .word)
    (ha : SpellsAll a.spelling us) (h : (keyOptions fuel).run vs = some (options, ts)) :
    (keyOptions (fuel + 1)).run (on :: event :: (us ++ vs)) =
      some ((event.upper, " ".intercalate a.spelling) :: options, ts) := by
  simp [keyOptions, hon.isWord, he, run_firstOf_actions a ha, h]

/-- The words that are found in front of the name of a new table, even between quotes. -/
def creationWords : List String := ["CONCURRENTLY", "IF"]

/-- The words that are found in place of a table that a key refers to, even between quotes. -/
def targetWords : List String := ["STREAM", "VALUES"]

/-- Whether a token is the whole name of a table. -/
structure NamesTable (d : Dialect) (t : Token) : Prop where
  plain : isPlainName t = true
  noMark : t.kind ≠ .mark
  undotted : d = .bigquery → '.' ∉ t.text.toList

theorem namesTable_name (s : String) (q : List Char) : NamesTable .mysql ⟨.name, s, q⟩ :=
  ⟨rfl, by simp, by simp⟩

/-- A name in front of a mark is the name of a table. -/
theorem run_tableName {d : Dialect} (ht : NamesTable d t) {c : Char} (hc : c ≠ '.' ∧ c ≠ '-')
    (r : List Char) :
    (tableName d).run (t :: .ofMark c r :: ts) = some (⟨none, t.text⟩, .ofMark c r :: ts) := by
  have hmark (x : Char) : t.isMark x = false := Token.isMark_eq_false ht.noMark x
  have hpart : (tablePart d).run (t :: .ofMark c r :: ts) =
      some (some t.text, .ofMark c r :: ts) := by
    cases d <;> simp [tablePart, ht.plain, hmark, hc]
  have hparts (fuel : Nat) :
      (tableParts d fuel).run (.ofMark c r :: ts) = some ([], .ofMark c r :: ts) := by
    cases fuel <;> simp [tableParts, hc]
  have hsplit : d = .bigquery → t.text.toList.splitOn '.' = [t.text.toList] := fun hd =>
    List.splitOn_eq_singleton (ht.undotted hd)
  cases d <;> simp_all [tableName, allTableParts, tableOfParts]

/-- A name is a column that a key refers to. -/
theorem run_listedColumn (d : Dialect) (ht : isAnyName t = true) {c : Char} (hc : c ∈ itemEnds)
    (r : List Char) :
    (listedColumn d).run (t :: .ofMark c r :: ts) = some (some t.text, .ofMark c r :: ts) := by
  have hne : c ≠ '(' := by
    rcases itemEnds_cases hc with rfl | rfl <;> decide
  simp [listedColumn, ht, skipParenthesized, hne, run_dataType?_mark]

theorem run_nameItem (hkind : t.kind ≠ .mark) (ht : isAnyName t = true) (us : List Token) :
    nameItem.run (t :: us) = some (some t.text, us) := by
  simp [nameItem, anyName, ht, Token.isMark_eq_false hkind]

/-- A name that says neither of two words is a table that a key refers to. -/
theorem run_target (ht : NamesTable .mysql t) (hfree : t.hasText targetWords = false) (q : List Char)
    {us vs : List Token} {columns : List String}
    (hcolumns : (closedList (listedColumn .mysql)).run us = some (columns, vs)) :
    (target .mysql).run (t :: .ofMark '(' q :: us) = some ((some ⟨none, t.text⟩, columns), vs) := by
  have hstream : t.hasText ["STREAM"] = false := Token.hasText_of_subset hfree (by decide)
  have hvalues : t.hasText ["VALUES"] = false := Token.hasText_of_subset hfree (by decide)
  unfold target
  simp [changeStream, hstream, hvalues, run_tableName ht, hcolumns]

/-- A reference to columns of a table. -/
theorem run_reference (ht : NamesTable .mysql t) (hfree : t.hasText targetWords = false) (q : List Char)
    {us vs : List Token} {columns : List String} {options : List (String × String)}
    (hcolumns : (closedList (listedColumn .mysql)).run us = some (columns, vs))
    (hoptions : (keyOptions vs.length).run vs = some (options, ts)) :
    (reference .mysql).run (t :: .ofMark '(' q :: us) =
      some ((some ⟨none, t.text⟩, columns, options), ts) := by
  unfold reference
  simp [run_target ht hfree q hcolumns, hoptions]

/-- A foreign key with its reference. -/
theorem run_foreignKey (q : List Char) {us vs : List Token} {ref : Token} {table : Option TableName}
    {columns remote : List String} {options : List (String × String)} (href : ref.Spells "REFERENCES")
    (c : Char) (r : List Char)
    (hcolumns : (closedList nameItem).run us = some (columns, ref :: vs))
    (h : (reference .mysql).run vs = some ((table, remote, options), .ofMark c r :: ts)) :
    (foreignKey .mysql).run (.ofMark '(' q :: us) = some (
      { columns, table, remoteColumns := remote
        onDelete := options.lookup "DELETE", onUpdate := options.lookup "UPDATE" },
      .ofMark c r :: ts) := by
  have hname : nameOfList.run (.ofMark '(' q :: us) = some (none, .ofMark '(' q :: us) := by
    cases us <;> simp [nameOfList, isPlainName, isStrayQuote, isMarkOf_ofMark]
  have hloose (fuel : Nat) :
      (looseActions fuel).run (.ofMark c r :: ts) = some ([], .ofMark c r :: ts) := by
    cases fuel <;> simp [looseActions]
  unfold foreignKey
  simp [hname, afterWords, parenthesized, expect, hcolumns, href.isWord, h, hloose,
    run_keyOptions_mark]

theorem run_clause_foreignKey {key : Token} {us : List Token} {k : ForeignKeyEntry}
    (ht : t.Spells "FOREIGN") (hkey : key.Spells "KEY")
    (h : (foreignKey .mysql).run us = some (k, ts)) :
    (clause .mysql).run (t :: key :: us) = some (some ⟨.foreignKey k, none⟩, ts) := by
  have hwords : afterWords ["FOREIGN", "KEY"] (t :: key :: us) = some us := by
    simp [afterWords, ht.isWord, hkey.isWord]
  unfold clause
  simp only [run_words_else, run_word_else, ht.isWord, String.reduceBEq]
  rw [run_words_then hwords]
  simp [h]

theorem run_entries_foreignKey {key : Token} {us : List Token} {k : ForeignKeyEntry}
    (ht : t.Spells "FOREIGN") (hkey : key.Spells "KEY")
    (h : (foreignKey .mysql).run us = some (k, ts)) :
    (entries .mysql).run (t :: key :: us) = some (some [.foreignKey k], ts) := by
  have hstarts : (startsTableClause .mysql).run (t :: key :: us) = some (true, t :: key :: us) := by
    simp [startsTableClause, afterWords, ht.isOneOf, ht.isWord, hkey.isWord]
  simp [entries, ht.isWord, hstarts, run_clause_foreignKey ht hkey h]

end Sql.Reading

end TableScaffold
