import TableScaffold.Proofs.Sql.Layout

/-!
# Constraints of a column

A column may have any sequence of constraints behind its type. Each of them is read up to where the next
one starts or the column ends, so the values and texts in them are passed over whole, and what the column
says of null is said by its constraints on null alone (`lastNullable_eq`): by the last of them.

1. A value ends in front of a constraint, as it does in front of the end of the column (`EndsValue`).
2. One lemma for each constraint says what the reader of clauses makes of it (`run_clause`).
3. `run_columnClauses_constraints` goes through the sequence.
-/

namespace TableScaffold.Sql

open Reading

variable {t : Token} {ts us : List Token} {ps : List Part}

/-- What a column without a value takes. -/
inductive DefaultValue where
  | null (word : Phrase ["NULL"])
  | text (before : Parting) (literal : TextLiteral)
  | number (before : Parting) (literal : Numeral)

/-- A constraint behind the type of a column. -/
inductive ColumnConstraint where
  | null (words : Phrase ["NULL"])
  | notNull (words : Phrase ["NOT", "NULL"])
  | default (word : Phrase ["DEFAULT"]) (value : DefaultValue)
  | comment (word : Phrase ["COMMENT"]) (before : Parting) (literal : TextLiteral)
  | autoIncrement (word : Phrase ["AUTO_INCREMENT"])

/-- What a constraint says of null. -/
def ColumnConstraint.nullable : ColumnConstraint → Option Bool
  | null _ => some true
  | notNull _ => some false
  | default _ _ | comment _ _ _ | autoIncrement _ => none

def DefaultValue.parts : DefaultValue → List Part
  | null word => word.parts
  | text before literal => before.parts ++ [literal.part]
  | number before literal => before.parts ++ literal.parts

def ColumnConstraint.parts : ColumnConstraint → List Part
  | null words => words.parts
  | notNull words => words.parts
  | default word value => word.parts ++ value.parts
  | comment word before literal => word.parts ++ (before.parts ++ [literal.part])
  | autoIncrement word => word.parts

/-! ## The parts fit -/

theorem DefaultValue.trails_parts (v : DefaultValue) (h : Trails ps) : Trails (v.parts ++ ps) := by
  cases v with
  | null word => exact word.trails_parts (by decide) h
  | text before literal =>
    rw [parts, List.append_assoc]
    exact before.trails_parts (literal.fit_part h)
  | number before literal =>
    rw [parts, List.append_assoc]
    exact before.trails_parts (literal.fit_parts h)

namespace ColumnConstraint

theorem trails_parts (c : ColumnConstraint) (h : Trails ps) : Trails (c.parts ++ ps) := by
  cases c with
  | null words => exact words.trails_parts (by decide) h
  | notNull words => exact words.trails_parts (by decide) h
  | default word value =>
    rw [parts, List.append_assoc]
    exact word.trails_parts (by decide) (value.trails_parts h)
  | comment word before literal =>
    rw [parts, List.append_assoc, List.append_assoc]
    exact word.trails_parts (by decide) (before.trails_parts (literal.fit_part h))
  | autoIncrement word => exact word.trails_parts (by decide) h

theorem trails_all (cs : List ColumnConstraint) (h : Trails ps) :
    Trails (cs.flatMap parts ++ ps) := by
  induction cs with
  | nil => exact h
  | cons c cs ih =>
    rw [List.flatMap_cons, List.append_assoc]
    exact c.trails_parts ih

@[simp] theorem semicolon_notMem_parts (c : ColumnConstraint) : .mark ';' ∉ c.parts := by
  have hvalue (v : DefaultValue) : .mark ';' ∉ v.parts := by
    cases v <;> simp [DefaultValue.parts, TextLiteral.part, Numeral.parts, pointPart, Sign.part]
  cases c <;> simp [parts, hvalue, TextLiteral.part]

end ColumnConstraint

/-! ## Where a constraint ends -/

/-- The words that a constraint starts with. -/
def constraintWords : List String := ["NULL", "NOT", "DEFAULT", "COMMENT", "AUTO_INCREMENT"]

/-- Whether a constraint ends in front of some tokens: the next one starts there, or the column ends. -/
def EndsConstraint (ts : List Token) : Prop :=
  ∃ t us, ts = t :: us ∧
    ((∃ w ∈ constraintWords, t.Spells w) ∨ ∃ c ∈ itemEnds, ∃ r, t = .ofMark c r)

namespace EndsConstraint

theorem of_endsItem (h : EndsItem ps) : EndsConstraint (tokens ps) := by
  obtain ⟨c, hc, r, us, hus⟩ := h.mark
  exact ⟨_, us, hus, .inr ⟨c, hc, r, rfl⟩⟩

theorem endsValue (h : EndsConstraint ts) : EndsValue ts := by
  obtain ⟨t, us, rfl, ⟨w, hw, ht⟩ | ⟨c, hc, r, rfl⟩⟩ := h
  · have hall : ∀ w ∈ constraintWords, w ∉ valueWords ++ ["AT", "START"] := by decide
    exact endsValue_word ht (hall w hw)
  · exact endsValue_mark hc r

theorem endsType (h : EndsConstraint ts) : EndsType ts := by
  obtain ⟨t, us, rfl, ⟨w, hw, ht⟩ | ⟨c, hc, r, rfl⟩⟩ := h
  · have hall : ∀ w ∈ constraintWords, w ∉ typeSuffixes := by decide
    exact endsType_word ht (hall w hw)
  · have hne : c ≠ '(' ∧ c ≠ '[' := by rcases itemEnds_cases hc with rfl | rfl <;> decide
    exact ⟨by simp [NoSuffix], by simp [hne]⟩

theorem isWord_eq_false (h : EndsConstraint ts) {v : String} (hv : v ∉ constraintWords) :
    ∀ t ∈ ts.head?, t.isWord v = false := by
  obtain ⟨t, us, rfl, ⟨w, hw, ht⟩ | ⟨c, -, r, rfl⟩⟩ := h
  · exact isWord_head ht fun e => hv (e ▸ hw)
  · simp

end EndsConstraint

/-- A constraint starts with a phrase of its own. -/
theorem ColumnConstraint.exists_phrase (c : ColumnConstraint) : ∃ w ∈ constraintWords,
    ∃ (ws : List String) (p : Phrase (w :: ws)) (qs : List Part), c.parts = p.parts ++ qs := by
  cases c with
  | null words => exact ⟨_, by decide, _, words, [], (List.append_nil _).symm⟩
  | notNull words => exact ⟨_, by decide, _, words, [], (List.append_nil _).symm⟩
  | default word value => exact ⟨_, by decide, _, word, _, rfl⟩
  | comment word before literal => exact ⟨_, by decide, _, word, _, rfl⟩
  | autoIncrement word => exact ⟨_, by decide, _, word, [], (List.append_nil _).symm⟩

theorem ColumnConstraint.endsWord_parts (c : ColumnConstraint) (ps : List Part) :
    EndsWord (script (c.parts ++ ps)) := by
  obtain ⟨w, -, ws, p, qs, hparts⟩ := c.exists_phrase
  rw [hparts, List.append_assoc]
  exact p.endsWord_parts _

theorem ColumnConstraint.endsConstraint (c : ColumnConstraint) (ps : List Part) :
    EndsConstraint (tokens (c.parts ++ ps)) := by
  obtain ⟨w, hw, ws, p, qs, hparts⟩ := c.exists_phrase
  obtain ⟨us, hus, hspells⟩ := p.tokens_parts (qs ++ ps)
  obtain ⟨t, vs, rfl, ht, -⟩ := spellsAll_cons.1 hspells
  rw [hparts, List.append_assoc]
  exact ⟨t, vs ++ tokens (qs ++ ps), hus, .inl ⟨w, hw, ht⟩⟩

theorem endsWord_all (cs : List ColumnConstraint) (h : EndsWord (script ps)) :
    EndsWord (script (cs.flatMap ColumnConstraint.parts ++ ps)) := by
  cases cs with
  | nil => exact h
  | cons c cs =>
    rw [List.flatMap_cons, List.append_assoc]
    exact c.endsWord_parts _

theorem endsConstraint_all (cs : List ColumnConstraint) (h : EndsItem ps) :
    EndsConstraint (tokens (cs.flatMap ColumnConstraint.parts ++ ps)) := by
  cases cs with
  | nil => exact .of_endsItem h
  | cons c cs =>
    rw [List.flatMap_cons, List.append_assoc]
    exact c.endsConstraint _

/-! ## Values -/

/-- An operand that a value ends behind is a value. -/
theorem run_value (d : Dialect)
    (h : ∀ fuel, (operand d (fuel + 3)).run us = some ((), ts)) (hts : EndsValue ts) :
    (value d).run us = some ((), ts) := by
  have hexpression (fuel : Nat) : (expression d .value (fuel + 4)).run us = some ((), ts) := by
    rw [expression]
    simp [h, hts.run_operator]
  unfold value
  rw [StateT.run_bind, StateT.run_get]
  exact hexpression _

theorem run_operand_null (d : Dialect) (ht : t.Spells "NULL") (hts : EndsValue ts) (fuel : Nat) :
    (operand d (fuel + 3)).run (t :: ts) = some ((), ts) := by
  have hwords : "NULL" ∉ reservedWords ∧ "NULL" ∉ wordyFunctions := by decide
  rw [operand]
  simp [take, ht.1, ht.2, ht.isWord, hwords, hts.run_call]

theorem run_operand_text (s : String) (r : List Char) (hts : EndsValue ts) (fuel : Nat) :
    (operand .mysql (fuel + 3)).run (⟨.text, s, r⟩ :: ts) = some ((), ts) := by
  have hnext : (takeIf fun t => t.kind == .text).run ts = some (none, ts) := by
    cases ts with
    | nil => rfl
    | cons t ts => simp [hts.noText t rfl]
  rw [operand]
  simp [take, Dialect.lexis, hnext, hts.run_attached]

theorem run_operand_number (d : Dialect) (s : String) (r : List Char) (hts : EndsValue ts)
    (fuel : Nat) : (operand d (fuel + 1)).run (⟨.number, s, r⟩ :: ts) = some ((), ts) := by
  rw [operand]
  simp [take, hts.run_attached]

theorem Numeral.run_operand (n : Numeral) (h : EndsValue (tokens ps)) (fuel : Nat) :
    (operand .mysql (fuel + 3)).run (tokens (n.parts ++ ps)) = some ((), tokens ps) := by
  have hunsigned (fuel : Nat) : (operand .mysql (fuel + 1)).run (tokens
      ((if n.pointed then [pointPart] else []) ++
        .other .number n.chars (String.ofList n.chars) (by simp) :: ps)) = some ((), tokens ps) := by
    cases n.pointed with
    | false => exact run_operand_number _ _ _ h fuel
    | true =>
      show (operand .mysql (fuel + 1)).run (.ofMark '.' _ :: ⟨.number, _, _⟩ :: tokens ps) = _
      rw [operand]
      simp [take, h.run_attached]
  rw [parts, List.append_assoc, List.append_assoc]
  cases n.sign with
  | none => exact hunsigned (fuel + 2)
  | some s =>
    show (operand .mysql (fuel + 3)).run (.ofMark s.char _ :: tokens _) = _
    rw [operand]
    cases s <;> simp [take, Sign.char, isMarkOf_ofMark, hunsigned]

theorem DefaultValue.run_operand (v : DefaultValue) (h : EndsValue (tokens ps)) (fuel : Nat) :
    (operand .mysql (fuel + 3)).run (tokens (v.parts ++ ps)) = some ((), tokens ps) := by
  cases v with
  | null word =>
    obtain ⟨t, hword, ht⟩ := word.exists_token ps
    rw [parts, hword]
    exact run_operand_null .mysql ht h fuel
  | text before literal =>
    rw [parts, List.append_assoc, before.tokens_parts]
    exact run_operand_text _ _ h fuel
  | number before literal =>
    rw [parts, List.append_assoc, before.tokens_parts]
    exact literal.run_operand h fuel

/-! ## Clauses -/

theorem run_clause_default (ht : t.Spells "DEFAULT") (h : (value .mysql).run us = some ((), ts)) :
    (clause .mysql).run (t :: us) = some (some (.plain "defaultcolumnconstraint"), ts) := by
  unfold clause
  simp only [run_words_else, run_word_else, ht.isWord, String.reduceBEq]
  rw [run_word_then (by simp [ht.isWord])]
  simp [h]

theorem run_clause_comment {u : Token} (ht : t.Spells "COMMENT") (hu : u.kind = .text) :
    (clause .mysql).run (t :: u :: ts) = some (some (.plain "commentcolumnconstraint"), ts) := by
  unfold clause
  simp only [run_words_else, run_word_else, ht.isWord, String.reduceBEq]
  rw [run_word_then (by simp [ht.isWord])]
  simp [hu]

theorem run_clause_autoIncrement (ht : t.Spells "AUTO_INCREMENT") (hts : EndsValue ts) :
    (clause .mysql).run (t :: ts) =
      some (some (.plain "autoincrementcolumnconstraint"), ts) := by
  have hnumbering : (numbering .mysql).run ts =
      some (.plain "autoincrementcolumnconstraint", ts) := by
    cases ts with
    | nil => simp [numbering, skipParenthesized]
    | cons t ts =>
      have hopen := hts.isMark (c := '(') (by decide)
      have hstart : t.isWord "START" = false :=
        Token.isWord_of_isOneOf (hts.noWord t rfl) (by decide)
      simp [numbering, skipParenthesized, hopen, hstart]
  unfold clause
  simp only [run_words_else, run_word_else, ht.isWord, String.reduceBEq]
  simp [ht.isOneOf, hnumbering]

/-- Every constraint is read as a clause that says of null what the constraint says. -/
theorem ColumnConstraint.run_clause (c : ColumnConstraint) (h : EndsConstraint (tokens ps)) :
    ∃ v : Clause, (clause .mysql).run (tokens (c.parts ++ ps)) = some (some v, tokens ps) ∧
      v.nullable = c.nullable := by
  cases c with
  | null words =>
    obtain ⟨t, hword, ht⟩ := words.exists_token ps
    rw [parts, hword]
    exact ⟨_, run_clause_null .mysql ht, rfl⟩
  | notNull words =>
    obtain ⟨us, hus, hspells⟩ := words.tokens_parts ps
    obtain ⟨not, vs, rfl, hnot, hvs⟩ := spellsAll_cons.1 hspells
    obtain ⟨null, vs, rfl, hnull, hvs⟩ := spellsAll_cons.1 hvs
    rw [parts, hus, spellsAll_nil.1 hvs]
    exact ⟨_, run_clause_notNull .mysql hnot hnull, rfl⟩
  | default word value =>
    obtain ⟨t, hword, ht⟩ := word.exists_token (value.parts ++ ps)
    rw [parts, List.append_assoc, hword]
    exact ⟨_, run_clause_default ht (run_value .mysql (value.run_operand h.endsValue) h.endsValue),
      rfl⟩
  | comment word before literal =>
    obtain ⟨t, hword, ht⟩ := word.exists_token (before.parts ++ literal.part :: ps)
    rw [parts, List.append_assoc, List.append_assoc, List.singleton_append, hword,
      before.tokens_parts]
    exact ⟨_, run_clause_comment ht rfl, rfl⟩
  | autoIncrement word =>
    obtain ⟨t, hword, ht⟩ := word.exists_token ps
    rw [parts, hword]
    exact ⟨_, run_clause_autoIncrement ht h.endsValue, rfl⟩

/-- The constraints of a column are read one by one. -/
theorem run_columnClauses_constraints (cs : List ColumnConstraint) (h : EndsItem ps) :
    ∀ fuel, (tokens (cs.flatMap ColumnConstraint.parts ++ ps)).length ≤ fuel → ∃ vs : List Clause,
      (columnClauses .mysql fuel).run (tokens (cs.flatMap ColumnConstraint.parts ++ ps)) =
          some (vs.map some, tokens ps) ∧
        vs.filterMap (·.nullable) = cs.filterMap ColumnConstraint.nullable := by
  induction cs with
  | nil =>
    intro fuel _
    obtain ⟨c, -, r, us, hus⟩ := h.mark
    refine ⟨[], ?_, rfl⟩
    rw [List.flatMap_nil, List.nil_append, hus]
    exact run_columnClauses_mark .mysql fuel c r
  | cons c cs ih =>
    intro fuel hfuel
    have hnext := endsConstraint_all cs h
    rw [List.flatMap_cons, List.append_assoc] at hfuel ⊢
    obtain ⟨v, hv, hnull⟩ := c.run_clause hnext
    have hstart := c.endsConstraint (cs.flatMap ColumnConstraint.parts ++ ps)
    have hlength : 0 < (tokens c.parts).length := by
      obtain ⟨t, us, hus, -⟩ := c.endsConstraint []
      rw [List.append_nil] at hus
      simp [hus]
    rw [length_tokens_append] at hfuel
    obtain ⟨fuel, rfl⟩ : ∃ n, fuel = n + 1 := ⟨fuel - 1, by omega⟩
    obtain ⟨vs, hvs, hnulls⟩ := ih fuel (by omega)
    exact ⟨v :: vs, run_columnClauses_cons .mysql (hstart.isWord_eq_false (by decide)) hv hvs,
      by rw [List.filterMap_cons, List.filterMap_cons, hnull, hnulls]⟩

/-- What clauses say of null is what the last of them says that says anything. -/
theorem lastNullable_eq (vs : List Clause) :
    Clause.lastNullable vs = (vs.filterMap (·.nullable)).getLast? := by
  have hfrom (n : Option Bool) : vs.foldl (fun n c => c.nullable <|> n) n =
      ((vs.filterMap (·.nullable)).getLast? <|> n) := by
    induction vs generalizing n with
    | nil => rfl
    | cons v vs ih =>
      rw [List.foldl_cons, ih]
      cases hv : v.nullable with
      | none => simp [hv]
      | some b =>
        simp [hv, List.getLast?_cons]
  rw [Clause.lastNullable, hfrom]
  simp

end TableScaffold.Sql
