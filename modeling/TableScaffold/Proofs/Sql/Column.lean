import TableScaffold.Proofs.Sql.Creation
import TableScaffold.Proofs.Sql.Declared

/-!
# Columns with a recognised type

`run_entries_typed`: in every dialect, a name with a recognised type word and perhaps a word on null is
read as a column whose type is the written word, whatever type the dialect takes the word for.

The type word is read again from the script behind the name, so the layout in front of it is passed
over (`typeWord?_word`). Only the length comes from the type as the dialect understands it.
-/

namespace TableScaffold.Sql

open Reading

/-! ## In the schema -/

theorem TypeWord.key_ne (w : TypeWord) : w.key ≠ "" := by
  have hall : ∀ k ∈ typeKeys, k ≠ "" := by decide
  exact hall w.key w.key_mem

/-- A column with a recognised type is taken over without a notice. -/
theorem column?_typeWord (w : TypeWord) {d : ColumnDefinition} (h : d.dataType = some w.key) :
    Extraction.column? d = pure (some
      { name := d.name
        sqlType := w.key
        semanticType := w.kind.2.1
        persistenceType := w.kind.2.2
        isOptional := d.isOptional
        length := d.length }) := by
  have htypes := w.typesOf?_key
  have hpersistence : persistenceType (some w.key) d.name = pure w.kind.2.2 := by
    rw [persistenceType_eq, htypes]
  have hsemantic : semanticType (some w.key) = w.kind.2.1 := by
    rw [semanticType_eq, htypes]
    rfl
  have hkey : w.key.isEmpty = false := by simpa using w.key_ne
  unfold Extraction.column?
  simp only [h, hpersistence, hsemantic, hkey]
  rfl

/-- Columns that are taken over one by one, in front of definitions without columns. -/
theorem columns_append {α : Type} {f : α → ColumnDefinition} {g : α → Column}
    (hfg : ∀ x, Extraction.column? (f x) = pure (some (g x))) (xs : List α) {ds : List Definition}
    (h : Extraction.columns ds = pure []) :
    Extraction.columns (xs.map (fun x => .column (f x)) ++ ds) = pure (xs.map g) := by
  induction xs with
  | nil => exact h
  | cons x xs ih => simp [Extraction.columns, hfg, ih]

/-! ## In the tree of the statement -/

theorem definition?_declared {c : ColumnEntry} {type : DataType} {key : String} {length : Option Int}
    (htype : c.type = some type) (hdeclared : c.declaredType type = some key) (hkey : key ≠ "")
    (hlength : type.length = .ok length) (hempty : c.emptyClause = false) :
    (Entry.column c).definition? = .ok (pure (.column
      { name := c.name, dataType := some key, length, isOptional := c.nullable == some true })) := by
  have htree : c.tree = .ok (.map
      [("resource", .str "column"), ("column", columnReference c.name),
       ("definition", .map [("dataType", .str key), ("length", Value.ofWhole length)]),
       ("nullable", nullabilityTree c.nullable)]) := by
    have htypeAndLength : c.typeAndLength = .ok (some key, length) := by
      simp only [ColumnEntry.typeAndLength, htype, hdeclared, hlength]
      rfl
    unfold ColumnEntry.tree
    rw [htypeAndLength, hempty]
    rfl
  have hoptional : (((nullabilityTree c.nullable).field "type").orNull.truthy &&
      Text.lower ((nullabilityTree c.nullable).field "type").orNull.text == "null") =
        (c.nullable == some true) := by
    match c.nullable with
    | none => decide +kernel
    | some true => decide +kernel
    | some false => decide +kernel
  have hread : Tree.column (.map
      [("resource", .str "column"), ("column", columnReference c.name),
       ("definition", .map [("dataType", .str key), ("length", Value.ofWhole length)]),
       ("nullable", nullabilityTree c.nullable)]) = .ok
        { name := c.name, dataType := some key, length, isOptional := c.nullable == some true } := by
    have htype : Value.str key = .ofOption (some key) := rfl
    refine Eq.trans (Tree.column_eq rfl htype (by simpa using hkey)) ?_
    rw [← hoptional]
    cases length <;> rfl
  show Except.map Tree.definition c.tree = _
  rw [htree]
  exact congrArg Except.ok (Tree.definition_column rfl hread)

theorem definition?_column {c : ColumnEntry} {type : DataType} {after : List Char} {w key : String}
    {length : Option Int} (htype : c.type = some type) (hafter : c.after = some after)
    (hword : typeWord? after = some w) (hupper : Text.upper w = key) (hkey : key ≠ "")
    (hlength : type.length = .ok length) (hempty : c.emptyClause = false) :
    (Entry.column c).definition? = .ok (pure (.column
      { name := c.name, dataType := some key, length, isOptional := c.nullable == some true })) := by
  refine definition?_declared htype ?_ hkey hlength hempty
  rw [ColumnEntry.declaredType, hafter, Option.bind_some, hword]
  exact congrArg some hupper

/-! ## In the script -/

variable {t : Token} {ts : List Token} {ps : List Part}

/-- The type word is read again from the script behind the name. -/
theorem typeWord?_word (gap : List Char) (hgap : ∀ c ∈ gap, Text.isBlank c = true) {w : String}
    (hw : isWordText w = true) (h : EndsWord (script ps)) :
    typeWord? (gap ++ script (.word w :: ps)) = some w := by
  obtain ⟨c, cs, hcs, hc, hall⟩ := isWordText_cons hw
  have hstop : ∀ x ∈ (script ps).head?, inTypeWord x = false := by
    intro x hx
    rw [← Bool.not_eq_true]
    intro hin
    have hout := (closer_class .mysql (h x hx)).1
    rw [inWord_of_inTypeWord _ hin] at hout
    exact absurd hout (by simp)
  have hscript : script (.word w :: ps) = c :: (cs ++ script ps) := by
    rw [script_cons, Part.chars, hcs]
    rfl
  unfold typeWord?
  rw [hscript, List.dropWhile_append_of_pos hgap,
    List.dropWhile_cons_of_neg (by simp [(starts_class hc).1])]
  simp only [hc, if_true, takeWhile_append_stop hall hstop]
  rw [← hcs, String.ofList_toList]

theorem isWord_head {v w : String} {t : Token} {ts : List Token} (ht : t.Spells w) (hne : w ≠ v) :
    ∀ u ∈ (t :: ts).head?, u.isWord v = false := by
  rintro u hu
  obtain rfl : t = u := Option.some.inj hu
  rw [ht.isWord]
  simpa using hne

/-- A word that belongs to no type ends the type in front of it. -/
theorem endsType_word {w : String} {t : Token} {ts : List Token} (ht : t.Spells w)
    (hw : w ∉ typeSuffixes) : EndsType (t :: ts) := by
  refine ⟨?_, ?_⟩
  · rintro u hu
    obtain rfl : t = u := Option.some.inj hu
    rw [ht.isOneOf]
    simpa using hw
  · rintro u hu
    obtain rfl : t = u := Option.some.inj hu
    exact ⟨ht.isMark _, ht.isMark _⟩

/-- The words on null. -/
def nullWords : Option Bool → List String
  | none => []
  | some true => ["NULL"]
  | some false => ["NOT", "NULL"]

/-- The words on null, in front of the mark that ends the column. -/
structure SaysNull (o : Option Bool) (us ts : List Token) : Prop where
  words : ∃ vs, SpellsAll (nullWords o) vs ∧ us = vs ++ ts
  ends : ∃ c ∈ itemEnds, ∃ r vs, ts = .ofMark c r :: vs

namespace SaysNull

variable {o : Option Bool} {us : List Token}

/-- The words on null do not belong to the type in front of them. -/
theorem endsType (h : SaysNull o us ts) :
    EndsType us ∧ ∀ t ∈ us.head?, t.isWord "AS" = false := by
  obtain ⟨⟨vs, hvs, rfl⟩, c, hc, r, ws, rfl⟩ := h
  have hne : c ≠ '(' ∧ c ≠ '[' := by rcases itemEnds_cases hc with rfl | rfl <;> decide
  match o with
  | none =>
    rw [spellsAll_nil.1 hvs, List.nil_append]
    exact ⟨⟨by simp [NoSuffix], by simp [hne]⟩, by simp⟩
  | some true =>
    obtain ⟨t, vs, rfl, hnull, -⟩ := spellsAll_cons.1 hvs
    exact ⟨endsType_word hnull (by decide), isWord_head hnull (by decide)⟩
  | some false =>
    obtain ⟨t, vs, rfl, hnot, -⟩ := spellsAll_cons.1 hvs
    exact ⟨endsType_word hnot (by decide), isWord_head hnot (by decide)⟩

/-- The clauses of a column say what its word on null says. -/
theorem run_columnClauses (d : Dialect) (h : SaysNull o us ts) :
    ∃ cs, (columnClauses d us.length).run us = some (cs, ts) ∧
      Clause.lastNullable (cs.filterMap id) = o ∧ cs.any (·.isNone) = false := by
  obtain ⟨⟨vs, hvs, rfl⟩, c, -, r, ws, rfl⟩ := h
  have hend (fuel : Nat) :
      (columnClauses d fuel).run (.ofMark c r :: ws) = some ([], .ofMark c r :: ws) :=
    run_columnClauses_mark d fuel c r
  match o with
  | none =>
    rw [spellsAll_nil.1 hvs]
    exact ⟨[], hend _, rfl, rfl⟩
  | some true =>
    obtain ⟨null, vs, rfl, hnull, hvs⟩ := spellsAll_cons.1 hvs
    rw [spellsAll_nil.1 hvs]
    exact ⟨_, run_columnClauses_cons d (isWord_head hnull (by decide)) (run_clause_null d hnull)
      (hend _), rfl, rfl⟩
  | some false =>
    obtain ⟨not, vs, rfl, hnot, hvs⟩ := spellsAll_cons.1 hvs
    obtain ⟨null, vs, rfl, hnull, hvs⟩ := spellsAll_cons.1 hvs
    rw [spellsAll_nil.1 hvs]
    exact ⟨_, run_columnClauses_cons d (isWord_head hnot (by decide))
      (run_clause_notNull d hnot hnull) (hend _), rfl, rfl⟩

end SaysNull

/-- A name with a type and clauses is read as a column of the written type. The clauses have the last
word on null. -/
theorem run_entries_clauses (d : Dialect) {w : TypeWord} {type : DataType} {length : Option Int}
    {cs : List (Option Clause)} {u : Token} {us vs : List Token}
    (hkind : t.kind = .word ∨ t.kind = .name) (hfree : t.isOneOf specialWords = false)
    (hafter : typeWord? t.rest = some w.word) (hu : u.Spells w.key)
    (htype : (dataType d).run (u :: us) = some (type, vs)) (hlength : type.length = .ok length)
    (hvs : ∀ v ∈ vs.head?, v.isWord "AS" = false)
    (hcs : (columnClauses d vs.length).run vs = some (cs, ts)) (hempty : cs.any (·.isNone) = false) :
    ∃ es, (entries d).run (t :: u :: us) = some (some es, ts) ∧
      es.map Entry.definition? = [.ok (pure (.column
        { name := t.text, dataType := some w.key, length
          isOptional := Clause.lastNullable (cs.filterMap id) == some true }))] := by
  have hcolumn := run_column d ⟨t.text, some t.rest, "identifier", true⟩ htype hvs hcs
  have hkey : ∀ k ∈ typeKeys, k ≠ "KEY" := by decide
  rw [hempty] at hcolumn
  refine ⟨_, run_entries_column d hkind hfree (fun _ => isWord_head hu (hkey _ w.key_mem)) hcolumn, ?_⟩
  exact congrArg (fun d => [d])
    (definition?_column rfl rfl hafter w.upper_word w.key_ne hlength rfl)

/-- The same with at most a word on null behind the type. -/
theorem run_entries_typed (d : Dialect) {w : TypeWord} {type : DataType} {length : Option Int}
    {o : Option Bool} {u : Token} {us vs : List Token} (hkind : t.kind = .word ∨ t.kind = .name)
    (hfree : t.isOneOf specialWords = false) (hafter : typeWord? t.rest = some w.word)
    (hu : u.Spells w.key) (htype : (dataType d).run (u :: us) = some (type, vs))
    (hlength : type.length = .ok length) (hnull : SaysNull o vs ts) :
    ∃ es, (entries d).run (t :: u :: us) = some (some es, ts) ∧
      es.map Entry.definition? = [.ok (pure (.column
        { name := t.text, dataType := some w.key, length, isOptional := o == some true }))] := by
  obtain ⟨cs, hcs, rfl, hempty⟩ := hnull.run_columnClauses d
  exact run_entries_clauses d hkind hfree hafter hu htype hlength hnull.endsType.2 hcs hempty

end TableScaffold.Sql
