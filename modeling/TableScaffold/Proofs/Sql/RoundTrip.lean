import Mathlib.Data.List.Basic
import TableScaffold.Proofs.Definition.Spelling
import TableScaffold.Proofs.Sql.Column
import TableScaffold.Proofs.Sql.Script

/-!
# From the statement of a table to its schema

`extract_trees_text`: the statement of a legible table is read as one statement, and the schema
extracted from it is the declared one. A table under one of the names that are found as words in front of
it is not read at all (`parse_text_refused`).

1. The definitions of a declared table have its schema, without a notice (`schema_definitions`).
2. The parts of each entry are read as an entry with its definition, in front of a mark that ends an
   entry (`DeclaredEntry.entries_parts`).
3. So the list of entries is read up to its parenthesis (`parse_text`), and nothing is left over.
-/

namespace TableScaffold.Sql

open Reading

/-! ## From entries to definitions -/

/-- References to columns are read as the names that are not empty. -/
theorem columnNames_references (ns : List String) :
    Tree.columnNames (.list (ns.map columnReference)) = ns.filter (· ≠ "") := by
  refine Tree.columnNames_of_spells (.listed ?_)
  rw [List.forall₂_map_right_iff]
  exact List.forall₂_same.mpr fun _ _ => .entry rfl

theorem definition?_index (name : Option String) (columns : List String) :
    (Entry.index ⟨name, columns⟩).definition? =
      .ok (pure (.index { name, columns := columns.filter (· ≠ "") })) := by
  have hread : Tree.index (IndexEntry.tree ⟨name, columns⟩) =
      .ok { name, columns := columns.filter (· ≠ "") } := by
    rw [← columnNames_references]
    cases name <;> rfl
  exact congrArg Except.ok (Tree.definition_index rfl rfl hread)

/-- The words of an action stand for it. -/
theorem ofValue_spelling (o : Option ReferentialAction) :
    ReferentialAction.ofValue (Value.ofOption (o.map fun a => " ".intercalate a.spelling)) =
      pure (o.getD .noAction) := by
  cases o with
  | none => rfl
  | some a => exact ReferentialAction.ofValue_of_spells ⟨_, rfl, .inl rfl⟩

theorem headD_filter (s : String) : ([s].filter (· ≠ "")).headD "" = s := by
  by_cases hs : s = "" <;> simp [hs]

theorem definition?_foreignKey (column table remote : String)
    (onDelete onUpdate : Option ReferentialAction) :
    (Entry.foreignKey
      { columns := [column], table := some ⟨none, table⟩, remoteColumns := [remote]
        onDelete := onDelete.map fun a => " ".intercalate a.spelling
        onUpdate := onUpdate.map fun a => " ".intercalate a.spelling }).definition? =
      .ok (pure (.foreignKey
        { column, referencedTable := table, referencedColumn := remote
          onDelete := onDelete.getD .noAction, onUpdate := onUpdate.getD .noAction })) := by
  have hnames (s : String) :
      (Tree.columnNames (.list ([s].map columnReference))).headD "" = s := by
    rw [columnNames_references, headD_filter]
  have hupper : Text.upper "FOREIGN KEY" = "FOREIGN KEY" := by decide +kernel
  exact congrArg Except.ok (Tree.definition_foreignKey rfl ⟨rfl, hupper⟩
    (Tree.foreignKey_eq rfl (hnames column) rfl (hnames remote) (ofValue_spelling onDelete)
      (ofValue_spelling onUpdate)))

/-! ## From definitions to the schema -/

/-- The definition of a column. -/
def DeclaredColumn.definition (c : DeclaredColumn) : ColumnDefinition where
  name := c.name.text
  dataType := some c.type.key
  length := c.length.map Int.ofNat
  isOptional := c.nullable == some true

/-- The definition of an index. -/
def DeclaredIndex.definition (i : DeclaredIndex) : IndexDefinition where
  name := if i.name.text = "" then none else some i.name.text
  columns := (i.columns.map Name.text).filter (· ≠ "")

/-- The definition of a foreign key. -/
def DeclaredKey.definition (k : DeclaredKey) : ForeignKeyDefinition where
  column := k.column.text
  referencedTable := k.table.text
  referencedColumn := k.remote.text
  onDelete := k.onDelete.getD .noAction
  onUpdate := k.onUpdate.getD .noAction

/-- The definitions of all entries. -/
def DeclaredTable.definitions (t : DeclaredTable) : List Definition :=
  t.columns.map (.column ·.definition) ++ t.indexes.map (.index ·.definition) ++
    t.keys.map (.foreignKey ·.definition)

theorem columns_rest (is : List DeclaredIndex) (ks : List DeclaredKey) :
    Extraction.columns (is.map (.index ·.definition) ++ ks.map (.foreignKey ·.definition)) =
      pure [] := by
  induction is with
  | nil =>
    induction ks with
    | nil => rfl
    | cons k ks ih => exact ih
  | cons i is ih => exact ih

/-- A column is taken over without a notice. -/
theorem column?_definition (c : DeclaredColumn) :
    Extraction.column? c.definition = pure (some c.column) :=
  column?_typeWord c.type rfl

/-- The schema of the definitions, without a notice. -/
theorem schema_definitions (t : DeclaredTable) :
    Extraction.schema (some t.name.text) t.definitions = pure t.schema := by
  have hcolumns : Extraction.columns t.definitions = pure (t.columns.map DeclaredColumn.column) := by
    unfold DeclaredTable.definitions
    rw [List.append_assoc]
    exact columns_append column?_definition t.columns (columns_rest t.indexes t.keys)
  have hkeys : Extraction.foreignKeys t.definitions = t.keys.map DeclaredKey.definition := by
    simp [Extraction.foreignKeys, DeclaredTable.definitions, List.filterMap_map]
  have hindexes : Extraction.indexes t.definitions = t.indexes.map DeclaredIndex.index := by
    simp [Extraction.indexes, DeclaredTable.definitions, List.filterMap_map,
      DeclaredIndex.definition, DeclaredIndex.index]
  unfold Extraction.schema
  rw [hcolumns, hkeys, hindexes, pure_bind, List.map_map, List.map_map]
  rfl

/-! ## From parts to entries -/

variable {ps : List Part}

/-- A word in capital letters is read as itself. -/
theorem spells_capital {w : String} (hw : String.ofList (w.toList.map Char.toUpper) = w)
    (r : List Char) : Token.Spells w ⟨.word, w, r⟩ := ⟨rfl, hw⟩

theorem tokens_wordParts {ws : List String}
    (hws : ∀ w ∈ ws, String.ofList (w.toList.map Char.toUpper) = w) (ps : List Part) :
    ∃ us, tokens (wordParts ws ++ ps) = us ++ tokens ps ∧ SpellsAll ws us := by
  induction ws with
  | nil => exact ⟨[], rfl, trivial⟩
  | cons w ws ih =>
    obtain ⟨us, hus, hspells⟩ := ih fun v hv => hws v (List.mem_cons_of_mem _ hv)
    refine ⟨⟨.word, w, script (wordParts ws ++ ps)⟩ :: us, ?_, ?_⟩
    · show _ :: tokens (wordParts ws ++ ps) = _
      rw [hus]
      rfl
    · exact ⟨spells_capital (hws w List.mem_cons_self) _, hspells⟩

theorem endsWord_nullParts (o : Option Bool) (h : EndsWord (script ps)) :
    EndsWord (script (nullParts o ++ ps)) := by
  have hblank : Text.isBlank ' ' = true := by decide
  match o with
  | none => exact h
  | some true => simp [nullParts, wordParts, EndsWord, Part.chars, hblank]
  | some false => simp [nullParts, wordParts, EndsWord, Part.chars, hblank]

theorem endsWord_sizeParts (o : Option Nat) (h : EndsWord (script ps)) :
    EndsWord (script (sizeParts o ++ ps)) := by
  cases o with
  | none => exact h
  | some n => simp [sizeParts, EndsWord, Part.chars, closers]

/-- The words on null in front of the end of an item. -/
theorem saysNull_nullParts (o : Option Bool) (h : EndsItem ps) :
    SaysNull o (tokens (nullParts o ++ ps)) (tokens ps) := by
  have hwords : nullParts o = wordParts (nullWords o) := by
    match o with
    | none => rfl
    | some true => rfl
    | some false => rfl
  have hcapital : ∀ w ∈ nullWords o, String.ofList (w.toList.map Char.toUpper) = w := by
    match o with
    | none => decide
    | some true => decide
    | some false => decide
  obtain ⟨us, hus, hspells⟩ := tokens_wordParts hcapital ps
  exact ⟨⟨us, hspells, by rw [hwords, hus]⟩, h.mark⟩

/-- The type of a column, with the length that is written behind it. -/
theorem run_dataType_column (c : DeclaredColumn) (r : List Char) (h : EndsType (tokens ps)) :
    ∃ type, (dataType .mysql).run (⟨.word, c.type.word, r⟩ :: tokens (sizeParts c.length ++ ps)) =
      some (type, tokens ps) ∧ type.length = .ok (c.length.map Int.ofNat) := by
  have hword : Token.Spells c.type.key ⟨.word, c.type.word, r⟩ := ⟨rfl, rfl⟩
  obtain ⟨name, hname, -⟩ := typeOfWord?_key .mysql c.type.key_mem
  have hreadable := c.readable
  cases hn : c.length with
  | none =>
    exact ⟨_, run_dataType_plain .mysql hword c.type.key_mem hname h, rfl⟩
  | some n =>
    rw [hn] at hreadable
    refine ⟨_, run_dataType_sized .mysql hword c.type.key_mem hname (by simp) _ _ h, ?_⟩
    unfold DataType.length
    simp only [Decimal.isAllDigits_toString, Decimal.whole?_toString (hreadable n rfl)]
    rfl

/-- A column is read as its definition. -/
theorem entries_column (c : DeclaredColumn) (h : EndsItem ps) :
    ∃ es, (entries .mysql).run (tokens (c.parts ++ ps)) = some (some es, tokens ps) ∧
      es.map Entry.definition? = [.ok (pure (.column c.definition))] := by
  have hnull := saysNull_nullParts c.nullable h
  obtain ⟨type, htype, hlength⟩ := run_dataType_column c
    (script (sizeParts c.length ++ (nullParts c.nullable ++ ps))) hnull.endsType.1
  have hword := typeWord?_word [' '] (List.forall_mem_singleton.2 (by decide)) c.type.isWordText_word
    (endsWord_sizeParts c.length (endsWord_nullParts c.nullable h.endsWord))
  have hshown : tokens (c.parts ++ ps) = ⟨.name, c.name.text, script (.blank ' ' ::
      .word c.type.word :: (sizeParts c.length ++ (nullParts c.nullable ++ ps)))⟩ ::
        tokens (.word c.type.word :: (sizeParts c.length ++ (nullParts c.nullable ++ ps))) := by
    unfold DeclaredColumn.parts
    rw [List.cons_append, List.cons_append, List.cons_append, List.append_assoc]
    rfl
  rw [hshown]
  exact run_entries_typed .mysql (.inr rfl) (by simp) hword ⟨rfl, rfl⟩ htype hlength hnull

/-- A list of quoted names is read as the names. -/
theorem closedList_names {item : Reading (Option String)} {ns : List Name} (hne : ns ≠ [])
    (hitem : ∀ (s : String) (q : List Char) (c : Char) (r : List Char) (us : List Token),
      c ∈ itemEnds → item.run (⟨.name, s, q⟩ :: .ofMark c r :: us) = some (some s, .ofMark c r :: us))
    (ps : List Part) :
    (closedList item).run (tokens (commas (ns.map fun n => [.name n.text]) ++ .mark ')' :: ps)) =
      some (ns.map Name.text, tokens ps) := by
  have hread : ∀ n ∈ ns, ∀ qs, EndsItem qs →
      ∃ s, item.run (tokens ([.name n.text] ++ qs)) = some (some s, tokens qs) ∧ id s = n.text := by
    intro n _ qs hqs
    obtain ⟨c, hc, r, us, hus⟩ := hqs.mark
    refine ⟨n.text, ?_, rfl⟩
    show item.run (⟨.name, n.text, script qs⟩ :: tokens qs) = _
    rw [hus]
    exact hitem n.text (script qs) c r us hc
  obtain ⟨names, hnames, heq⟩ := closedList_commas hne hread
    (endsItem_mark (c := ')') (by decide) ps) rfl
  rw [List.map_id] at heq
  rw [hnames, heq]

/-- An index is read as its definition. -/
theorem entries_index (i : DeclaredIndex) (h : EndsItem ps) :
    ∃ es, (entries .mysql).run (tokens (i.parts ++ ps)) = some (some es, tokens ps) ∧
      es.map Entry.definition? = [.ok (pure (.index i.definition))] := by
  obtain ⟨c, -, r, us, hus⟩ := h.mark
  obtain ⟨p, q, q', hshown⟩ : ∃ p q q', tokens (i.parts ++ ps) =
      ⟨.word, "INDEX", p⟩ :: ⟨.name, i.name.text, q⟩ :: .ofMark '(' q' ::
        tokens (commas (i.columns.map fun n => [.name n.text]) ++ .mark ')' :: ps) := by
    unfold DeclaredIndex.parts listParts
    simp only [List.cons_append, List.append_assoc, List.nil_append]
    exact ⟨_, _, _, rfl⟩
  have hcolumns := closedList_names i.nonempty
    (fun s q c r us hc => run_orderedColumn_name .mysql s q hc r) ps
  have hindex := spells_capital (w := "INDEX") (by decide) p
  have hname : (some i.name.text).filter (!·.isEmpty) =
      if i.name.text = "" then none else some i.name.text := by
    by_cases hn : i.name.text = "" <;> simp [hn]
  rw [hus] at hcolumns
  rw [hshown, hus, run_entries_index hindex (run_index .mysql _ q q' r hcolumns)]
  refine ⟨_, rfl, ?_⟩
  rw [hname]
  exact congrArg (fun d => [d]) (definition?_index _ _)

/-- An event with its action is read in front of what else is said of a key. -/
theorem keyOptions_event (e : KeyEvent) (o : Option ReferentialAction) {ts : List Token}
    {options : List (String × String)}
    (h : ∀ fuel, (tokens ps).length ≤ fuel → (keyOptions fuel).run (tokens ps) = some (options, ts)) :
    ∀ fuel, (tokens (e.parts o ++ ps)).length ≤ fuel →
      (keyOptions fuel).run (tokens (e.parts o ++ ps)) =
        some (o.toList.map (fun a => (e.word, " ".intercalate a.spelling)) ++ options, ts) := by
  cases o with
  | none => exact h
  | some a =>
    intro fuel hfuel
    have hcapital : ∀ w ∈ a.spelling, String.ofList (w.toList.map Char.toUpper) = w := by
      cases a <;> decide
    obtain ⟨us, hus, hspells⟩ := tokens_wordParts hcapital ps
    obtain ⟨p, q, hshown⟩ : ∃ p q, tokens (e.parts (some a) ++ ps) =
        ⟨.word, "ON", p⟩ :: ⟨.word, e.word, q⟩ :: (us ++ tokens ps) := by
      rw [← hus]
      exact ⟨_, _, rfl⟩
    rw [hshown] at hfuel ⊢
    obtain ⟨fuel, rfl⟩ : ∃ n, fuel = n + 1 := ⟨fuel - 1, by simp at hfuel; omega⟩
    have hon := spells_capital (w := "ON") (by decide) p
    have hevent : String.ofList (e.word.toList.map Char.toUpper) = e.word := by cases e <;> decide
    rw [run_keyOptions_cons hon rfl hspells (h fuel (by simp at hfuel; omega)),
      show Token.upper ⟨.word, e.word, q⟩ = e.word from hevent]
    rfl

/-- The actions for the two events are told apart. -/
theorem lookup_events (onDelete onUpdate : Option ReferentialAction) :
    let options :=
      onDelete.toList.map (fun a => (KeyEvent.delete.word, " ".intercalate a.spelling)) ++
      (onUpdate.toList.map (fun a => (KeyEvent.update.word, " ".intercalate a.spelling)) ++ [])
    options.lookup "DELETE" = onDelete.map (fun a => " ".intercalate a.spelling) ∧
      options.lookup "UPDATE" = onUpdate.map (fun a => " ".intercalate a.spelling) := by
  cases onDelete <;> cases onUpdate <;> simp [List.lookup_cons, KeyEvent.word]

/-- A foreign key is read as its definition. -/
theorem entries_key (k : DeclaredKey) (hfree : Text.upper k.table.text ∉ targetWords)
    (h : EndsItem ps) :
    ∃ es, (entries .mysql).run (tokens (k.parts ++ ps)) = some (some es, tokens ps) ∧
      es.map Entry.definition? = [.ok (pure (.foreignKey k.definition))] := by
  obtain ⟨c, -, r, us, hus⟩ := h.mark
  have hend : ∀ fuel, (tokens ps).length ≤ fuel → (keyOptions fuel).run (tokens ps) =
      some ([], .ofMark c r :: us) := by
    intro fuel _
    rw [hus]
    exact run_keyOptions_mark fuel c r
  have hoptions := keyOptions_event .delete k.onDelete (keyOptions_event .update k.onUpdate hend)
  obtain ⟨hdelete, hupdate⟩ := lookup_events k.onDelete k.onUpdate
  -- the reference, and the entry from its columns on
  let reference := wordParts ["REFERENCES"] ++ .blank ' ' :: .name k.table.text :: .blank ' ' ::
    (listParts [[.name k.remote.text]] ++
      (KeyEvent.delete.parts k.onDelete ++ (KeyEvent.update.parts k.onUpdate ++ ps)))
  obtain ⟨p, q, q', hreference⟩ : ∃ p q q', tokens reference =
      ⟨.word, "REFERENCES", p⟩ :: ⟨.name, k.table.text, q⟩ :: .ofMark '(' q' ::
        tokens (commas [[.name k.remote.text]] ++ .mark ')' ::
          (KeyEvent.delete.parts k.onDelete ++ (KeyEvent.update.parts k.onUpdate ++ ps))) :=
    ⟨_, _, _, rfl⟩
  obtain ⟨x, y, z, hshown⟩ : ∃ x y z, tokens (k.parts ++ ps) =
      ⟨.word, "FOREIGN", x⟩ :: ⟨.word, "KEY", y⟩ :: .ofMark '(' z ::
        tokens (commas [[.name k.column.text]] ++ .mark ')' :: reference) := by
    have hassoc : k.parts ++ ps = .word "FOREIGN" :: (wordParts ["KEY"] ++ .blank ' ' ::
        (listParts [[.name k.column.text]] ++ reference)) := by
      simp [DeclaredKey.parts, reference]
    rw [hassoc]
    exact ⟨_, _, _, rfl⟩
  have hremote := closedList_names (List.cons_ne_nil k.remote [])
    (fun s q c r us hc => run_listedColumn .mysql rfl hc r)
    (KeyEvent.delete.parts k.onDelete ++ (KeyEvent.update.parts k.onUpdate ++ ps))
  have hcolumn := closedList_names (List.cons_ne_nil k.column [])
    (fun s q c r us _ => run_nameItem (by simp) rfl (.ofMark c r :: us)) reference
  rw [hreference] at hcolumn
  have hread := run_foreignKey z (spells_capital (by decide) p) c r hcolumn
    (run_reference (namesTable_name k.table.text q) (by simpa [Token.hasText] using hfree) q' hremote
      (hoptions _ (Nat.le_refl _)))
  rw [hdelete, hupdate] at hread
  rw [hshown, hus]
  exact ⟨_, run_entries_foreignKey (spells_capital (by decide) x) (spells_capital (by decide) y) hread,
    congrArg (fun d => [d]) (definition?_foreignKey _ _ _ _ _)⟩

/-! ## From the statement to the schema -/

/-- An entry of a declared table. -/
inductive DeclaredEntry where
  | column (c : DeclaredColumn)
  | index (i : DeclaredIndex)
  | key (k : DeclaredKey)

namespace DeclaredEntry

/-- The parts of an entry. -/
def parts : DeclaredEntry → List Part
  | column c => c.parts
  | index i => i.parts
  | key k => k.parts

/-- The definition of an entry. -/
def definition : DeclaredEntry → Definition
  | column c => .column c.definition
  | index i => .index i.definition
  | key k => .foreignKey k.definition

/-- Whether an entry refers to no table whose name is found as a word. -/
def Legible : DeclaredEntry → Prop
  | column _ | index _ => True
  | key k => Text.upper k.table.text ∉ targetWords

theorem entries_parts (e : DeclaredEntry) (he : e.Legible) (h : EndsItem ps) :
    ∃ es, (entries .mysql).run (tokens (e.parts ++ ps)) = some (some es, tokens ps) ∧
      es.map Entry.definition? = [.ok (pure e.definition)] := by
  cases e with
  | column c => exact entries_column c h
  | index i => exact entries_index i h
  | key k => exact entries_key k he h

end DeclaredEntry

namespace DeclaredTable

/-- The entries of a table in the order of the statement. -/
def entries (t : DeclaredTable) : List DeclaredEntry :=
  t.columns.map .column ++ t.indexes.map .index ++ t.keys.map .key

theorem entryParts_eq (t : DeclaredTable) : t.entryParts = t.entries.map DeclaredEntry.parts := by
  simp [entryParts, entries, Function.comp_def, DeclaredEntry.parts]

theorem definitions_eq (t : DeclaredTable) :
    t.definitions = t.entries.map DeclaredEntry.definition := by
  simp [definitions, entries, Function.comp_def, DeclaredEntry.definition]

/-- The entries of a legible table are legible. -/
theorem Legible.of_mem_entries {t : DeclaredTable} (h : t.Legible) {e : DeclaredEntry}
    (he : e ∈ t.entries) : e.Legible := by
  cases e with
  | column | index => trivial
  | key k =>
    refine h.targets k ?_
    simpa [entries] using he

/-- The list of entries starts with the name of the first column. -/
theorem tokens_entries (t : DeclaredTable) (ps : List Part) :
    ∃ s q us, tokens (commas (t.entries.map DeclaredEntry.parts) ++ ps) = ⟨.name, s, q⟩ :: us := by
  obtain ⟨c, cs, hcs⟩ := List.exists_cons_of_ne_nil t.nonempty
  obtain ⟨rest, hrest⟩ : ∃ rest, t.entries = .column c :: rest := ⟨_, by rw [entries, hcs]; rfl⟩
  rw [hrest]
  cases rest <;> exact ⟨_, _, _, rfl⟩

/-- The statement of a table is read as its entries. -/
theorem parse_text (t : DeclaredTable) (h : t.Legible) :
    ∃ es, parse .mysql t.text = some [.create "table" (some ⟨none, t.name.text⟩) es] ∧
      es.map Entry.definition? = t.definitions.map fun d => .ok (pure d) := by
  have hclose : EndsItem [.blank ' ', .mark ')'] :=
    ⟨(trails_blank (trails_mark (by decide) trails_nil.fit).fit).endsWord, ')', by decide, [], [], rfl⟩
  have hne : t.entries ≠ [] := by simp [entries, t.nonempty]
  obtain ⟨ess, hess, hdefinitions⟩ := closedList_commas (f := List.map Entry.definition?) hne
    (fun e he ps hps => e.entries_parts (h.of_mem_entries he) hps) hclose rfl
  obtain ⟨s, q, us, hfirst⟩ := t.tokens_entries [.blank ' ', .mark ')']
  obtain ⟨x, y, z, z', hshown⟩ : ∃ x y z z', tokens t.parts =
      ⟨.word, "CREATE", x⟩ :: ⟨.word, "TABLE", y⟩ :: ⟨.name, t.name.text, z⟩ :: .ofMark '(' z' ::
        tokens (commas (t.entries.map DeclaredEntry.parts) ++ [.blank ' ', .mark ')']) := by
    unfold parts
    rw [entryParts_eq]
    exact ⟨_, _, _, _, rfl⟩
  rw [hfirst] at hess hshown
  refine ⟨ess.flatten, parse_script t.toList_text t.fit_parts t.semicolon_not_mem_parts ?_, ?_⟩
  · rw [hshown]
    exact run_statement (spells_capital (by decide) x) (spells_capital (by decide) y)
      (namesTable_name _ z) (by simpa [Token.hasText] using h.name) z'
      (run_body .mysql z' (by simp) (by simp) hess)
  · rw [List.map_flatten, hdefinitions, definitions_eq, List.map_map, ← List.flatMap_def]
    exact List.map_eq_flatMap.symm

/-- The statement of a legible table is one statement, and its schema is the declared one: no notice
is made and nothing fails. -/
theorem extract_trees_text (t : DeclaredTable) (h : t.Legible) :
    ∃ tree, trees .mysql t.text = pure [tree] ∧ extract (.list [tree]) = pure t.schema := by
  obtain ⟨es, hparse, hes⟩ := t.parse_text h
  exact extract_create hparse hes (schema_definitions t)

/-- The words of the statement up to its entries. -/
theorem tokens_parts (t : DeclaredTable) : ∃ x y z z' us, tokens t.parts =
    ⟨.word, "CREATE", x⟩ :: ⟨.word, "TABLE", y⟩ :: ⟨.name, t.name.text, z⟩ :: .ofMark '(' z' :: us :=
  ⟨_, _, _, _, _, rfl⟩

/-- A table is not read under a name that is found as a word in front of it. -/
theorem parse_text_refused (t : DeclaredTable) (h : Text.upper t.name.text ∈ creationWords) :
    parse .mysql t.text = none := by
  obtain ⟨x, y, z, z', us, hshown⟩ := t.tokens_parts
  have hcreate : Token.Spells "CREATE" ⟨.word, "CREATE", x⟩ := spells_capital (by decide) x
  have hrefused := run_create_refused (spells_capital (by decide) y)
    (t := ⟨.name, t.name.text, z⟩) (by simpa [Token.hasText] using h) z' us
  refine parse_refused t.toList_text t.fit_parts t.semicolon_not_mem_parts hshown ?_
  simp [statement, hcreate.isWord, hrefused]

/-- A table with one column, which refers to a column of the same name. -/
def single (name target column : Name) (hname : name.text ≠ "") (hcolumn : column.text ≠ "") :
    DeclaredTable where
  name
  named := hname
  columns :=
    [{ name := column
       named := hcolumn
       type := ⟨"Int", ("int", .number, .int), by decide, by decide⟩
       length := none
       readable := by simp
       nullable := some true }]
  nonempty := by simp
  indexes := []
  keys := [{ column, table := target, remote := column, onDelete := some .cascade, onUpdate := none }]

/-- A table whose names look like a script. -/
theorem extract_trees_text_single :
    let t := single ⟨"select; --", by decide⟩ ⟨"if", by decide⟩ ⟨"a) `values", by decide⟩
      (by decide) (by decide)
    t.Legible ∧ ∃ tree, trees .mysql t.text = pure [tree] ∧ extract (.list [tree]) = pure t.schema := by
  intro t
  have ht : t.Legible := by
    refine ⟨by decide +kernel, fun k hk => ?_⟩
    obtain rfl := List.mem_singleton.1 hk
    decide +kernel
  exact ⟨ht, t.extract_trees_text ht⟩

/-- Not every name can be read back: a table that is called like a word in front of its name is not. -/
theorem not_extract_trees_text : ¬ ∀ t : DeclaredTable,
    ∃ tree, trees .mysql t.text = pure [tree] ∧ extract (.list [tree]) = pure t.schema := by
  intro hall
  let t := single ⟨"if", by decide⟩ ⟨"t", by decide⟩ ⟨"a", by decide⟩ (by decide) (by decide)
  have hrefused : parse .mysql t.text = none := t.parse_text_refused (by decide +kernel)
  obtain ⟨tree, htree, -⟩ := hall t
  unfold trees Grammar.trees grammar at htree
  rw [hrefused] at htree
  have hfails : Except.error (ScriptError.reading .unreadable) = .ok [tree] :=
    congrArg Attempt.outcome htree
  cases hfails

end DeclaredTable

end TableScaffold.Sql
