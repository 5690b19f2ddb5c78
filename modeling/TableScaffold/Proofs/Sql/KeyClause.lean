import TableScaffold.Proofs.Sql.Layout

/-!
# Foreign keys with any clauses

Behind the reference of a foreign key stands any sequence of clauses, each with an event and an action.
The reader of keys keeps them in order, so the first clause of an event tells its action
(`lookup_clauses`), whatever clauses of the other event stand in between.
-/

namespace TableScaffold.Sql

open Reading

variable {ts us : List Token} {ps : List Part}

/-! ## Clauses -/

/-- A clause of a foreign key: what is done on an event. -/
structure KeyClause where
  before : Layout
  on : Keyword "ON"
  event : KeyEvent
  action : ReferentialAction
  words : Phrase (event.word :: action.spelling)

namespace KeyClause

def parts (c : KeyClause) : List Part := c.before.parts ++ .word c.on.text :: c.words.parts

/-- The action of the first clause of an event. -/
def first? (e : KeyEvent) (cs : List KeyClause) : Option ReferentialAction :=
  (cs.find? (·.event = e)).map (·.action)

theorem fit_parts (c : KeyClause) (h : Trails ps) : Fit .mysql (c.parts ++ ps) := by
  have hwords : ∀ w ∈ c.event.word :: c.action.spelling, isWordText w = true := by
    cases c.event <;> cases c.action <;> decide
  have hon := fit_word (c.on.isWordText_text (by decide)) (c.words.trails_parts hwords h)
  rw [parts, List.append_assoc, List.cons_append]
  exact c.before.fit_parts hon

theorem trails_parts (c : KeyClause) (hc : c.before.chars ≠ []) (h : Trails ps) :
    Trails (c.parts ++ ps) := by
  refine ⟨c.fit_parts h, ?_⟩
  rw [parts, List.append_assoc]
  exact endsWord_blanks c.before.blank hc _

/-- Only the first clause may stand directly behind what is in front of the clauses. -/
theorem fit_all {cs : List KeyClause} (hcs : ∀ c ∈ cs.tail, c.before.chars ≠ []) (h : Trails ps) :
    Fit .mysql (cs.flatMap parts ++ ps) := by
  have htail : ∀ cs : List KeyClause, (∀ c ∈ cs, c.before.chars ≠ []) →
      Trails (cs.flatMap parts ++ ps) := by
    intro cs hcs
    induction cs with
    | nil => exact h
    | cons c cs ih =>
      obtain ⟨hc, hcs⟩ := List.forall_mem_cons.1 hcs
      rw [List.flatMap_cons, List.append_assoc]
      exact c.trails_parts hc (ih hcs)
  cases cs with
  | nil => exact h.fit
  | cons c cs =>
    rw [List.flatMap_cons, List.append_assoc]
    exact c.fit_parts (htail cs hcs)

@[simp] theorem mark_notMem_parts (c : KeyClause) (m : Char) : .mark m ∉ c.parts := by
  simp [parts]

/-- A clause as the reader of keys gives it. -/
def option (c : KeyClause) : String × String := (c.event.word, " ".intercalate c.action.spelling)

/-- The clauses of a key are read one by one. -/
theorem run_keyOptions (cs : List KeyClause) (h : EndsItem ps) :
    ∀ fuel, (tokens (cs.flatMap parts ++ ps)).length ≤ fuel →
      (keyOptions fuel).run (tokens (cs.flatMap parts ++ ps)) =
        some (cs.map option, tokens ps) := by
  induction cs with
  | nil =>
    intro fuel _
    obtain ⟨c, -, r, us, hus⟩ := h.mark
    rw [List.flatMap_nil, List.nil_append, hus]
    exact run_keyOptions_mark fuel c r
  | cons c cs ih =>
    intro fuel hfuel
    obtain ⟨us, hus, hspells⟩ := c.words.tokens_parts (cs.flatMap parts ++ ps)
    obtain ⟨event, vs, rfl, hevent, haction⟩ := spellsAll_cons.1 hspells
    have hshown : tokens ((c :: cs).flatMap parts ++ ps) = ⟨.word, c.on.text, script (c.words.parts ++
        (cs.flatMap parts ++ ps))⟩ :: event :: (vs ++ tokens (cs.flatMap parts ++ ps)) := by
      rw [List.flatMap_cons, List.append_assoc, parts, List.append_assoc, c.before.tokens_parts,
        List.cons_append, tokens, hus]
      rfl
    rw [hshown] at hfuel ⊢
    obtain ⟨fuel, rfl⟩ : ∃ n, fuel = n + 1 := ⟨fuel - 1, by simp at hfuel; omega⟩
    rw [run_keyOptions_cons (c.on.spells _) hevent.1 haction (ih fuel (by simp at hfuel; omega)),
      hevent.2]
    rfl

/-- The first clause of an event tells its action. -/
theorem lookup_clauses (cs : List KeyClause) (e : KeyEvent) :
    (cs.map option).lookup e.word = (first? e cs).map fun a => " ".intercalate a.spelling := by
  induction cs with
  | nil => rfl
  | cons c cs ih =>
    by_cases he : c.event = e
    · simp [option, first?, he]
    · have hword : ∀ e e' : KeyEvent, e' ≠ e → (e.word == e'.word) = false := by
        intro e e'
        cases e <;> cases e' <;> decide
      rw [List.map_cons, option, List.lookup_cons, hword e c.event he]
      simpa [first?, he] using ih

end KeyClause

/-! ## Keys -/

/-- A name in parentheses. -/
structure ListedName where
  before : Layout
  inner : Layout
  name : AnyName
  after : Layout

/-- A foreign key of one column. Its clauses are parted by blanks, and the name of the table that it refers
to is not one that is found as a word even between quotes. -/
structure WrittenKey where
  before : Layout
  foreign : Keyword "FOREIGN"
  key : Phrase ["KEY"]
  column : ListedName
  gap : Layout
  references : Keyword "REFERENCES"
  between : Parting
  table : AnyName
  legible : Text.upper table.text ∉ targetWords
  remote : ListedName
  clauses : List KeyClause
  parted : ∀ c ∈ clauses.tail, c.before.chars ≠ []
  after : Layout

namespace ListedName

def parts (n : ListedName) : List Part :=
  n.before.parts ++ .mark '(' :: (n.inner.parts ++ n.name.part :: (n.after.parts ++ [.mark ')']))

theorem trails_parts (n : ListedName) (h : Fit .mysql ps) : Trails (n.parts ++ ps) := by
  have hclose := n.after.trails_parts (trails_mark (c := ')') (by decide) h)
  have hopen := trails_mark (c := '(') (by decide) (n.inner.fit_parts (n.name.fit_part hclose))
  simpa [parts] using n.before.trails_parts hopen

@[simp] theorem semicolon_notMem_parts (n : ListedName) : .mark ';' ∉ n.parts := by
  simp [parts]

/-- A list of one name is read as that name. -/
theorem closedList_name (n : ListedName) {item : Reading (Option String)}
    (hitem : ∀ (r : List Char) (c : Char) (q : List Char) (us : List Token), c ∈ itemEnds →
      item.run (n.name.token r :: .ofMark c q :: us) = some (some n.name.text, .ofMark c q :: us))
    (ps : List Part) : ∃ q us, tokens (n.parts ++ ps) = .ofMark '(' q :: us ∧
      (closedList item).run us = some ([n.name.text], tokens ps) := by
  have hread : ∀ m ∈ [n], ∀ qs, EndsItem qs → ∃ s,
      item.run (tokens ((m.inner.parts ++ m.name.part :: m.after.parts) ++ qs)) =
        some (some s, tokens qs) ∧ id s = m.name.text := by
    rintro m hm qs hqs
    obtain rfl := List.mem_singleton.1 hm
    obtain ⟨c, hc, r, us, hus⟩ := (m.after.endsItem_parts hqs).mark
    refine ⟨m.name.text, ?_, rfl⟩
    have hshown : tokens ((m.inner.parts ++ m.name.part :: m.after.parts) ++ qs) =
        m.name.token (script (m.after.parts ++ qs)) :: tokens qs := by
      simp
    rw [m.after.tokens_parts] at hus
    rw [hshown, hus]
    exact hitem _ c r us hc
  obtain ⟨names, hnames, heq⟩ := closedList_joined [] rfl (List.cons_ne_nil n []) hread
    (endsItem_mark (c := ')') (by decide) ps) rfl
  rw [List.map_id] at heq
  obtain ⟨q, hshown⟩ : ∃ q, tokens (n.parts ++ ps) = .ofMark '(' q ::
      tokens ((n.inner.parts ++ n.name.part :: n.after.parts) ++ .mark ')' :: ps) :=
    ⟨_, by simp [parts, tokens]; rfl⟩
  rw [heq] at hnames
  exact ⟨q, _, hshown, hnames⟩

end ListedName

namespace WrittenKey

/-- What stands behind the table that a key refers to. -/
def tailParts (k : WrittenKey) : List Part :=
  k.remote.parts ++ (k.clauses.flatMap KeyClause.parts ++ k.after.parts)

/-- What stands behind the column of a key. -/
def referenceParts (k : WrittenKey) : List Part :=
  k.gap.parts ++ .word k.references.text :: (k.between.parts ++ k.table.part :: k.tailParts)

def parts (k : WrittenKey) : List Part :=
  k.before.parts ++ .word k.foreign.text :: (k.key.parts ++ (k.column.parts ++ k.referenceParts))

theorem fit_parts (k : WrittenKey) (h : Trails ps) : Fit .mysql (k.parts ++ ps) := by
  have hclauses := KeyClause.fit_all k.parted (k.after.trails_parts h)
  have htable := k.table.fit_part (k.remote.trails_parts hclauses)
  have hreferences := fit_word (k.references.isWordText_text (by decide)) (k.between.trails_parts htable)
  have hcolumn := k.column.trails_parts (k.gap.fit_parts hreferences)
  have hforeign := fit_word (k.foreign.isWordText_text (by decide))
    (k.key.trails_parts (by decide) hcolumn)
  simpa [parts, referenceParts, tailParts] using k.before.fit_parts hforeign

@[simp] theorem semicolon_notMem_parts (k : WrittenKey) : .mark ';' ∉ k.parts := by
  simp [parts, referenceParts, tailParts]

/-- The definition of a key. -/
def definition (k : WrittenKey) : ForeignKeyDefinition where
  column := k.column.name.text
  referencedTable := k.table.text
  referencedColumn := k.remote.name.text
  onDelete := (KeyClause.first? .delete k.clauses).getD .noAction
  onUpdate := (KeyClause.first? .update k.clauses).getD .noAction

/-- The reference of a key is read with its clauses. -/
theorem run_reference (k : WrittenKey) (h : EndsItem ps) :
    (reference .mysql).run (k.table.token (script (k.tailParts ++ ps)) :: tokens (k.tailParts ++ ps)) =
      some ((some ⟨none, k.table.text⟩, [k.remote.name.text], k.clauses.map KeyClause.option),
        tokens ps) := by
  have hend := k.after.endsItem_parts h
  obtain ⟨q, us, hus, hremote⟩ := k.remote.closedList_name
    (fun r c q us hc => (Reading.run_listedColumn .mysql (k.remote.name.isAnyName_token r) hc q).trans
      (by rw [AnyName.text_token]))
    (k.clauses.flatMap KeyClause.parts ++ (k.after.parts ++ ps))
  have hclauses := KeyClause.run_keyOptions k.clauses hend _ (Nat.le_refl _)
  rw [k.after.tokens_parts] at hclauses
  have hread := Reading.run_reference (k.table.namesTable_token (script (k.tailParts ++ ps)))
    (k.table.hasText_token k.legible) q hremote hclauses
  rw [AnyName.text_token] at hread
  rw [← hread, ← hus]
  simp [tailParts]

/-- A key is read as its definition. -/
theorem entries_parts (k : WrittenKey) (h : EndsItem ps) :
    ∃ es, (entries .mysql).run (tokens (k.parts ++ ps)) = some (some es, tokens ps) ∧
      es.map Entry.definition? = [.ok (pure (.foreignKey k.definition))] := by
  obtain ⟨q, us, hus, hcolumn⟩ := k.column.closedList_name
    (fun r c q us _ => (run_nameItem (k.column.name.namesTable_token r).noMark
      (k.column.name.isAnyName_token r) (.ofMark c q :: us)).trans (by rw [AnyName.text_token]))
    (k.referenceParts ++ ps)
  obtain ⟨r, hreference⟩ : ∃ r, tokens (k.referenceParts ++ ps) = ⟨.word, k.references.text, r⟩ ::
      k.table.token (script (k.tailParts ++ ps)) :: tokens (k.tailParts ++ ps) :=
    ⟨_, by simp [referenceParts, tokens]; rfl⟩
  obtain ⟨key, hword, hkey⟩ := k.key.exists_token (k.column.parts ++ (k.referenceParts ++ ps))
  obtain ⟨r', hshown⟩ : ∃ r, tokens (k.parts ++ ps) =
      ⟨.word, k.foreign.text, r⟩ :: key :: .ofMark '(' q :: us := by
    rw [hus] at hword
    exact ⟨_, by simp [parts, tokens, hword]; rfl⟩
  obtain ⟨c, -, q', us', hps⟩ := h.mark
  have hread := k.run_reference h
  rw [hreference] at hcolumn
  rw [hps] at hread ⊢
  have hforeignKey := run_foreignKey q (k.references.spells r) c q' hcolumn hread
  rw [show (k.clauses.map KeyClause.option).lookup "DELETE" = _ from
      KeyClause.lookup_clauses k.clauses .delete,
    show (k.clauses.map KeyClause.option).lookup "UPDATE" = _ from
      KeyClause.lookup_clauses k.clauses .update] at hforeignKey
  rw [hshown]
  exact ⟨_, run_entries_foreignKey (k.foreign.spells r') hkey hforeignKey,
    congrArg (fun d => [d]) (definition?_foreignKey _ _ _ _ _)⟩

end WrittenKey

end TableScaffold.Sql
