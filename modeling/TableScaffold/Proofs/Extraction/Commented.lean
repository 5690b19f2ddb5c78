import TableScaffold.Proofs.Extraction.Acceptance
import TableScaffold.Proofs.Sql.Alike.Commented
import TableScaffold.Proofs.Sql.Column
import TableScaffold.Proofs.Text.CaseMap

/-!
# Comments between a column and its type

A comment behind the name of a column hides the word that is read again there, so the column gets the
name of its type as the dialect understands it (`extract_commented`). Nothing else of the schema changes,
and the type does not if that name is the written word. A type without a name leaves no trees.

1. The commented script has the trees of the old one, the column without its place (`tree_unplaced`).
2. So the two statements have the same definitions but for the type of the column (`Retyped`).
3. The columns of the schemas follow the definitions one by one (`columns_retyped`), relations and
   indexes do not depend on types.
-/

namespace TableScaffold

/-! ## Definitions that differ in a type -/

/-- Two definitions that are the same but for the type of the columns called `name`: it is `old` in the
one and `new` in the other. -/
inductive Retyped (name old new : String) : Definition → Definition → Prop
  | same (d : Definition) : Retyped name old new d d
  | column {c : ColumnDefinition} (hname : c.name = name) (htype : c.dataType = some old) :
    Retyped name old new (.column c) (.column { c with dataType := some new })

/-- A column of another type, with all that the type stands for. -/
def Column.retyped (column : Column) (type : String) : Column :=
  { column with
    sqlType := type
    semanticType := TableScaffold.semanticType (some type)
    persistenceType := (TableScaffold.persistenceType (some type) column.name).value }

variable {name old new : String} {ds ds' : List Definition}

theorem eq_of_retyped (h : List.Forall₂ (Retyped name old old) ds ds') : ds = ds' := by
  induction h with
  | nil => rfl
  | cons hd _ ih =>
    cases hd with
    | same => rw [ih]
    | column _ htype => rw [ih, ← htype]

namespace Extraction

theorem value_column? {c : ColumnDefinition} {type : String} (htype : c.dataType = some type)
    (hne : type ≠ "") : (column? c).value = some
      { name := c.name
        sqlType := type
        semanticType := semanticType (some type)
        persistenceType := (persistenceType (some type) c.name).value
        isOptional := c.isOptional
        length := c.length } := by
  unfold column?
  simp only [htype]
  rw [if_neg (by simpa using hne)]
  rfl

theorem column?_retyped {c : ColumnDefinition} (htype : c.dataType = some old) (hold : old ≠ "")
    (hnew : new ≠ "") :
    ∃ column : Column, (column? c).value = some column ∧ column.name = c.name ∧ column.sqlType = old ∧
      (column? { c with dataType := some new }).value = some (column.retyped new) :=
  ⟨_, value_column? htype hold, rfl, rfl, value_column? rfl hnew⟩

/-- The columns of the definitions that are the same stay. -/
theorem columns_retyped (h : List.Forall₂ (Retyped name old new) ds ds') (hold : old ≠ "")
    (hnew : new ≠ "") :
    List.Forall₂ (fun a b => b = a ∨ a.name = name ∧ a.sqlType = old ∧ b = a.retyped new)
      (columns ds).value (columns ds').value := by
  induction h with
  | nil => exact .nil
  | @cons d _ _ _ hd _ ih =>
    cases hd with
    | column hname htype =>
      obtain ⟨a, ha, haname, hatype, hb⟩ := column?_retyped htype hold hnew
      rw [(columns_column _ _).1, (columns_column _ _).1, ha, hb]
      exact .cons (.inr ⟨haname.trans hname, hatype, rfl⟩) ih
    | same =>
      cases d with
      | column c =>
        rw [(columns_column _ _).1, (columns_column _ _).1]
        exact List.rel_append (List.forall₂_same.2 fun _ _ => .inl rfl) ih
      | foreignKey _ | index _ | other _ => exact ih

/-- Definitions with the same columns are the same. -/
theorem eq_of_columns (h : List.Forall₂ (Retyped name old new) ds ds') (hold : old ≠ "")
    (hnew : new ≠ "") (hcolumns : (columns ds).value = (columns ds').value) : ds = ds' := by
  induction h with
  | nil => rfl
  | @cons d _ _ _ hd _ ih =>
    cases hd with
    | @column c hname htype =>
      obtain ⟨a, ha, -, hatype, hb⟩ := column?_retyped htype hold hnew
      rw [(columns_column _ _).1, (columns_column _ _).1, ha, hb] at hcolumns
      obtain ⟨hcolumn, hrest⟩ := List.cons.inj hcolumns
      have htypes : old = new := hatype.symm.trans (congrArg Column.sqlType hcolumn)
      rw [ih hrest, ← htypes, ← htype]
    | same =>
      cases d with
      | column c =>
        rw [(columns_column _ _).1, (columns_column _ _).1] at hcolumns
        rw [ih (List.append_cancel_left hcolumns)]
      | foreignKey _ | index _ | other _ => rw [ih hcolumns]

theorem filterMap_retyped {α : Type} {f : Definition → Option α} (hf : ∀ c, f (.column c) = none)
    (h : List.Forall₂ (Retyped name old new) ds ds') : ds'.filterMap f = ds.filterMap f := by
  induction h with
  | nil => rfl
  | cons hd _ ih =>
    rw [List.filterMap_cons, List.filterMap_cons, ih]
    cases hd with
    | same => rfl
    | column => rw [hf, hf]

theorem schema_retyped (table : Option String) (h : List.Forall₂ (Retyped name old new) ds ds')
    (hold : old ≠ "") (hnew : new ≠ "") :
    (schema table ds').value =
      { (schema table ds).value with columns := (schema table ds').value.columns } := by
  have hvalue : ∀ ds, (schema table ds).value =
      { tableName := table.getD ""
        columns := (columns ds).value
        relations := (foreignKeys ds).map (relation ((columns ds).value.map (·.name)))
        indexes := indexes ds } := fun _ => rfl
  have hnames : (columns ds').value.map (·.name) = (columns ds).value.map (·.name) := by
    have hcolumns := columns_retyped h hold hnew
    generalize (columns ds).value = as at hcolumns ⊢
    generalize (columns ds').value = bs at hcolumns ⊢
    induction hcolumns with
    | nil => rfl
    | cons hd _ ih =>
      rw [List.map_cons, List.map_cons, ih]
      rcases hd with rfl | ⟨-, -, rfl⟩ <;> rfl
  have hkeys : foreignKeys ds' = foreignKeys ds := filterMap_retyped (fun _ => rfl) h
  have hindexes : indexes ds' = indexes ds := filterMap_retyped (fun _ => rfl) h
  rw [hvalue, hvalue, hnames, hkeys, hindexes]

end Extraction

namespace Sql

/-! ## Entries that are read again -/

/-- The definition that an entry is read as, if it can be written out. -/
def Entry.read? (e : Entry) : Option Definition :=
  e.definition?.toOption.bind fun x => x.outcome.toOption

/-- An entry, with the column `c` as if its name had no place in a script. -/
def Entry.unplaced (c : ColumnEntry) (e : Entry) : Entry :=
  if e = .column c then .column { c with after := none } else e

variable {d : Dialect} {c : ColumnEntry} {e e' : Entry} {entries entries' : List Entry}

/-- An entry other than a column behind whose name comments were put in has the same tree. -/
theorem Entry.Like.tree_retold {old new : List Char} (h : e.Like (tokenwise d (Retold old new)) e')
    (hne : ∀ c', e = .column c' → c'.after ≠ some old) : e.tree = e'.tree := by
  cases h with
  | other => rfl
  | @column c' after hafter =>
    have hbefore := hne c' rfl
    refine ColumnEntry.tree_after ?_
    generalize c'.after = before at hafter hbefore
    cases hafter with
    | none => rfl
    | some h =>
      obtain ⟨t, u, htu, rfl, rfl⟩ := h
      have hrest : t.rest ≠ old := fun heq => hbefore (congrArg some heq)
      exact (retold_of_ne hrest).1 (relates_tokenwise.1 htu)

/-- What is behind the comments tells no word, so the place does not matter any more. -/
theorem Entry.Like.tree_unplaced {old new : List Char} (h : e.Like (tokenwise d (Retold old new)) e')
    (hold : c.after = some old) (hnew : typeWord? new = none)
    (hunique : ∀ c', e = .column c' → c'.after = c.after → c' = c) : (e.unplaced c).tree = e'.tree := by
  by_cases heq : e = .column c
  · rw [Entry.unplaced, if_pos heq]
    cases h with
    | other hcolumn =>
      rw [heq] at hcolumn
      cases hcolumn
    | @column _ after hafter =>
      cases heq
      refine ColumnEntry.tree_after ?_
      rw [hold] at hafter
      cases hafter with
      | some h =>
        obtain ⟨t, u, htu, rfl, rfl⟩ := h
        have hrest : u.rest = new := (retold_of_eq rfl).1 (relates_tokenwise.1 htu)
        rw [hrest]
        exact hnew.symm
  · rw [Entry.unplaced, if_neg heq]
    refine h.tree_retold fun c' hc' hafter => heq ?_
    rw [hc', hunique c' hc' (hafter.trans hold.symm)]

/-- A statement without the column behind whose name comments were put in has the same tree. -/
theorem Statement.Like.tree_retold {old new : List Char} {s s' : Statement}
    (h : s.Like (Entry.Like (tokenwise d (Retold old new))) s')
    (hne : ∀ c', .column c' ∈ s.entries → c'.after ≠ some old) : s.tree = s'.tree := by
  cases h with
  | other => rfl
  | @create _ _ es es' hes =>
    have hall := (List.forall₂_and_left es es').2 ⟨fun e (he : e ∈ es) => he, hes⟩
    have htrees : es.mapM Entry.tree = es'.mapM Entry.tree :=
      mapM_congr (hall.imp fun e e' he => he.2.tree_retold fun c' hc' => hne c' (hc' ▸ he.1))
    simp only [Statement.tree, htrees]

/-- The trees of entries are read one by one. -/
theorem definitions_read {vs : List Value} (h : entries.mapM Entry.tree = .ok vs) :
    ∃ ds, List.Forall₂ (fun e d => e.read? = some d) entries ds ∧
      (Tree.definitions vs).outcome = .ok ds := by
  have hall := mapM_eq_ok.1 h
  clear h
  induction hall with
  | nil => exact ⟨[], .nil, rfl⟩
  | cons he _ ih =>
    obtain ⟨ds, hds, houtcome⟩ := ih
    obtain ⟨d, hd⟩ := Entry.definition_isOk he
    refine ⟨d :: ds, .cons ?_ hds, ?_⟩
    · simp [Entry.read?, Entry.definition?, he, hd, Except.map, Except.toOption]
    · simp only [Tree.definitions, Attempt.outcome_bind, hd, houtcome]
      rfl

/-- The definitions of a statement are those of its entries. -/
theorem statement_create {keyword : String} {table : Option TableName} {v : Value}
    (h : Statement.tree (.create keyword table entries) = .ok v) :
    ∃ ds, List.Forall₂ (fun e d => e.read? = some d) entries ds ∧
      (Tree.statement v).outcome =
        .ok ⟨some "create", some keyword, table.map (·.name), ds⟩ := by
  obtain ⟨vs, hvs, rfl⟩ := Statement.tree_create h
  obtain ⟨ds, hds, houtcome⟩ := definitions_read hvs
  refine ⟨ds, hds, ?_⟩
  have hlower : Text.lower "create" = "create" := by decide +kernel
  have hcreate : Tree.isCreate (.str "create") = .ok true := by simp [Tree.isCreate, hlower]
  have hentries : Tree.entries (.list vs) = .ok vs := by cases vs <;> rfl
  unfold Tree.statement
  show Attempt.outcome (Attempt.ofExcept (Tree.isCreate (.str "create")) >>= _) = _
  rw [Attempt.outcome_bind, Attempt.outcome_ofExcept, hcreate]
  show Attempt.outcome (Attempt.ofExcept (Tree.entries (.list vs)) >>= _) = _
  rw [Attempt.outcome_bind, Attempt.outcome_ofExcept, hentries]
  show Attempt.outcome (Tree.definitions vs >>= _) = _
  rw [Attempt.outcome_bind, houtcome]
  cases table <;> rfl

theorem declaredType_ne_empty {type : DataType} {w : String} (h : c.declaredType type = some w)
    (hname : ∀ n ∈ type.name, n ≠ "") : w ≠ "" := by
  obtain ⟨v, hv, rfl⟩ := Option.map_eq_some_iff.1 h
  refine Text.upper_ne_empty ?_
  cases hword : c.after.bind typeWord? with
  | none =>
    rw [hword] at hv
    exact hname v hv
  | some x =>
    rw [hword] at hv
    obtain rfl : x = v := Option.some.inj hv
    obtain ⟨r, -, hr⟩ := Option.bind_eq_some_iff.1 hword
    unfold typeWord? at hr
    split at hr
    · cases hr
    · split at hr
      · cases hr
        simp
      · cases hr

/-- The column without its place is read with the name of its type. -/
theorem read?_unplaced {type : DataType} {name declared : String} (htype : c.type = some type)
    (hname : type.name = some name) (hnamed : name ≠ "") (hword : c.declaredType type = some declared)
    (hconverts : c.Converts) :
    declared ≠ "" ∧ ∃ cd : ColumnDefinition, cd.name = c.name ∧ cd.dataType = some declared ∧
      (Entry.column c).read? = some (.column cd) ∧
      (Entry.column { c with after := none }).read? =
        some (.column { cd with dataType := some (Text.upper name) }) := by
  obtain ⟨length, hlength⟩ := DataType.length_isOk.2 (hconverts.length type htype)
  have hdeclared := declaredType_ne_empty hword fun n hn =>
    Option.some.inj (hname.symm.trans hn) ▸ hnamed
  have hunplaced : ({ c with after := none } : ColumnEntry).declaredType type =
      some (Text.upper name) := by
    rw [ColumnEntry.declaredType, hname]
    rfl
  refine ⟨hdeclared, ⟨c.name, some declared, length, c.nullable == some true⟩, rfl, rfl, ?_, ?_⟩
  · rw [Entry.read?, definition?_declared htype hword hdeclared hlength hconverts.clause]
    rfl
  · rw [Entry.read?, definition?_declared (c := { c with after := none }) htype hunplaced
      (Text.upper_ne_empty hnamed) hlength hconverts.clause]
    rfl

theorem retyped_unplaced {type : DataType} {name declared : String} (htype : c.type = some type)
    (hname : type.name = some name) (hnamed : name ≠ "") (hword : c.declaredType type = some declared)
    (hconverts : c.Converts) {ds ds' : List Definition}
    (hds : List.Forall₂ (fun e d => e.read? = some d) entries ds)
    (hds' : List.Forall₂ (fun e d => (e.unplaced c).read? = some d) entries ds') :
    List.Forall₂ (Retyped c.name declared (Text.upper name)) ds ds' := by
  obtain ⟨-, cd, hcd, hcdtype, hread, hread'⟩ := read?_unplaced htype hname hnamed hword hconverts
  induction hds generalizing ds' with
  | nil =>
    cases hds'
    exact .nil
  | @cons e _ _ _ hd _ ih =>
    cases hds' with
    | cons hd' hrest =>
      refine .cons ?_ (ih hrest)
      unfold Entry.unplaced at hd'
      split at hd'
      · next heq =>
        subst heq
        cases hread.symm.trans hd
        cases hread'.symm.trans hd'
        exact .column hcd hcdtype
      · cases hd.symm.trans hd'
        exact .same _

/-- The entries of a statement without the place of one column: that column is in the way exactly if its
type has no name. -/
theorem mapM_unplaced {vs : List Value} (h : entries.mapM Entry.tree = .ok vs)
    (hc : .column c ∈ entries) {type : DataType} (htype : c.type = some type) :
    (type.name = none → (entries.map (Entry.unplaced c)).mapM Entry.tree = .error .unnamedType) ∧
      (type.name ≠ none → ∃ vs', (entries.map (Entry.unplaced c)).mapM Entry.tree = .ok vs') := by
  have htrees := mapM_isOk.1 ⟨vs, h⟩
  have hother : ∀ e ∈ entries, e ≠ .column c → ∃ v, (e.unplaced c).tree = .ok v := fun e he hne => by
    rw [Entry.unplaced, if_neg hne]
    exact htrees e he
  have hself : (Entry.column c).unplaced c = .column { c with after := none } := if_pos rfl
  refine ⟨fun hnone => ?_, fun hsome => mapM_isOk.2 fun e he => ?_⟩
  · have hfails : ((Entry.column c).unplaced c).tree = .error .unnamedType := by
      rw [hself]
      simp [Entry.tree, ColumnEntry.tree, ColumnEntry.typeAndLength, ColumnEntry.declaredType, htype,
        hnone, bind, Except.bind]
    refine mapM_eq_error (fun e he => ?_) ⟨_, List.mem_map_of_mem hc, hfails⟩
    obtain ⟨e, hmem, rfl⟩ := List.mem_map.1 he
    by_cases heq : e = .column c
    · exact .inr (heq ▸ hfails)
    · exact .inl (hother e hmem heq)
  · obtain ⟨e, hmem, rfl⟩ := List.mem_map.1 he
    by_cases heq : e = .column c
    · have hconverts := Entry.tree_isOk.1 (htrees _ hc) c rfl
      rw [heq, hself]
      refine Entry.tree_isOk.2 fun c' hc' => ?_
      cases hc'
      refine ⟨fun t ht => ?_, hconverts.length, hconverts.clause⟩
      obtain rfl : type = t := Option.some.inj (htype.symm.trans ht)
      simpa [ColumnEntry.declaredType, Option.isSome_iff_ne_none] using hsome
    · exact hother e hmem heq

/-- The trees of a script with comments behind the name of a column: the first statement, which the column
is in, is written out as if the name had no place. -/
theorem trees_commented {script commented : String} {before blanks gap behind : List Char}
    (h : Commented d c script commented before blanks gap behind) {keyword : String}
    {table : Option TableName} {rest : List Statement}
    (hparse : parse d script = some (.create keyword table entries :: rest))
    (hc : .column c ∈ entries) {type : DataType} (htype : c.type = some type) {vs : List Value}
    (hvs : (trees d script).outcome = .ok vs) :
    (∀ n ∈ type.name, n ≠ "") ∧ ∃ v us, vs = v :: us ∧
      Statement.tree (.create keyword table entries) = .ok v ∧
      (trees d commented).outcome =
        ((Statement.tree (.create keyword table (entries.map (Entry.unplaced c)))).map
          (· :: us)).mapError ScriptError.tree := by
  obtain ⟨ss, hss, htrees⟩ := statements_of_trees hvs
  obtain ⟨⟨ss', hss', hlike⟩, hunique, hothers, hname⟩ := parse_commented h hparse hc htype
  cases hparse.symm.trans hss
  have hnew : typeWord? (blanks ++ (gap ++ behind)) = none := by
    obtain ⟨x, hx, hblank⟩ := h.gap.comment
    rw [← List.append_assoc]
    exact (h.blanks.append h.gap.remarks).typeWord?_eq_none
      ⟨x, List.mem_append_right _ hx, hblank⟩ behind
  refine ⟨hname, ?_⟩
  rw [outcome_trees hss']
  cases hlike with
  | @cons _ _ _ rest' hfirst hrest =>
    cases hfirst with
    | @create _ _ _ es' hes =>
      cases mapM_eq_ok.1 htrees with
      | @cons _ v _ us hv hus =>
        have hbehind : rest'.mapM Statement.tree = .ok us := by
          have hall := (List.forall₂_and_left rest rest').2 ⟨fun s (hs : s ∈ rest) => hs, hrest⟩
          rw [← mapM_congr (hall.imp fun s s' hs => hs.2.tree_retold fun c' hc' =>
            h.name ▸ hothers s hs.1 c' hc')]
          exact mapM_eq_ok.2 hus
        have hall := (List.forall₂_and_left entries es').2
          ⟨fun e (he : e ∈ entries) c' (hc' : e = .column c') => hunique c' (hc' ▸ he), hes⟩
        have hentries : (entries.map (Entry.unplaced c)).mapM Entry.tree = es'.mapM Entry.tree :=
          mapM_congr (List.forall₂_map_left_iff.2 (hall.imp fun e e' he =>
            he.2.tree_unplaced h.name hnew he.1))
        refine ⟨v, us, rfl, hv, ?_⟩
        rw [List.mapM_cons, hbehind]
        simp only [Statement.tree, hentries]
        cases es'.mapM Entry.tree <;> rfl

end Sql

/-- Comments that are put in behind the name of a column leave the schema as it is, but for the type of
the column: it is the name of the type as the dialect understands it. So the schema stays the same
exactly if that name is what was read as the type. If the type has no name, the script has no trees. -/
theorem extract_commented {d : Sql.Dialect} {c : Sql.ColumnEntry} {script commented : String}
    {before blanks gap behind : List Char}
    (h : Sql.Commented d c script commented before blanks gap behind) {keyword : String}
    {table : Option Sql.TableName} {entries : List Sql.Entry} {rest : List Sql.Statement}
    (hparse : Sql.parse d script = some (.create keyword table entries :: rest))
    (hc : .column c ∈ entries) {type : Sql.DataType} (htype : c.type = some type) {vs : List Value}
    {s : TableSchema} (hvs : (Sql.trees d script).outcome = .ok vs)
    (hs : (extract (.list vs)).outcome = .ok s) :
    ∃ declared, c.declaredType type = some declared ∧
      (type.name = none → (Sql.trees d commented).outcome = .error (.tree .unnamedType)) ∧
      ∀ name, type.name = some name →
        ∃ vs' s', (Sql.trees d commented).outcome = .ok vs' ∧ (extract (.list vs')).outcome = .ok s' ∧
          s' = { s with columns := s'.columns } ∧
          List.Forall₂ (fun a b => b = a ∨ a.name = c.name ∧ a.sqlType = declared ∧
            b = a.retyped (Text.upper name)) s.columns s'.columns ∧
          (s' = s ↔ declared = Text.upper name) := by
  obtain ⟨hnames, v, us, rfl, hv, hcommented⟩ := Sql.trees_commented h hparse hc htype hvs
  obtain ⟨vs, hentries, rfl⟩ := Sql.Statement.tree_create hv
  obtain ⟨hunnamed, hnamed⟩ := Sql.mapM_unplaced hentries hc htype
  have hconverts := Sql.Statement.tree_isOk.1 ⟨_, hv⟩ c hc
  obtain ⟨declared, hword⟩ := Option.isSome_iff_exists.1 (hconverts.named type htype)
  refine ⟨declared, hword, fun hnone => ?_, fun name hname => ?_⟩
  · rw [hcommented]
    simp only [Sql.Statement.tree, hunnamed hnone]
    rfl
  obtain ⟨vs', hvs'⟩ := hnamed (by simp [hname])
  obtain ⟨v', hv'⟩ : ∃ v', Sql.Statement.tree
      (.create keyword table (entries.map (Sql.Entry.unplaced c))) = .ok v' := by
    simp only [Sql.Statement.tree, hvs']
    exact ⟨_, rfl⟩
  rw [hv'] at hcommented
  have hne := hnames name hname
  obtain ⟨ds, hds, hread⟩ := Sql.statement_create hv
  obtain ⟨ds', hds', hread'⟩ := Sql.statement_create hv'
  rw [List.forall₂_map_left_iff] at hds'
  obtain ⟨hdeclared, cd, -, hcdtype, hcolumn, hcolumn'⟩ :=
    Sql.read?_unplaced htype hname hne hword hconverts
  have hretyped := Sql.retyped_unplaced htype hname hne hword hconverts hds hds'
  have hnew := Text.upper_ne_empty hne
  rw [(extract_statementOf _).1] at hs
  obtain ⟨cs, hcs, hcreate, rfl, -⟩ := Extraction.schema_of_statement hs
  cases hread.symm.trans hcs
  have hs' := (extract_statementOf (.list (v' :: us))).1.trans
    (Extraction.outcome_createTable hread' hcreate)
  refine ⟨_, _, hcommented, hs', Extraction.schema_retyped _ hretyped hdeclared hnew,
    Extraction.columns_retyped hretyped hdeclared hnew, fun heq => ?_, fun heq => ?_⟩
  · have hsame := Extraction.eq_of_columns hretyped hdeclared hnew
      (congrArg TableSchema.columns heq).symm
    subst hsame
    obtain ⟨dc, -, hdc, hdc'⟩ := exists_of_forall₂ (hds.mp (fun _ _ => And.intro) hds') hc
    rw [Sql.Entry.unplaced, if_pos rfl, hcolumn'] at hdc'
    have hcd := Definition.column.inj (Option.some.inj (hcolumn.symm.trans (hdc.trans hdc'.symm)))
    exact Option.some.inj (hcdtype.symm.trans (congrArg ColumnDefinition.dataType hcd))
  · rw [heq] at hretyped
    rw [eq_of_retyped hretyped]

/-- Two comments behind a name leave the type `VARCHAR` as it is. -/
theorem extract_commented_varchar : ∃ vs vs' s,
    (Sql.trees .mysql "CREATE TABLE t (a INT, b VARCHAR(3))").outcome = .ok vs ∧
    (Sql.trees .mysql "CREATE TABLE t (a INT, b /* the */ /* name */ VARCHAR(3))").outcome = .ok vs' ∧
    (extract (.list vs)).outcome = .ok s ∧ (extract (.list vs')).outcome = .ok s ∧
    s.columns.map (·.sqlType) = ["INT", "VARCHAR"] := by
  have hfirst : ((Sql.trees .mysql "CREATE TABLE t (a INT, b VARCHAR(3))").outcome.toOption.bind
      fun vs => (extract (.list vs)).outcome.toOption.map fun s => s.columns.map (·.sqlType)) =
        some ["INT", "VARCHAR"] := by
    decide +kernel
  obtain ⟨vs, s, hvs, hs, htypes⟩ := Attempt.exists_of_eval hfirst
  have hparse : Sql.parse .mysql "CREATE TABLE t (a INT, b VARCHAR(3))" =
      some [.create "table" (some ⟨none, "t"⟩)
        [.column ⟨"a", some " INT, b VARCHAR(3))".toList, some ⟨some "INT", none⟩, none, false⟩,
          .column ⟨"b", some " VARCHAR(3))".toList, some ⟨some "VARCHAR", some "3"⟩, none, false⟩]] := by
    decide +kernel
  have hcommented : Sql.Commented .mysql
      ⟨"b", some " VARCHAR(3))".toList, some ⟨some "VARCHAR", some "3"⟩, none, false⟩
      "CREATE TABLE t (a INT, b VARCHAR(3))"
      "CREATE TABLE t (a INT, b /* the */ /* name */ VARCHAR(3))"
      "CREATE TABLE t (a INT, b".toList [] " /* the */ /* name */".toList " VARCHAR(3))".toList := by
    have hfirst : " /* the */ /* name */".toList.head?.all Text.isBlank = true := by decide +kernel
    refine ⟨by decide +kernel, by decide +kernel, rfl, .nil, ?_, fun c hc => ?_,
      '/', by decide +kernel, by decide +kernel⟩
    swap
    · rw [Option.mem_def.1 hc] at hfirst
      exact hfirst
    have hremarks : Sql.Remarks .mysql (' ' :: '/' :: '*' :: (" the */".toList ++ ' ' :: '/' :: '*' ::
        (" name */".toList ++ []))) :=
      .blank (by decide) (.comment (by decide +kernel)
        (.blank (by decide) (.comment (by decide +kernel) .nil)))
    exact hremarks
  obtain ⟨declared, hword, -, hall⟩ :=
    extract_commented hcommented hparse (.tail _ (.head _)) rfl hvs hs
  obtain ⟨vs', s', hvs', hs', -, -, hsame⟩ := hall "VARCHAR" rfl
  have hvarchar : some declared = some (Text.upper "VARCHAR") := hword.symm.trans (by decide +kernel)
  rw [hsame.2 (Option.some.inj hvarchar)] at hs'
  exact ⟨vs, vs', s, hvs, hvs', hs, hs', htypes⟩

/-- A comment hides the word `TIMESTAMP`, which this dialect takes for another type. -/
theorem comment_hides_timestamp : ∃ vs vs' s s',
    (Sql.trees .mysql "CREATE TABLE t (a TIMESTAMP)").outcome = .ok vs ∧
    (Sql.trees .mysql "CREATE TABLE t (a /* c */ TIMESTAMP)").outcome = .ok vs' ∧
    (extract (.list vs)).outcome = .ok s ∧ (extract (.list vs')).outcome = .ok s' ∧
    s.columns = [⟨"a", "TIMESTAMP", .date, .dateTime, false, none⟩] ∧
    s'.columns = [⟨"a", "TIMESTAMPTZ", .unknown, .string, false, none⟩] ∧ s' ≠ s := by
  have hfirst : ((Sql.trees .mysql "CREATE TABLE t (a TIMESTAMP)").outcome.toOption.bind
      fun vs => (extract (.list vs)).outcome.toOption.map TableSchema.columns) =
        some [⟨"a", "TIMESTAMP", .date, .dateTime, false, none⟩] := by
    decide +kernel
  have hsecond : ((Sql.trees .mysql "CREATE TABLE t (a /* c */ TIMESTAMP)").outcome.toOption.bind
      fun vs => (extract (.list vs)).outcome.toOption.map TableSchema.columns) =
        some [⟨"a", "TIMESTAMPTZ", .unknown, .string, false, none⟩] := by
    decide +kernel
  obtain ⟨vs, s, hvs, hs, hcolumns⟩ := Attempt.exists_of_eval hfirst
  obtain ⟨vs', s', hvs', hs', hcolumns'⟩ := Attempt.exists_of_eval hsecond
  refine ⟨vs, vs', s, s', hvs, hvs', hs, hs', hcolumns, hcolumns', ?_⟩
  rintro rfl
  exact absurd (hcolumns.symm.trans hcolumns') (by decide)

end TableScaffold
