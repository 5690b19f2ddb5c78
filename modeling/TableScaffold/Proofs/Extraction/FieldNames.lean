import TableScaffold.Extraction
import TableScaffold.Proofs.Attempt
import TableScaffold.Sql.Script
import TableScaffold.View

/-!
# The field names of a database model

A database model declares one field for each column name and one for each relation. A relation is
named after its key column in one of three ways: by the column's name in camel case, by that name
without `Id`, or by that name with `Relation` at its end. Only the names of columns are looked at, and
the last way is taken without a look.

1. `relationName_cases` tells the three ways apart.
2. `relationName_mem_iff` and `relationName_eq_iff` say when a relation is named like a column and
   when two relations are named alike.
3. `fieldNames_nodup_iff` puts both together: they are the only ways in which two fields of a database
   model can have one name.
-/

namespace TableScaffold

/-! ## The fields of a view model -/

/-- The names of the items that a view model lists under a key. -/
def itemNames (model : ViewModel) (key : String) : List String :=
  match model.lookup key with
  | some (.list vs) => vs.map fun v => (v.field "name").text
  | _ => []

/-- The names of the fields that the database model of a schema declares. -/
def TableSchema.fieldNames (s : TableSchema) : List String :=
  itemNames (View.persistenceModel.build s) "columns" ++
    itemNames (View.persistenceModel.build s) "relations"

theorem TableSchema.fieldNames_eq (s : TableSchema) :
    s.fieldNames = (uniqueColumns s.columns).map (·.name) ++ s.relations.map (·.name) := by
  have columns : itemNames (View.persistenceModel.build s) "columns" =
      ((uniqueColumns s.columns).map Column.modelField).map fun v => (v.field "name").text := rfl
  have relations : itemNames (View.persistenceModel.build s) "relations" =
      (s.relations.map Relation.dump).map fun v => (v.field "name").text := rfl
  rw [fieldNames, columns, relations, List.map_map, List.map_map]
  rfl

theorem mem_firstOfNames {n : String} {cs : List Column} (seen : List String) :
    n ∈ (firstOfNames seen cs).map (·.name) ↔ n ∉ seen ∧ n ∈ cs.map (·.name) := by
  induction cs generalizing seen with
  | nil => simp [firstOfNames]
  | cons c cs ih =>
    unfold firstOfNames
    by_cases hc : seen.contains c.name
    · rw [if_pos hc, ih]
      have : c.name ∈ seen := by simpa using hc
      grind
    · rw [if_neg hc, List.map_cons, List.mem_cons, ih]
      have : c.name ∉ seen := by simpa using hc
      grind

theorem nodup_firstOfNames (seen : List String) (cs : List Column) :
    ((firstOfNames seen cs).map (·.name)).Nodup := by
  induction cs generalizing seen with
  | nil => exact List.nodup_nil
  | cons c cs ih =>
    unfold firstOfNames
    split
    · exact ih seen
    · rw [List.map_cons, List.nodup_cons]
      refine ⟨fun hmem => ?_, ih _⟩
      exact ((mem_firstOfNames _).mp hmem).1 List.mem_cons_self

/-- Columns are listed once for each name, so only relations can repeat a name. -/
theorem TableSchema.nodup_fieldNames_iff (s : TableSchema) :
    s.fieldNames.Nodup ↔
      (∀ r ∈ s.relations, r.name ∉ s.columns.map (·.name)) ∧
        s.relations.Pairwise fun r q => r.name ≠ q.name := by
  have columns : ∀ n, n ∈ (uniqueColumns s.columns).map (·.name) ↔ n ∈ s.columns.map (·.name) :=
    fun _ => (mem_firstOfNames []).trans (and_iff_right List.not_mem_nil)
  have distinct : ((uniqueColumns s.columns).map (·.name)).Nodup := nodup_firstOfNames [] s.columns
  rw [s.fieldNames_eq, List.nodup_append, List.nodup_iff_pairwise_ne (l := s.relations.map _),
    List.pairwise_map]
  constructor
  · rintro ⟨-, hpairs, hapart⟩
    refine ⟨fun r hr hmem => ?_, hpairs⟩
    exact hapart r.name ((columns _).mpr hmem) r.name (List.mem_map_of_mem hr) rfl
  · rintro ⟨hapart, hpairs⟩
    refine ⟨distinct, hpairs, fun n hn n' hn' heq => ?_⟩
    obtain ⟨r, hr, rfl⟩ := List.mem_map.mp hn'
    exact hapart r hr ((columns _).mp (heq ▸ hn))

/-! ## The name of a relation -/

namespace Extraction

variable {names : List String} {n m t : String}

/-- A name that a column has gives way to `t`, the name without `Id`, which no column has. -/
def Shortened (names : List String) (n t : String) : Prop :=
  n ∈ names ∧ n = t ++ "Id" ∧ t ≠ "" ∧ t ∉ names

/-- A name that a column has cannot be shortened, so it is lengthened. -/
def Lengthened (names : List String) (n : String) : Prop :=
  n ∈ names ∧ ∀ t, ¬ Shortened names n t

theorem trimId_append (t : String) : trimId (t ++ "Id") = t := by
  have hlist : (t ++ "Id").toList = t.toList ++ ['I', 'd'] := String.toList_append
  have hend : ['I', 'd'].isSuffixOf (t.toList ++ ['I', 'd']) = true := by
    rw [List.isSuffixOf_iff_suffix]
    exact List.suffix_append _ _
  unfold trimId
  rw [hlist, if_pos hend]
  simp

theorem trimId_cases (n : String) : n = trimId n ++ "Id" ∨ trimId n = n := by
  unfold trimId
  split
  · next hend =>
    obtain ⟨cs, hcs⟩ := List.isSuffixOf_iff_suffix.mp hend
    left
    rw [← hcs]
    simp only [← String.toList_inj, String.toList_append, String.toList_ofList]
    simp [← hcs]
  · exact Or.inr rfl

/-- A name can be shortened exactly if its shorter form is neither empty nor a column's. -/
theorem shortened_iff :
    Shortened names n t ↔
      n ∈ names ∧ t = trimId n ∧ (trimId n).isEmpty = false ∧ trimId n ∉ names := by
  constructor
  · rintro ⟨hn, rfl, hne, ht⟩
    rw [trimId_append]
    exact ⟨hn, rfl, by simpa using hne, ht⟩
  · rintro ⟨hn, rfl, hne, ht⟩
    refine ⟨hn, ?_, by simpa using hne, ht⟩
    exact (trimId_cases n).resolve_right fun h => ht (h.symm ▸ hn)

/-- The three ways to name the relation of a key column. -/
theorem relationName_cases (names : List String) (column : String) :
    (Naming.camelCase column ∉ names ∧
      relationName names column = Naming.camelCase column) ∨
    (∃ t, Shortened names (Naming.camelCase column) t ∧ relationName names column = t) ∨
    (Lengthened names (Naming.camelCase column) ∧
      relationName names column = Naming.camelCase column ++ "Relation") := by
  generalize hn : Naming.camelCase column = n
  unfold relationName
  rw [hn]
  by_cases hmem : n ∈ names
  · by_cases hshort : (trimId n).isEmpty = false ∧ trimId n ∉ names
    · refine Or.inr (Or.inl ⟨trimId n, shortened_iff.mpr ⟨hmem, rfl, hshort⟩, ?_⟩)
      simp [hmem, hshort.1, hshort.2]
    · refine Or.inr (Or.inr ⟨⟨hmem, fun t ht => hshort (shortened_iff.mp ht).2.2⟩, ?_⟩)
      have hlong : (!(trimId n).isEmpty && !names.contains (trimId n)) = false := by
        rw [Bool.eq_false_iff]
        simpa using hshort
      simp only [hlong]
      simp [hmem]
  · exact Or.inl ⟨hmem, by simp [hmem]⟩

theorem relationName_kept {column : String} (h : Naming.camelCase column ∉ names) :
    relationName names column = Naming.camelCase column := by
  rcases relationName_cases names column with ⟨-, heq⟩ | ⟨t, hs, -⟩ | ⟨hl, -⟩
  · exact heq
  · exact absurd hs.1 h
  · exact absurd hl.1 h

theorem Shortened.unique {t' : String} (h : Shortened names n t) (h' : Shortened names n t') :
    t = t' :=
  (shortened_iff.mp h).2.1.trans (shortened_iff.mp h').2.1.symm

theorem relationName_shortened {column : String}
    (h : Shortened names (Naming.camelCase column) t) : relationName names column = t := by
  rcases relationName_cases names column with ⟨hn, -⟩ | ⟨t', hs, heq⟩ | ⟨hl, -⟩
  · exact absurd h.1 hn
  · exact heq.trans (hs.unique h)
  · exact absurd h (hl.2 t)

theorem relationName_lengthened {column : String}
    (h : Lengthened names (Naming.camelCase column)) :
    relationName names column = Naming.camelCase column ++ "Relation" := by
  rcases relationName_cases names column with ⟨hn, -⟩ | ⟨t, hs, -⟩ | ⟨-, heq⟩
  · exact absurd h.1 hn
  · exact absurd hs (h.2 t)
  · exact heq

/-- A relation is named like a column exactly if its name is lengthened to that of a column. -/
theorem relationName_mem_iff (names : List String) (column : String) :
    relationName names column ∈ names ↔
      Lengthened names (Naming.camelCase column) ∧
        Naming.camelCase column ++ "Relation" ∈ names := by
  rcases relationName_cases names column with ⟨hn, heq⟩ | ⟨t, hs, heq⟩ | ⟨hl, heq⟩
  · rw [heq]
    exact ⟨fun h => absurd h hn, fun h => absurd h.1.1 hn⟩
  · rw [heq]
    exact ⟨fun h => absurd h hs.2.2.2, fun h => absurd hs (h.1.2 t)⟩
  · rw [heq]
    exact ⟨fun h => ⟨hl, h⟩, fun h => h.2⟩

/-- The relation of `m` gives up its name and meets the relation of `n`: it is shortened to `n`, or
lengthened to what the relation of `n` keeps or is shortened to. -/
def Meets (names : List String) (n m : String) : Prop :=
  Shortened names m n ∨
    Lengthened names m ∧
      ((n ∉ names ∧ n = m ++ "Relation") ∨ Shortened names n (m ++ "Relation"))

/-- Two key columns, given by their names in camel case, have relations of one name. -/
def Clash (names : List String) (n m : String) : Prop :=
  n = m ∨ Meets names n m ∨ Meets names m n

theorem relationName_eq_of_meets {a b : String}
    (h : Meets names (Naming.camelCase a) (Naming.camelCase b)) :
    relationName names a = relationName names b := by
  rcases h with hs | ⟨hl, ⟨hn, heq⟩ | hs⟩
  · rw [relationName_kept hs.2.2.2, relationName_shortened hs]
  · rw [relationName_kept hn, relationName_lengthened hl, heq]
  · rw [relationName_shortened hs, relationName_lengthened hl]

/-- Two relations are named alike exactly if their key columns clash. -/
theorem relationName_eq_iff (names : List String) (a b : String) :
    relationName names a = relationName names b ↔
      Clash names (Naming.camelCase a) (Naming.camelCase b) := by
  constructor
  · intro h
    rcases relationName_cases names a with ⟨hna, ha⟩ | ⟨t, hta, ha⟩ | ⟨hla, ha⟩ <;>
      rcases relationName_cases names b with ⟨hnb, hb⟩ | ⟨u, hub, hb⟩ | ⟨hlb, hb⟩ <;>
      rw [ha, hb] at h
    · exact Or.inl h
    · exact Or.inr (Or.inl (Or.inl (h ▸ hub)))
    · exact Or.inr (Or.inl (Or.inr ⟨hlb, Or.inl ⟨hna, h⟩⟩))
    · exact Or.inr (Or.inr (Or.inl (h ▸ hta)))
    · left
      rw [hta.2.1, hub.2.1, h]
    · exact Or.inr (Or.inl (Or.inr ⟨hlb, Or.inr (h ▸ hta)⟩))
    · exact Or.inr (Or.inr (Or.inr ⟨hla, Or.inl ⟨hnb, h.symm⟩⟩))
    · exact Or.inr (Or.inr (Or.inr ⟨hla, Or.inr (h ▸ hub)⟩))
    · left
      simpa [← String.toList_inj] using h
  · rintro (h | h | h)
    · unfold relationName
      rw [h]
    · exact relationName_eq_of_meets h
    · exact (relationName_eq_of_meets h).symm

/-! ## Extracted schemas -/

theorem name_relation_schema {table : Option String} {ds : List Definition} {r : Relation}
    (h : r ∈ (schema table ds).value.relations) :
    r.name = relationName ((schema table ds).value.columns.map (·.name)) r.field := by
  obtain ⟨k, -, rfl⟩ := List.mem_map.mp h
  rfl

theorem outcome_ofStatement {node : Value} {s : TableSchema}
    (h : (ofStatement node).outcome = .ok s) : ∃ table ds, s = (schema table ds).value := by
  unfold ofStatement at h
  rw [Attempt.outcome_bind, Attempt.outcome_adapt] at h
  cases hstatement : (Tree.statement node).outcome with
  | error e =>
    rw [hstatement] at h
    cases h
  | ok c =>
    rw [hstatement] at h
    dsimp only [Except.mapError, bind, Except.bind] at h
    split at h
    · exact ⟨_, _, (Except.ok.inj h).symm⟩
    · cases h

end Extraction

theorem outcome_extract {v : Value} {s : TableSchema} (h : (extract v).outcome = .ok s) :
    ∃ table ds, s = (Extraction.schema table ds).value := by
  unfold extract at h
  split at h
  · cases h
  · exact Extraction.outcome_ofStatement h
  · exact Extraction.outcome_ofStatement h
  · exact Extraction.outcome_ofStatement h

/-- The fields of an extracted database model have different names exactly if no relation is
lengthened to the name of a column and no two key columns clash. -/
theorem fieldNames_nodup_iff {v : Value} {s : TableSchema} (h : (extract v).outcome = .ok s) :
    s.fieldNames.Nodup ↔
      (∀ r ∈ s.relations,
        ¬ (Extraction.Lengthened (s.columns.map (·.name)) (Naming.camelCase r.field) ∧
          Naming.camelCase r.field ++ "Relation" ∈ s.columns.map (·.name))) ∧
      s.relations.Pairwise fun r q =>
        ¬ Extraction.Clash (s.columns.map (·.name)) (Naming.camelCase r.field)
          (Naming.camelCase q.field) := by
  obtain ⟨table, ds, rfl⟩ := outcome_extract h
  rw [TableSchema.nodup_fieldNames_iff]
  refine and_congr (forall₂_congr fun r hr => ?_) (List.Pairwise.iff_of_mem fun hr hq => ?_)
  · rw [Extraction.name_relation_schema hr, Extraction.relationName_mem_iff]
  · rw [Extraction.name_relation_schema hr, Extraction.name_relation_schema hq, ne_eq,
      Extraction.relationName_eq_iff]

/-- A key column whose relation is shortened does not clash. -/
theorem fieldNames_nodup_shortened : ∃ vs s,
    (Sql.trees .mysql "CREATE TABLE s (tId INT, FOREIGN KEY (tId) REFERENCES t (id))").outcome =
      .ok vs ∧
    (extract (.list vs)).outcome = .ok s ∧ s.fieldNames = ["tId", "t"] ∧
    ∀ r ∈ s.relations,
      ¬ (Extraction.Lengthened (s.columns.map (·.name)) (Naming.camelCase r.field) ∧
        Naming.camelCase r.field ++ "Relation" ∈ s.columns.map (·.name)) := by
  have heval : ((Sql.trees .mysql
      "CREATE TABLE s (tId INT, FOREIGN KEY (tId) REFERENCES t (id))").outcome.toOption.bind
        fun vs => (extract (.list vs)).outcome.toOption.map (·.fieldNames)) =
      some ["tId", "t"] := by
    decide +kernel
  obtain ⟨vs, s, htrees, hs, hfields⟩ := Attempt.exists_of_eval heval
  refine ⟨vs, s, htrees, hs, hfields, ((fieldNames_nodup_iff hs).mp ?_).1⟩
  rw [hfields]
  decide

/-- A relation is lengthened to the name of a column, and two fields have one name. -/
theorem fieldNames_repeated : ∃ vs s,
    (Sql.trees .mysql ("CREATE TABLE s (tId INT, t INT, tIdRelation INT, " ++
      "FOREIGN KEY (tId) REFERENCES t (id))")).outcome = .ok vs ∧
    (extract (.list vs)).outcome = .ok s ∧ ¬ s.fieldNames.Nodup := by
  have heval : ((Sql.trees .mysql ("CREATE TABLE s (tId INT, t INT, tIdRelation INT, " ++
      "FOREIGN KEY (tId) REFERENCES t (id))")).outcome.toOption.bind
        fun vs => (extract (.list vs)).outcome.toOption.map (·.fieldNames)) =
      some ["tId", "t", "tIdRelation", "tIdRelation"] := by
    decide +kernel
  obtain ⟨vs, s, htrees, hs, hfields⟩ := Attempt.exists_of_eval heval
  refine ⟨vs, s, htrees, hs, ?_⟩
  rw [hfields]
  decide

end TableScaffold
