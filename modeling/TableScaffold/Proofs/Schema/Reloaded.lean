import TableScaffold.Artifact
import TableScaffold.Extraction
import TableScaffold.Proofs.Attempt
import TableScaffold.Proofs.Definition.Tree
import TableScaffold.Schema.Load

/-!
# Schemas that are dumped and loaded

A dumped schema passes its own check and loads as the schema that was dumped (`load_dump`): each field is
dumped in the one form that its check takes as it is, and the checks of a list take its items one by one.
-/

namespace TableScaffold

namespace Check

variable {α β : Type}

/-! ## Fields -/

section

variable {es : List (String × Value)} {key : String} {v : Value} {check : Value → Checked α} {a : α}

theorem required_eq (h : es.lookup key = some v) (hv : check v = .ok a) :
    required es key check = .ok a := by
  rw [required, h]
  dsimp only
  rw [hv]
  rfl

theorem withDefault_eq (h : es.lookup key = some v) (hv : check v = .ok a) (default : α) :
    withDefault es key check default = .ok a := by
  rw [withDefault, h]
  dsimp only
  rw [hv]
  rfl

end

theorem text_str (s : String) : text (.str s) = .ok s := rfl

theorem flag_bool (b : Bool) : flag (.bool b) = .ok b := rfl

/-- A whole number is taken however large it is. -/
theorem optionalWhole_ofWhole (o : Option Int) : optionalWhole (.ofWhole o) = .ok o := by
  cases o <;> rfl

theorem choice_word {ofWord? : String → Option α} {word : α → String}
    (h : ∀ a, ofWord? (word a) = some a) (a : α) : choice ofWord? (.str (word a)) = .ok a := by
  rw [choice, h]

/-! ## Lists -/

theorem items_dumped {check : Value → Checked α} {dump : α → Value}
    (h : ∀ a, check (dump a) = .ok a) (i : Nat) (as : List α) :
    items check i (as.map dump) = .ok as := by
  induction as generalizing i with
  | nil => rfl
  | cons a as ih =>
    rw [List.map_cons, items, h, ih]
    rfl

theorem list_dumped {check : Value → Checked α} {dump : α → Value}
    (h : ∀ a, check (dump a) = .ok a) (as : List α) :
    list check (.list (as.map dump)) = .ok as := items_dumped h 0 as

end Check

open Check

/-! ## Records -/

section

variable {es : List (String × Value)}

/-- The fields of a column may stand in any order and among others. -/
theorem Column.ofFields_eq {c : Column} (hname : es.lookup "name" = some (.str c.name))
    (htype : es.lookup "sql_type" = some (.str c.sqlType))
    (hsemantic : es.lookup "semantic_type" = some (.str c.semanticType.word))
    (hpersistence : es.lookup "persistence_type" = some (.str c.persistenceType.word))
    (hoptional : es.lookup "is_optional" = some (.bool c.isOptional))
    (hlength : es.lookup "length" = some (.ofWhole c.length)) : Column.ofFields es = .ok c := by
  unfold Column.ofFields
  rw [required_eq hname (text_str c.name), required_eq htype (text_str c.sqlType),
    required_eq hsemantic (choice_word SemanticType.ofWord?_word c.semanticType),
    required_eq hpersistence (choice_word PersistenceType.ofWord?_word c.persistenceType),
    withDefault_eq hoptional (flag_bool c.isOptional),
    withDefault_eq hlength (optionalWhole_ofWhole c.length)]
  rfl

theorem Relation.ofFields_eq {r : Relation} (hname : es.lookup "name" = some (.str r.name))
    (hmodel : es.lookup "related_model" = some (.str r.relatedModel))
    (hfield : es.lookup "field" = some (.str r.field))
    (hreferences : es.lookup "references" = some (.str r.references))
    (hdelete : es.lookup "on_delete" = some (.str r.onDelete.word))
    (hupdate : es.lookup "on_update" = some (.str r.onUpdate.word)) :
    Relation.ofFields es = .ok r := by
  unfold Relation.ofFields
  rw [required_eq hname (text_str r.name), required_eq hmodel (text_str r.relatedModel),
    required_eq hfield (text_str r.field), required_eq hreferences (text_str r.references),
    withDefault_eq hdelete (choice_word ReferentialAction.ofWord?_word r.onDelete),
    withDefault_eq hupdate (choice_word ReferentialAction.ofWord?_word r.onUpdate)]
  rfl

theorem Index.ofFields_eq {i : Index} (hname : es.lookup "name" = some (.ofOption i.name))
    (hfields : es.lookup "fields" = some (.str i.fields)) : Index.ofFields es = .ok i := by
  unfold Index.ofFields
  rw [withDefault_eq hname (Tree.optionalText_ofOption i.name), required_eq hfields (text_str i.fields)]
  rfl

end

theorem Column.load_dump (c : Column) : Column.load c.dump = .ok c :=
  Column.ofFields_eq rfl rfl rfl rfl rfl rfl

theorem Relation.load_dump (r : Relation) : Relation.load r.dump = .ok r :=
  Relation.ofFields_eq rfl rfl rfl rfl rfl rfl

theorem Index.load_dump (i : Index) : Index.load i.dump = .ok i :=
  Index.ofFields_eq rfl rfl

/-- The fields of a schema may stand in any order and among others. -/
theorem TableSchema.ofFields_eq {es : List (String × Value)} {s : TableSchema}
    (hname : es.lookup "table_name" = some (.str s.tableName))
    (hcolumns : es.lookup "columns" = some (.list (s.columns.map Column.dump)))
    (hrelations : es.lookup "relations" = some (.list (s.relations.map Relation.dump)))
    (hindexes : es.lookup "indexes" = some (.list (s.indexes.map Index.dump))) :
    TableSchema.ofFields es = .ok s := by
  unfold TableSchema.ofFields
  rw [required_eq hname (text_str s.tableName),
    withDefault_eq hcolumns (list_dumped Column.load_dump s.columns),
    withDefault_eq hrelations (list_dumped Relation.load_dump s.relations),
    withDefault_eq hindexes (list_dumped Index.load_dump s.indexes)]
  rfl

/-- A dumped schema loads as the schema that was dumped. -/
theorem TableSchema.load_dump (s : TableSchema) : TableSchema.load s.dump = .ok s :=
  TableSchema.ofFields_eq rfl rfl rfl rfl

/-- What is made of a schema that was extracted can be made of its dump. -/
theorem dumped_schema_reloads :
    (∀ s : TableSchema, TableSchema.load s.dump = .ok s) ∧
      ∀ (v : Value) (s : TableSchema), (extract v).outcome = .ok s →
        ∃ t, TableSchema.load s.dump = .ok t ∧ t.viewModels? = s.viewModels? ∧
          t.artifactPaths = s.artifactPaths ∧
          ∀ directory library, generate t directory library = generate s directory library :=
  ⟨TableSchema.load_dump, fun _ s _ => ⟨s, s.load_dump, rfl, rfl, fun _ _ => rfl⟩⟩

/-- The tree of a table with one column of a given length. -/
def lengthTree (n : Int) : Value :=
  .map [("type", .str "create"), ("table", .str "t"), ("create_definitions", .list
    [.map [("resource", .str "column"), ("column", .str "a"),
      ("definition", .map [("dataType", .str "INT"), ("length", .int n)])]])]

theorem dumped_schema_reloads_long : ∃ s t,
    (extract (lengthTree (-100000000000000000000))).outcome = .ok s ∧
      TableSchema.load s.dump = .ok t ∧
      s.columns.map (·.length) = [some (-100000000000000000000)] ∧ t.artifactPaths = s.artifactPaths := by
  have hs : (extract (lengthTree (-100000000000000000000))).outcome =
      .ok ⟨"t", [⟨"a", "INT", .number, .int, false, some (-100000000000000000000)⟩], [], []⟩ :=
    Attempt.ok_of_toOption (by decide +kernel)
  obtain ⟨t, ht, -, hpaths, -⟩ := dumped_schema_reloads.2 _ _ hs
  exact ⟨_, t, hs, ht, rfl, hpaths⟩

end TableScaffold
