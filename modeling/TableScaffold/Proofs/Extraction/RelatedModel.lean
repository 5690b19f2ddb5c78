import TableScaffold.Proofs.Artifact.Content
import TableScaffold.Proofs.Artifact.Paths
import TableScaffold.Proofs.Extraction.References
import TableScaffold.Proofs.Text.SmallForm

/-!
# The models that relations refer to

A relation refers to a table by its singular class name, and a model is declared by the plural one. A
name in capitals is written in small letters before that, so the two names are the same exactly if the
name so written does not end in `s` and none of its capitals is lost
(`related_model_iff`).
-/

namespace TableScaffold

open Template Text

namespace Naming

/-! ## Names in capitals -/

/-- Whether a name in capitals has the same class name when it is written in small letters: a character
with a small form begins a word, and is the capital of its small form. `start` says whether a word
begins here. -/
def capitalsInFront (start : Bool) : List Char → Bool
  | [] => true
  | c :: rest =>
    if c = '_' then capitalsInFront true rest
    else (lowerChar c == [c] || start && (lowerChar c).map upperChar == [[c]]) &&
      capitalsInFront false rest

theorem pascalFrom_underscore (start : Bool) (cs : List Char) :
    pascalFrom start ('_' :: cs) = pascalFrom true cs := by
  rw [pascalFrom, if_pos rfl]

theorem pascalFrom_cons {start : Bool} {c : Char} (hc : c ≠ '_') (cs : List Char) :
    pascalFrom start (c :: cs) = (if start then upperChar c else [c]) ++ pascalFrom false cs := by
  rw [pascalFrom, if_neg hc]

theorem pascalFrom_capital {start : Bool} {c : Char} (hc : c ≠ '_') (hupper : upperChar c = [c])
    (cs : List Char) : pascalFrom start (c :: cs) = c :: pascalFrom false cs := by
  rw [pascalFrom_cons hc, hupper, ite_self]
  rfl

variable {cs : List Char}

/-- The class name of a name in small letters, where the capitals stand in front. -/
theorem pascalFrom_lowerFrom (hcs : ∀ c ∈ cs, upperChar c = [c]) {start : Bool}
    (h : capitalsInFront start cs = true) (before : List Char) :
    pascalFrom start (lowerFrom before cs) = pascalFrom start cs := by
  induction cs generalizing start before with
  | nil => rfl
  | cons c cs ih =>
    obtain ⟨hc, htail⟩ := List.forall_mem_cons.mp hcs
    obtain ⟨w, hlower, hw⟩ := exists_smallForm before c cs
    rw [hlower]
    rw [capitalsInFront] at h
    by_cases hmark : c = '_'
    · subst hmark
      rw [if_pos rfl] at h
      rw [hw.eq_underscore, List.singleton_append, pascalFrom_underscore, pascalFrom_underscore,
        ih htail h]
    · rw [if_neg hmark, Bool.and_eq_true] at h
      obtain ⟨hfront, hrest⟩ := h
      rw [pascalFrom_capital hmark hc, ← ih htail hrest (c :: before)]
      simp only [Bool.or_eq_true, Bool.and_eq_true, beq_iff_eq] at hfront
      rcases hfront with hself | ⟨rfl, hcapital⟩
      · rw [hw.of_lowerChar hself, List.singleton_append, pascalFrom_capital hmark hc]
      · obtain ⟨l, rfl, hl⟩ := hw.of_capital hcapital
        have hlmark : l ≠ '_' := fun heq =>
          hw.underscore_notMem hmark (List.mem_singleton.mpr heq.symm)
        rw [List.singleton_append, pascalFrom_cons hlmark, if_pos rfl, hl]
        rfl

/-- A small form that comes out in the class name as its character does: it is one letter, and its
character a capital in front. -/
theorem capitalInFront_of_smallForm {c l : Char} {ls front rest : List Char} {start : Bool}
    (hc : c ≠ '_') (hw : SmallForm c (l :: ls))
    (h : pascalFrom start (l :: front) = c :: rest) :
    ls = [] ∧ pascalFrom false front = rest ∧
      (lowerChar c == [c] || start && (lowerChar c).map upperChar == [[c]]) = true := by
  have hmark : l ≠ '_' := fun heq => hw.underscore_notMem hc (heq ▸ List.mem_cons_self)
  rw [pascalFrom_cons hmark] at h
  cases start with
  | true =>
    rw [if_pos rfl] at h
    obtain ⟨u, us, hl⟩ := List.exists_cons_of_ne_nil (mapped_upperChar l).ne_nil
    rw [hl] at h
    obtain ⟨rfl, hrest⟩ := List.cons.inj h
    obtain ⟨hls, hupper, hcapital⟩ := hw.capital hl
    rw [hupper] at hl
    rw [← (List.cons.inj hl).2] at hrest
    exact ⟨hls, hrest, by simp [hcapital]⟩
  | false =>
    obtain ⟨rfl, hrest⟩ := List.cons.inj h
    obtain ⟨hls, hself⟩ := hw.eq_self
    exact ⟨hls, hrest, by simp [hself]⟩

/-- A name in capitals that has the class name of its small letters, perhaps without a final `s`: it
has no final `s` then, and its capitals stand in front. Both names are compared from the front. -/
theorem capitalsInFront_of_pascalFrom (hcs : ∀ c ∈ cs, upperChar c = [c]) {start : Bool}
    {before front last : List Char} (hlast : last = [] ∨ last = ['s'])
    (hlower : lowerFrom before cs = front ++ last)
    (h : pascalFrom start front = pascalFrom start cs) :
    last = [] ∧ capitalsInFront start cs = true := by
  induction cs generalizing start before front with
  | nil => exact ⟨(List.append_eq_nil_iff.mp hlower.symm).2, rfl⟩
  | cons c cs ih =>
    obtain ⟨hc, htail⟩ := List.forall_mem_cons.mp hcs
    obtain ⟨w, hform, hw⟩ := exists_smallForm before c cs
    rw [hform] at hlower
    rw [capitalsInFront]
    by_cases hmark : c = '_'
    · subst hmark
      rw [hw.eq_underscore, List.singleton_append] at hlower
      rw [if_pos rfl]
      cases front with
      | nil =>
        rcases hlast with rfl | rfl
        · cases hlower
        · exact absurd (List.cons.inj hlower).1 (by decide)
      | cons x front =>
        obtain ⟨rfl, hbehind⟩ := List.cons.inj hlower
        rw [pascalFrom_underscore, pascalFrom_underscore] at h
        exact ih htail hbehind h
    · rw [if_neg hmark]
      rw [pascalFrom_capital hmark hc] at h
      cases front with
      | nil => cases h
      | cons x front =>
        obtain ⟨l, ls, rfl⟩ := List.exists_cons_of_ne_nil hw.ne_nil
        obtain ⟨rfl, hbehind⟩ := List.cons.inj hlower
        obtain ⟨rfl, hrest, hcapital⟩ := capitalInFront_of_smallForm hmark hw h
        obtain ⟨hnil, hfront⟩ := ih htail hbehind hrest
        refine ⟨hnil, ?_⟩
        rw [hcapital, hfront]
        rfl

/-! ## Two class names of one table -/

/-- A table name as a relation writes it: a name in capitals in small letters. -/
def written (table : String) : String :=
  if isAllUpper table then lower table else table

/-- Whether the class that a relation to a table names is the declared model of the table. -/
structure NamesModel (table : String) : Prop where
  noFinalS : (written table).toList.getLast? ≠ some 's'
  capitals : isAllUpper table = true → capitalsInFront true table.toList = true

theorem upperChar_of_isAllUpper {table : String} (h : isAllUpper table = true) :
    ∀ c ∈ table.toList, upperChar c = [c] := by
  intro c hc
  rw [isAllUpper, Bool.and_eq_true, Bool.not_eq_true'] at h
  have hnot := List.any_eq_false.mp h.2 c hc
  refine upperChar_eq_self ?_
  rw [inSpans, List.any_append]
  simpa [inSpans] using hnot

/-- A final `s` makes a class name longer. -/
theorem className_dropLast_ne {name : String} (h : name.toList.getLast? = some 's') :
    className (String.ofList name.toList.dropLast) ≠ className name := by
  obtain ⟨cs, hname⟩ := List.getLast?_eq_some_iff.mp h
  intro heq
  have hsame := String.ofList_injective heq
  rw [String.toList_ofList, hname, List.dropLast_concat] at hsame
  have hsize := congrArg List.length hsame
  rcases pascalFrom_concat true cs with hconcat | hconcat <;>
  · rw [hconcat, List.length_append] at hsize
    simp at hsize

theorem singularClass_eq {name : String} (h : name.toList.getLast? ≠ some 's') :
    singularClass name = className name := by
  rw [singularClass, singular, if_neg h]

/-- In a name in capitals nothing else than the capitals tells the two names apart. -/
theorem className_lower_iff {table : String} (h : isAllUpper table = true) :
    className (lower table) = className table ↔ capitalsInFront true table.toList = true := by
  have hupper := upperChar_of_isAllUpper h
  rw [className, className, lower, String.toList_ofList, String.ofList_inj]
  constructor
  · intro heq
    exact (capitalsInFront_of_pascalFrom hupper (.inl rfl) (List.append_nil _).symm heq).2
  · intro hfront
    exact pascalFrom_lowerFrom hupper hfront []

/-- A capital that is not the first letter of its word is lost. -/
example : ["A_B", "X1", "ROLE"].map (capitalsInFront true ·.toList) = [true, true, false] := by
  decide +kernel

theorem singularClass_lower_ne {table : String} (h : isAllUpper table = true)
    (hs : (lower table).toList.getLast? = some 's') : singularClass (lower table) ≠ className table := by
  obtain ⟨front, hlower⟩ := List.getLast?_eq_some_iff.mp hs
  rw [singularClass, singular, if_pos hs, hlower, List.dropLast_concat]
  intro heq
  have hsame := String.ofList_injective heq
  rw [String.toList_ofList] at hsame
  rw [lower, String.toList_ofList] at hlower
  have hnil := (capitalsInFront_of_pascalFrom (upperChar_of_isAllUpper h) (.inr rfl) hlower hsame).1
  cases hnil

theorem singularClass_written_iff (table : String) :
    singularClass (written table) = pluralClass table ↔ NamesModel table := by
  unfold pluralClass
  by_cases hs : (written table).toList.getLast? = some 's'
  · refine iff_of_false ?_ fun hnames => hnames.noFinalS hs
    unfold written at hs ⊢
    split at hs
    · next hupper =>
      rw [if_pos hupper]
      exact singularClass_lower_ne hupper hs
    · next hupper =>
      rw [if_neg hupper, singularClass, singular, if_pos hs]
      exact className_dropLast_ne hs
  · rw [singularClass_eq hs]
    have hnames : NamesModel table ↔
        (isAllUpper table = true → capitalsInFront true table.toList = true) :=
      ⟨NamesModel.capitals, fun h => ⟨hs, h⟩⟩
    rw [hnames, written]
    split
    · next hupper => simp [className_lower_iff hupper, hupper]
    · next hupper => simp [hupper]

end Naming

/-! ## Relations and models -/

theorem Relation.exists_modelLine (r : Relation) :
    ∃ rest, r.modelLine = "  " ++ r.name ++ " " ++ r.relatedModel ++ " @relation(" ++ rest := by
  refine ⟨"fields: [" ++ r.field ++ "], references: [" ++ r.references ++ "], onDelete: " ++
    r.onDelete.word ++ ", onUpdate: " ++ r.onUpdate.word ++ ")", ?_⟩
  have hword : " @relation(fields: [" = " @relation(" ++ "fields: [" := by decide +kernel
  unfold modelLine
  rw [hword]
  simp only [String.append_assoc]

/-- The name that the view model of a database model declares. -/
theorem lookup_modelName (t : TableSchema) :
    (View.persistenceModel.build t).lookup "model_name" =
      some (.str (Naming.pluralClass t.tableName)) := rfl

/-- A relation refers to the singular class of the name of its table, written in small letters if it
is in capitals. That is the model that the table declares exactly if the name so written does not end
in `s` and no capital is lost; so it is for a table that refers to itself. -/
theorem related_model_iff {v : Value} {s : TableSchema} (h : (extract v).outcome = .ok s)
    (directory : String) :
    (∀ t : TableSchema, (View.persistenceModel.build t).lookup "model_name" =
      some (.str (Extraction.relatedModel t.tableName)) ↔ Naming.NamesModel t.tableName) ∧
    ∃ c artifacts, (Tree.statement (statementOf v)).outcome = .ok c ∧
      s.Generates directory Library.bundled artifacts ∧
      (artifacts.filter (·.name == "prisma-model")).map (·.content) = [textOf s.modelLines] ∧
      s.modelLines.head? = some ("model " ++ Naming.pluralClass s.tableName ++ " \x7b") ∧
      List.Forall₂ (fun (k : ForeignKeyDefinition) (r : Relation) =>
          r.field = k.column ∧
          r.relatedModel = Naming.singularClass (Naming.written k.referencedTable) ∧
          (∃ rest, "  " ++ r.name ++ " " ++ r.relatedModel ++ " @relation(" ++ rest ∈ s.modelLines) ∧
          (k.referencedTable = s.tableName →
            (r.relatedModel = Naming.pluralClass s.tableName ↔ Naming.NamesModel s.tableName)))
        (c.definitions.filterMap Definition.foreignKey?) s.relations := by
  obtain ⟨c, nodes, hc, hnodes, hread, haccounted⟩ := exists_accounted h
  obtain ⟨artifacts, hartifacts, hmodel⟩ := exists_persistenceModel s directory
  refine ⟨fun t => ?_, c, artifacts, hc, hartifacts, hmodel, rfl, ?_⟩
  · rw [lookup_modelName, Option.some.injEq, Value.str.injEq, eq_comm]
    exact Naming.singularClass_written_iff t.tableName
  · have hlines : ∀ r ∈ s.relations, r.modelLine ∈ s.modelLines := by
      intro r hr
      simp only [TableSchema.modelLines, List.mem_append]
      exact .inl (.inl (.inr (List.mem_map_of_mem hr)))
    have hrelations := haccounted.relations
    rw [hrelations, List.forall₂_map_right_iff, List.forall₂_same]
    intro k hk
    refine ⟨rfl, rfl, ?_, fun hself => ?_⟩
    · obtain ⟨rest, hrest⟩ := (Extraction.relation (s.columns.map (·.name)) k).exists_modelLine
      exact ⟨rest, hrest ▸ hlines _ (hrelations ▸ List.mem_map_of_mem hk)⟩
    · rw [← hself]
      exact Naming.singularClass_written_iff k.referencedTable

/-- A table with no `s` at its end refers to itself by the model that it declares. -/
theorem related_model_role : ∃ vs s,
    (Sql.trees .mysql ("CREATE TABLE user_role (id INT, parentId INT, " ++
      "FOREIGN KEY (parentId) REFERENCES user_role (id))")).outcome = .ok vs ∧
    (extract (.list vs)).outcome = .ok s ∧
    s.modelLines.head? = some "model UserRole \x7b" ∧
    ∃ rest, "  parent UserRole @relation(" ++ rest ∈ s.modelLines := by
  have heval : ((Sql.trees .mysql ("CREATE TABLE user_role (id INT, parentId INT, " ++
      "FOREIGN KEY (parentId) REFERENCES user_role (id))")).outcome.toOption.bind fun vs =>
        (Tree.statement (statementOf (.list vs))).outcome.toOption.map id) =
      some ⟨some "create", some "table", some "user_role",
        [.column ⟨"id", some "INT", none, false⟩, .column ⟨"parentId", some "INT", none, false⟩,
          .foreignKey ⟨none, "parentId", "user_role", "id", .noAction, .noAction⟩]⟩ := by
    decide +kernel
  obtain ⟨vs, c, htrees, hc, rfl⟩ := Attempt.exists_of_eval heval
  have hs := extract_of_statement hc (by decide +kernel)
  obtain ⟨-, c, artifacts, hc', -, -, hhead, hall⟩ := related_model_iff hs "out"
  cases hc.symm.trans hc'
  have hmodel : "model " ++ Naming.pluralClass "user_role" ++ " \x7b" = "model UserRole \x7b" := by
    decide +kernel
  have hfront : "  " ++ Extraction.relationName ["id", "parentId"] "parentId" ++ " " ++
      Naming.pluralClass "user_role" ++ " @relation(" = "  parent UserRole @relation(" := by
    decide +kernel
  have hnames : Naming.NamesModel "user_role" := ⟨by decide +kernel, by decide +kernel⟩
  refine ⟨vs, _, htrees, hs, hhead.trans (congrArg some hmodel), ?_⟩
  cases hall with
  | cons hr _ =>
    obtain ⟨-, -, ⟨rest, hline⟩, hself⟩ := hr
    have htype := (hself rfl).mpr hnames
    rw [htype] at hline
    rw [← hfront]
    exact ⟨rest, hline⟩

/-- The model of the table `departments` is `Departments`, and a key to the table itself refers to
`Department`. -/
theorem related_model_departments : ∃ vs s,
    (Sql.trees .mysql ("CREATE TABLE departments (id INT, parentId INT, " ++
      "FOREIGN KEY (parentId) REFERENCES departments (id))")).outcome = .ok vs ∧
    (extract (.list vs)).outcome = .ok s ∧
    s.modelLines.head? = some "model Departments \x7b" ∧
    s.relations.map (·.relatedModel) = ["Department"] ∧
    (View.persistenceModel.build s).lookup "model_name" ≠
      some (.str (Extraction.relatedModel "departments")) := by
  have heval : ((Sql.trees .mysql ("CREATE TABLE departments (id INT, parentId INT, " ++
      "FOREIGN KEY (parentId) REFERENCES departments (id))")).outcome.toOption.bind fun vs =>
        (extract (.list vs)).outcome.toOption.map fun s =>
          (s.tableName, s.relations.map (·.relatedModel))) =
      some ("departments", ["Department"]) := by
    decide +kernel
  obtain ⟨vs, s, htrees, hs, hfields⟩ := Attempt.exists_of_eval heval
  obtain ⟨htable, hrelations⟩ := Prod.mk.inj hfields
  refine ⟨vs, s, htrees, hs, ?_, hrelations, ?_⟩
  · show some ("model " ++ Naming.pluralClass s.tableName ++ " \x7b") = _
    rw [htable]
    decide +kernel
  · rw [lookup_modelName, htable, Ne, Option.some.injEq, Value.str.injEq]
    decide +kernel

end TableScaffold
