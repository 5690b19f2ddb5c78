import TableScaffold.Proofs.Artifact.Slots

/-!
# The lines of a database model

A database model has one line for each column name, in the order in which the names first occur, then
one for each relation and one for each index. The rules for native types are stated here by
themselves; they give the annotation of every column.
-/

namespace TableScaffold

open Template

/-! ## Columns -/

/-- The native type of a text with a length; zero is none. -/
def Column.lengthType? (c : Column) : Option String :=
  match c.persistenceType, c.length with
  | .string, some n => if n = 0 then none else some ("VarChar(" ++ toString n ++ ")")
  | _, _ => none

/-- The native type of a column: by its name, else by its length. -/
def Column.nativeType? (c : Column) : Option String :=
  if c.name ∈ ["id", "createdBy", "updatedBy", "deletedBy"] then some "Uuid"
  else if c.name ∈ ["createdOn", "updatedOn", "deletedOn"] then some "Timestamp"
  else if c.name = "priority" then some "VarChar(10)"
  else c.lengthType?

theorem Column.annotation_of_some {c : Column} {a : Annotation}
    (h : Annotation.ofName? c.name = some a) : c.annotation = a := by
  unfold Column.annotation
  rw [h]

theorem Column.annotation_of_none {c : Column} (h : Annotation.ofName? c.name = none) :
    c.annotation = ⟨false, c.lengthType?⟩ := by
  unfold Column.annotation Column.lengthType?
  rw [h]
  cases c.persistenceType <;> cases hl : c.length with
  | none => rfl
  | some n => by_cases hn : n = 0 <;> simp [hn, varChar]

/-- The rules for names are tried in order, so a column that one of them names is not annotated by
its length. -/
theorem Column.annotation_eq (c : Column) : c.annotation = ⟨c.name = "id", c.nativeType?⟩ := by
  have native : c.nativeType? =
      if c.name ∈ "id" :: auditActors then some "Uuid"
      else if c.name ∈ auditTimes then some "Timestamp"
      else if c.name = "priority" then some "VarChar(10)"
      else c.lengthType? := rfl
  rw [native]
  by_cases hid : c.name = "id"
  · rw [Column.annotation_of_some (if_pos hid)]
    simp [hid]
  by_cases hactor : c.name ∈ auditActors
  · rw [Column.annotation_of_some (a := ⟨false, some "Uuid"⟩)
      (by simp [ Annotation.ofName?, hid, hactor])]
    simp [hid, hactor]
  by_cases htime : c.name ∈ auditTimes
  · rw [Column.annotation_of_some (a := ⟨false, some "Timestamp"⟩)
      (by simp [ Annotation.ofName?, hid, hactor, htime])]
    simp [hid, hactor, htime]
  by_cases hpriority : c.name = "priority"
  · rw [Column.annotation_of_some (a := ⟨false, some "VarChar(10)"⟩)
      (by simp [ Annotation.ofName?, auditActors, auditTimes, hpriority])]
    simp [auditActors, auditTimes, hpriority]
  · rw [Column.annotation_of_none
      (by simp [ Annotation.ofName?, hid, hactor, htime, hpriority])]
    simp [hid, hactor, htime, hpriority]

theorem Column.nativeType?_ne_empty {c : Column} {t : String} (h : c.nativeType? = some t) :
    t ≠ "" := by
  unfold Column.nativeType? at h
  split at h
  · cases h
    decide
  split at h
  · cases h
    decide
  split at h
  · cases h
    decide
  unfold Column.lengthType? at h
  split at h
  · split at h
    · cases h
    · cases h
      simp
  · cases h

/-- The first column of each of some names. -/
def columnsOf (cs : List Column) (ns : List String) : List Column :=
  ns.filterMap fun n => cs.find? (·.name == n)

/-- The first column of each name, in the order in which the names first occur. -/
def firstColumns (cs : List Column) : List Column := columnsOf cs (cs.map (·.name)).eraseDups

theorem firstOfNames_concat (seen : List String) (n : String) (cs : List Column) :
    firstOfNames (seen ++ [n]) cs = firstOfNames seen (cs.filter (·.name != n)) := by
  induction cs generalizing seen with
  | nil => rfl
  | cons c cs ih =>
    by_cases hn : c.name = n
    · rw [List.filter_cons_of_neg (by simp [hn]), ← ih]
      simp [firstOfNames, hn]
    · rw [List.filter_cons_of_pos (by simp [hn])]
      unfold firstOfNames
      rw [← ih, ← List.cons_append, ← ih]
      simp [hn]

theorem uniqueColumns_cons (c : Column) (cs : List Column) :
    uniqueColumns (c :: cs) = c :: uniqueColumns (cs.filter (·.name != c.name)) := by
  unfold uniqueColumns
  rw [← firstOfNames_concat]
  rfl

theorem columnsOf_cons_of_ne (c : Column) (cs : List Column) (ns : List String)
    (h : ∀ n ∈ ns, n ≠ c.name) :
    columnsOf (c :: cs) ns = columnsOf (cs.filter (·.name != c.name)) ns := by
  unfold columnsOf
  induction ns with
  | nil => rfl
  | cons n ns ih =>
    have hne : n ≠ c.name := h n List.mem_cons_self
    have hfind : (c :: cs).find? (·.name == n) =
        (cs.filter (·.name != c.name)).find? (·.name == n) := by
      rw [List.find?_cons_of_neg (by simpa using Ne.symm hne), List.find?_filter]
      congr 1
      funext d
      by_cases hd : d.name = n
      · simp [hd, hne]
      · simp [hd]
    rw [List.filterMap_cons, List.filterMap_cons, hfind,
      ih fun m hm => h m (List.mem_cons_of_mem _ hm)]

theorem firstColumns_cons (c : Column) (cs : List Column) :
    firstColumns (c :: cs) = c :: firstColumns (cs.filter (·.name != c.name)) := by
  have names : (cs.map (·.name)).filter (fun n => !(n == c.name)) =
      (cs.filter (·.name != c.name)).map (·.name) := List.filter_map
  have others := columnsOf_cons_of_ne c cs ((cs.map (·.name)).filter (!· == c.name)).eraseDups
    fun n hn => by simpa using (List.mem_filter.mp (List.mem_eraseDups.mp hn)).2
  unfold firstColumns
  rw [List.map_cons, List.eraseDups_cons, ← names, ← others]
  unfold columnsOf
  rw [List.filterMap_cons, List.find?_cons_of_pos (by simp)]

theorem uniqueColumns_eq (cs : List Column) : uniqueColumns cs = firstColumns cs := by
  match cs with
  | [] => rfl
  | c :: cs => rw [uniqueColumns_cons, firstColumns_cons, uniqueColumns_eq]
termination_by cs.length
decreasing_by
  simp only [List.length_cons]
  exact Nat.lt_succ_of_le (List.length_filter_le _ _)

/-! ## Lines -/

/-- The mark of an optional column. -/
def Column.optionalMark (c : Column) : String := if c.isOptional then "?" else ""

/-- The native type of a column, as a database model shows it. -/
def Column.nativeMark (c : Column) : String :=
  match c.nativeType? with
  | some t => " @db." ++ t
  | none => ""

/-- The line of a column in a database model. -/
def Column.modelLine (c : Column) : String :=
  "  " ++ c.name ++ " " ++ c.persistenceType.word ++ c.optionalMark ++
    (if c.name = "id" then " @id" else "") ++ c.nativeMark

/-- The line of a relation in a database model. -/
def Relation.modelLine (r : Relation) : String :=
  "  " ++ r.name ++ " " ++ r.relatedModel ++ " @relation(fields: [" ++ r.field ++
    "], references: [" ++ r.references ++ "], onDelete: " ++ r.onDelete.word ++ ", onUpdate: " ++
    r.onUpdate.word ++ ")"

/-- The name of an index, as a database model shows it; an empty name is none. -/
def Index.nameMark (i : Index) : String :=
  match i.name with
  | some n => if n = "" then "" else ", map: \"" ++ n ++ "\""
  | none => ""

/-- The line of an index in a database model. -/
def Index.modelLine (i : Index) : String := "  @@index([" ++ i.fields ++ "]" ++ i.nameMark ++ ")"

/-- The lines of the database model of a schema. -/
def TableSchema.modelLines (s : TableSchema) : List String :=
  ["model " ++ Naming.pluralClass s.tableName ++ " \x7b"] ++
    (firstColumns s.columns).map Column.modelLine ++ s.relations.map Relation.modelLine ++
    s.indexes.map Index.modelLine ++ ["\x7d"]

theorem PersistenceType.word_visible (t : PersistenceType) :
    ∃ c ∈ t.word.toList, Text.isBlank c = false := by
  cases t
  · exact ⟨'S', by simp [word], by decide⟩
  · exact ⟨'I', by simp [word], by decide⟩
  · exact ⟨'D', by simp [word], by decide⟩
  · exact ⟨'F', by simp [word], by decide⟩
  · exact ⟨'D', by simp [word], by decide⟩
  · exact ⟨'B', by simp [word], by decide⟩

/-- No line of a database model is blank. -/
theorem TableSchema.modelLines_visible (s : TableSchema) :
    ∀ line ∈ s.modelLines, ∃ c ∈ line.toList, Text.isBlank c = false := by
  intro line hline
  simp only [modelLines, List.mem_append, List.mem_singleton, List.mem_map] at hline
  rcases hline with (((rfl | ⟨c, -, rfl⟩) | ⟨r, -, rfl⟩) | ⟨i, -, rfl⟩) | rfl
  · exact ⟨'m', by simp, by decide⟩
  · obtain ⟨d, hd, hblank⟩ := c.persistenceType.word_visible
    refine ⟨d, ?_, hblank⟩
    unfold Column.modelLine
    simp [hd]
  · refine ⟨'@', ?_, by decide⟩
    unfold Relation.modelLine
    simp
  · refine ⟨'@', ?_, by decide⟩
    unfold Index.modelLine
    simp
  · exact ⟨'\x7d', by simp, by decide⟩

theorem Column.nativeMark_eq (c : Column) :
    (if (Value.ofOption c.nativeType?).truthy
      then " @db." ++ (Value.ofOption c.nativeType?).text else "") = c.nativeMark := by
  unfold Column.nativeMark
  cases ht : c.nativeType? with
  | none => rfl
  | some t => exact if_pos (by simpa [Value.ofOption, Value.truthy] using nativeType?_ne_empty ht)

theorem Index.nameMark_eq (i : Index) :
    (if (Value.ofOption i.name).truthy
      then ", map: \"" ++ (Value.ofOption i.name).text ++ "\"" else "") = i.nameMark := by
  unfold Index.nameMark
  cases i.name with
  | none => rfl
  | some n => by_cases hn : n = "" <;> simp [Value.ofOption, Value.truthy, Value.text, hn]

namespace Template

variable {embedding : Embedding} {scope : Scope}

theorem Renders.columnLine {c : Column} (hc : scope.find "column" = .value c.modelField) :
    Renders embedding scope Bundled.columnLine (c.modelLine ++ "\n") := by
  unfold Column.modelField at hc
  rw [Column.annotation_eq] at hc
  refine Renders.of_eq (Renders.text <| Renders.slot (Gives.field hc rfl) <| Renders.text <|
    Renders.slot (Gives.field hc rfl) <| Renders.mark (Gives.field hc rfl) (Gives.text "?") <|
    Renders.mark (Gives.field hc rfl) (Gives.text " @id") <|
    Renders.mark (Gives.field hc rfl) (Gives.join (Gives.text " @db.")
      (Gives.field hc rfl) (Value.isWritable_ofOption _)) <|
    Renders.text Renders.done) ?_
  unfold Column.modelLine
  rw [← Column.nativeMark_eq]
  simp only [Value.truthy, decide_eq_true_eq, String.append_assoc, String.append_empty]
  rfl

theorem Renders.relationLine {r : Relation} (hr : scope.find "relation" = .value r.dump) :
    Renders embedding scope Bundled.relationLine (r.modelLine ++ "\n") := by
  refine Renders.of_eq (Renders.text <| Renders.slot (Gives.field hr rfl) <| Renders.text <|
    Renders.slot (Gives.field hr rfl) <| Renders.text <| Renders.slot (Gives.field hr rfl) <|
    Renders.text <| Renders.slot (Gives.field hr rfl) <| Renders.text <|
    Renders.slot (Gives.field hr rfl) <| Renders.text <| Renders.slot (Gives.field hr rfl) <|
    Renders.text Renders.done) ?_
  unfold Relation.modelLine
  simp only [String.append_assoc, String.append_empty]
  rfl

theorem Renders.indexLine {i : Index} (hi : scope.find "index" = .value i.dump) :
    Renders embedding scope Bundled.indexLine (i.modelLine ++ "\n") := by
  refine Renders.of_eq (Renders.text <| Renders.slot (Gives.field hi rfl) <| Renders.text <|
    Renders.mark (Gives.field hi rfl) (Gives.join (Gives.join (Gives.text ", map: \"")
      (Gives.field hi rfl) (Value.isWritable_ofOption _)) (Gives.text "\"") rfl) <|
    Renders.text Renders.done) ?_
  unfold Index.modelLine
  rw [← Index.nameMark_eq]
  simp only [String.append_assoc, String.append_empty]
  rfl

end Template

/-- The template of the database model renders to the lines of the model. -/
theorem View.renders_persistenceModel (s : TableSchema) (embedding : Embedding) :
    Renders embedding (persistenceModel.scope s) persistenceModel.bundled
      (textOf s.modelLines) := by
  have columns : Gives (persistenceModel.scope s) (.name "columns")
      (.list ((uniqueColumns s.columns).map Column.modelField)) := Gives.name rfl
  have relations : Gives (persistenceModel.scope s) (.name "relations")
      (.list (s.relations.map Relation.dump)) := Gives.name rfl
  have indexes : Gives (persistenceModel.scope s) (.name "indexes")
      (.list (s.indexes.map Index.dump)) := Gives.name rfl
  refine Renders.of_eq (Renders.text <| Renders.slot (Gives.name rfl) <| Renders.text <|
    Renders.eachLine columns (fun _ _ h => Renders.columnLine h) <|
    Renders.eachLine relations (fun _ _ h => Renders.relationLine h) <|
    Renders.eachLine indexes (fun _ _ h => Renders.indexLine h) <|
    Renders.text Renders.done) ?_
  unfold TableSchema.modelLines
  rw [← uniqueColumns_eq]
  simp only [textOf_append, textOf_cons, textOf_nil, String.append_assoc, String.empty_append]
  rw [append_lineEnd (u := " \x7b\n") rfl, append_lineEnd (u := "\x7d\n") rfl]
  rfl

end TableScaffold
