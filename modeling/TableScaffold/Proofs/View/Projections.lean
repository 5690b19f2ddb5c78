import TableScaffold.Proofs.View.FirstColumns

/-!
# The fields that users see and the fields of the database

The view models for users leave out the audit columns and keep every repetition of a name; the
database model keeps the audit columns and one column of each name. `projections_agree`: without
repetitions on the one side and without audit columns on the other, both list the same fields in the
same order.
-/

namespace TableScaffold

/-- The name of an item. -/
def itemName (v : Value) : String := (v.field "name").text

/-- What a user's view model says of a field: its name, whether it may be left out, and its type. -/
def userFacts (v : Value) : String × Value × Value :=
  (itemName v, v.field "is_optional", v.field "type")

/-- What a schema and its database model say of a field: the type that users see is that of the first
column of the name. -/
def TableSchema.modelFacts (s : TableSchema) (v : Value) : String × Value × Value :=
  (itemName v, v.field "is_optional",
    Value.ofOption ((s.columns.find? (·.name == itemName v)).map (·.semanticType.word)))

theorem eraseDupsBy_userField (cs : List Column) :
    (cs.map Column.userField).eraseDupsBy (fun v w => itemName v == itemName w) =
      (uniqueColumns cs).map Column.userField := by
  induction cs using firstColumns_induction with
  | nil => rfl
  | cons c cs ih =>
    have hothers : ((fun v => decide ((itemName v == itemName c.userField) = false)) ∘
        Column.userField) = fun d => d.name != c.name := by
      funext d
      show decide ((d.name == c.name) = false) = !(d.name == c.name)
      cases d.name == c.name <;> rfl
    rw [List.map_cons, List.eraseDupsBy_cons, List.filter_map, hothers, ih, uniqueColumns_cons,
      List.map_cons]

/-- Hiding audit columns and keeping the first column of each name commute. -/
theorem uniqueColumns_userColumns (s : TableSchema) :
    uniqueColumns s.userColumns = (uniqueColumns s.columns).filter (!·.isAudit) :=
  (filter_uniqueColumns (fun n => !(auditTimes ++ auditActors).contains n) s.columns).symm

theorem TableSchema.modelFacts_modelField {s : TableSchema} {c : Column}
    (h : c ∈ uniqueColumns s.columns) : s.modelFacts c.modelField = userFacts c.userField := by
  have hname : itemName c.modelField = c.name := rfl
  unfold modelFacts
  rw [hname, find?_of_mem_uniqueColumns h]
  rfl

/-- **Both projections of a schema list the same fields.** The two view models for users always do. If
repetitions of a name are dropped from them, they list what the database model lists beside the audit
columns, which has every name of a column. -/
theorem projections_agree (s : TableSchema) :
    listed (View.dto.build s) "columns" = listed (View.request.build s) "columns" ∧
    ((listed (View.dto.build s) "columns").eraseDupsBy
        fun v w => itemName v == itemName w).map userFacts =
      ((listed (View.persistenceModel.build s) "columns").filter fun v => itemName v ∉
        ["createdOn", "updatedOn", "deletedOn", "createdBy", "updatedBy", "deletedBy"]).map
          s.modelFacts ∧
    s.columns.map (·.name) ⊆ (listed (View.persistenceModel.build s) "columns").map itemName ∧
    uniqueColumns s.userColumns = (uniqueColumns s.columns).filter (!·.isAudit) := by
  have huser : listed (View.dto.build s) "columns" = s.userColumns.map Column.userField := rfl
  have hmodel : listed (View.persistenceModel.build s) "columns" =
      (uniqueColumns s.columns).map Column.modelField := rfl
  have hnames : itemName ∘ Column.modelField = (·.name) := rfl
  refine ⟨rfl, ?_, ?_, uniqueColumns_userColumns s⟩
  · have hhidden : ((fun v : Value => decide (itemName v ∉
        ["createdOn", "updatedOn", "deletedOn", "createdBy", "updatedBy", "deletedBy"])) ∘
          Column.modelField) = fun c => !c.isAudit := by
      funext c
      show decide (c.name ∉ auditTimes ++ auditActors) = !(auditTimes ++ auditActors).contains c.name
      rw [decide_not, List.contains_eq_mem]
    rw [huser, hmodel, eraseDupsBy_userField, uniqueColumns_userColumns, List.filter_map, hhidden,
      List.map_map, List.map_map]
    exact List.map_congr_left fun c hc =>
      (TableSchema.modelFacts_modelField (List.mem_of_mem_filter hc)).symm
  · rw [hmodel, List.map_map, hnames]
    exact fun _ => mem_uniqueColumns_names.mpr

end TableScaffold
