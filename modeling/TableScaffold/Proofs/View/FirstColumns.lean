import Mathlib.Data.List.Induction
import TableScaffold.Proofs.Artifact.Model
import TableScaffold.Proofs.Extraction.FieldNames

/-!
# The first column of each name

Of columns with one name only the first is kept. `uniqueColumns_append` is the law behind it: what is
kept of two lists is what is kept of the first, and then what is kept of the second less the names of
the first. So the database model of a schema marks the first column named `id` as the identity, and
no other (`uniqueColumns_first`).
-/

namespace TableScaffold

/-! ## Kept columns -/

/-- Induction that leaves out the columns with the name of the first one. -/
theorem firstColumns_induction {motive : List Column → Prop} (nil : motive [])
    (cons : ∀ c cs, motive (cs.filter (·.name != c.name)) → motive (c :: cs)) :
    ∀ cs, motive cs
  | [] => nil
  | c :: cs => cons c cs (firstColumns_induction nil cons _)
termination_by cs => cs.length
decreasing_by exact Nat.lt_succ_of_le (List.length_filter_le _ _)

theorem sublist_firstOfNames (seen : List String) (cs : List Column) :
    (firstOfNames seen cs).Sublist cs := by
  induction cs generalizing seen with
  | nil => exact .slnil
  | cons c cs ih =>
    unfold firstOfNames
    split
    · exact (ih seen).cons c
    · exact (ih _).cons_cons c

/-- Every name is kept. -/
theorem mem_uniqueColumns_names {n : String} {cs : List Column} :
    n ∈ (uniqueColumns cs).map (·.name) ↔ n ∈ cs.map (·.name) :=
  (mem_firstOfNames []).trans (and_iff_right List.not_mem_nil)

theorem find?_of_mem_uniqueColumns {c : Column} {cs : List Column} (h : c ∈ uniqueColumns cs) :
    cs.find? (·.name == c.name) = some c := by
  rw [uniqueColumns_eq] at h
  obtain ⟨n, -, hfind⟩ := List.mem_filterMap.mp h
  have hn : c.name = n := by simpa using List.find?_some hfind
  rw [hn]
  exact hfind

/-- Columns with different names are all kept. -/
theorem uniqueColumns_of_nodup {cs : List Column} (h : (cs.map (·.name)).Nodup) :
    uniqueColumns cs = cs := by
  induction cs with
  | nil => rfl
  | cons c cs ih =>
    rw [List.map_cons, List.nodup_cons] at h
    have hothers : cs.filter (·.name != c.name) = cs := by
      refine List.filter_eq_self.mpr fun d hd => bne_iff_ne.mpr fun hname => h.1 ?_
      rw [← hname]
      exact List.mem_map_of_mem hd
    rw [uniqueColumns_cons, hothers, ih h.2]

/-- Leaving out columns by their names and keeping the first of each name commute. -/
theorem filter_uniqueColumns (p : String → Bool) (cs : List Column) :
    (uniqueColumns cs).filter (p ·.name) = uniqueColumns (cs.filter (p ·.name)) := by
  induction cs using firstColumns_induction with
  | nil => rfl
  | cons c cs ih =>
    rw [uniqueColumns_cons]
    cases hc : p c.name with
    | true =>
      rw [List.filter_cons, List.filter_cons, if_pos hc, if_pos hc, uniqueColumns_cons, ih,
        List.filter_comm]
    | false =>
      -- the columns with the name of the first one are left out with it
      have hothers : (cs.filter (·.name != c.name)).filter (p ·.name) = cs.filter (p ·.name) := by
        rw [List.filter_filter]
        refine List.filter_congr fun d _ => ?_
        by_cases hd : d.name = c.name <;> simp [hd, hc]
      have hnot : ¬ p c.name = true := Bool.eq_false_iff.mp hc
      rw [List.filter_cons, List.filter_cons, if_neg hnot, if_neg hnot, ih, hothers]

theorem uniqueColumns_append (cs ds : List Column) :
    uniqueColumns (cs ++ ds) =
      uniqueColumns cs ++ (uniqueColumns ds).filter (·.name ∉ cs.map (·.name)) := by
  induction cs using firstColumns_induction generalizing ds with
  | nil => simp [uniqueColumns, firstOfNames]
  | cons c cs ih =>
    have hkept := filter_uniqueColumns (· != c.name) ds
    have hnames : (cs.map (·.name)).filter (· != c.name) =
        (cs.filter (·.name != c.name)).map (·.name) := List.filter_map
    have hback : (uniqueColumns (ds.filter (·.name != c.name))).filter
          (·.name ∉ (cs.filter (·.name != c.name)).map (·.name)) =
        (uniqueColumns ds).filter (·.name ∉ (c :: cs).map (·.name)) := by
      rw [← hkept, ← hnames, List.filter_filter, List.map_cons]
      generalize cs.map (·.name) = ns
      refine List.filter_congr fun d _ => ?_
      by_cases hd : d.name = c.name <;> simp [hd]
    rw [List.cons_append, uniqueColumns_cons, uniqueColumns_cons, List.filter_append, ih, hback,
      List.cons_append]

/-- A column is kept at the place where its name first stands, and at no other. -/
theorem uniqueColumns_places (cs : List Column) :
    uniqueColumns cs =
      (cs.zipIdx.filter fun p => p.1.name ∉ (cs.take p.2).map (·.name)).map (·.1) := by
  induction cs using List.reverseRecOn with
  | nil => rfl
  | append_singleton cs c ih =>
    have hfront : (cs.zipIdx.filter fun p => p.1.name ∉ ((cs ++ [c]).take p.2).map (·.name)) =
        cs.zipIdx.filter fun p => p.1.name ∉ (cs.take p.2).map (·.name) := by
      refine List.filter_congr fun p hp => ?_
      have hlt : p.2 < cs.length := List.snd_lt_of_mem_zipIdx hp
      rw [List.take_append_of_le_length (Nat.le_of_lt hlt)]
    have hlast : uniqueColumns [c] = [c] := rfl
    rw [uniqueColumns_append, List.zipIdx_append, List.filter_append, List.map_append, hfront, ← ih,
      hlast]
    by_cases hc : c.name ∈ cs.map (·.name) <;> simp [-List.mem_map, hc]

/-! ## The identity of a database model -/

/-- The items that a view model lists under a key. -/
def listed (model : ViewModel) (key : String) : List Value :=
  match model.lookup key with
  | some (.list vs) => vs
  | _ => []

/-- The items of a database model that are marked as its identity. -/
def identities (model : ViewModel) : List Value :=
  (listed model "columns").filter fun v => (v.field "is_id").truthy

/-- A column of the database model of a schema as the identity. -/
def Column.identityField (c : Column) : Value :=
  .map [("name", .str "id"), ("type", .str c.persistenceType.word), ("is_id", .bool true),
    ("is_optional", .bool c.isOptional), ("db_specific", .str "Uuid"),
    ("length", Value.ofWhole c.length)]

theorem Column.isId_modelField (c : Column) :
    (c.modelField.field "is_id").truthy = (c.name == "id") := by
  have hfield : c.modelField.field "is_id" = .bool c.annotation.isId := rfl
  rw [hfield, c.annotation_eq]
  by_cases hid : c.name = "id" <;> simp [Value.truthy, hid]

theorem Column.modelField_of_id {c : Column} (h : c.name = "id") :
    c.modelField = c.identityField := by
  unfold modelField identityField
  rw [c.annotation_eq, h, Column.nativeType?, h]
  rfl

/-- The column of a name among the first columns is the first one of that name. -/
theorem filter_name_uniqueColumns (n : String) (cs : List Column) :
    (uniqueColumns cs).filter (·.name == n) = (cs.find? (·.name == n)).toList := by
  rw [filter_uniqueColumns (· == n), ← List.head?_filter]
  cases hfound : cs.filter (·.name == n) with
  | nil => rfl
  | cons c rest =>
    have hall : ∀ d ∈ c :: rest, d.name = n := by
      intro d hd
      rw [← hfound] at hd
      exact eq_of_beq (List.mem_filter.mp hd).2
    have hrest : rest.filter (·.name != c.name) = [] := by
      refine List.filter_eq_nil_iff.mpr fun d hd => ?_
      simp [hall c List.mem_cons_self, hall d (List.mem_cons_of_mem c hd)]
    rw [uniqueColumns_cons, hrest]
    rfl

theorem identities_build (s : TableSchema) :
    identities (View.persistenceModel.build s) =
      ((s.columns.find? (·.name == "id")).map Column.identityField).toList := by
  have hlisted : listed (View.persistenceModel.build s) "columns" =
      (uniqueColumns s.columns).map Column.modelField := rfl
  have hmarked : ((fun v : Value => (v.field "is_id").truthy) ∘ Column.modelField) =
      fun c => c.name == "id" := funext Column.isId_modelField
  rw [identities, hlisted, List.filter_map, hmarked, filter_name_uniqueColumns]
  cases hfind : s.columns.find? (·.name == "id") with
  | none => rfl
  | some c =>
    have hid : c.name = "id" := by simpa using List.find?_some hfind
    simp [Column.modelField_of_id hid]

/-- **Of the columns with one name the first is kept.** What is kept is a part of the columns in their
order, has each name once, and is kept again as it is. In the database model of a schema the first
column named `id` is the one identity, if there is one. -/
theorem uniqueColumns_first (cs : List Column) :
    (uniqueColumns cs).Sublist cs ∧
    ((uniqueColumns cs).map (·.name)).Nodup ∧
    cs.map (·.name) ⊆ (uniqueColumns cs).map (·.name) ∧
    uniqueColumns cs =
      (cs.zipIdx.filter fun p => p.1.name ∉ (cs.take p.2).map (·.name)).map (·.1) ∧
    (∀ c ∈ uniqueColumns cs, cs.find? (·.name == c.name) = some c) ∧
    uniqueColumns (uniqueColumns cs) = uniqueColumns cs ∧
    (∀ ds, uniqueColumns (cs ++ ds) =
      uniqueColumns cs ++ (uniqueColumns ds).filter (·.name ∉ cs.map (·.name))) ∧
    ∀ s : TableSchema, identities (View.persistenceModel.build { s with columns := cs }) =
      ((cs.find? (·.name == "id")).map Column.identityField).toList :=
  have hnodup : ((uniqueColumns cs).map (·.name)).Nodup := nodup_firstOfNames [] cs
  ⟨sublist_firstOfNames [] cs, hnodup, fun _ => mem_uniqueColumns_names.mpr,
    uniqueColumns_places cs, fun _ => find?_of_mem_uniqueColumns, uniqueColumns_of_nodup hnodup,
    uniqueColumns_append cs, fun s => identities_build { s with columns := cs }⟩

end TableScaffold
