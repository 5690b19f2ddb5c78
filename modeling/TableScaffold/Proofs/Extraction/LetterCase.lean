import TableScaffold.Proofs.Extraction.RelatedModel
import TableScaffold.Proofs.Text.Ascii

/-!
# Table names in another letter case

A table name without capitals may also be written in capitals, or with a capital in front. A name that
is all in capitals is written in small letters before its class name is formed, and in any other name
the first letter becomes a capital anyway. So a relation refers to one model, however the name of its
table is written (`related_model_recased`).
-/

namespace TableScaffold

namespace Text

variable {c : Char} {s : String}

/-- An ASCII text counts as written in capitals if it has a capital and no small letter. -/
theorem isAllUpper_ascii_iff (h : ∀ c ∈ s.toList, c.toNat < 128) :
    isAllUpper s = true ↔
      (∃ c ∈ s.toList, c.isUpper = true) ∧ ∀ c ∈ s.toList, c.isLower = false := by
  have hupper : upperSpans.filter (·.first < 128) = [⟨65, 90, 1⟩] := by decide +kernel
  have hlower : lowerSpans.filter (·.first < 128) = [⟨97, 122, 1⟩] := by decide +kernel
  have htitle : titleSpans.filter (·.first < 128) = [] := by decide +kernel
  have hclass : ∀ c ∈ s.toList, inSpans upperSpans c = c.isUpper ∧
      (inSpans lowerSpans c || inSpans titleSpans c) = c.isLower := by
    intro c hc
    rw [inSpans_ascii hupper (h c hc), inSpans_ascii hlower (h c hc), inSpans_ascii htitle (h c hc)]
    have key := ascii_all (p := fun c => inSpans [⟨65, 90, 1⟩] c == c.isUpper &&
      (inSpans [⟨97, 122, 1⟩] c || inSpans [] c) == c.isLower) (by decide +kernel) (h c hc)
    simpa using key
  unfold isAllUpper
  rw [Bool.and_eq_true, List.any_eq_true, Bool.not_eq_true', List.any_eq_false]
  refine and_congr (exists_congr fun c => and_congr_right fun hc => ?_)
    (forall₂_congr fun c hc => ?_)
  · rw [(hclass c hc).1]
  · rw [(hclass c hc).2, Bool.not_eq_true]

/-- What the capital of an ASCII character is. -/
structure AsciiCapital (c : Char) : Prop where
  ascii : c.toUpper.toNat < 128
  notLower : c.toUpper.isLower = false
  again : c.toUpper.toUpper = c.toUpper
  underscore : c.toUpper = '_' ↔ c = '_'
  upper : c.isLower = true → c.toUpper.isUpper = true
  self : c.isLower = false → c.toUpper = c
  small : c.isUpper = false → c.toUpper.toLower = c

theorem asciiCapital (h : c.toNat < 128) : AsciiCapital c := by
  have key := of_decide_eq_true <| ascii_all (p := fun c => decide (c.toUpper.toNat < 128 ∧
    c.toUpper.isLower = false ∧ c.toUpper.toUpper = c.toUpper ∧ (c.toUpper = '_' ↔ c = '_') ∧
    (c.isLower = true → c.toUpper.isUpper = true) ∧ (c.isLower = false → c.toUpper = c) ∧
    (c.isUpper = false → c.toUpper.toLower = c))) (by decide +kernel) h
  obtain ⟨hascii, hlower, hagain, hmark, hupper, hself, hsmall⟩ := key
  exact ⟨hascii, hlower, hagain, hmark, hupper, hself, hsmall⟩

end Text

namespace Naming

open Text

/-- A name in ASCII that has no capitals. -/
def IsSmall (name : String) : Prop := ∀ c ∈ name.toList, c.toNat < 128 ∧ c.isUpper = false

-- the search goes through the name, not through all characters
instance (name : String) : Decidable (IsSmall name) := List.decidableBAll _ name.toList

/-- A name in capitals. -/
def inCapitals (name : String) : String := String.ofList (name.toList.map Char.toUpper)

/-- A name with its first character as a capital. -/
def capitalInFront (name : String) : String := String.ofList (name.toList.modifyHead Char.toUpper)

/-- How a name may be written: as it is, in capitals, or with a capital in front. -/
inductive Recased (name : String) : String → Prop
  | same : Recased name name
  | inCapitals : Recased name (inCapitals name)
  | capitalInFront : Recased name (capitalInFront name)

variable {name spelling : String}

namespace IsSmall

variable (h : IsSmall name)

include h

theorem not_isAllUpper : isAllUpper name = false := by
  rw [Bool.eq_false_iff, ne_eq, isAllUpper_ascii_iff fun c hc => (h c hc).1]
  rintro ⟨⟨c, hc, hupper⟩, -⟩
  rw [(h c hc).2] at hupper
  cases hupper

theorem written_eq : written name = name := by
  rw [written, h.not_isAllUpper, if_neg Bool.false_ne_true]

theorem ascii_inCapitals : ∀ c ∈ (inCapitals name).toList, c.toNat < 128 := by
  rw [inCapitals, String.toList_ofList, List.forall_mem_map]
  exact fun c hc => (asciiCapital (h c hc).1).ascii

/-- A name with a letter is written in small letters again; one without letters has no other form. -/
theorem written_inCapitals : written (inCapitals name) = name := by
  by_cases hletter : ∃ c ∈ name.toList, c.isLower = true
  · obtain ⟨c, hc, hlower⟩ := hletter
    have hupper : isAllUpper (inCapitals name) = true := by
      rw [isAllUpper_ascii_iff h.ascii_inCapitals, inCapitals, String.toList_ofList,
        List.forall_mem_map]
      exact ⟨⟨_, List.mem_map_of_mem hc, (asciiCapital (h c hc).1).upper hlower⟩,
        fun d hd => (asciiCapital (h d hd).1).notLower⟩
    rw [written, if_pos hupper, lower_ascii h.ascii_inCapitals, inCapitals, String.toList_ofList,
      List.map_map, List.map_congr_left (g := id), List.map_id, String.ofList_toList]
    exact fun d hd => (asciiCapital (h d hd).1).small (h d hd).2
  · have hself : inCapitals name = name := by
      rw [inCapitals, List.map_congr_left (g := id), List.map_id, String.ofList_toList]
      exact fun c hc => (asciiCapital (h c hc).1).self
        (Bool.eq_false_iff.mpr fun hlower => hletter ⟨c, hc, hlower⟩)
    rw [hself, h.written_eq]

end IsSmall

/-- A class name begins with a capital, so one in front of the name makes no difference. -/
theorem className_toUpper {c : Char} (hc : c.toNat < 128) (cs : List Char) :
    className (String.ofList (c.toUpper :: cs)) = className (String.ofList (c :: cs)) := by
  have hcapital := asciiCapital hc
  rw [className, className, String.toList_ofList, String.toList_ofList]
  by_cases hmark : c = '_'
  · rw [hcapital.underscore.mpr hmark, hmark]
  · rw [pascalFrom_cons hmark, pascalFrom_cons (mt hcapital.underscore.mp hmark), if_pos rfl,
      if_pos rfl, upperChar_ascii hcapital.ascii, upperChar_ascii hc, hcapital.again]

theorem singularClass_ofList (cs : List Char) : singularClass (String.ofList cs) =
    className (String.ofList (if cs.getLast? = some 's' then cs.dropLast else cs)) := by
  unfold singularClass singular
  rw [String.toList_ofList]
  split <;> rfl

/-- In a name of more than one character a capital in front is not the last one. -/
theorem singularClass_toUpper {c : Char} (hc : c.toNat < 128) (d : Char) (cs : List Char) :
    singularClass (String.ofList (c.toUpper :: d :: cs)) =
      singularClass (String.ofList (c :: d :: cs)) := by
  rw [singularClass_ofList, singularClass_ofList, List.getLast?_cons_cons, List.getLast?_cons_cons,
    List.dropLast_cons_cons, List.dropLast_cons_cons]
  split <;> exact className_toUpper hc _

theorem capitalInFront_eq {c : Char} {cs : List Char} (hname : name.toList = c :: cs) :
    capitalInFront name = String.ofList (c.toUpper :: cs) := by
  rw [capitalInFront, hname, List.modifyHead_cons]

/-- Where a capital in front makes the whole name one in capitals, the rest has no letters. -/
theorem IsSmall.capitalInFront_of_isAllUpper (h : IsSmall name)
    (hupper : isAllUpper (capitalInFront name) = true) : capitalInFront name = inCapitals name := by
  cases hname : name.toList with
  | nil => rw [capitalInFront, inCapitals, hname, List.modifyHead_nil, List.map_nil]
  | cons c cs =>
    unfold IsSmall at h
    rw [hname, List.forall_mem_cons] at h
    have hascii : ∀ x ∈ (capitalInFront name).toList, x.toNat < 128 := by
      rw [capitalInFront_eq hname, String.toList_ofList, List.forall_mem_cons]
      exact ⟨(asciiCapital h.1.1).ascii, fun x hx => (h.2 x hx).1⟩
    rw [isAllUpper_ascii_iff hascii, capitalInFront_eq hname, String.toList_ofList,
      List.forall_mem_cons] at hupper
    have hself : cs.map Char.toUpper = cs := by
      rw [List.map_congr_left (g := id), List.map_id]
      exact fun x hx => (asciiCapital (h.2 x hx).1).self (hupper.2.2 x hx)
    rw [capitalInFront_eq hname, inCapitals, hname, List.map_cons, hself]

theorem IsSmall.singularClass_capitalInFront (h : IsSmall name) :
    singularClass (written (capitalInFront name)) = singularClass name := by
  by_cases hupper : isAllUpper (capitalInFront name) = true
  · rw [h.capitalInFront_of_isAllUpper hupper, h.written_inCapitals]
  rw [written, if_neg hupper]
  cases hname : name.toList with
  | nil => rw [capitalInFront, hname, List.modifyHead_nil, ← hname, String.ofList_toList]
  | cons c cs =>
    have hc := (h c (by rw [hname]; exact List.mem_cons_self)).1
    rw [capitalInFront_eq hname, ← String.ofList_toList (s := name), hname]
    cases cs with
    | nil =>
      -- a single letter would make a name in capitals
      have hletters : (capitalInFront name).toList = [c.toUpper] := by
        rw [capitalInFront_eq hname, String.toList_ofList]
      have hself : c.toUpper = c := by
        refine (asciiCapital hc).self (Bool.eq_false_iff.mpr fun hlower => hupper ?_)
        have hascii : ∀ x ∈ (capitalInFront name).toList, x.toNat < 128 := by
          simpa [hletters] using (asciiCapital hc).ascii
        rw [isAllUpper_ascii_iff hascii, hletters]
        exact ⟨⟨_, List.mem_cons_self, (asciiCapital hc).upper hlower⟩,
          List.forall_mem_singleton.mpr (asciiCapital hc).notLower⟩
      rw [hself]
    | cons d cs => exact singularClass_toUpper hc d cs

/-- A name has one singular class, however it is written. -/
theorem Recased.singularClass_written (h : IsSmall name) (hspelling : Recased name spelling) :
    singularClass (written spelling) = singularClass name := by
  cases hspelling with
  | same => rw [h.written_eq]
  | inCapitals => rw [h.written_inCapitals]
  | capitalInFront => exact h.singularClass_capitalInFront

end Naming

/-- A key to a table whose name has no capitals gives a relation to one model, the singular class of that
name, however the name is written. -/
theorem related_model_recased {v : Value} {s : TableSchema} (h : (extract v).outcome = .ok s)
    {name : String} (hname : Naming.IsSmall name) :
    ∃ c, (Tree.statement (statementOf v)).outcome = .ok c ∧
      List.Forall₂ (fun (k : ForeignKeyDefinition) (r : Relation) =>
          Naming.Recased name k.referencedTable → r.relatedModel = Naming.singularClass name)
        (c.definitions.filterMap Definition.foreignKey?) s.relations := by
  obtain ⟨c, nodes, hc, -, -, haccounted⟩ := exists_accounted h
  refine ⟨c, hc, ?_⟩
  rw [haccounted.relations, List.forall₂_map_right_iff, List.forall₂_same]
  exact fun k _ hspelling => hspelling.singularClass_written hname

/-- Three keys to the table `departments`, each written in its own way. -/
theorem related_model_recased_departments : ∃ vs s,
    (Sql.trees .mysql ("CREATE TABLE t (a INT, b INT, c INT, " ++
      "FOREIGN KEY (a) REFERENCES departments (id), FOREIGN KEY (b) REFERENCES DEPARTMENTS (id), " ++
      "FOREIGN KEY (c) REFERENCES Departments (id))")).outcome = .ok vs ∧
    (extract (.list vs)).outcome = .ok s ∧
    s.relations.map (·.relatedModel) = ["Department", "Department", "Department"] := by
  have heval : ((Sql.trees .mysql ("CREATE TABLE t (a INT, b INT, c INT, " ++
      "FOREIGN KEY (a) REFERENCES departments (id), FOREIGN KEY (b) REFERENCES DEPARTMENTS (id), " ++
      "FOREIGN KEY (c) REFERENCES Departments (id))")).outcome.toOption.bind fun vs =>
        (Tree.statement (statementOf (.list vs))).outcome.toOption.map id) =
      some ⟨some "create", some "table", some "t",
        [.column ⟨"a", some "INT", none, false⟩, .column ⟨"b", some "INT", none, false⟩,
          .column ⟨"c", some "INT", none, false⟩,
          .foreignKey ⟨none, "a", "departments", "id", .noAction, .noAction⟩,
          .foreignKey ⟨none, "b", "DEPARTMENTS", "id", .noAction, .noAction⟩,
          .foreignKey ⟨none, "c", "Departments", "id", .noAction, .noAction⟩]⟩ := by
    decide +kernel
  obtain ⟨vs, c, htrees, hc, rfl⟩ := Attempt.exists_of_eval heval
  have hs := extract_of_statement hc (by decide +kernel)
  have hname : Naming.IsSmall "departments" := by decide
  obtain ⟨c, hc', hall⟩ := related_model_recased hs hname
  cases hc.symm.trans hc'
  have hcapitals : "DEPARTMENTS" = Naming.inCapitals "departments" := by decide
  have hcapital : "Departments" = Naming.capitalInFront "departments" := by decide
  have hmodel : Naming.singularClass "departments" = "Department" := by decide +kernel
  refine ⟨vs, _, htrees, hs, ?_⟩
  rw [← hmodel]
  revert hall
  generalize (Extraction.schema _ _).value.relations = relations
  rintro (_ | ⟨hsmall, _ | ⟨hcapitals', _ | ⟨hfront, hnil⟩⟩⟩)
  cases hnil
  rw [List.map_cons, List.map_cons, List.map_cons, List.map_nil, hsmall .same,
    hcapitals' (hcapitals ▸ .inCapitals), hfront (hcapital ▸ .capitalInFront)]

end TableScaffold
