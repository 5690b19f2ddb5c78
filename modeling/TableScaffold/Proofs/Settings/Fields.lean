import TableScaffold.Settings

/-!
# Settings from named values

Settings are read from the values under four keys. Each setting is the value under its key, or its
default if there is none; a value of another shape gives no settings (`ofFields_eq_ok_iff`). Nothing
else of the fields counts.
-/

namespace TableScaffold

/-! ## Checked values -/

namespace Checked

variable {α β : Type}

theorem apply_eq_ok_iff {f : Checked (α → β)} {x : Checked α} {b : β} :
    apply f x = .ok b ↔ ∃ g a, f = .ok g ∧ x = .ok a ∧ g a = b := by
  cases f with
  | error ps => cases x <;> simp [apply]
  | ok g => cases x <;> simp [apply]

theorem map_eq_ok_iff {f : α → β} {x : Checked α} {b : β} :
    x.map f = .ok b ↔ ∃ a, x = .ok a ∧ f a = b := by
  cases x <;> simp [Except.map]

theorem under_eq_ok_iff {step : String} {x : Checked α} {a : α} :
    under step x = .ok a ↔ x = .ok a := by
  cases x <;> simp [under]

end Checked

namespace Check

variable {α : Type}

theorem text_eq_ok_iff {v : Value} {s : String} : text v = .ok s ↔ v = .str s := by
  cases v <;> simp [text, Checked.fail]

theorem optionalText_eq_ok_iff {v : Value} {s : Option String} :
    optionalText v = .ok s ↔ v = Value.ofOption s := by
  cases v <;> cases s <;> simp [optionalText, Checked.map_eq_ok_iff, text_eq_ok_iff, Value.ofOption]

/-- A dialect is named in any letter case. -/
theorem dialect_eq_ok_iff {v : Value} {d : Sql.Dialect} :
    dialect v = .ok d ↔ ∃ name, v = .str name ∧ Text.lower name = d.name := by
  cases v with
  | str name =>
    have hfound : dialect (.str name) = .ok d ↔ Sql.Dialect.ofName? (Text.lower name) = some d := by
      cases hname : Sql.Dialect.ofName? (Text.lower name) <;> simp [dialect, hname, Checked.fail]
    rw [hfound]
    constructor
    · intro h
      unfold Sql.Dialect.ofName? at h
      have hname := List.find?_some h
      exact ⟨name, rfl, (eq_of_beq hname).symm⟩
    · rintro ⟨_, ⟨⟩, hname⟩
      rw [hname, Sql.Dialect.ofName?_name]
  | _ => exact iff_of_false (fun h => nomatch h) fun ⟨_, h, _⟩ => nomatch h

/-- A default is what the check makes of a value of its own. -/
theorem withDefault_eq_ok_iff {es : List (String × Value)} {key : String}
    {check : Value → Checked α} {usual : Value} {default a : α} (h : check usual = .ok default) :
    withDefault es key check default = .ok a ↔ check ((es.lookup key).getD usual) = .ok a := by
  unfold withDefault
  cases es.lookup key with
  | none => rw [Option.getD_none, h]
  | some v => exact Checked.under_eq_ok_iff

end Check

/-! ## Settings -/

namespace Settings

open Check

/-- The keys of the settings. -/
def keys : List String := ["output_dir", "dialect", "template_dir", "default_sql_file"]

/-- Settings that are taken from the values of keys, each from that of its own key or from its
default. -/
structure TakenFrom (value : String → Option Value) (s : Settings) : Prop where
  outputDir : (value "output_dir").getD (.str "output") = .str s.outputDir
  /-- The name of the dialect may be written in any letter case. -/
  dialect : ∃ name, (value "dialect").getD (.str "mysql") = .str name ∧
    Text.lower name = s.dialect.name
  templateDir : (value "template_dir").getD .null = Value.ofOption s.templateDir
  defaultSqlFile : (value "default_sql_file").getD (.str "generate-crud.sql") =
    .str s.defaultSqlFile

theorem ofFields_eq_ok_iff {es : List (String × Value)} {s : Settings} :
    ofFields es = .ok s ↔ TakenFrom (es.lookup ·) s := by
  have houtput : text (.str "output") = .ok "output" := rfl
  have hmysql : Check.dialect (.str "mysql") = .ok .mysql :=
    dialect_eq_ok_iff.mpr ⟨"mysql", rfl, by decide +kernel⟩
  have hnone : optionalText .null = .ok none := rfl
  have hfile : text (.str "generate-crud.sql") = .ok "generate-crud.sql" := rfl
  unfold ofFields
  simp only [Checked.apply_eq_ok_iff, Checked.map_eq_ok_iff, withDefault_eq_ok_iff houtput,
    withDefault_eq_ok_iff hmysql, withDefault_eq_ok_iff hnone, withDefault_eq_ok_iff hfile,
    text_eq_ok_iff, optionalText_eq_ok_iff, dialect_eq_ok_iff]
  constructor
  · rintro ⟨_, file, ⟨_, directory, ⟨_, d, ⟨out, hout, rfl⟩, hd, rfl⟩, hdir, rfl⟩, hfile, rfl⟩
    exact ⟨hout, hd, hdir, hfile⟩
  · intro h
    exact ⟨_, _, ⟨_, _, ⟨_, _, ⟨_, h.outputDir, rfl⟩, h.dialect, rfl⟩, h.templateDir, rfl⟩,
      h.defaultSqlFile, rfl⟩

/-- Settings depend on nothing but the values of their keys. -/
theorem ofFields_congr {es es' : List (String × Value)}
    (h : ∀ key ∈ keys, es.lookup key = es'.lookup key) : ofFields es = ofFields es' := by
  simp only [keys, List.forall_mem_cons] at h
  unfold ofFields withDefault
  rw [h.1, h.2.1, h.2.2.1, h.2.2.2.1]

end Settings

end TableScaffold
