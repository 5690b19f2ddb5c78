import TableScaffold.Proofs.Attempt
import TableScaffold.Proofs.Disk.Growth
import TableScaffold.Proofs.Settings.Fields
import TableScaffold.Proofs.Settings.Load

/-!
# Where the value of a setting comes from

A setting has the value that is given on top, if there is one that is not null, else the value at the
one place that settings come from, else its default (`load_priority`). No second place is asked for
what the first leaves out, and what a place gives under other names does not count.
-/

namespace TableScaffold

open OnMachine

namespace Settings

variable {y : Yaml.Reader}

/-! ## What a place gives -/

/-- A file of a disk holds a mapping with these entries, or nothing. -/
def FileHolds (y : Yaml.Reader) (d : Disk) (path : String)
    (entries : List (Yaml.Content × Yaml.Content)) : Prop :=
  ∃ content, d.read path = .ok content ∧
    (y content = .ok (.mapping entries) ∨ y content = .ok .null ∧ entries = [])

/-- The value of an entry if it is for a key. -/
def valueFor (key : String) : Yaml.Content × Yaml.Content → Option Value
  | (.text s, v) => if key = s then some (valueOf v) else none
  | _ => none

/-- The value that entries give a key: that of the last one for it. -/
def valueIn (entries : List (Yaml.Content × Yaml.Content)) (key : String) : Option Value :=
  entries.reverse.findSome? (valueFor key)

/-- The value that the variable for a key has, if it is not empty. -/
def variableValue (environment : List (String × String)) (key : String) : Option Value :=
  environmentNames.findSome? fun entry =>
    if key = entry.2 then ((environment.lookup entry.1).filter (· != "")).map .str else none

/-- The values that a place of a machine gives. A file gives some if all its keys are texts. -/
def Provides (y : Yaml.Reader) (m : Machine) : Place → (String → Option Value) → Prop
  | .file path, value => ∃ entries, FileHolds y m.disk path entries ∧
      (∀ entry ∈ entries, ∃ key, entry.1 = .text key) ∧ value = valueIn entries
  | .environment, value => value = variableValue m.environment

/-- The value on top for a key: the one that is there and not null. -/
def overrideValue (overrides : List (String × Value)) (key : String) : Option Value :=
  (overrides.find? fun entry => key == entry.1 && !entry.2.isNull).map (·.2)

theorem lookup_overrides (overrides : List (String × Value)) (key : String) :
    (overrides.filter (!·.2.isNull)).lookup key = overrideValue overrides key := by
  induction overrides with
  | nil => rfl
  | cons entry rest ih =>
    unfold overrideValue at ih ⊢
    rw [List.filter_cons, List.find?_cons]
    cases hnull : entry.2.isNull with
    | true => simp [ih]
    | false =>
      rw [Bool.not_false, if_pos rfl, List.lookup_cons]
      cases key == entry.1 <;> simp [ih]

theorem lookup_environmentFields (environment : List (String × String)) (key : String) :
    (environmentFields environment environmentNames).lookup key =
      variableValue environment key := by
  unfold variableValue
  induction environmentNames with
  | nil => rfl
  | cons entry rest ih =>
    unfold environmentFields at ih ⊢
    rw [List.filterMap_cons, List.findSome?_cons]
    cases (environment.lookup entry.1).filter (· != "") with
    | none => simp [ih]
    | some s =>
      dsimp only [Option.map_some]
      rw [List.lookup_cons, ih]
      by_cases hkey : key = entry.2 <;> simp [hkey, beq_false_of_ne]

/-! ## Files -/

theorem entriesOf_eq_ok_iff {path : String} {content : ByteArray}
    {entries : List (Yaml.Content × Yaml.Content)} :
    entriesOf y path content = .ok entries ↔
      y content = .ok (.mapping entries) ∨ y content = .ok .null ∧ entries = [] := by
  unfold entriesOf
  cases y content with
  | error f => cases f <;> simp
  | ok content => cases content <;> simp [eq_comm]

/-- The field of an entry, if its key is a text. -/
def field? : Yaml.Content × Yaml.Content → Option (String × Value)
  | (.text s, v) => some (s, valueOf v)
  | _ => none

theorem field?_eq_some_iff {entry : Yaml.Content × Yaml.Content} {f : String × Value} :
    field? entry = some f ↔ entry.1 = .text f.1 ∧ valueOf entry.2 = f.2 := by
  obtain ⟨k, v⟩ := entry
  cases k <;> simp [field?, Prod.ext_iff]

theorem fieldsOf?_eq_some_iff {entries : List (Yaml.Content × Yaml.Content)}
    {fields : List (String × Value)} :
    fieldsOf? entries = some fields ↔
      List.Forall₂ (fun entry f => field? entry = some f) entries.reverse fields := by
  have hfield : fieldsOf? entries = entries.reverse.mapM field? := by
    unfold fieldsOf?
    refine congrArg (entries.reverse.mapM ·) (funext fun ⟨k, v⟩ => ?_)
    cases k <;> rfl
  rw [hfield]
  exact mapM_eq_some

theorem lookup_of_forall₂ {entries : List (Yaml.Content × Yaml.Content)}
    {fields : List (String × Value)}
    (h : List.Forall₂ (fun entry f => field? entry = some f) entries fields) (key : String) :
    fields.lookup key = entries.findSome? (valueFor key) := by
  induction h with
  | nil => rfl
  | @cons entry f _ _ hf _ ih =>
    obtain ⟨k, v⟩ := entry
    obtain ⟨name, value⟩ := f
    obtain ⟨hk, hv⟩ := field?_eq_some_iff.mp hf
    dsimp only at hk hv
    subst hk hv
    rw [List.lookup_cons, List.findSome?_cons, ih, valueFor]
    by_cases hkey : key = name <;> simp [hkey, beq_false_of_ne]

/-- Entries make fields if all their keys are texts. -/
theorem exists_fieldsOf?_iff {entries : List (Yaml.Content × Yaml.Content)} :
    (∃ fields, fieldsOf? entries = some fields) ↔
      ∀ entry ∈ entries, ∃ key, entry.1 = .text key := by
  simp only [fieldsOf?_eq_some_iff]
  constructor
  · rintro ⟨fields, hfields⟩ entry hentry
    obtain ⟨f, -, hf⟩ := exists_of_forall₂ hfields (List.mem_reverse.mpr hentry)
    exact ⟨f.1, (field?_eq_some_iff.mp hf).1⟩
  · intro h
    refine forall₂_of_forall_exists fun entry hentry => ?_
    obtain ⟨key, hkey⟩ := h entry (List.mem_reverse.mp hentry)
    exact ⟨(key, valueOf entry.2), field?_eq_some_iff.mpr ⟨hkey, rfl⟩⟩

theorem bind_eq_ok_iff {ε α β : Type} {x : Except ε α} {f : α → Except ε β} {b : β} :
    x.bind f = .ok b ↔ ∃ a, x = .ok a ∧ f a = .ok b := by
  cases x <;> simp [Except.bind]

theorem fileOutcome_eq_ok_iff {d : Disk} {path : String} {fields : List (String × Value)} :
    fileOutcome y d path = .ok fields ↔
      ∃ entries, FileHolds y d path entries ∧ fieldsOf? entries = some fields := by
  unfold fileOutcome
  constructor
  · intro h
    split at h
    · split at h
      · cases h
      · next content hread =>
        obtain ⟨entries, hentries, hfields⟩ := bind_eq_ok_iff.mp h
        refine ⟨entries, ⟨content, hread, entriesOf_eq_ok_iff.mp hentries⟩, ?_⟩
        split at hfields
        · next fs hfs => rw [hfs, Except.ok.inj hfields]
        · cases hfields
    · cases h
  · rintro ⟨entries, ⟨content, hread, hcontent⟩, hfields⟩
    have hentries : entriesOf y path content = .ok entries := entriesOf_eq_ok_iff.mpr hcontent
    rw [Disk.read_eq_ok.mp hread, Option.isSome_some, if_pos rfl, hread]
    refine bind_eq_ok_iff.mpr ⟨entries, hentries, ?_⟩
    rw [hfields]

theorem provides_iff {m : Machine} {p : Place} {value : String → Option Value} :
    Provides y m p value ↔ ∃ fields, placeOutcome y m p = .ok fields ∧ value = (fields.lookup ·) := by
  cases p with
  | environment =>
    simp only [Provides, placeOutcome, Except.ok.injEq, exists_eq_left',
      lookup_environmentFields]
  | file path =>
    unfold Provides placeOutcome
    simp only [fileOutcome_eq_ok_iff]
    constructor
    · rintro ⟨entries, hholds, hkeys, rfl⟩
      obtain ⟨fields, hfields⟩ := exists_fieldsOf?_iff.mpr hkeys
      exact ⟨fields, ⟨entries, hholds, hfields⟩,
        funext fun key => (lookup_of_forall₂ (fieldsOf?_eq_some_iff.mp hfields) key).symm⟩
    · rintro ⟨fields, ⟨entries, hholds, hfields⟩, rfl⟩
      exact ⟨entries, hholds, exists_fieldsOf?_iff.mp ⟨fields, hfields⟩,
        funext fun key => lookup_of_forall₂ (fieldsOf?_eq_some_iff.mp hfields) key⟩

/-! ## Loaded settings -/

/-- The value of a key is the one on top, or that of the place. -/
theorem lookup_combined (fields overrides : List (String × Value)) (key : String) :
    (overrides.filter (!·.2.isNull) ++ fields).lookup key =
      (overrideValue overrides key).or (fields.lookup key) := by
  rw [List.lookup_append, lookup_overrides]

theorem combine_eq_ok_iff {fields overrides : List (String × Value)} {s : Settings} :
    combine fields overrides = .ok s ↔
      TakenFrom (fun key => (overrideValue overrides key).or (fields.lookup key)) s := by
  simp only [← lookup_combined]
  rw [← ofFields_eq_ok_iff, combine]
  cases ofFields (overrides.filter (!·.2.isNull) ++ fields) <;> simp [Except.mapError]

theorem load_eq_ok_iff {file : Option String} {overrides : List (String × Value)} {m : Machine}
    {s : Settings} :
    (outcome (load y file overrides) m).1 = .ok s ↔
      ∃ given, Provides y m (place file m) given ∧
        TakenFrom (fun key => (overrideValue overrides key).or (given key)) s := by
  rw [outcome_load]
  constructor
  · intro h
    obtain ⟨fields, hfields, hcombine⟩ := bind_eq_ok_iff.mp h
    exact ⟨_, provides_iff.mpr ⟨fields, hfields, rfl⟩, combine_eq_ok_iff.mp hcombine⟩
  · rintro ⟨given, hgiven, htaken⟩
    obtain ⟨fields, hfields, rfl⟩ := provides_iff.mp hgiven
    exact bind_eq_ok_iff.mpr ⟨fields, hfields, combine_eq_ok_iff.mpr htaken⟩

/-- Places that give the same to the keys of the settings lead to the same. -/
theorem load_congr {file file' : Option String} {overrides overrides' : List (String × Value)}
    {m m' : Machine} {given given' : String → Option Value}
    (hgiven : Provides y m (place file m) given) (hgiven' : Provides y m' (place file' m') given')
    (hsame : ∀ key ∈ keys, (overrideValue overrides key).or (given key) =
      (overrideValue overrides' key).or (given' key)) :
    (outcome (load y file overrides) m).1 = (outcome (load y file' overrides') m').1 := by
  obtain ⟨fields, hfields, rfl⟩ := provides_iff.mp hgiven
  obtain ⟨fields', hfields', rfl⟩ := provides_iff.mp hgiven'
  rw [outcome_load, outcome_load, hfields, hfields']
  refine congrArg (Except.mapError SettingsError.invalid) (ofFields_congr fun key hkey => ?_)
  rw [lookup_combined, lookup_combined]
  exact hsame key hkey

/-- With a file as its place, loading does not look at the environment. -/
theorem load_environment {file : Option String} {overrides : List (String × Value)} {m : Machine}
    {path : String} (h : place file m = .file path) (environment : List (String × String)) :
    (outcome (load y file overrides) { m with environment }).1 =
      (outcome (load y file overrides) m).1 := by
  have h' : place file { m with environment } = .file path := h
  rw [outcome_load, outcome_load, h, h']
  rfl

/-- However files are read as YAML, each setting has the value on top, or that of the one place, or its
default, and nothing else gives settings. Where the place is a file, the environment does not matter; what
is given under other names never does; and the dialect is one of six. -/
theorem load_priority (y : Yaml.Reader) (file : Option String) (overrides : List (String × Value))
    (m : Machine) :
    (∀ s, (outcome (load y file overrides) m).1 = .ok s ↔
      ∃ given, Provides y m (place file m) given ∧
        TakenFrom (fun key => (overrideValue overrides key).or (given key)) s) ∧
    (∀ path environment, place file m = .file path →
      (outcome (load y file overrides) { m with environment }).1 =
        (outcome (load y file overrides) m).1) ∧
    (∀ file' overrides' m' given given', Provides y m (place file m) given →
      Provides y m' (place file' m') given' →
      (∀ key ∈ ["output_dir", "dialect", "template_dir", "default_sql_file"],
        (overrideValue overrides key).or (given key) =
          (overrideValue overrides' key).or (given' key)) →
      (outcome (load y file overrides) m).1 = (outcome (load y file' overrides') m').1) ∧
    ∀ s, (outcome (load y file overrides) m).1 = .ok s →
      s.dialect.name ∈ ["mysql", "postgres", "sqlite", "tsql", "snowflake", "bigquery"] := by
  refine ⟨fun s => load_eq_ok_iff, fun _ environment hplace => load_environment hplace environment,
    fun _ _ _ _ _ hgiven hgiven' hsame => load_congr hgiven hgiven' hsame, fun s _ => ?_⟩
  cases s.dialect <;> decide

/-- A null on top does not count, and a variable does not fill in what the usual file leaves out. -/
example :
    (outcome (load Yaml.reader none [("default_sql_file", .str "t.sql"), ("dialect", .null)])
      { disk := (Disk.withWorkingDirectory ["w"]).putFile "dialect: BigQuery\ncolour: 1".toUTF8
          ["crudgen.yaml", "w"]
        environment := [("CRUDGEN_OUTPUT_DIR", "o")] }).1.toOption =
      some { dialect := .bigquery, defaultSqlFile := "t.sql" } := by
  decide +kernel

end Settings

end TableScaffold
