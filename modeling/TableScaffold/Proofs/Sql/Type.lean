import TableScaffold.Proofs.Sql.Reading
import TableScaffold.Sql.DataType

/-!
# Reading a type

Each of the recognised type words is a type of every dialect. What follows a type belongs to it only
if it is a parameter, a bracket or one of a few words (`EndsType`).
-/

namespace TableScaffold.Sql

/-- The recognised type words in capital letters. -/
def typeKeys : List String :=
  ["VARCHAR", "TEXT", "CHAR", "INT", "INTEGER", "DECIMAL", "FLOAT", "DOUBLE", "DATETIME", "TIMESTAMP",
   "TINYINT"]

/-- The words that belong to a type in front of them. -/
def typeSuffixes : List String := ["PRECISION", "VARYING", "WITH", "WITHOUT", "UNSIGNED", "ARRAY"]

/-- Whether no word that belongs to a type follows. -/
def NoSuffix (ts : List Token) : Prop := ∀ t ∈ ts.head?, t.isOneOf typeSuffixes = false

/-- Whether what follows a type does not belong to it. -/
structure EndsType (ts : List Token) : Prop where
  noSuffix : NoSuffix ts
  noMark : ∀ t ∈ ts.head?, t.isMark '(' = false ∧ t.isMark '[' = false

/-- Every recognised word is a plain type of every dialect. -/
theorem typeOfWord?_key (d : Dialect) {key : String} (h : key ∈ typeKeys) :
    ∃ name, d.typeOfWord? key = some name ∧ name ≠ userType ∧ name ≠ "INTERVAL" ∧
      name ∉ nestedTypes := by
  have hall : ∀ d ∈ Dialect.all, ∀ k ∈ typeKeys, (d.typeOfWord? k).any fun name =>
      name ≠ userType && (name ≠ "INTERVAL" && !nestedTypes.contains name) := by decide +kernel
  have hd : d ∈ Dialect.all := by cases d <;> decide
  obtain ⟨name, hname, htest⟩ := (Option.any_eq_true _ _).1 (hall d hd key h)
  exact ⟨name, hname, by simpa using htest⟩

/-- No recognised word is one for the objects of a dialect. -/
theorem not_mem_objectTypes (d : Dialect) {key : String} (h : key ∈ typeKeys) :
    key ∉ d.objectTypes := by
  have hall : ∀ d ∈ Dialect.all, ∀ k ∈ typeKeys, k ∉ d.objectTypes := by decide +kernel
  exact hall d (by cases d <;> decide) key h

namespace Reading

variable {t : Token} {ts : List Token}

theorem afterWords_suffix {w : String} (ws : List String) (hts : NoSuffix ts)
    (hw : w ∈ typeSuffixes) : afterWords (w :: ws) ts = none := by
  cases ts with
  | nil => rfl
  | cons t ts => simp [afterWords, Token.isWord_of_isOneOf (hts t rfl) hw]

theorem run_word_suffix {w : String} (hts : NoSuffix ts) (hw : w ∈ typeSuffixes) :
    (word w).run ts = some (false, ts) := by
  cases ts with
  | nil => rfl
  | cons t ts => simp [Token.isWord_of_isOneOf (hts t rfl) hw]

theorem run_longName {w : String} (hts : NoSuffix ts) (hw : w ∈ typeKeys) :
    (longName w).run ts = some (w, ts) := by
  have hsign : w ≠ "SIGNED" ∧ w ≠ "UNSIGNED" := by revert hw; revert w; decide
  have hp := run_word_suffix (w := "PRECISION") hts (by decide)
  have hv := run_word_suffix (w := "VARYING") hts (by decide)
  unfold longName
  simp [run_wordWhere_of_false _ hp, run_wordWhere_of_false _ hv, hsign]

/-- A recognised word is read as the type that it is in the dialect. -/
theorem run_typeName (d : Dialect) {key name : String} (ht : t.Spells key) (hk : key ∈ typeKeys)
    (hname : d.typeOfWord? key = some name) (hts : NoSuffix ts) :
    (typeName d).run (t :: ts) = some (name, ts) := by
  unfold typeName
  simp [ht.1, ht.2, run_longName hts hk, hname]

theorem run_timeZone (name : String) (hts : NoSuffix ts) :
    (timeZone name).run ts = some (name, ts) := by
  have hw := fun ws => afterWords_suffix (w := "WITH") ws hts (by decide)
  have ho := fun ws => afterWords_suffix (w := "WITHOUT") ws hts (by decide)
  unfold timeZone
  cases h : name.startsWith "TIME" <;> simp [hw, ho]

theorem run_signedness (name : String) (hts : NoSuffix ts) :
    (signedness name).run ts = some (name, ts) := by
  have hu := run_word_suffix (w := "UNSIGNED") hts (by decide)
  unfold signedness
  simp [hu]

theorem run_arraySuffix (hts : EndsType ts) : arraySuffix.run ts = some (false, ts) := by
  have ha := run_word_suffix (w := "ARRAY") hts.noSuffix (by decide)
  unfold arraySuffix
  cases ts with
  | nil => simp
  | cons t ts => simp [ha, (hts.noMark t rfl).2]

theorem run_typeParameters_none (hts : EndsType ts) : typeParameters.run ts = some ([], ts) := by
  unfold typeParameters
  cases ts with
  | nil => simp
  | cons t ts => simp [(hts.noMark t rfl).1]

/-- A single parameter. -/
theorem run_typeParameters_one {n : Token} (hn : n.kind ≠ .mark) (r s : List Char) :
    typeParameters.run (.ofMark '(' r :: n :: .ofMark ')' s :: ts) = some ([n.text], ts) := by
  simp [typeParameters, closedList, commaList, typeParameter, expect, hn]

/-- A type is its name, and its first parameter if it has any. -/
theorem run_dataType (d : Dialect) {key name : String} {parameters : List String} {us : List Token}
    (ht : t.Spells key) (hk : key ∈ typeKeys) (hname : d.typeOfWord? key = some name)
    (hus : NoSuffix us) (hp : typeParameters.run us = some (parameters, ts)) (hts : EndsType ts) :
    (dataType d).run (t :: us) =
      some (⟨some name, parameters.head? <|> Dialect.defaultSize d name⟩, ts) := by
  obtain ⟨name', hname', huser, hinterval, hnested⟩ := typeOfWord?_key d hk
  obtain rfl : name' = name := Option.some.inj (hname'.symm.trans hname)
  have hobject : t.isOneOf d.objectTypes = false := by
    rw [ht.isOneOf]
    simpa using not_mem_objectTypes d hk
  unfold dataType
  simp [hobject, run_typeName d ht hk hname hus, huser, namedType, hinterval, hnested, hp,
    run_timeZone _ hts.noSuffix, run_signedness _ hts.noSuffix, run_arraySuffix hts]

/-- A type without parameters. -/
theorem run_dataType_plain (d : Dialect) {key name : String} (ht : t.Spells key) (hk : key ∈ typeKeys)
    (hname : d.typeOfWord? key = some name) (hts : EndsType ts) :
    (dataType d).run (t :: ts) = some (⟨some name, Dialect.defaultSize d name⟩, ts) :=
  run_dataType d ht hk hname hts.noSuffix (run_typeParameters_none hts) hts

/-- A type with one parameter. -/
theorem run_dataType_sized (d : Dialect) {key name : String} (ht : t.Spells key) (hk : key ∈ typeKeys)
    (hname : d.typeOfWord? key = some name) {n : Token} (hn : n.kind ≠ .mark) (r s : List Char)
    (hts : EndsType ts) :
    (dataType d).run (t :: .ofMark '(' r :: n :: .ofMark ')' s :: ts) =
      some (⟨some name, some n.text⟩, ts) :=
  run_dataType d ht hk hname (by simp [NoSuffix]) (run_typeParameters_one hn r s) hts

/-- Where no name stands, no type stands. -/
theorem run_dataType?_mark (d : Dialect) (c : Char) (r : List Char) :
    (dataType? d).run (.ofMark c r :: ts) = some (none, .ofMark c r :: ts) := by
  simp [dataType?, dataType, typeName]

end Reading

end TableScaffold.Sql
