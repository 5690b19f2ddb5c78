import TableScaffold.Extraction
import TableScaffold.Proofs.Decimal.Whole
import TableScaffold.Proofs.Sql.Entry

/-!
# Declared tables

A declared table is what a person would write down as a CREATE TABLE statement: columns, indexes and
foreign keys with their names. Its structures carry what makes it writable: names without backslashes
and null characters, recognised type words, numbers that can be read back.

`DeclaredTable.text` is the statement, `DeclaredTable.schema` the schema that it stands for. Not every name
is safe between quotes: `DeclaredTable.Legible` leaves out the few that are found as words even there.
`toList_text` and `fit_parts` say that the statement is a script of parts that fit.
-/

namespace TableScaffold.Sql

open Reading (commas commas_eq_joined creationWords joined targetWords)

/-! ## Tables -/

/-- A name that can stand between backticks. -/
structure Name where
  text : String
  plain : '\\' ∉ text.toList ∧ '\x00' ∉ text.toList

/-- A recognised type word in any letter case, with what it stands for. -/
structure TypeWord where
  word : String
  kind : String × SemanticType × PersistenceType
  recognised : kind ∈ typeWords
  spelled : String.ofList (word.toList.map Char.toLower) = kind.1

/-- The word in capital letters. -/
def TypeWord.key (w : TypeWord) : String := String.ofList (w.word.toList.map Char.toUpper)

/-- A column. `nullable` is the word on null, if there is one: `NULL` or `NOT NULL`. -/
structure DeclaredColumn where
  name : Name
  named : name.text ≠ ""
  type : TypeWord
  length : Option Nat
  readable : ∀ n ∈ length, n < 10 ^ Decimal.digitLimit
  nullable : Option Bool

/-- An index over at least one column. -/
structure DeclaredIndex where
  name : Name
  columns : List Name
  nonempty : columns ≠ []

/-- A foreign key of one column. -/
structure DeclaredKey where
  column : Name
  table : Name
  remote : Name
  onDelete : Option ReferentialAction
  onUpdate : Option ReferentialAction

/-- A table with at least one column. -/
structure DeclaredTable where
  name : Name
  named : name.text ≠ ""
  columns : List DeclaredColumn
  nonempty : columns ≠ []
  indexes : List DeclaredIndex
  keys : List DeclaredKey

/-- Whether a table has none of the names that are found as words even between quotes: the table itself
in front of its entries, and the tables that its keys refer to. -/
structure DeclaredTable.Legible (t : DeclaredTable) : Prop where
  name : Text.upper t.name.text ∉ creationWords
  targets : ∀ k ∈ t.keys, Text.upper k.table.text ∉ targetWords

/-! ## Type words -/

/-- A letter whose lower-case form is a small ASCII letter. -/
theorem letter_of_toLower {c : Char} (h : c.toLower.isLower = true) :
    c.isAlpha = true ∧ c.toUpper = c.toLower.toUpper := by
  have hc : c.toNat < 128 := by
    refine Text.toNat_lt_of_isAlphanum ?_
    by_cases hup : c.isUpper = true
    · delta Char.isAlphanum Char.isAlpha
      simp [hup]
    · have hself : c.toLower = c := by
        unfold Char.toLower
        rw [dif_neg]
        exact fun hin => hup (decide_eq_true hin)
      rw [hself] at h
      delta Char.isAlphanum Char.isAlpha
      simp [h]
  have key := Text.ascii_all
    (p := fun c => !c.toLower.isLower || (c.isAlpha && c.toUpper == c.toLower.toUpper))
    (by decide +kernel) hc
  simpa [h] using key

namespace TypeWord

theorem letters (w : TypeWord) : ∀ c ∈ w.word.toList, c.toLower.isLower = true := by
  have hall : ∀ k ∈ typeWords, k.1.toList.all Char.isLower = true := by decide +kernel
  intro c hc
  refine List.all_eq_true.1 (hall w.kind w.recognised) _ ?_
  rw [← w.spelled, String.toList_ofList]
  exact List.mem_map_of_mem hc

theorem key_eq (w : TypeWord) : w.key = String.ofList (w.kind.1.toList.map Char.toUpper) := by
  rw [key, ← w.spelled, String.toList_ofList, List.map_map]
  congr 1
  exact List.map_congr_left fun c hc => (letter_of_toLower (w.letters c hc)).2

theorem key_mem (w : TypeWord) : w.key ∈ typeKeys := by
  have hall : ∀ k ∈ typeWords, String.ofList (k.1.toList.map Char.toUpper) ∈ typeKeys := by
    decide +kernel
  rw [w.key_eq]
  exact hall w.kind w.recognised

/-- The types of the word are those of the schema. -/
theorem typesOf?_key (w : TypeWord) : typesOf? (some w.key) = some w.kind.2 := by
  have hall : ∀ k ∈ typeWords,
      typesOf? (some (String.ofList (k.1.toList.map Char.toUpper))) = some k.2 := by
    decide +kernel
  rw [w.key_eq]
  exact hall w.kind w.recognised

theorem upper_word (w : TypeWord) : Text.upper w.word = w.key := by
  refine Text.upper_ascii fun c hc => Text.toNat_lt_of_isAlphanum ?_
  simp [Char.isAlphanum, (letter_of_toLower (w.letters c hc)).1]

theorem isWordText_word (w : TypeWord) : isWordText w.word = true := by
  have hletters := w.letters
  have hne : w.word.toList ≠ [] := by
    intro hnil
    have hall : ∀ k ∈ typeWords, k.1 ≠ "" := by decide
    refine hall w.kind w.recognised ?_
    rw [← w.spelled, hnil]
    rfl
  unfold isWordText
  cases hw : w.word.toList with
  | nil => exact absurd hw hne
  | cons c cs =>
    rw [hw] at hletters
    have hc := (letter_of_toLower (hletters c List.mem_cons_self)).1
    have hcs : cs.all inTypeWord = true := by
      rw [List.all_eq_true]
      intro x hx
      have hx := (letter_of_toLower (hletters x (List.mem_cons_of_mem _ hx))).1
      simp [inTypeWord, Char.isAlphanum, hx]
    simp [startsTypeWord, hc, hcs]

end TypeWord

/-! ## Their statements -/

/-- A name between backticks, in which a backtick is written twice. -/
def Name.quoted (n : Name) : String :=
  "\x60" ++ String.ofList (doubled '\x60' n.text.toList) ++ "\x60"

/-- A length in parentheses. -/
def sizeText : Option Nat → String
  | none => ""
  | some n => "(" ++ toString n ++ ")"

/-- The word on null after a type. -/
def nullText : Option Bool → String
  | none => ""
  | some true => " NULL"
  | some false => " NOT NULL"

/-- What a foreign key reacts to. -/
inductive KeyEvent where
  | delete
  | update
  deriving DecidableEq, Repr

/-- The word of an event. -/
def KeyEvent.word : KeyEvent → String
  | delete => "DELETE"
  | update => "UPDATE"

/-- An event with its action. -/
def KeyEvent.text (e : KeyEvent) : Option ReferentialAction → String
  | none => ""
  | some a => " ON " ++ e.word ++ " " ++ " ".intercalate a.spelling

def DeclaredColumn.text (c : DeclaredColumn) : String :=
  c.name.quoted ++ " " ++ c.type.word ++ sizeText c.length ++ nullText c.nullable

def DeclaredIndex.text (i : DeclaredIndex) : String :=
  "INDEX " ++ i.name.quoted ++ " (" ++ ", ".intercalate (i.columns.map Name.quoted) ++ ")"

def DeclaredKey.text (k : DeclaredKey) : String :=
  "FOREIGN KEY (" ++ k.column.quoted ++ ") REFERENCES " ++ k.table.quoted ++
    " (" ++ k.remote.quoted ++ ")" ++ KeyEvent.delete.text k.onDelete ++ KeyEvent.update.text k.onUpdate

/-- The columns, then the indexes, then the foreign keys. -/
def DeclaredTable.entryTexts (t : DeclaredTable) : List String :=
  t.columns.map DeclaredColumn.text ++ t.indexes.map DeclaredIndex.text ++ t.keys.map DeclaredKey.text

/-- The statement that creates a table. -/
def DeclaredTable.text (t : DeclaredTable) : String :=
  "CREATE TABLE " ++ t.name.quoted ++ " ( " ++ ", ".intercalate t.entryTexts ++ " )"

/-! ## Their schemas -/

/-- A column of the schema. -/
def DeclaredColumn.column (c : DeclaredColumn) : Column where
  name := c.name.text
  sqlType := c.type.key
  semanticType := c.type.kind.2.1
  persistenceType := c.type.kind.2.2
  isOptional := c.nullable == some true
  length := c.length.map Int.ofNat

/-- An index of the schema. An empty name counts as none, here and among the columns. -/
def DeclaredIndex.index (i : DeclaredIndex) : Index where
  name := if i.name.text = "" then none else some i.name.text
  fields := ", ".intercalate ((i.columns.map Name.text).filter (· ≠ ""))

/-- A relation of the schema, in a table with the given columns. -/
def DeclaredKey.relation (columns : List String) (k : DeclaredKey) : Relation where
  name := Extraction.relationName columns k.column.text
  relatedModel := Extraction.relatedModel k.table.text
  field := k.column.text
  references := k.remote.text
  onDelete := k.onDelete.getD .noAction
  onUpdate := k.onUpdate.getD .noAction

/-- The schema of a table. -/
def DeclaredTable.schema (t : DeclaredTable) : TableSchema where
  tableName := t.name.text
  columns := t.columns.map DeclaredColumn.column
  relations := t.keys.map (DeclaredKey.relation (t.columns.map (·.name.text)))
  indexes := t.indexes.map DeclaredIndex.index

/-! ## Their parts -/

/-- Words, each with a blank in front. -/
def wordParts (ws : List String) : List Part := ws.flatMap fun w => [.blank ' ', .word w]

def sizeParts : Option Nat → List Part
  | none => []
  | some n => [.mark '(', .number (toString n), .mark ')']

def nullParts : Option Bool → List Part
  | none => []
  | some true => wordParts ["NULL"]
  | some false => wordParts ["NOT", "NULL"]

def KeyEvent.parts (e : KeyEvent) : Option ReferentialAction → List Part
  | none => []
  | some a => wordParts ("ON" :: e.word :: a.spelling)

/-- A parenthesized list. -/
def listParts (items : List (List Part)) : List Part :=
  .mark '(' :: (commas items ++ [.mark ')'])

def DeclaredColumn.parts (c : DeclaredColumn) : List Part :=
  .name c.name.text :: .blank ' ' :: .word c.type.word :: (sizeParts c.length ++ nullParts c.nullable)

def DeclaredIndex.parts (i : DeclaredIndex) : List Part :=
  .word "INDEX" :: .blank ' ' :: .name i.name.text :: .blank ' ' ::
    listParts (i.columns.map fun n => [.name n.text])

def DeclaredKey.parts (k : DeclaredKey) : List Part :=
  .word "FOREIGN" :: (wordParts ["KEY"] ++ .blank ' ' :: (listParts [[.name k.column.text]] ++
    (wordParts ["REFERENCES"] ++ .blank ' ' :: .name k.table.text :: .blank ' ' ::
      (listParts [[.name k.remote.text]] ++
        (KeyEvent.delete.parts k.onDelete ++ KeyEvent.update.parts k.onUpdate)))))

/-- All entries of a table. -/
def DeclaredTable.entryParts (t : DeclaredTable) : List (List Part) :=
  t.columns.map DeclaredColumn.parts ++ t.indexes.map DeclaredIndex.parts ++
    t.keys.map DeclaredKey.parts

def DeclaredTable.parts (t : DeclaredTable) : List Part :=
  .word "CREATE" :: (wordParts ["TABLE"] ++ .blank ' ' :: .name t.name.text :: .blank ' ' ::
    .mark '(' :: .blank ' ' :: (commas t.entryParts ++ [.blank ' ', .mark ')']))

/-! ## The statement is the script of its parts -/

theorem toList_quoted (n : Name) : n.quoted.toList = (Part.name n.text).chars := by
  have hquote : "\x60".toList = ['\x60'] := by decide
  simp only [Name.quoted, String.toList_append, String.toList_ofList, hquote]
  rfl

theorem toList_sizeText (o : Option Nat) : (sizeText o).toList = script (sizeParts o) := by
  have hopen : "(".toList = ['('] := by decide
  have hclose : ")".toList = [')'] := by decide
  cases o with
  | none => rfl
  | some n =>
    simp only [sizeText, sizeParts, String.toList_append, hopen, hclose]
    simp [Part.chars]

theorem toList_nullText (o : Option Bool) : (nullText o).toList = script (nullParts o) := by
  match o with
  | none => rfl
  | some true => decide
  | some false => decide

theorem KeyEvent.toList_text (e : KeyEvent) (o : Option ReferentialAction) :
    (e.text o).toList = script (e.parts o) := by
  cases o with
  | none => rfl
  | some a => cases e <;> cases a <;> decide +kernel

/-- Texts between commas are parts between commas, with the same layout behind every comma. -/
theorem toList_intercalate {sep : String} {gap : List Part} (hsep : sep.toList = ',' :: script gap)
    {texts : List String} {items : List (List Part)}
    (h : texts.map String.toList = items.map script) :
    (sep.intercalate texts).toList = script (joined gap items) := by
  induction texts generalizing items with
  | nil =>
    cases items with
    | nil => rfl
    | cons => exact absurd h (by simp)
  | cons t texts ih =>
    cases items with
    | nil => exact absurd h (by simp)
    | cons p items =>
      obtain ⟨ht, hrest⟩ := List.cons.inj h
      have ih := ih hrest
      cases texts with
      | nil =>
        cases items with
        | nil => rw [String.intercalate_singleton, ht, joined]
        | cons => exact absurd hrest (by simp)
      | cons u texts =>
        cases items with
        | nil => exact absurd hrest (by simp)
        | cons q items =>
          rw [String.intercalate_cons_cons, String.toList_append, String.toList_append, ih, ht, hsep,
            joined, script_append]
          simp [Part.chars]

theorem toList_commas {texts : List String} {items : List (List Part)}
    (h : texts.map String.toList = items.map script) :
    (", ".intercalate texts).toList = script (commas items) := by
  have hcomma : ", ".toList = ',' :: script [.blank ' '] := by decide
  rw [commas_eq_joined, toList_intercalate hcomma h]

theorem DeclaredColumn.toList_text (c : DeclaredColumn) : c.text.toList = script c.parts := by
  have hblank : " ".toList = [' '] := by decide
  simp only [DeclaredColumn.text, String.toList_append, toList_quoted, toList_sizeText,
    toList_nullText, hblank, DeclaredColumn.parts, script_cons, script_append, List.append_assoc]
  rfl

theorem toList_quoted_list (ns : List Name) :
    (", ".intercalate (ns.map Name.quoted)).toList =
      script (commas (ns.map fun n => [.name n.text])) := by
  refine toList_commas ?_
  rw [List.map_map, List.map_map]
  refine List.map_congr_left fun n _ => ?_
  simp [toList_quoted]

theorem DeclaredIndex.toList_text (i : DeclaredIndex) : i.text.toList = script i.parts := by
  have hindex : "INDEX ".toList = "INDEX".toList ++ [' '] := by decide
  have hopen : " (".toList = [' ', '('] := by decide
  have hclose : ")".toList = [')'] := by decide
  simp only [DeclaredIndex.text, String.toList_append, toList_quoted, toList_quoted_list, hindex,
    hopen, hclose, DeclaredIndex.parts, listParts, script_cons, script_append, List.append_assoc]
  rfl

theorem DeclaredKey.toList_text (k : DeclaredKey) : k.text.toList = script k.parts := by
  have hforeign : "FOREIGN KEY (".toList =
      "FOREIGN".toList ++ (script (wordParts ["KEY"]) ++ [' ', '(']) := by
    decide +kernel
  have hrefers : ") REFERENCES ".toList = ')' :: (script (wordParts ["REFERENCES"]) ++ [' ']) := by
    decide +kernel
  have hopen : " (".toList = [' ', '('] := by decide
  have hclose : ")".toList = [')'] := by decide
  unfold DeclaredKey.text
  simp only [String.toList_append, toList_quoted, hforeign, hrefers, hopen, hclose,
    KeyEvent.toList_text, DeclaredKey.parts, listParts, commas,
    script_cons, script_append, List.append_assoc]
  simp [Part.chars]

/-- The statement of a table is the script of its parts. -/
theorem DeclaredTable.toList_text (t : DeclaredTable) : t.text.toList = script t.parts := by
  have hcreate : "CREATE TABLE ".toList =
      "CREATE".toList ++ (script (wordParts ["TABLE"]) ++ [' ']) := by
    decide +kernel
  have hopen : " ( ".toList = [' ', '(', ' '] := by decide
  have hclose : " )".toList = [' ', ')'] := by decide
  have hentries : (", ".intercalate t.entryTexts).toList = script (commas t.entryParts) := by
    refine toList_commas ?_
    simp only [DeclaredTable.entryTexts, DeclaredTable.entryParts, List.map_append, List.map_map,
      Function.comp_def, DeclaredColumn.toList_text, DeclaredIndex.toList_text,
      DeclaredKey.toList_text]
  unfold DeclaredTable.text
  simp only [String.toList_append, hentries, toList_quoted, hcreate, hopen, hclose,
    DeclaredTable.parts, script_cons, script_append, List.append_assoc]
  rfl

/-! ## The parts fit -/

/-- Whether parts fit and may stand behind a word. -/
structure Trails (ps : List Part) : Prop where
  fit : Fit .mysql ps
  endsWord : EndsWord (script ps)

variable {ps : List Part}

theorem trails_nil : Trails [] := ⟨trivial, by simp [EndsWord]⟩

theorem trails_blank (h : Fit .mysql ps) : Trails (.blank ' ' :: ps) := by
  have hblank : Text.isBlank ' ' = true := by decide
  exact ⟨⟨hblank, h⟩, endsWord_blank hblank ps⟩

theorem trails_mark {c : Char} (hc : c ∈ closers) (h : Fit .mysql ps) : Trails (.mark c :: ps) :=
  ⟨⟨hc, h⟩, endsWord_mark hc ps⟩

theorem fit_word {w : String} (hw : isWordText w = true) (h : Trails ps) :
    Fit .mysql (.word w :: ps) :=
  ⟨⟨hw, h.endsWord⟩, h.fit⟩

theorem fit_name (n : Name) (h : Trails ps) : Fit .mysql (.name n.text :: ps) := by
  refine ⟨⟨rfl, n.plain.1, ?_⟩, h.fit⟩
  intro hhead
  rcases h.endsWord _ hhead with hblank | hcloser
  · exact absurd hblank (by decide)
  · exact absurd hcloser (by decide)

theorem trails_wordParts (ws : List String) (hws : ∀ w ∈ ws, isWordText w = true) (h : Trails ps) :
    Trails (wordParts ws ++ ps) := by
  induction ws with
  | nil => exact h
  | cons w ws ih =>
    have ih := ih fun v hv => hws v (List.mem_cons_of_mem _ hv)
    exact trails_blank (fit_word (hws w List.mem_cons_self) ih)

theorem fit_joined (gap : List Part) (hgap : ∀ qs, Fit .mysql qs → Fit .mysql (gap ++ qs))
    {items : List (List Part)} (hitems : ∀ p ∈ items, ∀ qs, Trails qs → Fit .mysql (p ++ qs))
    (h : Trails ps) : Fit .mysql (joined gap items ++ ps) := by
  induction items with
  | nil => exact h.fit
  | cons p items ih =>
    have hp := hitems p List.mem_cons_self
    have ih := ih fun q hq => hitems q (List.mem_cons_of_mem _ hq)
    cases items with
    | nil => exact hp ps h
    | cons q items =>
      rw [joined, List.append_assoc, List.cons_append, List.append_assoc]
      exact hp _ (trails_mark (by decide) (hgap _ ih))

theorem fit_commas {items : List (List Part)}
    (hitems : ∀ p ∈ items, ∀ qs, Trails qs → Fit .mysql (p ++ qs)) (h : Trails ps) :
    Fit .mysql (commas items ++ ps) := by
  rw [commas_eq_joined]
  exact fit_joined [.blank ' '] (fun _ hqs => (trails_blank hqs).fit) hitems h

theorem trails_listParts {items : List (List Part)}
    (hitems : ∀ p ∈ items, ∀ qs, Trails qs → Fit .mysql (p ++ qs)) (h : Fit .mysql ps) :
    Trails (listParts items ++ ps) := by
  have hclose : Trails ([.mark ')'] ++ ps) := trails_mark (by decide) h
  have hopen := trails_mark (c := '(') (by decide) (fit_commas hitems hclose)
  rwa [listParts, List.cons_append, List.append_assoc]

/-- A list of names in parentheses. -/
theorem trails_names (ns : List Name) (h : Fit .mysql ps) :
    Trails (listParts (ns.map fun n => [.name n.text]) ++ ps) := by
  refine trails_listParts ?_ h
  rintro p hp qs hqs
  obtain ⟨n, -, rfl⟩ := List.mem_map.1 hp
  exact fit_name n hqs

theorem trails_sizeParts (o : Option Nat) (h : Trails ps) : Trails (sizeParts o ++ ps) := by
  cases o with
  | none => exact h
  | some n =>
    have hclose := trails_mark (c := ')') (by decide) h.fit
    refine trails_mark (by decide) ⟨⟨Decimal.toString_ne_nil n, ?_, hclose.endsWord⟩, hclose.fit⟩
    exact fun c hc => Decimal.isDigit_toString hc

theorem trails_nullParts (o : Option Bool) (h : Trails ps) : Trails (nullParts o ++ ps) := by
  match o with
  | none => exact h
  | some true => exact trails_wordParts ["NULL"] (by decide) h
  | some false => exact trails_wordParts ["NOT", "NULL"] (by decide) h

theorem KeyEvent.trails_parts (e : KeyEvent) (o : Option ReferentialAction) (h : Trails ps) :
    Trails (e.parts o ++ ps) := by
  cases o with
  | none => exact h
  | some a =>
    refine trails_wordParts _ ?_ h
    cases e <;> cases a <;> decide

theorem DeclaredColumn.fit_parts (c : DeclaredColumn) (h : Trails ps) :
    Fit .mysql (c.parts ++ ps) := by
  have htype := fit_word c.type.isWordText_word
    (trails_sizeParts c.length (trails_nullParts c.nullable h))
  have := fit_name c.name (trails_blank htype)
  rwa [← List.append_assoc] at this

theorem DeclaredIndex.fit_parts (i : DeclaredIndex) (h : Trails ps) :
    Fit .mysql (i.parts ++ ps) :=
  fit_word (by decide)
    (trails_blank (fit_name i.name (trails_blank (trails_names i.columns h.fit).fit)))

theorem DeclaredKey.fit_parts (k : DeclaredKey) (h : Trails ps) : Fit .mysql (k.parts ++ ps) := by
  have hevents := KeyEvent.delete.trails_parts k.onDelete (KeyEvent.update.trails_parts k.onUpdate h)
  have hremote := trails_names [k.remote] hevents.fit
  have htable := fit_name k.table (trails_blank hremote.fit)
  have hrefers := trails_wordParts ["REFERENCES"] (by decide) (trails_blank htable)
  have hcolumn := trails_names [k.column] hrefers.fit
  have hkey := trails_wordParts ["KEY"] (by decide) (trails_blank hcolumn.fit)
  have hforeign := fit_word (w := "FOREIGN") (by decide) hkey
  simpa [parts] using hforeign

/-- All parts of the statement of a table fit. -/
theorem DeclaredTable.fit_parts (t : DeclaredTable) : Fit .mysql t.parts := by
  have hitems : ∀ p ∈ t.entryParts, ∀ qs, Trails qs → Fit .mysql (p ++ qs) := by
    intro p hp qs hqs
    simp only [entryParts, List.mem_append, List.mem_map] at hp
    rcases hp with (⟨c, -, rfl⟩ | ⟨i, -, rfl⟩) | ⟨k, -, rfl⟩
    · exact c.fit_parts hqs
    · exact i.fit_parts hqs
    · exact k.fit_parts hqs
  have hclose := trails_blank (trails_mark (c := ')') (by decide) trails_nil.fit).fit
  have hopen := trails_mark (c := '(') (by decide) (trails_blank (fit_commas hitems hclose)).fit
  have hname := fit_name t.name (trails_blank hopen.fit)
  exact fit_word (by decide) (trails_wordParts ["TABLE"] (by decide) (trails_blank hname))

/-! ## No semicolon -/

theorem mark_mem_commas {c : Char} {items : List (List Part)} (h : .mark c ∈ commas items) :
    c = ',' ∨ ∃ p ∈ items, .mark c ∈ p := by
  induction items with
  | nil => exact absurd h (by simp [commas])
  | cons p items ih =>
    cases items with
    | nil => exact .inr ⟨p, by simp, h⟩
    | cons q items =>
      simp only [commas, List.mem_append, List.mem_cons, reduceCtorEq, Part.mark.injEq, false_or] at h
      rcases h with h | rfl | h
      · exact .inr ⟨p, by simp, h⟩
      · exact .inl rfl
      · rcases ih h with rfl | ⟨r, hr, h⟩
        · exact .inl rfl
        · exact .inr ⟨r, List.mem_cons_of_mem _ hr, h⟩

@[simp] theorem not_mark_mem_wordParts (c : Char) (ws : List String) : .mark c ∉ wordParts ws := by
  simp [wordParts]

theorem semicolon_not_mem_listParts {items : List (List Part)} (h : ∀ p ∈ items, .mark ';' ∉ p) :
    .mark ';' ∉ listParts items := by
  intro hm
  simp only [listParts, List.mem_cons, List.mem_append, Part.mark.injEq, List.not_mem_nil,
    or_false] at hm
  rcases hm with hm | hm | hm
  · exact absurd hm (by decide)
  · rcases mark_mem_commas hm with hc | ⟨p, hp, hm⟩
    · exact absurd hc (by decide)
    · exact h p hp hm
  · exact absurd hm (by decide)

theorem DeclaredColumn.semicolon_not_mem_parts (c : DeclaredColumn) : .mark ';' ∉ c.parts := by
  have hsize : .mark ';' ∉ sizeParts c.length := by cases c.length <;> simp [sizeParts]
  have hnull : .mark ';' ∉ nullParts c.nullable := by
    match c.nullable with
    | none => simp [nullParts]
    | some true => simp [nullParts]
    | some false => simp [nullParts]
  simp [parts, hsize, hnull]

theorem KeyEvent.not_mark_mem_parts (e : KeyEvent) (c : Char) (o : Option ReferentialAction) :
    .mark c ∉ e.parts o := by
  cases o <;> simp [parts]

theorem semicolon_not_mem_names (ns : List Name) :
    .mark ';' ∉ listParts (ns.map fun n => [.name n.text]) := by
  refine semicolon_not_mem_listParts ?_
  rintro p hp
  obtain ⟨n, -, rfl⟩ := List.mem_map.1 hp
  simp

theorem DeclaredIndex.semicolon_not_mem_parts (i : DeclaredIndex) : .mark ';' ∉ i.parts := by
  simp [parts, semicolon_not_mem_names]

theorem DeclaredKey.semicolon_not_mem_parts (k : DeclaredKey) : .mark ';' ∉ k.parts := by
  have hcolumn := semicolon_not_mem_names [k.column]
  have hremote := semicolon_not_mem_names [k.remote]
  simp only [List.map_cons, List.map_nil] at hcolumn hremote
  simp [parts, hcolumn, hremote, KeyEvent.not_mark_mem_parts]

/-- The statement of a table holds no semicolon outside names. -/
theorem DeclaredTable.semicolon_not_mem_parts (t : DeclaredTable) : .mark ';' ∉ t.parts := by
  have hentries : .mark ';' ∉ commas t.entryParts := by
    intro hm
    rcases mark_mem_commas hm with hc | ⟨p, hp, hm⟩
    · exact absurd hc (by decide)
    · simp only [entryParts, List.mem_append, List.mem_map] at hp
      rcases hp with (⟨c, -, rfl⟩ | ⟨i, -, rfl⟩) | ⟨k, -, rfl⟩
      · exact c.semicolon_not_mem_parts hm
      · exact i.semicolon_not_mem_parts hm
      · exact k.semicolon_not_mem_parts hm
  simp [parts, hentries]

end TableScaffold.Sql
