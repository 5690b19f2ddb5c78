import TableScaffold.Proofs.Sql.Column

/-!
# Tables written by hand

A written table is a CREATE TABLE statement that every dialect can read: unquoted names, type words and
keywords in any letter case, and blanks wherever the grammar allows them. Each structure has its text
and its parts; `WrittenTable.declared` is the table that it declares, without the layout.

`toList_text` and `fit_parts` say that the text is a script of parts that fit, in every dialect. Without
quoted names the parts fit in one dialect as in any other (`fit_append_of_bare`), so what is known of the
parts of a declared table serves here too.
-/

namespace TableScaffold.Sql

open Reading (joined)

/-! ## Tables -/

/-- The blanks of a layout. -/
def layoutBlanks : List Char := [' ', '\t', '\n', '\r']

/-- A run of blanks, perhaps an empty one. -/
structure Space where
  text : String
  blank : text.toList.all (layoutBlanks.contains ·) = true

/-- A run of at least one blank. -/
structure Gap extends Space where
  nonempty : text ≠ ""

/-- A keyword in any letter case. -/
structure Keyword (w : String) where
  text : String
  spelled : String.ofList (text.toList.map Char.toUpper) = w

/-- An unquoted name: a letter, then letters, digits and underscores. -/
structure PlainName where
  text : String
  word : isWordText text = true
  letter : text.toList.head?.any Char.isAlpha = true
  free : String.ofList (text.toList.map Char.toUpper) ∉ specialWords

/-- A length in parentheses, in decimal digits. -/
structure WrittenLength where
  before : Space
  inner : Space
  digits : String
  nonempty : digits.toList ≠ []
  decimal : ∀ c ∈ digits.toList, c.isDigit = true
  readable : digits.toList.length ≤ Decimal.digitLimit
  after : Space

/-- The words `NOT NULL` behind a type. -/
structure NotNull where
  before : Gap
  negation : Keyword "NOT"
  between : Gap
  null : Keyword "NULL"

/-- A column. Only the types of bounded texts have a length. -/
structure WrittenColumn where
  before : Space
  name : PlainName
  between : Gap
  type : TypeWord
  length : Option WrittenLength
  sized : length.isSome = true → type.key ∈ ["VARCHAR", "CHAR"]
  notNull : Option NotNull
  after : Space

/-- A table with at least one column. A semicolon may end the statement, with a space behind it. -/
structure WrittenTable where
  start : Space
  create : Keyword "CREATE"
  first : Gap
  table : Keyword "TABLE"
  second : Gap
  name : PlainName
  before : Space
  columns : List WrittenColumn
  nonempty : columns ≠ []
  after : Space
  semicolon : Option Space

/-! ## Their statements -/

/-- The number that the digits of a length stand for. -/
def WrittenLength.number (l : WrittenLength) : Nat := Nat.ofDigitChars 10 l.digits.toList 0

def WrittenLength.text (l : WrittenLength) : String :=
  l.before.text ++ "(" ++ l.inner.text ++ l.digits ++ l.after.text ++ ")"

def NotNull.text (n : NotNull) : String :=
  n.before.text ++ n.negation.text ++ n.between.text ++ n.null.text

def WrittenColumn.text (c : WrittenColumn) : String :=
  c.before.text ++ c.name.text ++ c.between.text ++ c.type.word ++
    c.length.elim "" WrittenLength.text ++ c.notNull.elim "" NotNull.text ++ c.after.text

/-- The statement that creates a table. -/
def WrittenTable.text (t : WrittenTable) : String :=
  t.start.text ++ t.create.text ++ t.first.text ++ t.table.text ++ t.second.text ++ t.name.text ++
    t.before.text ++ "(" ++ ",".intercalate (t.columns.map WrittenColumn.text) ++ ")" ++
    t.after.text ++ t.semicolon.elim "" fun s => ";" ++ s.text

/-! ## What they declare -/

theorem PlainName.inTypeWord_of_mem (n : PlainName) {c : Char} (h : c ∈ n.text.toList) :
    inTypeWord c = true := by
  obtain ⟨x, xs, hxs, hx, hall⟩ := isWordText_cons n.word
  rw [hxs] at h
  rcases List.mem_cons.1 h with rfl | h
  · exact inTypeWord_of_starts hx
  · exact hall c h

/-- A letter, a digit or an underscore is no backslash and no null character. -/
theorem PlainName.plain (n : PlainName) : '\\' ∉ n.text.toList ∧ '\x00' ∉ n.text.toList :=
  ⟨fun h => absurd (n.inTypeWord_of_mem h) (by decide),
    fun h => absurd (n.inTypeWord_of_mem h) (by decide)⟩

theorem PlainName.text_ne (n : PlainName) : n.text ≠ "" := by
  intro h
  have hword := n.word
  rw [h] at hword
  exact absurd hword (by decide)

/-- A length is below the limit on numbers. -/
theorem WrittenLength.number_lt (l : WrittenLength) : l.number < 10 ^ Decimal.digitLimit := by
  have hlt := Decimal.ofDigitChars_lt l.decimal 0
  rw [Nat.zero_add, Nat.one_mul] at hlt
  exact Nat.lt_of_lt_of_le hlt (Nat.pow_le_pow_right (by decide) l.readable)

/-- The column without its layout. -/
def WrittenColumn.declared (c : WrittenColumn) : DeclaredColumn where
  name := ⟨c.name.text, c.name.plain⟩
  named := c.name.text_ne
  type := c.type
  length := c.length.map WrittenLength.number
  readable n hn := by
    obtain ⟨l, -, rfl⟩ := Option.map_eq_some_iff.1 hn
    exact l.number_lt
  nullable := c.notNull.map fun _ => false

/-- The table without its layout. -/
def WrittenTable.declared (t : WrittenTable) : DeclaredTable where
  name := ⟨t.name.text, t.name.plain⟩
  named := t.name.text_ne
  columns := t.columns.map WrittenColumn.declared
  nonempty := by simpa using t.nonempty
  indexes := []
  keys := []

/-! ## Their parts -/

/-- Any characters, as if they were blanks. -/
def blanks (cs : List Char) : List Part := cs.map .blank

@[simp] theorem script_blanks (cs : List Char) : script (blanks cs) = cs := by
  induction cs with
  | nil => rfl
  | cons c cs ih => exact congrArg (c :: ·) ih

@[simp] theorem tokens_blanks (cs : List Char) : tokens (blanks cs) = [] := by
  induction cs with
  | nil => rfl
  | cons c cs ih => exact ih

def Space.parts (s : Space) : List Part := blanks s.text.toList

def WrittenLength.parts (l : WrittenLength) : List Part :=
  l.before.parts ++ .mark '(' :: (l.inner.parts ++ .number l.digits :: (l.after.parts ++ [.mark ')']))

def NotNull.parts (n : NotNull) : List Part :=
  n.before.parts ++ .word n.negation.text :: (n.between.parts ++ [.word n.null.text])

/-- What stands behind the type of a column. -/
def WrittenColumn.tailParts (c : WrittenColumn) : List Part :=
  c.notNull.elim [] NotNull.parts ++ c.after.parts

/-- What stands behind the type word. -/
def WrittenColumn.behindType (c : WrittenColumn) : List Part :=
  c.length.elim [] WrittenLength.parts ++ c.tailParts

def WrittenColumn.parts (c : WrittenColumn) : List Part :=
  c.before.parts ++
    .word c.name.text :: (c.between.parts ++ .word c.type.word :: c.behindType)

/-- The statement up to its semicolon. -/
def WrittenTable.parts (t : WrittenTable) : List Part :=
  t.start.parts ++ .word t.create.text :: (t.first.parts ++ .word t.table.text ::
    (t.second.parts ++ .word t.name.text :: (t.before.parts ++ .mark '(' ::
      (joined [] (t.columns.map WrittenColumn.parts) ++ .mark ')' :: t.after.parts))))

/-- The semicolon with what follows. -/
def WrittenTable.endParts (t : WrittenTable) : List Part :=
  t.semicolon.elim [] fun s => .mark ';' :: s.parts

/-! ## The statement is the script of its parts -/

@[simp] theorem Space.script_parts (s : Space) : script s.parts = s.text.toList :=
  script_blanks s.text.toList

theorem WrittenLength.toList_text (l : WrittenLength) : l.text.toList = script l.parts := by
  have hopen : "(".toList = ['('] := by decide
  have hclose : ")".toList = [')'] := by decide
  simp [text, parts, hopen, hclose, Part.chars]

theorem NotNull.toList_text (n : NotNull) : n.text.toList = script n.parts := by
  simp [text, parts, Part.chars]

/-- An absent part has no text and no parts. -/
theorem toList_elim {α : Type} {text : α → String} {parts : α → List Part}
    (h : ∀ a, (text a).toList = script (parts a)) (o : Option α) :
    (o.elim "" text).toList = script (o.elim [] parts) := by
  cases o with
  | none => rfl
  | some a => exact h a

theorem WrittenColumn.toList_text (c : WrittenColumn) : c.text.toList = script c.parts := by
  simp [text, parts, behindType, tailParts, toList_elim WrittenLength.toList_text,
    toList_elim NotNull.toList_text, Part.chars]

/-- The statement of a table is the script of its parts. -/
theorem WrittenTable.toList_text (t : WrittenTable) :
    t.text.toList = script (t.parts ++ t.endParts) := by
  have hopen : "(".toList = ['('] := by decide
  have hclose : ")".toList = [')'] := by decide
  have hcomma : ",".toList = ',' :: script [] := by decide
  have hsemicolon : ";".toList = [';'] := by decide
  have hcolumns : (",".intercalate (t.columns.map WrittenColumn.text)).toList =
      script (joined [] (t.columns.map WrittenColumn.parts)) := by
    refine toList_intercalate hcomma ?_
    simp only [List.map_map, Function.comp_def, WrittenColumn.toList_text]
  have hend : (t.semicolon.elim "" fun s => ";" ++ s.text).toList = script t.endParts :=
    toList_elim (fun s => by simp [hsemicolon, Part.chars]) t.semicolon
  simp [text, parts, hopen, hclose, hcolumns, hend, Part.chars]

/-! ## The parts fit -/

/-- Whether a part is a word, a number, a blank or a mark other than a semicolon. -/
def Part.isBare : Part → Bool
  | name _ | other _ _ _ _ => false
  | mark c => c != ';'
  | word _ | number _ | blank _ => true

theorem all_joined {p : Part → Bool} {gap : List Part} (hcomma : p (.mark ',') = true)
    (hgap : gap.all p = true) {items : List (List Part)} (h : ∀ i ∈ items, i.all p = true) :
    (joined gap items).all p = true := by
  induction items with
  | nil => rfl
  | cons i items ih =>
    have ih := ih fun j hj => h j (List.mem_cons_of_mem _ hj)
    cases items with
    | nil => exact h i List.mem_cons_self
    | cons j items =>
      rw [joined, List.all_append, List.all_cons, List.all_append, h i List.mem_cons_self, hcomma,
        hgap, ih]
      rfl

theorem all_elim {α : Type} {p : Part → Bool} {parts : α → List Part}
    (h : ∀ a, (parts a).all p = true) (o : Option α) : (o.elim [] parts).all p = true := by
  cases o with
  | none => rfl
  | some a => exact h a

@[simp] theorem Space.all_isBare (s : Space) : s.parts.all Part.isBare = true := by
  simp [parts, blanks, Part.isBare]

theorem WrittenColumn.all_isBare (c : WrittenColumn) : c.parts.all Part.isBare = true := by
  have hlength : (c.length.elim [] WrittenLength.parts).all Part.isBare = true :=
    all_elim (fun l => by simp [WrittenLength.parts, Part.isBare]) c.length
  have hnull : (c.notNull.elim [] NotNull.parts).all Part.isBare = true :=
    all_elim (fun n => by simp [NotNull.parts, Part.isBare]) c.notNull
  simp only [parts, behindType, tailParts, List.all_append, List.all_cons, hlength, hnull,
    Space.all_isBare]
  rfl

/-- A statement holds no quoted name and no semicolon. -/
theorem WrittenTable.all_isBare (t : WrittenTable) : t.parts.all Part.isBare = true := by
  have hcolumns : (joined [] (t.columns.map WrittenColumn.parts)).all Part.isBare = true := by
    refine all_joined rfl rfl fun i hi => ?_
    obtain ⟨c, -, rfl⟩ := List.mem_map.1 hi
    exact c.all_isBare
  simp only [parts, List.all_append, List.all_cons, hcolumns, Space.all_isBare]
  rfl

/-- Without quoted names, what fits in one dialect fits in every other. -/
theorem fit_append_of_bare {d : Dialect} {ps qs : List Part} (hps : ps.all Part.isBare = true)
    (h : Fit .mysql (ps ++ qs)) (hqs : Fit d qs) : Fit d (ps ++ qs) := by
  induction ps with
  | nil => exact hqs
  | cons p ps ih =>
    rw [List.all_cons, Bool.and_eq_true] at hps
    obtain ⟨hp, hrest⟩ := h
    refine ⟨?_, ih hps.2 hrest⟩
    -- whether a part fits depends on the dialect for quoted names only
    cases p with
    | name | other => exact absurd hps.1 Bool.false_ne_true
    | word | number | mark | blank => exact hp

variable {ps : List Part}

theorem Space.isBlank_of_mem (s : Space) {c : Char} (h : c ∈ s.text.toList) :
    Text.isBlank c = true := by
  have hall : layoutBlanks.all Text.isBlank = true := by decide
  have hc : c ∈ layoutBlanks := by simpa using List.all_eq_true.1 s.blank c h
  exact List.all_eq_true.1 hall c hc

theorem fit_blanks {d : Dialect} {cs : List Char} (hcs : ∀ c ∈ cs, Text.isBlank c = true)
    (h : Fit d ps) : Fit d (blanks cs ++ ps) := by
  induction cs with
  | nil => exact h
  | cons c cs ih =>
    exact ⟨hcs c List.mem_cons_self, ih fun x hx => hcs x (List.mem_cons_of_mem _ hx)⟩

theorem endsWord_blanks {cs : List Char} (hcs : ∀ c ∈ cs, Text.isBlank c = true) (hne : cs ≠ [])
    (ps : List Part) : EndsWord (script (blanks cs ++ ps)) := by
  obtain ⟨c, cs, rfl⟩ := List.exists_cons_of_ne_nil hne
  exact endsWord_blank (hcs c List.mem_cons_self) (blanks cs ++ ps)

theorem Space.fit_parts {d : Dialect} (s : Space) (h : Fit d ps) : Fit d (s.parts ++ ps) :=
  fit_blanks (fun _ => s.isBlank_of_mem) h

theorem Gap.endsWord_parts (g : Gap) (ps : List Part) : EndsWord (script (g.parts ++ ps)) :=
  endsWord_blanks (fun _ => g.isBlank_of_mem) (fun h => g.nonempty (String.toList_eq_nil_iff.1 h)) ps

theorem Space.endsWord_parts (s : Space) (h : EndsWord (script ps)) :
    EndsWord (script (s.parts ++ ps)) := by
  by_cases hs : s.text = ""
  · have hnil : s.parts = [] := by rw [parts, hs]; rfl
    rwa [hnil]
  · exact Gap.endsWord_parts ⟨s, hs⟩ ps

theorem Gap.trails_parts (g : Gap) (h : Fit .mysql ps) : Trails (g.parts ++ ps) :=
  ⟨g.toSpace.fit_parts h, g.endsWord_parts ps⟩

theorem Space.trails_parts (s : Space) (h : Trails ps) : Trails (s.parts ++ ps) :=
  ⟨s.fit_parts h.fit, s.endsWord_parts h.endsWord⟩

theorem WrittenLength.endsWord_parts (l : WrittenLength) (ps : List Part) :
    EndsWord (script (l.parts ++ ps)) := by
  rw [parts, List.append_assoc]
  exact l.before.endsWord_parts (endsWord_mark (by decide) _)

theorem WrittenLength.fit_parts (l : WrittenLength) (h : Fit .mysql ps) :
    Fit .mysql (l.parts ++ ps) := by
  have hclose := l.after.trails_parts (trails_mark (c := ')') (by decide) h)
  have hdigits : Fit .mysql (.number l.digits :: (l.after.parts ++ .mark ')' :: ps)) :=
    ⟨⟨l.nonempty, l.decimal, hclose.endsWord⟩, hclose.fit⟩
  have hopen := trails_mark (c := '(') (by decide) (l.inner.fit_parts hdigits)
  simpa [parts] using l.before.fit_parts hopen.fit

/-- Only letters have another upper-case form. -/
theorem isAlpha_or_toUpper_eq (c : Char) : c.isAlpha = true ∨ c.toUpper = c := by
  by_cases hlow : c.isLower = true
  · left
    delta Char.isAlpha
    simp [hlow]
  · right
    unfold Char.toUpper
    rw [dif_neg]
    intro hin
    apply hlow
    delta Char.isLower
    simpa using hin

theorem startsTypeWord_of_toUpper {c : Char} (h : startsTypeWord c.toUpper = true) :
    startsTypeWord c = true := by
  rcases isAlpha_or_toUpper_eq c with hc | hc
  · simp [startsTypeWord, hc]
  · rwa [hc] at h

theorem inTypeWord_of_toUpper {c : Char} (h : inTypeWord c.toUpper = true) : inTypeWord c = true := by
  rcases isAlpha_or_toUpper_eq c with hc | hc
  · simp [inTypeWord, Char.isAlphanum, hc]
  · rwa [hc] at h

/-- A keyword in other letters is a word as well. -/
theorem Keyword.isWordText_text {w : String} (k : Keyword w) (hw : isWordText w = true) :
    isWordText k.text = true := by
  obtain ⟨c, cs, hcs, hc, hall⟩ := isWordText_cons hw
  rw [← k.spelled, String.toList_ofList] at hcs
  obtain ⟨x, xs, ht, rfl, rfl⟩ := List.map_eq_cons_iff.1 hcs
  have hxs : xs.all inTypeWord = true :=
    List.all_eq_true.2 fun y hy => inTypeWord_of_toUpper (hall _ (List.mem_map_of_mem hy))
  simp [isWordText, ht, startsTypeWord_of_toUpper hc, hxs]

theorem NotNull.endsWord_parts (n : NotNull) (ps : List Part) : EndsWord (script (n.parts ++ ps)) := by
  rw [parts, List.append_assoc]
  exact n.before.endsWord_parts _

theorem NotNull.fit_parts (n : NotNull) (h : Trails ps) : Fit .mysql (n.parts ++ ps) := by
  have hnull := fit_word (n.null.isWordText_text (by decide)) h
  have hnot := fit_word (n.negation.isWordText_text (by decide)) (n.between.trails_parts hnull)
  simpa [parts] using n.before.fit_parts hnot

namespace WrittenColumn

/-- What stands behind the type word does not run into it. -/
theorem endsWord_behindType (c : WrittenColumn) (h : EndsWord (script ps)) :
    EndsWord (script (c.behindType ++ ps)) := by
  have hafter := c.after.endsWord_parts h
  rw [behindType, List.append_assoc, tailParts, List.append_assoc]
  cases c.length with
  | some l => exact l.endsWord_parts _
  | none =>
    cases c.notNull with
    | some n => exact n.endsWord_parts _
    | none => exact hafter

theorem fit_behindType (c : WrittenColumn) (h : Trails ps) : Fit .mysql (c.behindType ++ ps) := by
  have hafter := c.after.trails_parts h
  have htail : Fit .mysql (c.tailParts ++ ps) := by
    rw [tailParts, List.append_assoc]
    cases c.notNull with
    | none => exact hafter.fit
    | some n => exact n.fit_parts hafter
  rw [behindType, List.append_assoc]
  cases c.length with
  | none => exact htail
  | some l => exact l.fit_parts htail

theorem fit_parts (c : WrittenColumn) (h : Trails ps) : Fit .mysql (c.parts ++ ps) := by
  have htype := fit_word c.type.isWordText_word ⟨c.fit_behindType h, c.endsWord_behindType h.endsWord⟩
  have hname := fit_word c.name.word (c.between.trails_parts htype)
  simpa [parts] using c.before.fit_parts hname

end WrittenColumn

/-- All parts of a statement fit, in every dialect. -/
theorem WrittenTable.fit_parts (t : WrittenTable) (d : Dialect) :
    Fit d (t.parts ++ t.endParts) := by
  have hend (d : Dialect) : Fit d t.endParts := by
    unfold endParts
    cases t.semicolon with
    | none => trivial
    | some s =>
      have hspace : Fit d (s.parts ++ []) := s.fit_parts trivial
      rw [List.append_nil] at hspace
      exact ⟨by simp [Part.Fits, closers], hspace⟩
  have hitems : ∀ p ∈ t.columns.map WrittenColumn.parts, ∀ qs, Trails qs → Fit .mysql (p ++ qs) := by
    intro p hp qs hqs
    obtain ⟨c, -, rfl⟩ := List.mem_map.1 hp
    exact c.fit_parts hqs
  have hclose := trails_mark (c := ')') (by decide) (t.after.fit_parts (hend .mysql))
  have hcolumns : Fit .mysql (joined [] (t.columns.map WrittenColumn.parts) ++
      .mark ')' :: (t.after.parts ++ t.endParts)) :=
    fit_joined [] (fun _ hqs => hqs) hitems hclose
  have hopen := trails_mark (c := '(') (by decide) hcolumns
  have hname := fit_word t.name.word (t.before.trails_parts hopen)
  have htable := fit_word (t.table.isWordText_text (by decide)) (t.second.trails_parts hname)
  have hcreate := fit_word (t.create.isWordText_text (by decide)) (t.first.trails_parts htable)
  refine fit_append_of_bare t.all_isBare ?_ (hend d)
  simpa [parts] using t.start.fit_parts hcreate

end TableScaffold.Sql
