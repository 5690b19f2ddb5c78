import TableScaffold.Proofs.Sql.Declared

/-!
# Quoted texts and numbers

What may stand between quotes, and how a number may be written, in a dialect with backslashes in texts.
Each has a relation or a structure that says what is written, and one lemma that the lexer reads it as
one token in front of whatever may stand behind a word.
-/

namespace TableScaffold.Sql

open Text (isBlank)

variable {rest : List Char} {ps : List Part}

/-! ## Between quotes -/

/-- What is written between two quotes, and what it stands for. A quote is written twice, or behind a
backslash where it may be `masked` by one. A backslash in front of any other character stands for
itself, unless both together stand for a character of their own. -/
inductive QuotedBody (masked : Bool) (quote : Char) : List Char → List Char → Prop
  | nil : QuotedBody masked quote [] []
  | plain {c : Char} {cs vs : List Char} (hc : c ≠ quote ∧ c ≠ '\\')
    (h : QuotedBody masked quote cs vs) : QuotedBody masked quote (c :: cs) (c :: vs)
  | twice {cs vs : List Char} (h : QuotedBody masked quote cs vs) :
    QuotedBody masked quote (quote :: quote :: cs) (quote :: vs)
  | behind {cs vs : List Char} (hmasked : masked = true) (h : QuotedBody masked quote cs vs) :
    QuotedBody masked quote ('\\' :: quote :: cs) (quote :: vs)
  | escape {c v : Char} {cs vs : List Char} (hc : Lexis.escaped c = some v)
    (h : QuotedBody masked quote cs vs) : QuotedBody masked quote ('\\' :: c :: cs) (v :: vs)
  | backslash {cs vs : List Char}
    (hnext : ∀ c ∈ (cs ++ [quote]).head?, Lexis.escaped c = none ∧ (masked = true → c ≠ quote))
    (h : QuotedBody masked quote cs vs) : QuotedBody masked quote ('\\' :: cs) ('\\' :: vs)

/-- A body is read up to its closing quote, which is not written twice. -/
theorem QuotedBody.quotedBody {masked : Bool} {quote : Char} {cs vs : List Char}
    (h : QuotedBody masked quote cs vs) (l : Lexis) (hl : l.backslashEscapes = true)
    (hquote : quote ≠ '\\' ∧ Lexis.escaped quote = none) (hr : rest.head? ≠ some quote) :
    l.quotedBody true masked quote (cs ++ quote :: rest) = some (vs, rest) := by
  have hnonempty (cs : List Char) : ∃ x xs, cs ++ quote :: rest = x :: xs :=
    List.exists_cons_of_ne_nil (by simp)
  induction h with
  | nil =>
    cases rest with
    | nil => simp [Lexis.quotedBody]
    | cons c rest =>
      have hc : c ≠ quote := fun e => hr (by rw [e]; rfl)
      simp [Lexis.quotedBody, hquote.1, hc]
  | @plain c cs vs hc _ ih =>
    obtain ⟨x, xs, hx⟩ := hnonempty cs
    rw [List.cons_append]
    rw [hx] at ih ⊢
    simp [Lexis.quotedBody, hc, ih]
  | twice _ ih => simp [Lexis.quotedBody, hquote.1, ih]
  | behind hmasked _ ih => simp_all [Lexis.quotedBody]
  | escape hc _ ih => simp [Lexis.quotedBody, hl, hc, ih]
  | @backslash cs vs hnext _ ih =>
    obtain ⟨x, xs, hx⟩ := hnonempty cs
    have hhead : (cs ++ [quote]).head? = some x := by
      cases cs with
      | nil => exact congrArg some (List.cons.inj hx).1
      | cons c cs => exact congrArg some (List.cons.inj hx).1
    obtain ⟨hescaped, hnext⟩ := hnext x hhead
    rw [List.cons_append]
    rw [hx] at ih ⊢
    have hstep : masked = true → x = quote → False := fun hm he => hnext hm he
    simp [Lexis.quotedBody, hescaped, Ne.symm hquote.1, ih]
    exact fun hm he => (hstep hm he).elim

/-- A text between quotes. -/
structure TextLiteral where
  quote : Char
  quoting : quote = '\'' ∨ quote = '"'
  body : List Char
  value : List Char
  spelled : QuotedBody true quote body value

/-- A name between backticks. -/
structure QuotedName where
  body : List Char
  nonempty : body ≠ []
  value : List Char
  spelled : QuotedBody false '\x60' body value

/-- A text as the one part of a script. -/
def TextLiteral.part (t : TextLiteral) : Part :=
  .other .text (t.quote :: (t.body ++ [t.quote])) (String.ofList t.value) (by simp)

/-- A name as the one part of a script. -/
def QuotedName.part (n : QuotedName) : Part :=
  .other .name ('\x60' :: (n.body ++ ['\x60'])) (String.ofList n.value) (by simp)

/-- No quote stands behind what may stand behind a word. -/
theorem head?_ne_of_endsWord (h : EndsWord rest) {quote : Char}
    (hquote : isBlank quote = false ∧ quote ∉ closers) : rest.head? ≠ some quote := by
  intro hhead
  rcases h quote hhead with hblank | hcloser
  · rw [hquote.1] at hblank
    cases hblank
  · exact hquote.2 hcloser

theorem TextLiteral.fit_part (t : TextLiteral) (h : Trails ps) : Fit .mysql (t.part :: ps) := by
  have hquote : isBlank t.quote = false ∧ t.quote ∉ closers ∧ t.quote ∉ ['-', '#', '/'] ∧
      t.quote ≠ '\\' ∧ Lexis.escaped t.quote = none ∧ Text.isDigit t.quote = false ∧
      Dialect.mysql.lexis.nameQuotes.lookup t.quote = none ∧
      t.quote ∈ Dialect.mysql.lexis.textQuotes := by
    rcases t.quoting with hq | hq <;> rw [hq] <;> decide
  obtain ⟨hblank, hcloser, hcomment, hbackslash, hescaped, hdigit, hname, htext⟩ := hquote
  have hbody := t.spelled.quotedBody Dialect.mysql.lexis rfl ⟨hbackslash, hescaped⟩
    (head?_ne_of_endsWord h.endsWord ⟨hblank, hcloser⟩)
  have htoken : Dialect.mysql.lexis.token? t.quote (t.body ++ t.quote :: script ps) =
      some ⟨.text, String.ofList t.value, script ps⟩ := by
    have hread : Dialect.mysql.lexis.textBody t.quote (t.body ++ t.quote :: script ps) =
        some (t.value, script ps) := hbody
    simp [Lexis.token?, hdigit, hname, htext, hread]
  exact ⟨⟨t.quote, t.body ++ [t.quote], rfl, hblank, comment?_eq_none _ _ hcomment,
    by rwa [List.append_assoc]⟩, h.fit⟩

theorem QuotedName.fit_part (n : QuotedName) (h : Trails ps) : Fit .mysql (n.part :: ps) := by
  have hbody := n.spelled.quotedBody Dialect.mysql.lexis rfl (by decide)
    (head?_ne_of_endsWord h.endsWord (by decide))
  have htoken : Dialect.mysql.lexis.token? '\x60' (n.body ++ '\x60' :: script ps) =
      some ⟨.name, String.ofList n.value, script ps⟩ := by
    have hdigit : Text.isDigit '\x60' = false := by decide
    have hname : Dialect.mysql.lexis.nameQuotes.lookup '\x60' = some '\x60' := rfl
    have hread : Dialect.mysql.lexis.nameBody '\x60' (n.body ++ '\x60' :: script ps) =
        some (n.value, script ps) := hbody
    simp [Lexis.token?, hdigit, hname, hread]
  exact ⟨⟨'\x60', n.body ++ ['\x60'], rfl, by decide, comment?_eq_none _ _ (by decide),
    by rwa [List.append_assoc]⟩, h.fit⟩

/-! ## Numbers -/

inductive Sign where
  | plus
  | minus

/-- The exponent of a number. -/
structure Exponent where
  letter : Char
  marked : letter = 'e' ∨ letter = 'E'
  sign : Option Sign
  digits : List Char
  nonempty : digits ≠ []
  decimal : ∀ c ∈ digits, c.isDigit = true

/-- A number, perhaps with a sign, a fraction and an exponent. A point may stand in front of the digits
if none stands behind them. -/
structure Numeral where
  sign : Option Sign
  pointed : Bool
  digits : List Char
  nonempty : digits ≠ []
  decimal : ∀ c ∈ digits, c.isDigit = true
  fraction : Option (List Char)
  fractional : ∀ ds ∈ fraction, ∀ c ∈ ds, c.isDigit = true
  once : pointed = true → fraction = none
  exponent : Option Exponent

def Sign.char : Sign → Char
  | plus => '+'
  | minus => '-'

def Exponent.chars (e : Exponent) : List Char := e.letter :: (e.sign.toList.map Sign.char ++ e.digits)

/-- A number without its sign and without a point in front. -/
def Numeral.chars (n : Numeral) : List Char :=
  n.digits ++ (n.fraction.elim [] ('.' :: ·) ++ n.exponent.elim [] Exponent.chars)

def Sign.part (s : Sign) : Part :=
  .other .mark [s.char] (String.singleton s.char) (by cases s <;> decide)

/-- The point in front of a number. -/
def pointPart : Part := .other .mark ['.'] (String.singleton '.') (by decide)

/-- The sign, the point and the digits are tokens of their own. -/
def Numeral.parts (n : Numeral) : List Part :=
  n.sign.toList.map Sign.part ++ ((if n.pointed then [pointPart] else []) ++
    [.other .number n.chars (String.ofList n.chars) (by simp)])

theorem Sign.numberLength (s : Sign) (point : Bool) {d : Char} (hd : Text.isDigit d = true)
    (cs : List Char) : Lexis.numberLength point true true (s.char :: d :: cs) =
      Lexis.numberLength point true false (d :: cs) + 1 := by
  have hclass : Text.isDigit s.char = false ∧ s.char ≠ '.' ∧ (s.char = '-' ∨ s.char = '+') := by
    cases s <;> decide
  rw [Lexis.numberLength]
  simp [hclass, hd]

theorem Exponent.numberLength (e : Exponent) (point : Bool) (h : EndsWord rest) :
    Lexis.numberLength point false false (e.chars ++ rest) = e.chars.length := by
  have hletter : Text.isDigit e.letter = false ∧ e.letter ≠ '.' ∧
      (e.letter = 'e' ∨ e.letter = 'E') := by
    rcases e.marked with he | he <;> rw [he] <;> decide
  have hstep : Lexis.numberLength point false false (e.chars ++ rest) =
      Lexis.numberLength point true true (e.sign.toList.map Sign.char ++ (e.digits ++ rest)) + 1 := by
    simp [chars, Lexis.numberLength, hletter]
  have hdigits (signable : Bool) :
      Lexis.numberLength point true signable (e.digits ++ rest) = e.digits.length := by
    have hne : e.digits.isEmpty = false := by simpa using e.nonempty
    rw [numberLength_digits_append _ _ _ e.decimal, hne, Bool.and_false, numberLength_ends _ _ h,
      Nat.add_zero]
  rw [hstep, chars, List.length_cons, List.length_append]
  cases e.sign with
  | none => simp [hdigits]
  | some s =>
    obtain ⟨d, ds, hds⟩ := List.exists_cons_of_ne_nil e.nonempty
    have hd := (digit_class (e.decimal d (by simp [hds]))).1
    have hsign := s.numberLength point hd (ds ++ rest)
    rw [← List.cons_append, ← hds, hdigits] at hsign
    simp [hsign, Nat.add_comm]

/-- The number is all that the lexer takes. -/
theorem Numeral.numberLength (n : Numeral) (h : EndsWord rest) :
    Lexis.numberLength false false false (n.chars ++ rest) = n.chars.length := by
  have hexponent (point : Bool) :
      Lexis.numberLength point false false (n.exponent.elim [] Exponent.chars ++ rest) =
        (n.exponent.elim [] Exponent.chars).length := by
    cases n.exponent with
    | none => exact numberLength_ends _ _ h
    | some e => exact e.numberLength point h
  have hfractional := n.fractional
  rw [chars, List.append_assoc, List.append_assoc, numberLength_digits_append _ _ _ n.decimal,
    Bool.false_and, List.length_append, List.length_append]
  cases hfraction : n.fraction with
  | none => simp [hexponent]
  | some ds =>
    have hpoint : Text.isDigit '.' = false := by decide
    have hstep : Lexis.numberLength false false false
        ('.' :: (ds ++ (n.exponent.elim [] Exponent.chars ++ rest))) =
          Lexis.numberLength true false false
            (ds ++ (n.exponent.elim [] Exponent.chars ++ rest)) + 1 := by
      rw [Lexis.numberLength]
      simp [hpoint]
    have hds := numberLength_digits_append true false false (hfractional ds hfraction)
      (n.exponent.elim [] Exponent.chars ++ rest)
    rw [Bool.false_and, hexponent] at hds
    simp only [Option.elim_some, List.cons_append, hstep, hds, List.length_cons]
    omega

theorem digit_ne {c : Char} (h : c.isDigit = true) : c ≠ 'x' ∧ c ≠ 'X' :=
  ⟨by rintro rfl; simp at h, by rintro rfl; simp at h⟩

theorem Exponent.ne_of_mem (e : Exponent) : ∀ c ∈ e.chars, c ≠ 'x' ∧ c ≠ 'X' := by
  refine List.forall_mem_cons.2 ⟨?_, List.forall_mem_append.2 ⟨?_, fun c hc => ?_⟩⟩
  · rcases e.marked with he | he <;> rw [he] <;> decide
  · rintro c hc
    obtain ⟨s, -, rfl⟩ := List.mem_map.1 hc
    cases s <;> decide
  · exact digit_ne (e.decimal c hc)

theorem Numeral.ne_of_mem (n : Numeral) : ∀ c ∈ n.chars, c ≠ 'x' ∧ c ≠ 'X' := by
  have hfractional := n.fractional
  refine List.forall_mem_append.2
    ⟨fun c hc => digit_ne (n.decimal c hc), List.forall_mem_append.2 ⟨?_, ?_⟩⟩
  · cases hfraction : n.fraction with
    | none => simp
    | some ds =>
      exact List.forall_mem_cons.2
        ⟨by decide, fun c hc => digit_ne (hfractional ds hfraction c hc)⟩
  · cases n.exponent with
    | none => simp
    | some e => exact e.ne_of_mem

/-- A number starts with a digit. -/
theorem Numeral.exists_cons (n : Numeral) :
    ∃ c cs, n.chars = c :: cs ∧ c.isDigit = true := by
  obtain ⟨c, cs, hcs⟩ := List.exists_cons_of_ne_nil n.nonempty
  exact ⟨c, _, by rw [chars, hcs, List.cons_append], n.decimal c (by simp [hcs])⟩

theorem Numeral.reads (n : Numeral) (h : EndsWord rest) :
    Dialect.mysql.Reads n.chars ⟨.number, String.ofList n.chars, rest⟩ := by
  obtain ⟨c, cs, hcs, hc⟩ := n.exists_cons
  have hne := n.ne_of_mem
  have hlength := n.numberLength h
  rw [hcs] at hne hlength ⊢
  exact ⟨c, cs, rfl, (digit_class hc).2, comment?_eq_none _ _ (digit_not_comment hc),
    token?_numeral .mysql (digit_class hc).1 (fun x hx => hne x (List.mem_cons_of_mem _ hx)) hlength h⟩

theorem reads_point (rest : List Char) : Dialect.mysql.Reads ['.'] (.ofMark '.' rest) :=
  ⟨'.', [], rfl, by decide, comment?_eq_none _ _ (by decide), rfl⟩

/-- Two signs side by side would start a comment. -/
theorem Sign.reads (s : Sign) (hr : rest.head? ≠ some '-') :
    Dialect.mysql.Reads [s.char] (.ofMark s.char rest) := by
  cases s with
  | plus => exact ⟨'+', [], rfl, by decide, comment?_eq_none _ _ (by decide), rfl⟩
  | minus =>
    have hcomment : Dialect.mysql.lexis.comment? ('-' :: rest) = none := by
      cases rest with
      | nil => rfl
      | cons c rest =>
        have hc : '-' ≠ c := fun e => hr (by rw [e]; rfl)
        simp [Lexis.comment?, Dialect.lexis, List.isPrefixOf, hc]
    exact ⟨'-', [], rfl, by decide, hcomment, rfl⟩

theorem Numeral.fit_parts (n : Numeral) (h : Trails ps) : Fit .mysql (n.parts ++ ps) := by
  have hnumber : Fit .mysql (.other .number n.chars (String.ofList n.chars) (by simp) :: ps) :=
    ⟨n.reads h.endsWord, h.fit⟩
  -- behind the sign stands a digit or a point
  let unsigned := (if n.pointed then [pointPart] else []) ++
    .other .number n.chars (String.ofList n.chars) (by simp) :: ps
  have hunsigned : Fit .mysql unsigned ∧ (script unsigned).head? ≠ some '-' := by
    obtain ⟨c, cs, hcs, hc⟩ := n.exists_cons
    cases hpoint : n.pointed with
    | true =>
      simp only [unsigned, hpoint, if_true]
      exact ⟨⟨reads_point _, hnumber⟩, by simp [pointPart, Part.chars]⟩
    | false =>
      simp only [unsigned, hpoint]
      refine ⟨hnumber, ?_⟩
      simp [Part.chars, hcs]
      rintro rfl
      simp at hc
  have hparts : n.parts ++ ps = n.sign.toList.map Sign.part ++ unsigned := by simp [parts, unsigned]
  rw [hparts]
  cases n.sign with
  | none => exact hunsigned.1
  | some s => exact ⟨s.reads hunsigned.2, hunsigned.1⟩

end TableScaffold.Sql
