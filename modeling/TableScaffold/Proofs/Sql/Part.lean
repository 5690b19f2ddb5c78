import TableScaffold.Proofs.Text.Ascii
import TableScaffold.Sql.Statement
import TableScaffold.Sql.Token.Lexer

/-!
# Scripts from their parts

A script can be written down as a list of parts: words, names between backticks, numbers, marks,
blanks, and other tokens as they are written. `lexemes?_script`: if no part runs into the one behind it,
the tokens of the script are the parts without the blanks, each with the script that is left behind it.

1. Words, numbers and marks are ASCII, so what the lexer asks of their characters is a finite check
   (`Text.ascii_all`).
2. Each kind of part has one lemma on `token?`, for any script that may stand behind it.
3. `lexemes_script` goes through the parts; the fuel is at least the length of what is left.
-/

namespace TableScaffold.Sql

open Text

/-- A part of a script. -/
inductive Part where
  /-- An unquoted word. -/
  | word (w : String)
  /-- A name between backticks. -/
  | name (s : String)
  /-- A number in decimal digits. -/
  | number (digits : String)
  | mark (c : Char)
  | blank (c : Char)
  /-- Any other token, as it is written. It is no semicolon. -/
  | other (kind : TokenKind) (written : List Char) (text : String)
    (inside : kind = .mark → text ≠ ";")
  deriving DecidableEq, Repr

/-- A text in which every quote is written twice. -/
def doubled (quote : Char) (cs : List Char) : List Char :=
  cs.flatMap fun c => if c = quote then [c, c] else [c]

/-- The marks that may stand directly behind a word or a number. -/
def closers : List Char := ['(', ')', ',', ';']

/-- Whether a script may stand behind a word or a number. -/
def EndsWord (rest : List Char) : Prop := ∀ c ∈ rest.head?, isBlank c = true ∨ c ∈ closers

/-- Whether a text is a word: a letter or an underscore, then letters, digits and underscores. -/
def isWordText (w : String) : Bool :=
  match w.toList with
  | [] => false
  | c :: cs => startsTypeWord c && cs.all inTypeWord

/-- A part as it is written. -/
def Part.chars : Part → List Char
  | word w => w.toList
  | name s => '\x60' :: (doubled '\x60' s.toList ++ ['\x60'])
  | number digits => digits.toList
  | mark c => [c]
  | blank c => [c]
  | other _ written _ _ => written

/-- Whether a token is at the front of a script and leaves the rest of it. -/
def Dialect.Reads (d : Dialect) (written : List Char) (t : Token) : Prop :=
  ∃ c cs, written = c :: cs ∧ isBlank c = false ∧
    d.lexis.comment? (c :: (cs ++ t.rest)) = none ∧ d.lexis.token? c (cs ++ t.rest) = some t

/-- Whether a part can be read back in front of the rest of a script. -/
def Part.Fits (d : Dialect) (rest : List Char) : Part → Prop
  | word w => isWordText w = true ∧ EndsWord rest
  | name s => d.lexis.nameQuotes.lookup '\x60' = some '\x60' ∧ '\\' ∉ s.toList ∧
      rest.head? ≠ some '\x60'
  | number digits => digits.toList ≠ [] ∧ (∀ c ∈ digits.toList, c.isDigit = true) ∧ EndsWord rest
  | mark c => c ∈ closers
  | blank c => isBlank c = true
  | other kind written text _ => d.Reads written ⟨kind, text, rest⟩

/-- The script that some parts make up. -/
def script (ps : List Part) : List Char := ps.flatMap Part.chars

/-- Whether every part fits in front of those behind it. -/
def Fit (d : Dialect) : List Part → Prop
  | [] => True
  | p :: ps => p.Fits d (script ps) ∧ Fit d ps

/-- The token of a mark. -/
def Token.ofMark (c : Char) (rest : List Char) : Token := ⟨.mark, String.singleton c, rest⟩

/-- The tokens of a script that is given by its parts. -/
def tokens : List Part → List Token
  | [] => []
  | .word w :: ps => ⟨.word, w, script ps⟩ :: tokens ps
  | .name s :: ps => ⟨.name, s, script ps⟩ :: tokens ps
  | .number n :: ps => ⟨.number, n, script ps⟩ :: tokens ps
  | .mark c :: ps => .ofMark c (script ps) :: tokens ps
  | .blank _ :: ps => tokens ps
  | .other kind _ text _ :: ps => ⟨kind, text, script ps⟩ :: tokens ps

@[simp] theorem script_nil : script [] = [] := rfl

@[simp] theorem script_cons (p : Part) (ps : List Part) : script (p :: ps) = p.chars ++ script ps :=
  rfl

@[simp] theorem script_append (ps qs : List Part) : script (ps ++ qs) = script ps ++ script qs :=
  List.flatMap_append

/-- A closing mark may stand behind a word. -/
theorem endsWord_mark {c : Char} (hc : c ∈ closers) (ps : List Part) :
    EndsWord (script (.mark c :: ps)) := by
  rintro x hx
  obtain rfl : c = x := Option.some.inj hx
  exact .inr hc

/-- So may a blank. -/
theorem endsWord_blank {c : Char} (hc : isBlank c = true) (ps : List Part) :
    EndsWord (script (.blank c :: ps)) := by
  rintro x hx
  obtain rfl : c = x := Option.some.inj hx
  exact .inl hc

/-! ## Classes of characters -/

theorem isWordText_cons {w : String} (h : isWordText w = true) :
    ∃ c cs, w.toList = c :: cs ∧ startsTypeWord c = true ∧ ∀ x ∈ cs, inTypeWord x = true := by
  unfold isWordText at h
  split at h
  · exact absurd h (by simp)
  · next c cs hw => exact ⟨c, cs, hw, by simpa using h⟩

theorem toNat_lt_of_inTypeWord {c : Char} (h : inTypeWord c = true) : c.toNat < 128 := by
  simp only [inTypeWord, Bool.or_eq_true, decide_eq_true_eq] at h
  rcases h with h | rfl
  · exact toNat_lt_of_isAlphanum h
  · decide

theorem inTypeWord_of_starts {c : Char} (h : startsTypeWord c = true) : inTypeWord c = true := by
  simp only [startsTypeWord, inTypeWord, Char.isAlphanum, Bool.or_eq_true] at h ⊢
  rcases h with h | h
  · exact .inl (.inl h)
  · exact .inr h

theorem inTypeWord_of_isDigit {c : Char} (h : c.isDigit = true) : inTypeWord c = true := by
  simp [inTypeWord, Char.isAlphanum, h]

theorem not_isDigit_of_starts {c : Char} (h : startsTypeWord c = true) : c.isDigit = false := by
  simp only [startsTypeWord, Bool.or_eq_true, decide_eq_true_eq] at h
  rcases h with h | rfl
  · have hA : 'A'.val.toNat = 65 := rfl
    have ha : 'a'.val.toNat = 97 := rfl
    have h9 : '9'.val.toNat = 57 := rfl
    delta Char.isAlpha Char.isUpper Char.isLower at h
    delta Char.isDigit
    simp only [Bool.or_eq_true, Bool.and_eq_true, decide_eq_true_eq, UInt32.le_iff_toNat_le, ge_iff_le,
      Bool.and_eq_false_iff, decide_eq_false_iff_not] at h ⊢
    omega
  · rfl

/-- A character of a word is no blank and no mark. -/
theorem inTypeWord_class {c : Char} (h : inTypeWord c = true) : isBlank c = false ∧ c ∉ marks := by
  have key := ascii_all (p := fun c => !inTypeWord c || (!isBlank c && !marks.contains c))
    (by decide +kernel) (toNat_lt_of_inTypeWord h)
  simpa [h] using key

/-- Of the characters of words, only digits are digits of the script. -/
theorem isDigit_eq_of_inTypeWord {c : Char} (h : inTypeWord c = true) : isDigit c = c.isDigit := by
  have key := ascii_all (p := fun c => !inTypeWord c || isDigit c == c.isDigit) (by decide +kernel)
    (toNat_lt_of_inTypeWord h)
  simpa [h] using key

/-- The first character of a word is no blank, no digit and no mark. -/
theorem starts_class {c : Char} (h : startsTypeWord c = true) :
    isBlank c = false ∧ isDigit c = false ∧ c ∉ marks := by
  have hin := inTypeWord_of_starts h
  obtain ⟨hblank, hmark⟩ := inTypeWord_class hin
  refine ⟨hblank, ?_, hmark⟩
  rw [isDigit_eq_of_inTypeWord hin]
  exact not_isDigit_of_starts h

theorem inWord_of_inTypeWord (d : Dialect) {c : Char} (h : inTypeWord c = true) :
    d.lexis.inWord c = true := by
  obtain ⟨hblank, hmark⟩ := inTypeWord_class h
  simp [Lexis.inWord, hblank, hmark]

/-- A digit is a digit of the script, and no blank. -/
theorem digit_class {c : Char} (h : c.isDigit = true) : isDigit c = true ∧ isBlank c = false :=
  ⟨(isDigit_eq_of_inTypeWord (inTypeWord_of_isDigit h)).trans h,
    (inTypeWord_class (inTypeWord_of_isDigit h)).1⟩

theorem digit_not_comment {c : Char} (h : c.isDigit = true) : c ∉ ['-', '#', '/'] := by
  intro hc
  simp only [List.mem_cons, List.not_mem_nil, or_false] at hc
  rcases hc with rfl | rfl | rfl <;> exact absurd h (by decide)

/-- A closing mark is no blank and starts no comment. -/
theorem mark_class {c : Char} (h : c ∈ closers) : isBlank c = false ∧ c ∉ ['-', '#', '/'] := by
  simp only [closers, List.mem_cons, List.not_mem_nil, or_false] at h
  rcases h with rfl | rfl | rfl | rfl <;> decide

/-- The code points of the blanks. -/
def blankCodes : List Nat :=
  [0x9, 0xA, 0xB, 0xC, 0xD, 0x1C, 0x1D, 0x1E, 0x1F, 0x20, 0x85, 0xA0, 0x1680, 0x2000, 0x2001, 0x2002,
   0x2003, 0x2004, 0x2005, 0x2006, 0x2007, 0x2008, 0x2009, 0x200A, 0x2028, 0x2029, 0x202F, 0x205F,
   0x3000]

theorem toNat_mem_blankCodes {c : Char} (h : isBlank c = true) : c.toNat ∈ blankCodes := by
  simp only [isBlank, isWhiteSpace, inSpans, whiteSpaceSpans, Span.holds, List.any_cons, List.any_nil,
    Nat.mod_one, Bool.or_eq_true, Bool.and_eq_true, decide_eq_true_eq, beq_self_eq_true,
    Bool.or_false, and_true] at h
  simp only [blankCodes, List.mem_cons, List.not_mem_nil, or_false]
  omega

/-- A test that holds of the blanks and of the closing marks holds of each of them. -/
theorem closer_all {p : Char → Bool} (hb : blankCodes.all (fun n => p (Char.ofNat n)) = true)
    (hc : closers.all p = true) {c : Char} (h : isBlank c = true ∨ c ∈ closers) : p c = true := by
  rcases h with h | h
  · have := List.all_eq_true.1 hb c.toNat (toNat_mem_blankCodes h)
    rwa [Char.ofNat_toNat] at this
  · exact List.all_eq_true.1 hc c h

/-- What stands behind a word is in no word and in no number, and it is no quote. -/
theorem closer_class (d : Dialect) {c : Char} (h : isBlank c = true ∨ c ∈ closers) :
    d.lexis.inWord c = false ∧ d.lexis.textQuotes.contains c = false ∧ isDigit c = false ∧
      Lexis.startsName c = false ∧ c ∉ ['.', 'e', 'E', 'x', 'X'] := by
  have key := closer_all (p := fun c => !isDigit c && !Lexis.startsName c &&
    !(['.', 'e', 'E', 'x', 'X'].contains c)) (by decide +kernel) (by decide) h
  have hmarks : closers.all (fun c => marks.contains c && !d.lexis.wordMarks.contains c) = true := by
    cases d <;> decide
  have hquotes : d.lexis.textQuotes.all (fun q => !isBlank q && !closers.contains q) = true := by
    cases d <;> decide
  have hin : d.lexis.inWord c = false := by
    unfold Lexis.inWord
    rcases h with h | h
    · rw [h]
      rfl
    · have hc := List.all_eq_true.1 hmarks c h
      simp only [Bool.and_eq_true, Bool.not_eq_true'] at hc
      rw [hc.1, hc.2]
      exact Bool.and_false _
  have hquote : d.lexis.textQuotes.contains c = false := by
    refine Bool.eq_false_iff.2 fun hc => ?_
    have hq := List.all_eq_true.1 hquotes c (List.contains_iff_mem.1 hc)
    rcases h with h | h <;> simp [h] at hq
  simp only [Bool.and_eq_true, Bool.not_eq_true'] at key
  exact ⟨hin, hquote, key.1.1, key.1.2, by simpa using key.2⟩

/-! ## One token -/

theorem comment?_eq_none (d : Dialect) {c : Char} (cs : List Char) (h : c ∉ ['-', '#', '/']) :
    d.lexis.comment? (c :: cs) = none := by
  simp only [List.mem_cons, List.not_mem_nil, or_false, not_or] at h
  obtain ⟨hd, hh, hs⟩ := h
  unfold Lexis.comment?
  cases d <;> simp [Dialect.lexis, List.isPrefixOf, Ne.symm hd, Ne.symm hh, Ne.symm hs]

/-- The quotes of a dialect are marks. -/
theorem quotes_subset_marks (d : Dialect) {c : Char} (h : c ∉ marks) :
    d.lexis.nameQuotes.lookup c = none ∧ d.lexis.textQuotes.contains c = false := by
  have hn : d.lexis.nameQuotes.all (fun q => marks.contains q.1) = true := by cases d <;> decide
  have ht : d.lexis.textQuotes.all (fun q => marks.contains q) = true := by cases d <;> decide
  simp only [List.all_eq_true, List.contains_iff_mem] at hn ht
  constructor
  · rw [List.lookup_eq_none_iff]
    intro q hq
    have hne : c ≠ q.1 := fun e => h (e ▸ hn q hq)
    simpa using hne
  · simpa using fun hc => h (ht c hc)

/-- A run that a test holds of ends where the test fails. -/
theorem takeWhile_append_stop {p : Char → Bool} {cs rest : List Char} (hcs : ∀ x ∈ cs, p x = true)
    (hr : ∀ x ∈ rest.head?, p x = false) : (cs ++ rest).takeWhile p = cs := by
  rw [List.takeWhile_append_of_pos hcs]
  cases rest with
  | nil => simp
  | cons c rest => simp [hr c rfl]

/-- What follows the first letter of a word is no quote. -/
theorem headD_not_quote (d : Dialect) {cs rest : List Char} (hcs : ∀ x ∈ cs, inTypeWord x = true)
    (hr : EndsWord rest) : d.lexis.textQuotes.contains ((cs ++ rest).headD ' ') = false := by
  cases cs with
  | cons x cs =>
    exact (quotes_subset_marks d (inTypeWord_class (hcs x List.mem_cons_self)).2).2
  | nil =>
    cases rest with
    | nil => cases d <;> decide
    | cons x rest => exact (closer_class d (hr x rfl)).2.1

theorem token?_word (d : Dialect) {c : Char} {cs rest : List Char} (hc : startsTypeWord c = true)
    (hcs : ∀ x ∈ cs, inTypeWord x = true) (hr : EndsWord rest) :
    d.lexis.token? c (cs ++ rest) = some ⟨.word, String.ofList (c :: cs), rest⟩ := by
  obtain ⟨-, hdigit, hmark⟩ := starts_class hc
  obtain ⟨hname, htext⟩ := quotes_subset_marks d hmark
  have htail : (cs ++ rest).takeWhile d.lexis.inWord = cs :=
    takeWhile_append_stop (fun x hx => inWord_of_inTypeWord d (hcs x hx))
      fun x hx => (closer_class d (hr x hx)).1
  have hmarks : marks.contains c = false := by simpa using hmark
  unfold Lexis.token?
  rw [hdigit, hname]
  simp only [Bool.false_eq_true, if_false, htext, headD_not_quote d hcs hr, Bool.and_false, hmarks,
    htail, List.drop_left]

theorem token?_mark (d : Dialect) {c : Char} (hc : c ∈ closers) (rest : List Char) :
    d.lexis.token? c rest = some (.ofMark c rest) := by
  unfold Lexis.token?
  simp only [closers, List.mem_cons, List.not_mem_nil, or_false] at hc
  rcases hc with rfl | rfl | rfl | rfl <;> cases d <;> rfl

/-- A doubled quote is read as one, and a single one ends the name. -/
theorem quotedBody_doubled (l : Lexis) (masked : Bool) {quote : Char} (hq : quote ≠ '\\')
    {cs : List Char} (hcs : '\\' ∉ cs) {rest : List Char} (hr : rest.head? ≠ some quote) :
    l.quotedBody true masked quote (doubled quote cs ++ quote :: rest) = some (cs, rest) := by
  induction cs with
  | nil =>
    cases rest with
    | nil => simp [doubled, Lexis.quotedBody]
    | cons c rest =>
      have hne : c ≠ quote := fun e => hr (by rw [e]; rfl)
      simp [doubled, Lexis.quotedBody, hq, hne]
  | cons c cs ih =>
    have hc : c ≠ '\\' := fun e => hcs (by rw [e]; exact List.mem_cons_self)
    have ih := ih fun h => hcs (List.mem_cons_of_mem _ h)
    by_cases h : c = quote
    · subst h
      have hsplit : doubled c (c :: cs) ++ c :: rest = c :: c :: (doubled c cs ++ c :: rest) := by
        simp [doubled]
      rw [hsplit]
      simp [Lexis.quotedBody, hc, ih]
    · have hsplit : doubled quote (c :: cs) ++ quote :: rest
          = c :: (doubled quote cs ++ quote :: rest) := by
        simp [doubled, h]
      rw [hsplit]
      -- what follows is not empty, so that the two-character rules apply to it
      obtain ⟨x, xs, hx⟩ : ∃ x xs, doubled quote cs ++ quote :: rest = x :: xs := by
        cases hd : doubled quote cs ++ quote :: rest with
        | nil => simp at hd
        | cons x xs => exact ⟨x, xs, rfl⟩
      rw [hx] at ih ⊢
      simp [Lexis.quotedBody, hc, h, ih]

theorem token?_name (d : Dialect) {s rest : List Char}
    (hq : d.lexis.nameQuotes.lookup '\x60' = some '\x60') (hs : '\\' ∉ s)
    (hr : rest.head? ≠ some '\x60') :
    d.lexis.token? '\x60' (doubled '\x60' s ++ '\x60' :: rest) =
      some ⟨.name, String.ofList s, rest⟩ := by
  have hdigit : isDigit '\x60' = false := by decide
  unfold Lexis.token?
  rw [hdigit, hq]
  simp only [Bool.false_eq_true, if_false, Lexis.nameBody,
    quotedBody_doubled d.lexis _ (by decide : '\x60' ≠ '\\') hs hr, Option.map_some]

theorem numberLength_digits_append (point exponent signable : Bool) {ds : List Char}
    (hds : ∀ c ∈ ds, c.isDigit = true) (cs : List Char) :
    Lexis.numberLength point exponent signable (ds ++ cs) =
      ds.length + Lexis.numberLength point exponent (signable && ds.isEmpty) cs := by
  induction ds generalizing signable with
  | nil => simp
  | cons d ds ih =>
    obtain ⟨hd, hds⟩ := List.forall_mem_cons.1 hds
    have hstep : Lexis.numberLength point exponent signable (d :: (ds ++ cs)) =
        Lexis.numberLength point exponent false (ds ++ cs) + 1 := by
      simp [Lexis.numberLength, (digit_class hd).1]
    rw [List.cons_append, hstep, ih false hds]
    simp
    omega

/-- A number does not go on into what stands behind it. -/
theorem numberLength_ends (point exponent : Bool) {rest : List Char} (hr : EndsWord rest) :
    Lexis.numberLength point exponent false rest = 0 := by
  cases rest with
  | nil => rfl
  | cons c rest =>
    obtain ⟨-, -, hdigit, -, hc⟩ := closer_class .mysql (hr c rfl)
    simp only [List.mem_cons, List.not_mem_nil, or_false, not_or] at hc
    simp [Lexis.numberLength, hdigit, hc]

/-- A number without the mark of hexadecimal digits is not read as one of these. -/
theorem startsHex_append (c : Char) {cs rest : List Char} (hcs : ∀ x ∈ cs, x ≠ 'x' ∧ x ≠ 'X')
    (hr : EndsWord rest) : Lexis.startsHex (c :: (cs ++ rest)) = false := by
  have hx : ∀ x ∈ (cs ++ rest).head?, x ≠ 'x' ∧ x ≠ 'X' := by
    intro x hx
    cases cs with
    | nil =>
      have := (closer_class .mysql (hr x hx)).2.2.2.2
      simp only [List.mem_cons, List.not_mem_nil, or_false, not_or] at this
      exact this.2.2.2
    | cons y cs =>
      obtain rfl : y = x := Option.some.inj hx
      exact hcs y List.mem_cons_self
  unfold Lexis.startsHex
  split
  · next h => exact absurd rfl (hx 'x' (by rw [(List.cons.inj h).2]; rfl)).1
  · next h => exact absurd rfl (hx 'X' (by rw [(List.cons.inj h).2]; rfl)).2
  · rfl

/-- A number is one token if it is all that the lexer takes. -/
theorem token?_numeral (d : Dialect) {c : Char} {cs rest : List Char} (hc : isDigit c = true)
    (hcs : ∀ x ∈ cs, x ≠ 'x' ∧ x ≠ 'X')
    (hlength : Lexis.numberLength false false false (c :: cs ++ rest) = (c :: cs).length)
    (hr : EndsWord rest) :
    d.lexis.token? c (cs ++ rest) = some ⟨.number, String.ofList (c :: cs), rest⟩ := by
  have hdecimal : d.lexis.decimalNumber (c :: cs ++ rest) =
      ⟨.number, String.ofList (c :: cs), rest⟩ := by
    unfold Lexis.decimalNumber
    simp only [hlength, List.take_left, List.drop_left]
    cases rest with
    | nil => rfl
    | cons x rest => simp [(closer_class d (hr x rfl)).2.2.2.1]
  unfold Lexis.token? Lexis.number
  rw [hc, startsHex_append c hcs hr, ← List.cons_append, hdecimal]
  rfl

theorem token?_number (d : Dialect) {c : Char} {cs rest : List Char} (hc : c.isDigit = true)
    (hcs : ∀ x ∈ cs, x.isDigit = true) (hr : EndsWord rest) :
    d.lexis.token? c (cs ++ rest) = some ⟨.number, String.ofList (c :: cs), rest⟩ := by
  refine token?_numeral d (digit_class hc).1 (fun x hx => ?_) ?_ hr
  · have hdigit := hcs x hx
    exact ⟨by rintro rfl; simp at hdigit, by rintro rfl; simp at hdigit⟩
  · rw [numberLength_digits_append _ _ _ (List.forall_mem_cons.2 ⟨hc, hcs⟩), Bool.false_and,
      numberLength_ends _ _ hr, Nat.add_zero]

/-! ## All tokens -/

theorem lexemes_blank (l : Lexis) (fuel : Nat) (sameLine : Bool) {c : Char} (hc : isBlank c = true)
    (cs : List Char) :
    l.lexemes (fuel + 1) sameLine (c :: cs) = l.lexemes fuel (sameLine && !isBreak c) cs := by
  simp [Lexis.lexemes, hc]

theorem lexemes_token (l : Lexis) (fuel : Nat) (sameLine : Bool) {c : Char} {cs : List Char}
    {t : Token} (hc : isBlank c = false) (hcomment : l.comment? (c :: cs) = none)
    (ht : l.token? c cs = some t) :
    l.lexemes (fuel + 1) sameLine (c :: cs) = (l.lexemes fuel true t.rest).map (.token t :: ·) := by
  simp [Lexis.lexemes, hc, hcomment, ht]

/-- A script is split into the tokens of its parts. -/
theorem lexemes_script (d : Dialect) {ps : List Part} (h : Fit d ps) :
    ∀ (fuel : Nat) (sameLine : Bool), (script ps).length ≤ fuel →
      d.lexis.lexemes fuel sameLine (script ps) = some ((tokens ps).map .token) := by
  induction ps with
  | nil =>
    intro fuel sameLine _
    cases fuel <;> rfl
  | cons p ps ih =>
    obtain ⟨hp, hps⟩ := h
    intro fuel sameLine hfuel
    cases p with
    | blank c =>
      obtain ⟨fuel, rfl⟩ : ∃ n, fuel = n + 1 := ⟨fuel - 1, by simp [Part.chars] at hfuel; omega⟩
      rw [script_cons, Part.chars, List.singleton_append, lexemes_blank _ _ _ hp]
      exact ih hps _ _ (by simpa [Part.chars] using hfuel)
    | mark c =>
      obtain ⟨fuel, rfl⟩ : ∃ n, fuel = n + 1 := ⟨fuel - 1, by simp [Part.chars] at hfuel; omega⟩
      rw [script_cons, Part.chars, List.singleton_append,
        lexemes_token _ _ _ (mark_class hp).1 (comment?_eq_none d _ (mark_class hp).2)
          (token?_mark d hp _)]
      show (d.lexis.lexemes fuel true (script ps)).map _ = _
      rw [ih hps _ _ (by simpa [Part.chars] using hfuel)]
      rfl
    | word w =>
      obtain ⟨hword, hr⟩ := hp
      obtain ⟨c, cs, hw, hc, hcs⟩ := isWordText_cons hword
      obtain ⟨hblank, -, hmark⟩ := starts_class hc
      have hsub : ∀ x ∈ ['-', '#', '/'], x ∈ marks := by simp [marks]
      rw [script_cons, Part.chars, hw] at hfuel ⊢
      obtain ⟨fuel, rfl⟩ : ∃ n, fuel = n + 1 := ⟨fuel - 1, by simp at hfuel; omega⟩
      rw [List.cons_append,
        lexemes_token _ _ _ hblank (comment?_eq_none d _ fun h => hmark (hsub c h))
          (token?_word d hc hcs hr),
        ih hps _ _ (by simp at hfuel; omega), ← hw, String.ofList_toList]
      rfl
    | name s =>
      obtain ⟨hq, hs, hr⟩ := hp
      rw [script_cons, Part.chars] at hfuel ⊢
      obtain ⟨fuel, rfl⟩ : ∃ n, fuel = n + 1 := ⟨fuel - 1, by simp at hfuel; omega⟩
      rw [List.cons_append, List.append_assoc, List.singleton_append,
        lexemes_token _ _ _ (by decide) (comment?_eq_none d _ (by decide)) (token?_name d hq hs hr),
        ih hps _ _ (by simp at hfuel; omega), String.ofList_toList]
      rfl
    | number n =>
      obtain ⟨hne, hds, hr⟩ := hp
      obtain ⟨c, cs, hn⟩ := List.exists_cons_of_ne_nil hne
      rw [hn] at hds
      have hc := hds c List.mem_cons_self
      have hcs := fun x hx => hds x (List.mem_cons_of_mem _ hx)
      rw [script_cons, Part.chars, hn] at hfuel ⊢
      obtain ⟨fuel, rfl⟩ : ∃ n, fuel = n + 1 := ⟨fuel - 1, by simp at hfuel; omega⟩
      rw [List.cons_append,
        lexemes_token _ _ _ (digit_class hc).2 (comment?_eq_none d _ (digit_not_comment hc))
          (token?_number d hc hcs hr),
        ih hps _ _ (by simp at hfuel; omega), ← hn, String.ofList_toList]
      rfl
    | other kind written text _ =>
      obtain ⟨c, cs, rfl, hblank, hcomment, ht⟩ := hp
      rw [script_cons, Part.chars] at hfuel ⊢
      obtain ⟨fuel, rfl⟩ : ∃ n, fuel = n + 1 := ⟨fuel - 1, by simp at hfuel; omega⟩
      rw [List.cons_append, lexemes_token _ _ _ hblank hcomment ht,
        ih hps _ _ (by simp at hfuel; omega)]
      rfl

/-- The tokens of a script are its parts without the blanks. -/
theorem lexemes?_script (d : Dialect) {ps : List Part} (h : Fit d ps) :
    lexemes? d (script ps) = some ((tokens ps).map .token) :=
  lexemes_script d h _ _ (Nat.le_refl _)

end TableScaffold.Sql
