import TableScaffold.Proofs.Sql.Part

/-!
# Tokens in front of a boundary

A token that ends at some place of a script, or before it, stays the same when what follows that place
is exchanged, if a word ends there (`EndsWord`). Each of the functions that split a script keeps its
result, and so all parts of a script do (`UpTo.exchange`).

Throughout `m` is what follows the place, `w` what replaces it, and a result that leaves at least as
many characters as `m` has ends in front of it.
-/

namespace TableScaffold.Sql

open Text

namespace Lexis

/-! ## Runs and quotes -/

/-- A run of characters that ends in front of the place. -/
theorem takeWhile_boundary {p : Char → Bool} {m w : List Char} (hw : ∀ c ∈ w.head?, p c = false) :
    ∀ q : List Char, m.length ≤ ((q ++ m).drop ((q ++ m).takeWhile p).length).length →
      (q ++ m).takeWhile p = q.takeWhile p ∧ (q ++ w).takeWhile p = q.takeWhile p
  | [], h => by
    have hstop : w.takeWhile p = [] := by
      cases w with
      | nil => rfl
      | cons c w => simp [hw c rfl]
    refine ⟨?_, hstop⟩
    cases m with
    | nil => rfl
    | cons c m =>
      cases hc : p c with
      | false => simp [hc]
      | true =>
        simp [hc] at h
        omega
  | c :: q, h => by
    cases hc : p c with
    | false => simp [hc]
    | true =>
      have ih := takeWhile_boundary hw q (by simpa [hc] using h)
      simp [hc, ih]

variable {l : Lexis} {m r cs : List Char}

theorem length_quotedBody {doubled masked : Bool} {close : Char} {body : List Char}
    (h : l.quotedBody doubled masked close cs = some (body, r)) : r.length < cs.length := by
  fun_induction quotedBody l doubled masked close cs generalizing body with
  | case1 | case3 => cases h
  | case2 | case7 =>
    cases h
    simp
  | case4 _ _ _ _ ih | case5 _ _ _ _ _ ih | case6 _ _ _ _ _ ih | case8 _ _ _ _ _ _ ih =>
    obtain ⟨⟨cs, r'⟩, hrest, heq⟩ := Option.map_eq_some_iff.1 h
    cases heq
    have := ih hrest
    simp only [List.length_cons] at this ⊢
    omega

/-- The first two characters stand in front of the place, if as much is left behind them. -/
theorem eq_cons_cons {q : List Char} {c d : Char} (h : q ++ m = c :: d :: cs)
    (hcs : m.length ≤ cs.length) : ∃ q', q = c :: d :: q' ∧ q' ++ m = cs := by
  have hlength : q.length + m.length = cs.length + 2 := by simpa using congrArg List.length h
  match q with
  | [] | [_] =>
    simp at hlength
    omega
  | x :: y :: q' =>
    obtain ⟨rfl, rfl, hq⟩ : x = c ∧ y = d ∧ q' ++ m = cs := by simpa using h
    exact ⟨q', rfl, hq⟩

/-- What stands behind a closing quote is no quote, unless it belongs to the quoted part. -/
theorem quotedBody_close {doubled masked : Bool} {close : Char} (hclose : close ≠ '\\') {w : List Char}
    (hw : close ∉ w.head?) : l.quotedBody doubled masked close (close :: w) = some ([], w) := by
  cases w with
  | nil => simp [quotedBody]
  | cons x w =>
    have hx : x ≠ close := fun e => hw (e ▸ rfl)
    simp [quotedBody, hclose, hx]

/-- A quoted part that ends in front of the place. -/
theorem quotedBody_boundary {doubled masked : Bool} {close : Char} (hclose : close ≠ '\\') {w : List Char}
    (hw : close ∉ w.head?) {body : List Char} {q : List Char}
    (h : l.quotedBody doubled masked close (q ++ m) = some (body, r)) (hr : m.length ≤ r.length) :
    ∃ q', r = q' ++ m ∧ l.quotedBody doubled masked close (q ++ w) = some (body, q' ++ w) := by
  generalize hcs : q ++ m = cs at h
  fun_induction quotedBody l doubled masked close cs generalizing body q with
  | case1 | case3 => cases h
  | case2 =>
    cases h
    obtain rfl : m = [] := List.eq_nil_of_length_eq_zero (Nat.le_zero.1 hr)
    obtain rfl : q = [close] := by simpa using hcs
    exact ⟨[], rfl, quotedBody_close hclose hw⟩
  | case4 c d rest _ ih | case5 c d rest _ _ ih | case6 d rest _ _ _ ih =>
    obtain ⟨⟨cs, r'⟩, hrest, heq⟩ := Option.map_eq_some_iff.1 h
    cases heq
    obtain ⟨q, rfl, hq⟩ := eq_cons_cons hcs (Nat.le_trans hr (Nat.le_of_lt (length_quotedBody hrest)))
    obtain ⟨q', hq', hbody⟩ := ih hq hrest
    exact ⟨q', hq', by simp [quotedBody, *]⟩
  | case7 d rest _ _ _ =>
    cases h
    cases q with
    | nil =>
      obtain rfl : m = close :: d :: rest := hcs
      exact absurd hr (by simp)
    | cons c q =>
      obtain ⟨rfl, hq⟩ := List.cons.inj hcs
      refine ⟨q, hq.symm, ?_⟩
      cases q with
      | nil => exact quotedBody_close hclose hw
      | cons x q =>
        obtain rfl : x = d := (List.cons.inj hq).1
        simp [quotedBody, *]
  | case8 c d rest _ _ _ ih =>
    obtain ⟨⟨cs, r'⟩, hrest, heq⟩ := Option.map_eq_some_iff.1 h
    cases heq
    have hlength := length_quotedBody hrest
    obtain ⟨q, rfl, hq⟩ := eq_cons_cons hcs (by simp at hlength; omega)
    obtain ⟨q', hq', hbody⟩ := ih (q := d :: q) (by rw [← hq]; rfl) hrest
    exact ⟨q', hq', by simpa [quotedBody, *] using hbody⟩

/-! ## Comments -/

theorem length_blockEnd {depth : Nat} (h : l.blockEnd depth cs = some r) : r.length < cs.length := by
  fun_induction blockEnd l depth cs with
  | case1 | case2 => cases h
  | case3 =>
    cases h
    simp only [List.length_cons]
    omega
  | case4 _ _ _ _ _ _ ih | case5 _ _ _ _ _ _ ih | case6 _ _ _ _ _ _ ih =>
    have := ih h
    simp only [List.length_cons] at this ⊢
    omega

/-- A block comment that ends in front of the place. -/
theorem blockEnd_boundary {depth : Nat} {q : List Char} (h : l.blockEnd depth (q ++ m) = some r)
    (hr : m.length ≤ r.length) :
    ∃ q', r = q' ++ m ∧ ∀ w, l.blockEnd depth (q ++ w) = some (q' ++ w) := by
  generalize hcs : q ++ m = cs at h
  fun_induction blockEnd l depth cs generalizing q with
  | case1 | case2 => cases h
  | case3 =>
    cases h
    obtain ⟨q, rfl, hq⟩ := eq_cons_cons hcs hr
    exact ⟨q, hq.symm, fun w => by simp [blockEnd, *]⟩
  | case4 _ _ _ _ _ _ ih | case5 _ _ _ _ _ _ ih =>
    obtain ⟨q, rfl, hq⟩ := eq_cons_cons hcs (Nat.le_trans hr (Nat.le_of_lt (length_blockEnd h)))
    obtain ⟨q', hq', hrest⟩ := ih hq h
    exact ⟨q', hq', fun w => by simp [blockEnd, *]⟩
  | case6 _ c d rest _ _ ih =>
    have hlength := length_blockEnd h
    obtain ⟨q, rfl, hq⟩ := eq_cons_cons hcs (by simp at hlength; omega)
    obtain ⟨q', hq', hrest⟩ := ih (q := d :: q) (by rw [← hq]; rfl) h
    exact ⟨q', hq', fun w => by simpa [blockEnd, *] using hrest w⟩

/-! ## Numbers -/

theorem numberLength_le (point exponent signable : Bool) (cs : List Char) :
    numberLength point exponent signable cs ≤ cs.length := by
  fun_induction numberLength point exponent signable cs <;> simp <;> omega

/-- What stands behind a word is no sign and no part of a comment. -/
theorem closer_not_sign {c : Char} (h : isBlank c = true ∨ c ∈ closers) :
    c ∉ ['-', '+', '/', '*'] := by
  have key := closer_all (p := fun c => !(['-', '+', '/', '*'].contains c)) (by decide) (by decide) h
  simpa using key

/-- No number goes on where a word ends. -/
theorem numberLength_endsWord {w : List Char} (hw : EndsWord w) (point exponent signable : Bool) :
    numberLength point exponent signable w = 0 := by
  cases w with
  | nil => rfl
  | cons c w =>
    obtain ⟨-, -, hdigit, -, hc⟩ := closer_class .mysql (hw c rfl)
    have hsign := closer_not_sign (hw c rfl)
    simp only [List.mem_cons, List.not_mem_nil, or_false, not_or] at hc hsign
    simp [numberLength, hdigit, hc, hsign]

/-- Behind the last character in front of the place no digit follows, or the number goes on. -/
theorem isDigit_headD_boundary {w : List Char} (hw : EndsWord w) {point exponent : Bool} {q : List Char}
    (h : isDigit ((q ++ m).headD ' ') = true →
      numberLength point exponent false (q ++ m) ≤ q.length) :
    isDigit ((q ++ w).headD ' ') = isDigit ((q ++ m).headD ' ') := by
  cases q with
  | cons c q => rfl
  | nil =>
    have hnone : isDigit (w.headD ' ') = false := by
      cases w with
      | nil => decide
      | cons c w => exact (closer_class .mysql (hw c rfl)).2.2.1
    cases m with
    | nil => simpa using hnone.trans (by decide)
    | cons c m =>
      cases hdigit : isDigit c with
      | false => simpa [hdigit] using hnone
      | true =>
        have hzero := h hdigit
        simp [numberLength, hdigit] at hzero

theorem numberLength_boundary {w : List Char} (hw : EndsWord w) (q : List Char)
    {point exponent signable : Bool}
    (h : numberLength point exponent signable (q ++ m) ≤ q.length) :
    numberLength point exponent signable (q ++ w) = numberLength point exponent signable (q ++ m) := by
  induction q generalizing point exponent signable with
  | nil =>
    rw [List.nil_append, numberLength_endsWord hw]
    exact (Nat.le_zero.1 h).symm
  | cons c q ih =>
    replace ih {point exponent signable : Bool}
        (h : numberLength point exponent signable (q ++ m) + 1 ≤ q.length + 1) :=
      ih (Nat.le_of_succ_le_succ h)
    simp only [List.cons_append, numberLength, List.length_cons] at h ⊢
    by_cases hdigit : isDigit c = true
    · simp only [if_pos hdigit] at h ⊢
      rw [ih h]
    simp only [if_neg hdigit] at h ⊢
    by_cases hpoint : (decide (c = '.') && !point) = true
    · simp only [if_pos hpoint] at h ⊢
      rw [ih h]
    simp only [if_neg hpoint] at h ⊢
    by_cases hexponent : ((decide (c = 'e') || decide (c = 'E')) && !exponent) = true
    · simp only [if_pos hexponent] at h ⊢
      rw [ih h]
    simp only [if_neg hexponent] at h ⊢
    cases hsign : (decide (c = '-') || decide (c = '+')) && signable with
    | false => simp
    | true =>
      simp only [hsign, Bool.true_and] at h ⊢
      have hstop : isDigit ((q ++ m).headD ' ') = true →
          numberLength point exponent false (q ++ m) ≤ q.length := by
        intro hd
        rw [if_pos hd] at h
        exact Nat.le_of_succ_le_succ h
      rw [isDigit_headD_boundary hw hstop]
      split
      · next hd => rw [ih (Nat.succ_le_succ (hstop hd))]
      · rfl

/-- A token that ends in front of the place is the same whatever follows. -/
def Kept (m w : List Char) (t u : Token) : Prop :=
  m.length ≤ t.rest.length → ∃ q, t.rest = q ++ m ∧ u = { t with rest := q ++ w }

theorem kept (kind : TokenKind) (text : String) (m w q : List Char) :
    Kept m w ⟨kind, text, q ++ m⟩ ⟨kind, text, q ++ w⟩ := fun _ => ⟨q, rfl, rfl⟩

/-- The token that is made of a run of characters. -/
def runToken (p : Char → Bool) (make : List Char → TokenKind × String) (cs : List Char) : Token :=
  ⟨(make (cs.takeWhile p)).1, (make (cs.takeWhile p)).2, cs.drop (cs.takeWhile p).length⟩

theorem runToken_kept {p : Char → Bool} {w : List Char} (hw : ∀ c ∈ w.head?, p c = false)
    (make : List Char → TokenKind × String) (q : List Char) :
    Kept m w (runToken p make (q ++ m)) (runToken p make (q ++ w)) := by
  intro h
  obtain ⟨hqm, hqw⟩ := takeWhile_boundary hw q h
  have hle : (q.takeWhile p).length ≤ q.length := (List.takeWhile_prefix p).length_le
  unfold runToken
  rw [hqm, hqw, List.drop_append_of_le_length hle, List.drop_append_of_le_length hle]
  exact ⟨_, rfl, rfl⟩

/-- Whether a character goes on with a name that starts with a digit. -/
def inName (c : Char) : Bool := !isBlank c && !marks.contains c

theorem inName_of_startsName {c : Char} (h : startsName c = true) : inName c = true := by
  by_cases hascii : c.toNat < 128
  · have key := ascii_all (p := fun c => !startsName c || inName c) (by decide +kernel) hascii
    simpa [h] using key
  · have hmark : c ∉ marks := fun hc => hascii <|
      of_decide_eq_true (List.all_eq_true.1 (by decide : marks.all (fun c => c.toNat < 128) = true) c hc)
    have halpha : c.isAlpha = false :=
      Bool.eq_false_iff.2 fun hc => hascii (toNat_lt_of_isAlphanum (by simp [Char.isAlphanum, hc]))
    have hblank : isBlank c = false := by
      have hne : c ≠ '_' := by
        rintro rfl
        exact hascii (by decide)
      simp [startsName, halpha, hne] at h
      exact h.2
    simp [inName, hblank, hmark]

theorem inName_endsWord {w : List Char} (hw : EndsWord w) : ∀ c ∈ w.head?, inName c = false := by
  intro c hc
  have hmarks : closers.all marks.contains = true := by decide
  unfold inName
  rcases hw c hc with hblank | hmark
  · rw [hblank]
    rfl
  · rw [List.all_eq_true.1 hmarks c hmark, Bool.not_true, Bool.and_false]

/-- What is made of digits and what follows them: a number, or a name that starts with them. -/
def numberOrName (l : Lexis) (digits rest : List Char) : Token :=
  if l.digitNames && rest.head?.any startsName then
    runToken inName (fun run => (.word, String.ofList (digits ++ run))) rest
  else ⟨.number, String.ofList digits, rest⟩

theorem decimalNumber_eq (l : Lexis) (cs : List Char) :
    l.decimalNumber cs = numberOrName l (cs.take (numberLength false false false cs))
      (cs.drop (numberLength false false false cs)) := by
  simp only [decimalNumber, numberOrName]
  generalize cs.drop (numberLength false false false cs) = rest
  cases rest with
  | nil => simp
  | cons c rest => rfl

theorem numberOrName_kept (l : Lexis) {w : List Char} (hw : EndsWord w) (digits q : List Char) :
    Kept m w (numberOrName l digits (q ++ m)) (numberOrName l digits (q ++ w)) := by
  intro h
  have hstarts : (l.digitNames && (q ++ w).head?.any startsName) =
      (l.digitNames && (q ++ m).head?.any startsName) := by
    cases q with
    | cons c q => rfl
    | nil =>
      have hwstarts : w.head?.any startsName = false := by
        cases w with
        | nil => rfl
        | cons c w =>
          simpa using (closer_class .mysql (hw c rfl)).2.2.2.1
      rw [List.nil_append, hwstarts, Bool.and_false]
      cases hname : l.digitNames && m.head?.any startsName with
      | false => exact hname.symm
      | true =>
        unfold numberOrName at h
        rw [List.nil_append, if_pos hname] at h
        cases m with
        | nil => simp at hname
        | cons c m =>
          have hc := inName_of_startsName (c := c) (Bool.and_eq_true_iff.1 hname).2
          simp [runToken, hc] at h
          omega
  unfold numberOrName at h ⊢
  rw [hstarts]
  split at h
  · next hname =>
    simp only [if_pos hname]
    exact runToken_kept (inName_endsWord hw) _ q h
  · next hname =>
    simp only [if_neg hname]
    exact kept _ _ m w q h

theorem length_numberOrName (l : Lexis) (digits rest : List Char) :
    (numberOrName l digits rest).rest.length ≤ rest.length := by
  unfold numberOrName
  split
  · simp [runToken]
  · exact Nat.le_refl _

theorem decimalNumber_kept (l : Lexis) {w : List Char} (hw : EndsWord w) (q : List Char) :
    Kept m w (l.decimalNumber (q ++ m)) (l.decimalNumber (q ++ w)) := by
  rw [decimalNumber_eq, decimalNumber_eq]
  intro h
  have hle : numberLength false false false (q ++ m) ≤ q.length := by
    have hlength := Nat.le_trans h (length_numberOrName l _ _)
    have hnumber := numberLength_le false false false (q ++ m)
    simp only [List.length_drop, List.length_append] at hlength hnumber
    omega
  rw [numberLength_boundary hw q hle] at *
  rw [List.take_append_of_le_length hle, List.drop_append_of_le_length hle] at *
  rw [List.take_append_of_le_length hle, List.drop_append_of_le_length hle] at *
  exact numberOrName_kept l hw _ _ h

/-- What is made of a word that starts like a hexadecimal number. -/
def hexWord (word : List Char) : TokenKind × String :=
  if !(word.drop 2).isEmpty && (word.drop 2).all isHexDigit then (.number, String.ofList (word.drop 2))
  else (.name, String.ofList word)

theorem hexNumber_eq (cs : List Char) : hexNumber cs = runToken inName hexWord cs := by
  unfold runToken hexWord
  split
  · next h => exact if_pos h
  · next h => exact if_neg h

theorem startsHex_cons_cons (c x : Char) (cs : List Char) :
    startsHex (c :: x :: cs) = (c == '0' && (x == 'x' || x == 'X')) := by
  unfold startsHex
  split
  · next h =>
    cases h
    rfl
  · next h =>
    cases h
    rfl
  · next hx hX =>
    refine (Bool.eq_false_iff.2 fun h => ?_).symm
    simp only [Bool.and_eq_true, Bool.or_eq_true, beq_iff_eq] at h
    obtain ⟨rfl, rfl | rfl⟩ := h
    · exact hx cs rfl
    · exact hX cs rfl

/-- A hexadecimal number takes more than its first character. -/
theorem length_hexNumber {c : Char} (h : startsHex (c :: cs) = true) :
    (hexNumber (c :: cs)).rest.length < cs.length := by
  have hnames : inName '0' = true ∧ inName 'x' = true ∧ inName 'X' = true := by decide
  rw [hexNumber_eq]
  unfold startsHex at h
  split at h
  · next hcs =>
    cases hcs
    simp only [runToken, List.takeWhile_cons, hnames, if_true, List.length_cons, List.drop_succ_cons,
      List.length_drop]
    omega
  · next hcs =>
    cases hcs
    simp only [runToken, List.takeWhile_cons, hnames, if_true, List.length_cons, List.drop_succ_cons,
      List.length_drop]
    omega
  · cases h

theorem number_kept (l : Lexis) {w : List Char} (hw : EndsWord w) (c : Char) (q : List Char) :
    Kept m w (l.number (c :: (q ++ m))) (l.number (c :: (q ++ w))) := by
  intro h
  have hhex : startsHex (c :: (q ++ w)) = startsHex (c :: (q ++ m)) := by
    cases q with
    | cons x q => exact (startsHex_cons_cons c x _).trans (startsHex_cons_cons c x _).symm
    | nil =>
      have hwhex : startsHex (c :: w) = false := by
        unfold startsHex
        split
        · next hcs =>
          cases hcs
          exact absurd (hw 'x' rfl) (by decide)
        · next hcs =>
          cases hcs
          exact absurd (hw 'X' rfl) (by decide)
        · rfl
      rw [List.nil_append, hwhex]
      cases hx : startsHex (c :: m) with
      | false => exact hx.symm
      | true =>
        have hlength := length_hexNumber hx
        unfold number at h
        rw [List.nil_append, if_pos hx] at h
        omega
  unfold number at h ⊢
  rw [hhex]
  split at h
  · next hx =>
    simp only [if_pos hx]
    rw [hexNumber_eq, hexNumber_eq] at *
    exact runToken_kept (inName_endsWord hw) hexWord (c :: q) h
  · next hx =>
    simp only [if_neg hx]
    exact decimalNumber_kept l hw (c :: q) h

/-! ## Tokens and comments -/

/-- No quote stands where a word ends. -/
theorem quote_class (d : Dialect) {c : Char}
    (h : c ∈ d.lexis.nameQuotes.map (·.2) ∨ c ∈ d.lexis.textQuotes) :
    c ≠ '\\' ∧ ∀ w, EndsWord w → c ∉ w.head? := by
  have hquote : isBlank c = false ∧ c ∉ closers ∧ c ≠ '\\' := by
    have key : (d.lexis.nameQuotes.map (·.2) ++ d.lexis.textQuotes).all (fun c =>
        !isBlank c && !closers.contains c && c != '\\') = true := by
      cases d <;> decide +kernel
    have hc := List.all_eq_true.1 key c (List.mem_append.2 h)
    simpa [and_assoc] using hc
  refine ⟨hquote.2.2, fun w hw hc => ?_⟩
  rcases hw c hc with hc | hc
  · simp [hquote.1] at hc
  · exact hquote.2.1 hc

/-- A quoted token that ends in front of the place. -/
theorem quoted_kept (d : Dialect) (kind : TokenKind) {doubled masked : Bool} {close : Char}
    (hclose : close ∈ d.lexis.nameQuotes.map (·.2) ∨ close ∈ d.lexis.textQuotes) {w : List Char}
    (hw : EndsWord w) {q : List Char} {t : Token}
    (h : (d.lexis.quotedBody doubled masked close (q ++ m)).map
      (fun (s, rest) => ⟨kind, String.ofList s, rest⟩) = some t) (ht : m.length ≤ t.rest.length) :
    ∃ q', t.rest = q' ++ m ∧ (d.lexis.quotedBody doubled masked close (q ++ w)).map
      (fun (s, rest) => ⟨kind, String.ofList s, rest⟩) = some { t with rest := q' ++ w } := by
  obtain ⟨hslash, hends⟩ := quote_class d hclose
  obtain ⟨⟨body, r⟩, hbody, rfl⟩ := Option.map_eq_some_iff.1 h
  obtain ⟨q', hr, hbodyw⟩ := quotedBody_boundary hslash (hends w hw) hbody ht
  exact ⟨q', hr, by rw [hbodyw]; rfl⟩

theorem length_quoted {kind : TokenKind} {doubled masked : Bool} {close : Char} {t : Token}
    (h : (l.quotedBody doubled masked close cs).map (fun (s, rest) => ⟨kind, String.ofList s, rest⟩) =
      some t) : t.rest.length < cs.length := by
  obtain ⟨⟨body, r⟩, hbody, rfl⟩ := Option.map_eq_some_iff.1 h
  exact length_quotedBody hbody

theorem token?_kept (d : Dialect) {w : List Char} (hw : EndsWord w) {c : Char} {q : List Char} {t : Token}
    (h : d.lexis.token? c (q ++ m) = some t) (ht : m.length ≤ t.rest.length) :
    ∃ q', t.rest = q' ++ m ∧ d.lexis.token? c (q ++ w) = some { t with rest := q' ++ w } := by
  unfold token? at h ⊢
  cases hdigit : isDigit c with
  | true =>
    rw [hdigit, if_pos rfl] at h
    cases h
    obtain ⟨q', hq', heq⟩ := number_kept d.lexis hw c q ht
    exact ⟨q', hq', by rw [if_pos rfl, heq]⟩
  | false =>
    simp only [hdigit, Bool.false_eq_true, if_false] at h ⊢
    cases hname : d.lexis.nameQuotes.lookup c with
    | some close =>
      rw [hname] at h
      have hclose : close ∈ d.lexis.nameQuotes.map (·.2) := by
        obtain ⟨front, rest, heq, -⟩ := List.lookup_eq_some_iff.1 hname
        simp [heq]
      exact quoted_kept d .name (.inl hclose) hw h ht
    | none =>
      simp only [hname] at h ⊢
      by_cases htext : d.lexis.textQuotes.contains c = true
      · rw [if_pos htext] at h ⊢
        exact quoted_kept d .text (.inr (by simpa using htext)) hw h ht
      rw [if_neg htext] at h ⊢
      have hletter : (isTextLetter c && d.lexis.textQuotes.contains ((q ++ w).headD ' ')) =
          (isTextLetter c && d.lexis.textQuotes.contains ((q ++ m).headD ' ')) := by
        cases q with
        | cons x q => rfl
        | nil =>
          have hwquote : d.lexis.textQuotes.contains (w.headD ' ') = false := by
            cases w with
            | nil => cases d <;> decide
            | cons x w => exact (closer_class d (hw x rfl)).2.1
          rw [List.nil_append, hwquote, Bool.and_false]
          cases hquote : isTextLetter c && d.lexis.textQuotes.contains (m.headD ' ') with
          | false => exact hquote.symm
          | true =>
            rw [List.nil_append, if_pos hquote] at h
            have := length_quoted h
            simp only [List.length_drop] at this
            omega
      rw [hletter]
      split at h
      · next hquote =>
        rw [if_pos hquote]
        cases q with
        | nil =>
          have := length_quoted h
          simp only [List.nil_append, List.length_drop] at this
          omega
        | cons x q =>
          have hx := (Bool.and_eq_true_iff.1 hquote).2
          exact quoted_kept d .text (.inr (by simpa using hx)) hw h ht
      · next hquote =>
        rw [if_neg hquote]
        split at h
        · next hmark =>
          rw [if_pos hmark]
          cases h
          exact ⟨q, rfl, rfl⟩
        · next hmark =>
          rw [if_neg hmark]
          cases h
          obtain ⟨q', hq', heq⟩ := runToken_kept (fun x hx => (closer_class d (hw x hx)).1)
            (fun tail => (.word, String.ofList (c :: tail))) q ht
          exact ⟨q', hq', congrArg some heq⟩

/-- What starts a comment is told by the first two characters. -/
theorem comment?_cons_cons (d : Dialect) (c x : Char) (cs : List Char) :
    d.lexis.comment? (c :: x :: cs) =
      if d.lexis.lineComments.any (·.isPrefixOf [c, x]) then
        some (some ((c :: x :: cs).dropWhile (!isBreak ·)))
      else if c = '/' ∧ x = '*' then some (d.lexis.blockEnd 1 cs)
      else none := by
  have hline : d.lexis.lineComments.any (·.isPrefixOf (c :: x :: cs)) =
      d.lexis.lineComments.any (·.isPrefixOf [c, x]) := by
    cases d <;> simp [Dialect.lexis, List.isPrefixOf]
  have hblock : ['/', '*'].isPrefixOf (c :: x :: cs) = decide (c = '/' ∧ x = '*') := by
    rw [Bool.eq_iff_iff]
    simp only [List.isPrefixOf, Bool.and_true, Bool.and_eq_true, beq_iff_eq, decide_eq_true_eq]
    exact and_congr eq_comm eq_comm
  unfold comment?
  rw [hline, hblock]
  simp only [decide_eq_true_eq]
  rfl

/-- A comment takes at least one character. -/
theorem length_comment? (d : Dialect) {c : Char} (h : d.lexis.comment? (c :: cs) = some (some r)) :
    r.length ≤ cs.length := by
  have hstart : c ∈ ['-', '#', '/'] := Decidable.byContradiction fun hc => by
    rw [comment?_eq_none d cs hc] at h
    cases h
  unfold comment? at h
  split at h
  · next hline =>
    cases h
    have hstarts : ['-', '#', '/'].all (!isBreak ·) = true := by decide
    have hc : isBreak c = false := by simpa using List.all_eq_true.1 hstarts c hstart
    rw [List.dropWhile_cons_of_pos (by simp [hc])]
    exact (List.dropWhile_suffix _).length_le
  split at h
  · have hblock : d.lexis.blockEnd 1 (cs.drop 1) = some r := Option.some.inj h
    have := length_blockEnd hblock
    simp only [List.length_drop] at this
    omega
  · cases h

theorem dropWhile_boundary {p : Char → Bool} :
    ∀ q : List Char, m.length < ((q ++ m).dropWhile p).length →
      ∃ q', (q ++ m).dropWhile p = q' ++ m ∧ ∀ w, (q ++ w).dropWhile p = q' ++ w
  | [], h => absurd (List.dropWhile_suffix p).length_le (Nat.not_le.2 h)
  | c :: q, h => by
    cases hc : p c with
    | false => exact ⟨c :: q, by simp [hc], fun w => by simp [hc]⟩
    | true => 
      simp only [List.cons_append, List.dropWhile_cons, hc, if_true] at h ⊢
      exact dropWhile_boundary q h

theorem comment?_none_kept (d : Dialect) {w : List Char} (hw : EndsWord w) {c : Char} {q : List Char}
    (h : d.lexis.comment? (c :: (q ++ m)) = none) : d.lexis.comment? (c :: (q ++ w)) = none := by
  cases q with
  | cons x q =>
    rw [List.cons_append, comment?_cons_cons] at h ⊢
    split at h
    · cases h
    split at h
    · cases h
    · next hline hblock => rw [if_neg hline, if_neg hblock]
  | nil =>
    by_cases hc : c ∈ ['-', '#', '/']
    · have hx : ∀ x ∈ w.head?, x ≠ '-' ∧ x ≠ '/' ∧ x ≠ '*' := fun x hx => by
        have hsign := closer_not_sign (hw x hx)
        simp only [List.mem_cons, List.not_mem_nil, or_false, not_or] at hsign
        exact ⟨hsign.1, hsign.2.2⟩
      simp only [List.mem_cons, List.not_mem_nil, or_false] at hc
      cases w with
      | nil =>
        rcases hc with rfl | rfl | rfl <;> cases d <;>
          simp_all [comment?, Dialect.lexis, List.isPrefixOf]
      | cons x w =>
        have hx := hx x rfl
        rcases hc with rfl | rfl | rfl <;> cases d <;>
          simp_all [comment?, Dialect.lexis, List.isPrefixOf, Ne.symm]
    · exact comment?_eq_none d w hc

theorem comment?_kept (d : Dialect) {c : Char} {q : List Char}
    (h : d.lexis.comment? (c :: (q ++ m)) = some (some r)) (hr : m.length < r.length) :
    ∃ q', r = q' ++ m ∧ ∀ w, d.lexis.comment? (c :: (q ++ w)) = some (some (q' ++ w)) := by
  cases q with
  | nil => exact absurd (length_comment? d h) (Nat.not_le.2 hr)
  | cons x q =>
    simp only [List.cons_append, comment?_cons_cons] at h ⊢
    split at h
    · next hline =>
      cases h
      obtain ⟨q', hq', hqw⟩ := dropWhile_boundary (c :: x :: q) hr
      exact ⟨q', hq', fun w => by rw [if_pos hline, ← hqw]; rfl⟩
    split at h
    · next hline hblock =>
      obtain ⟨q', hq', hqw⟩ := blockEnd_boundary (Option.some.inj h) (Nat.le_of_lt hr)
      exact ⟨q', hq', fun w => by rw [if_neg hline, if_pos hblock, hqw]⟩
    · cases h

end Lexis

end TableScaffold.Sql
