import TableScaffold.Decimal.Whole

/-!
# Whole numbers in digits of any script

A text of digits is a number only if each digit has a place value and there are not too many of them
(`whole?_isSome_iff`). Superscripts and their like are digits without one.
-/

namespace TableScaffold.Decimal

open Text

/-- The marks that a number may hold beside digits and white space. -/
def numberMarks : List Char := ['-', '+', '_']

/-- Where the digits lie, those with a place value first. -/
def digitSpans : List Span := decimalZeros.map (fun z => ⟨z, z + 9, 1⟩) ++ plainDigitSpans

theorem exists_span_of_isDigit {c : Char} (h : isDigit c = true) :
    ∃ s ∈ digitSpans, s.first ≤ c.toNat ∧ c.toNat ≤ s.last := by
  unfold isDigit at h
  rcases Bool.or_eq_true_iff.mp h with h | h
  · obtain ⟨d, hd⟩ := Option.isSome_iff_exists.mp h
    obtain ⟨z, hz, -⟩ := Option.map_eq_some_iff.mp hd
    have hin := List.find?_some hz
    simp only [Bool.and_eq_true, decide_eq_true_eq] at hin
    exact ⟨⟨z, z + 9, 1⟩, List.mem_append_left _ (List.mem_map_of_mem (List.mem_of_find?_eq_some hz)),
      hin.1, by dsimp only; omega⟩
  · obtain ⟨s, hs, hin⟩ := inSpans_eq_true_iff.mp h
    exact ⟨s, List.mem_append_right _ hs, Span.first_le_of_holds hin, Span.le_last_of_holds hin⟩

/-- No digit lies between two bounds. -/
def avoidDigits (first last : Nat) : Bool :=
  digitSpans.all fun s => s.last < first || last < s.first

theorem not_isDigit_of_avoidDigits {c : Char} {first last : Nat} (h : avoidDigits first last = true)
    (hfirst : first ≤ c.toNat) (hlast : c.toNat ≤ last) : isDigit c = false := by
  rw [Bool.eq_false_iff]
  intro hdigit
  obtain ⟨s, hs, hsfirst, hslast⟩ := exists_span_of_isDigit hdigit
  have hapart := List.all_eq_true.mp h s hs
  simp only [Bool.or_eq_true, decide_eq_true_eq] at hapart
  omega

/-- A digit of any script is neither white space nor a mark. -/
theorem plain_of_isDigit {c : Char} (h : isDigit c = true) :
    isWhiteSpace c = false ∧ c ∉ numberMarks := by
  have hblanks : (whiteSpaceSpans.all fun t => avoidDigits t.first t.last) = true := by
    decide
  have hmarks : (numberMarks.all fun x => avoidDigits x.toNat x.toNat) = true := by
    decide
  refine ⟨?_, fun hmem => ?_⟩
  · rw [Bool.eq_false_iff]
    intro hblank
    obtain ⟨t, ht, hin⟩ := inSpans_eq_true_iff.mp hblank
    have hno := not_isDigit_of_avoidDigits (List.all_eq_true.mp hblanks t ht)
      (Span.first_le_of_holds hin) (Span.le_last_of_holds hin)
    rw [hno] at h
    cases h
  · have hno := not_isDigit_of_avoidDigits (List.all_eq_true.mp hmarks c hmem) (Nat.le_refl _)
      (Nat.le_refl _)
    rw [hno] at h
    cases h

theorem trimBy_of_none {p : Char → Bool} {cs : List Char} (h : ∀ c ∈ cs, p c = false) :
    trimBy p cs = cs := by
  have hdrop : ∀ cs : List Char, (∀ c ∈ cs, p c = false) → cs.dropWhile p = cs := by
    intro cs hcs
    cases cs with
    | nil => rfl
    | cons c cs => simp [hcs c List.mem_cons_self]
  unfold trimBy
  rw [hdrop cs h, hdrop cs.reverse fun c hc => h c (List.mem_reverse.mp hc), List.reverse_reverse]

theorem splitSign_of_unmarked {cs : List Char} (h : ∀ c ∈ cs, c ∉ numberMarks) :
    splitSign cs = (false, cs) := by
  unfold splitSign
  split
  · exact absurd (by decide) (h '-' List.mem_cons_self)
  · exact absurd (by decide) (h '+' List.mem_cons_self)
  · rfl

/-- Digits with a place value are read one by one, and one without stops the reading. -/
theorem digitRun?_of_unmarked {cs : List Char} (hne : cs ≠ []) (h : ∀ c ∈ cs, c ∉ numberMarks) :
    digitRun? decimalValue? cs = cs.mapM decimalValue? := by
  induction cs with
  | nil => exact absurd rfl hne
  | cons c cs ih =>
    cases cs with
    | nil => cases hc : decimalValue? c <;> simp [digitRun?, hc]
    | cons d rest =>
      have hd : d ≠ '_' := by
        rintro rfl
        exact h '_' (by simp) (by decide)
      have hrest := ih (List.cons_ne_nil d rest) fun x hx => h x (List.mem_cons_of_mem _ hx)
      rw [digitRun?, List.mapM_cons]
      simp only [if_neg hd, hrest]
      cases hc : decimalValue? c with
      | none => rfl
      | some n => cases (d :: rest).mapM decimalValue? <;> rfl

theorem mapM_isSome_iff {α β : Type} {f : α → Option β} {xs : List α} :
    (xs.mapM f).isSome = true ↔ ∀ x ∈ xs, (f x).isSome = true := by
  induction xs with
  | nil => simp
  | cons x xs ih =>
    rw [List.mapM_cons, List.forall_mem_cons, ← ih]
    cases f x <;> cases xs.mapM f <;> simp

theorem length_of_mapM {α β : Type} {f : α → Option β} {xs : List α} {ys : List β}
    (h : xs.mapM f = some ys) : ys.length = xs.length := by
  induction xs generalizing ys with
  | nil =>
    cases h
    rfl
  | cons x xs ih =>
    rw [List.mapM_cons] at h
    cases hx : f x with
    | none => simp [hx] at h
    | some y =>
      cases hxs : xs.mapM f with
      | none => simp [hx, hxs] at h
      | some zs =>
        simp only [hx, hxs] at h
        cases h
        simp [ih hxs]

/-- When a text of digits is a number. -/
theorem whole?_isSome_iff {s : String} (h : isAllDigits s = true) :
    (whole? s).isSome = true ↔
      (∀ c ∈ s.toList, (decimalValue? c).isSome = true) ∧ s.toList.length ≤ digitLimit := by
  unfold isAllDigits at h
  obtain ⟨hne, hall⟩ : s.toList ≠ [] ∧ ∀ c ∈ s.toList, isDigit c = true := by
    simpa using h
  have hplain := fun c hc => plain_of_isDigit (hall c hc)
  unfold whole?
  rw [trimBy_of_none fun c hc => (hplain c hc).1, splitSign_of_unmarked fun c hc => (hplain c hc).2]
  dsimp only
  rw [digitRun?_of_unmarked hne fun c hc => (hplain c hc).2, ← mapM_isSome_iff]
  cases hds : s.toList.mapM decimalValue? with
  | none => simp
  | some ds =>
    have hlength := length_of_mapM hds
    by_cases hlong : digitLimit < ds.length
    · simp only [hlong, if_true]
      simp
      omega
    · simp only [hlong, if_false]
      simp
      omega

end TableScaffold.Decimal
