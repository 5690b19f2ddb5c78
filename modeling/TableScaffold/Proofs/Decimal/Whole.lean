import Mathlib.Algebra.Group.Nat.Defs
import TableScaffold.Proofs.Decimal.Digits
import TableScaffold.Proofs.Text.Ascii

/-!
# Whole numbers that are written in plain digits

`whole?_toString`: the digits of a number are read back as the number, up to the limit on digits.
-/

namespace TableScaffold.Decimal

open Text

/-- A plain digit is no white space, and its value is its distance from zero. -/
theorem digit_value {c : Char} (h : c.isDigit = true) :
    decimalValue? c = some (c.toNat - 48) ∧ isWhiteSpace c = false := by
  have hc : c.toNat < 128 := toNat_lt_of_isAlphanum (by simp [Char.isAlphanum, h])
  have key := ascii_all
    (p := fun c => !c.isDigit || (decimalValue? c == some (c.toNat - 48) && !isWhiteSpace c))
    (by decide) hc
  simpa [h] using key

theorem trimBy_digits {ds : List Char} (h : ∀ c ∈ ds, c.isDigit = true) :
    trimBy isWhiteSpace ds = ds :=
  trimBy_of_none fun c hc => (digit_value (h c hc)).2

theorem splitSign_digits {ds : List Char} (h : ∀ c ∈ ds, c.isDigit = true) :
    splitSign ds = (false, ds) := by
  have hmarks : (numberMarks.all fun c => !c.isDigit) = true := by decide
  refine splitSign_of_unmarked fun c hc hmark => ?_
  simpa [h c hc] using List.all_eq_true.mp hmarks c hmark

theorem digitRun?_digits {ds : List Char} (hne : ds ≠ []) (h : ∀ c ∈ ds, c.isDigit = true) :
    digitRun? decimalValue? ds = some (ds.map fun c => c.toNat - 48) := by
  induction ds with
  | nil => exact absurd rfl hne
  | cons c cs ih =>
    have hc := (digit_value (h c List.mem_cons_self)).1
    cases cs with
    | nil => simp [digitRun?, hc]
    | cons x xs =>
      have hx : x ≠ '_' := by
        rintro rfl
        exact absurd (h '_' (by simp)) (by decide)
      rw [digitRun?, hc]
      simp [hx, ih (by simp) fun y hy => h y (List.mem_cons_of_mem _ hy)]

theorem digitsValue_digits (ds : List Char) (sofar : Nat) :
    digitsValue sofar (ds.map fun c => c.toNat - 48) = Nat.ofDigitChars 10 ds sofar := by
  unfold digitsValue
  rw [List.foldl_map, Nat.ofDigitChars_eq_foldl]
  rfl

theorem toList_toString (n : Nat) : (toString n).toList = Nat.toDigits 10 n := by
  rw [Nat.toString_eq_ofList_toDigits, String.toList_ofList]

theorem isDigit_toString {n : Nat} {c : Char} (h : c ∈ (toString n).toList) : c.isDigit = true := by
  rw [toList_toString] at h
  exact Nat.isDigit_of_mem_toDigits (by decide) (by decide) h

theorem toString_ne_nil (n : Nat) : (toString n).toList ≠ [] := by
  rw [toList_toString]
  exact Nat.toDigits_ne_nil

/-- Digits stand for less than the power of ten that has one digit more. -/
theorem ofDigitChars_lt {ds : List Char} (h : ∀ c ∈ ds, c.isDigit = true) (sofar : Nat) :
    Nat.ofDigitChars 10 ds sofar < (sofar + 1) * 10 ^ ds.length := by
  induction ds generalizing sofar with
  | nil => simp
  | cons c cs ih =>
    have hc : c.toNat - 48 ≤ 9 := by
      have := h c List.mem_cons_self
      simp only [Char.isDigit, Bool.and_eq_true, decide_eq_true_eq] at this
      have : c.toNat ≤ 57 := this.2
      omega
    have ih := ih (fun x hx => h x (List.mem_cons_of_mem _ hx)) (10 * sofar + (c.toNat - 48))
    rw [Nat.ofDigitChars_cons, List.length_cons, Nat.pow_succ]
    calc Nat.ofDigitChars 10 cs (10 * sofar + (c.toNat - 48))
        < (10 * sofar + (c.toNat - 48) + 1) * 10 ^ cs.length := ih
      _ ≤ ((sofar + 1) * 10) * 10 ^ cs.length := Nat.mul_le_mul_right _ (by omega)
      _ = (sofar + 1) * (10 ^ cs.length * 10) := by rw [Nat.mul_assoc, Nat.mul_comm 10]

/-- Digits behind a sign, up to the limit, are read as the number that they stand for. -/
theorem whole?_of_splitSign {s : String} {negative : Bool} {ds : List Char}
    (hsplit : splitSign (trimBy isWhiteSpace s.toList) = (negative, ds)) (hne : ds ≠ [])
    (h : ∀ c ∈ ds, c.isDigit = true) (hlength : ds.length ≤ digitLimit) :
    whole? s = some (signed negative (Nat.ofDigitChars 10 ds 0)) := by
  unfold whole?
  rw [hsplit]
  simp only [digitRun?_digits hne h, List.length_map, if_neg (Nat.not_lt.2 hlength),
    digitsValue_digits]

theorem whole?_digits {s : String} (hne : s.toList ≠ []) (h : ∀ c ∈ s.toList, c.isDigit = true)
    (hlength : s.toList.length ≤ digitLimit) :
    whole? s = some (Nat.ofDigitChars 10 s.toList 0 : Int) :=
  whole?_of_splitSign (by rw [trimBy_digits h, splitSign_digits h]) hne h hlength

theorem isAllDigits_digits {s : String} (hne : s.toList ≠ [])
    (h : ∀ c ∈ s.toList, c.isDigit = true) : isAllDigits s = true := by
  have hempty : s.isEmpty = false := by
    rw [Bool.eq_false_iff]
    intro hs
    exact hne (by rw [String.isEmpty_iff.1 hs]; rfl)
  have hall : s.toList.all isDigit = true := by
    rw [List.all_eq_true]
    intro c hc
    simp [isDigit, (digit_value (h c hc)).1]
  rw [isAllDigits, hempty, hall]
  rfl

/-- A number with at most as many digits as are allowed is read back. -/
theorem whole?_toString {n : Nat} (h : n < 10 ^ digitLimit) :
    whole? (toString n) = some (n : Int) := by
  have hlength : (toString n).toList.length ≤ digitLimit := by
    rw [toList_toString]
    exact (Nat.length_toDigits_le_iff (by decide) (by decide)).2 h
  rw [whole?_digits (toString_ne_nil n) (fun _ => isDigit_toString) hlength,
    toList_toString, Nat.ofDigitChars_ten_toDigits]

theorem isAllDigits_toString (n : Nat) : isAllDigits (toString n) = true :=
  isAllDigits_digits (toString_ne_nil n) fun _ => isDigit_toString

end TableScaffold.Decimal
