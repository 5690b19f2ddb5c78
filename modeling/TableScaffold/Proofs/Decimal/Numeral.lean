import TableScaffold.Proofs.Decimal.Whole

/-!
# Whole numbers with a sign

`whole?_of_writes`: the decimal text of a number of either sign is read back, also between white
space, and behind a plus sign if the number is not negative.
-/

namespace TableScaffold.Decimal

open Text

/-- The decimal texts of a number. -/
inductive Numeral : Int → List Char → Prop
  | plain (n : Int) : Numeral n (toString n).toList
  | plus (n : Nat) : Numeral n ('+' :: (toString n).toList)

/-- A decimal text of a number between white space. -/
def Writes (n : Int) (s : String) : Prop :=
  ∃ front cs back, s.toList = front ++ cs ++ back ∧ Numeral n cs ∧
    (∀ c ∈ front, isWhiteSpace c = true) ∧ ∀ c ∈ back, isWhiteSpace c = true

/-- A numeral is a sign or nothing in front of the digits of the distance from zero. -/
theorem Numeral.exists_sign {n : Int} {cs : List Char} (h : Numeral n cs) :
    ∃ sign negative, cs = sign ++ (toString n.natAbs).toList ∧
      (∀ c ∈ sign, isWhiteSpace c = false) ∧
      splitSign cs = (negative, (toString n.natAbs).toList) ∧ signed negative n.natAbs = n := by
  cases h with
  | plain =>
    cases n with
    | ofNat m =>
      exact ⟨[], false, rfl, by simp, splitSign_digits fun _ => isDigit_toString, rfl⟩
    | negSucc m =>
      have htext : (toString (Int.negSucc m)).toList = '-' :: (toString (m + 1)).toList := by
        show ("-" ++ toString (m + 1)).toList = _
        rw [String.toList_append]
        rfl
      rw [htext]
      exact ⟨['-'], true, rfl, List.forall_mem_singleton.mpr (by decide), rfl, rfl⟩
  | plus m => exact ⟨['+'], false, rfl, List.forall_mem_singleton.mpr (by decide), rfl, rfl⟩

/-- Trimming leaves what stands between characters of a class and has none of them. -/
theorem trimBy_between {p : Char → Bool} {front cs back : List Char} (hne : cs ≠ [])
    (hfront : ∀ c ∈ front, p c = true) (hcs : ∀ c ∈ cs, p c = false)
    (hback : ∀ c ∈ back, p c = true) : trimBy p (front ++ cs ++ back) = cs := by
  obtain ⟨c, rest, rfl⟩ := List.exists_cons_of_ne_nil hne
  have hhead : ∀ tail, (c :: rest ++ tail).dropWhile p = c :: rest ++ tail := fun tail =>
    List.dropWhile_cons_of_neg (by simp [hcs c List.mem_cons_self])
  have hreverse : (c :: rest ++ back).reverse.dropWhile p = (c :: rest).reverse.dropWhile p := by
    rw [List.reverse_append,
      List.dropWhile_append_of_pos fun x hx => hback x (List.mem_reverse.mp hx)]
  have htrim := trimBy_of_none hcs
  have hdrop := hhead []
  rw [List.append_nil] at hdrop
  rw [trimBy, hdrop] at htrim
  rw [trimBy, List.append_assoc, List.dropWhile_append_of_pos hfront, hhead, hreverse, htrim]

/-- A number in decimal text is read back, up to the limit on digits. -/
theorem whole?_of_writes {n : Int} {s : String} (h : Writes n s) (hn : n.natAbs < 10 ^ digitLimit) :
    whole? s = some n := by
  obtain ⟨front, cs, back, hs, hnumeral, hfront, hback⟩ := h
  obtain ⟨sign, negative, hcs, hsign, hsplit, hsigned⟩ := hnumeral.exists_sign
  have hdigit : ∀ c ∈ (toString n.natAbs).toList, c.isDigit = true := fun _ => isDigit_toString
  have hne : cs ≠ [] := by
    rw [hcs]
    exact List.append_ne_nil_of_right_ne_nil sign (toString_ne_nil _)
  have hplain : ∀ c ∈ cs, isWhiteSpace c = false := by
    rw [hcs]
    exact List.forall_mem_append.mpr ⟨hsign, fun c hc => (digit_value (hdigit c hc)).2⟩
  have hlength : (toString n.natAbs).toList.length ≤ digitLimit := by
    rw [toList_toString]
    exact (Nat.length_toDigits_le_iff (by decide) (by decide)).2 hn
  rw [whole?_of_splitSign (by rw [hs, trimBy_between hne hfront hplain hback, hsplit])
    (toString_ne_nil _) hdigit hlength, toList_toString, Nat.ofDigitChars_ten_toDigits, hsigned]

end TableScaffold.Decimal
