import TableScaffold.Text.Case

/-!
# Letter case away from the letters

No letter is mapped to a character below the letters, no character below the letters is mapped to
another one, and no character is mapped to nothing.
-/

namespace TableScaffold.Text

/-- Whether a shift leads from characters to characters, and neither from nor to NUL. -/
def Shift.isPlain (s : Shift) : Bool :=
  0 < s.span.first && 0 < s.span.first + s.distance &&
    (s.span.last + s.distance < 0xD800 ||
      (0xDFFF < s.span.first + s.distance && s.span.last + s.distance < 0x110000))

/-- Whether a shift leads from letters to letters, as far as the lowest of them tells. -/
def Shift.isHigh (s : Shift) : Bool :=
  s.isPlain && 64 < s.span.first && 64 < s.span.first + s.distance

/-- Whether the expansion of a letter is some letters. -/
def isHighExpansion (e : Nat × List Nat) : Bool :=
  64 < e.1 && !e.2.isEmpty && e.2.all fun n => 64 < (Char.ofNat n).toNat

theorem toNat_ofNat {n : Nat} (hvalid : n.isValidChar) : (Char.ofNat n).toNat = n := by
  rw [Char.ofNat, dif_pos hvalid]
  rfl

/-- A plain shift leads to a character. -/
theorem Shift.isPlain.toNat_shifted {s : Shift} (hs : s.isPlain = true) {n : Nat}
    (hn : s.span.holds n = true) :
    ((Char.ofNat (Int.ofNat n + s.distance).toNat).toNat : Int) = n + s.distance := by
  have hfirst := Span.first_le_of_holds hn
  have hlast := Span.le_last_of_holds hn
  simp only [isPlain, Bool.and_eq_true, Bool.or_eq_true, decide_eq_true_eq] at hs
  rw [Int.ofNat_eq_natCast]
  have hvalid : ((n : Int) + s.distance).toNat.isValidChar := by
    unfold Nat.isValidChar
    omega
  rw [toNat_ofNat hvalid]
  omega

/-- Where a plain shift leads to. -/
theorem Shift.isPlain.shifted {s : Shift} (hs : s.isPlain = true) {n : Nat}
    (hn : s.span.holds n = true) :
    s.span.first + s.distance ≤ (Char.ofNat (Int.ofNat n + s.distance).toNat).toNat := by
  have hfirst := Span.first_le_of_holds hn
  rw [toNat_shifted hs hn]
  omega

theorem Shift.isHigh.shifted {s : Shift} (hs : s.isHigh = true) {n : Nat}
    (hn : s.span.holds n = true) :
    64 < n ∧ 64 < (Char.ofNat (Int.ofNat n + s.distance).toNat).toNat := by
  have hfirst := Span.first_le_of_holds hn
  simp only [Shift.isHigh, Bool.and_eq_true, decide_eq_true_eq] at hs
  have himage := Shift.isPlain.shifted hs.1.1 hn
  omega

/-- What a character is mapped to: a character that is no letter stays, a letter becomes letters. -/
def Mapped (c : Char) (image : List Char) : Prop :=
  image = [c] ∨ 64 < c.toNat ∧ image ≠ [] ∧ ∀ d ∈ image, 64 < d.toNat

/-- A character below the letters comes from itself only. -/
theorem Mapped.mem_iff {c d : Char} {image : List Char} (h : Mapped c image) (hd : d.toNat ≤ 64) :
    d ∈ image ↔ d = c := by
  rcases h with rfl | ⟨hc, -, himage⟩
  · exact List.mem_singleton
  · refine iff_of_false (fun hmem => ?_) (fun heq => ?_)
    · have := himage d hmem
      omega
    · subst heq
      omega

theorem Mapped.ne_nil {c : Char} {image : List Char} (h : Mapped c image) : image ≠ [] := by
  rcases h with rfl | ⟨-, hne, -⟩
  · exact List.cons_ne_nil c []
  · exact hne

theorem Mapped.eq {c : Char} {image : List Char} (h : Mapped c image) (hc : c.toNat ≤ 64) :
    image = [c] := by
  rcases h with rfl | ⟨hhigh, -, -⟩
  · rfl
  · omega

theorem mapped_mapCase {shifts : List Shift} {expansions : List (Nat × List Nat)}
    (hshifts : shifts.all Shift.isHigh = true) (hexpansions : expansions.all isHighExpansion = true)
    (c : Char) : Mapped c (mapCase shifts expansions c) := by
  unfold mapCase
  cases hshift : shifted shifts c.toNat with
  | some n =>
    obtain ⟨s, hs, rfl⟩ := Option.map_eq_some_iff.mp hshift
    have hhigh := List.all_eq_true.mp hshifts s (List.mem_of_find?_eq_some hs)
    have hholds : s.span.holds c.toNat = true := by simpa using List.find?_some hs
    obtain ⟨hc, hd⟩ := Shift.isHigh.shifted hhigh hholds
    exact .inr ⟨hc, List.cons_ne_nil _ _, fun d hmem => List.mem_singleton.mp hmem ▸ hd⟩
  | none =>
    cases hlookup : expansions.lookup c.toNat with
    | some ns =>
      obtain ⟨front, back, hsplit, -⟩ := List.lookup_eq_some_iff.mp hlookup
      have hhigh := List.all_eq_true.mp hexpansions (c.toNat, ns) (by simp [hsplit])
      simp only [isHighExpansion, Bool.and_eq_true, decide_eq_true_eq, Bool.not_eq_true',
        List.isEmpty_eq_false_iff, List.all_eq_true] at hhigh
      obtain ⟨⟨hc, hne⟩, hns⟩ := hhigh
      refine .inr ⟨hc, by simpa using hne, fun d hd => ?_⟩
      obtain ⟨n, hn, rfl⟩ := List.mem_map.mp hd
      exact hns n hn
    | none => exact .inl rfl

theorem mapped_upperChar (c : Char) : Mapped c (upperChar c) :=
  mapped_mapCase (by decide) (by decide) c

theorem mapped_lowerChar (c : Char) : Mapped c (lowerChar c) :=
  mapped_mapCase (by decide) (by decide) c

/-- A text does not vanish in upper case. -/
theorem upper_ne_empty {s : String} (h : s ≠ "") : upper s ≠ "" := by
  obtain ⟨c, cs, hs⟩ := List.exists_cons_of_ne_nil (mt String.toList_eq_nil_iff.1 h)
  intro hupper
  have hnil : s.toList.flatMap upperChar = [] := by
    rw [← String.toList_ofList (l := s.toList.flatMap upperChar)]
    exact String.toList_eq_nil_iff.2 hupper
  rw [hs, List.flatMap_cons] at hnil
  exact (mapped_upperChar c).ne_nil (List.append_eq_nil_iff.1 hnil).1

end TableScaffold.Text
