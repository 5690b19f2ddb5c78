import TableScaffold.Text.Case

/-!
# ASCII text

A property of the ASCII characters is a finite check. Full case mapping is plain case mapping on them.
-/

namespace TableScaffold.Text

/-- A test that holds of the ASCII characters holds of each of them. -/
theorem ascii_all {p : Char → Bool} (h : (List.range 128).all (fun n => p (Char.ofNat n)) = true)
    {c : Char} (hc : c.toNat < 128) : p c = true := by
  have := List.all_eq_true.1 h c.toNat (List.mem_range.2 hc)
  rwa [Char.ofNat_toNat] at this

theorem toNat_lt_of_isAlphanum {c : Char} (h : c.isAlphanum = true) : c.toNat < 128 := by
  have hz : 'z'.val.toNat = 122 := rfl
  have hZ : 'Z'.val.toNat = 90 := rfl
  have h9 : '9'.val.toNat = 57 := rfl
  have hc : c.toNat = c.val.toNat := rfl
  delta Char.isAlphanum Char.isAlpha Char.isUpper Char.isLower Char.isDigit at h
  simp only [Bool.or_eq_true, Bool.and_eq_true, decide_eq_true_eq, UInt32.le_iff_toNat_le,
    ge_iff_le] at h
  omega

/-- Only spans that begin in ASCII hold ASCII characters. -/
theorem inSpans_ascii {spans near : List Span} (h : spans.filter (·.first < 128) = near) {c : Char}
    (hc : c.toNat < 128) : inSpans spans c = inSpans near c := by
  rw [Bool.eq_iff_iff, inSpans_eq_true_iff, inSpans_eq_true_iff, ← h]
  constructor
  · rintro ⟨s, hs, hholds⟩
    have hfirst : s.first < 128 := Nat.lt_of_le_of_lt (Span.first_le_of_holds hholds) hc
    exact ⟨s, List.mem_filter.mpr ⟨hs, decide_eq_true hfirst⟩, hholds⟩
  · rintro ⟨s, hs, hholds⟩
    exact ⟨s, (List.mem_filter.mp hs).1, hholds⟩

/-- The image of an ASCII character where only the first shift is one of ASCII characters. -/
theorem mapCase_ascii (shift : Shift) {shifts : List Shift} {expansions : List (Nat × List Nat)}
    (hshifts : shifts.all (128 ≤ ·.span.first) = true)
    (hexpansions : expansions.all (128 ≤ ·.1) = true) {c : Char} (hc : c.toNat < 128) :
    mapCase (shift :: shifts) expansions c =
      [if shift.span.holds c.toNat then Char.ofNat (Int.ofNat c.toNat + shift.distance).toNat
        else c] := by
  have hrest : shifts.find? (·.span.holds c.toNat) = none := by
    refine List.find?_eq_none.2 fun s hs hholds => ?_
    have hfirst := of_decide_eq_true (List.all_eq_true.1 hshifts s hs)
    have hle := Span.first_le_of_holds hholds
    omega
  have hlookup : expansions.lookup c.toNat = none := by
    refine List.lookup_eq_none_iff.2 fun e he => ?_
    have hfirst := of_decide_eq_true (List.all_eq_true.1 hexpansions e he)
    simp only [bne_iff_ne, ne_eq]
    omega
  unfold mapCase shifted
  rw [List.find?_cons]
  cases hholds : shift.span.holds c.toNat with
  | true => rfl
  | false =>
    dsimp only
    rw [hrest, hlookup]
    rfl

theorem upperChar_ascii {c : Char} (hc : c.toNat < 128) : upperChar c = [c.toUpper] := by
  have hshifts : upperShifts.tail.all (128 ≤ ·.span.first) = true := by decide
  have hexpansions : upperExpansions.all (128 ≤ ·.1) = true := by decide
  have hmap := mapCase_ascii ⟨⟨0x61, 0x7A, 1⟩, -32⟩ hshifts hexpansions hc
  have key := ascii_all (p := fun c => (if Span.holds ⟨0x61, 0x7A, 1⟩ c.toNat then
    Char.ofNat (Int.ofNat c.toNat + -32).toNat else c) == c.toUpper) (by decide) hc
  rw [eq_of_beq key] at hmap
  exact hmap

/-- The upper-case form of an ASCII text has its letters one by one. -/
theorem upper_ascii {s : String} (h : ∀ c ∈ s.toList, c.toNat < 128) :
    upper s = String.ofList (s.toList.map Char.toUpper) := by
  unfold upper
  congr 1
  generalize s.toList = cs at h
  induction cs with
  | nil => rfl
  | cons c cs ih =>
    rw [List.flatMap_cons, upperChar_ascii (h c List.mem_cons_self),
      ih fun x hx => h x (List.mem_cons_of_mem _ hx)]
    rfl

theorem lowerChar_ascii {c : Char} (hc : c.toNat < 128) : lowerChar c = [c.toLower] := by
  have hshifts : lowerShifts.tail.all (128 ≤ ·.span.first) = true := by decide
  have hexpansions : lowerExpansions.all (128 ≤ ·.1) = true := by decide
  have hmap := mapCase_ascii ⟨⟨0x41, 0x5A, 1⟩, 32⟩ hshifts hexpansions hc
  have key := ascii_all (p := fun c => (if Span.holds ⟨0x41, 0x5A, 1⟩ c.toNat then
    Char.ofNat (Int.ofNat c.toNat + 32).toNat else c) == c.toLower) (by decide) hc
  rw [eq_of_beq key] at hmap
  exact hmap

theorem lowerFrom_ascii {cs : List Char} (h : ∀ c ∈ cs, c.toNat < 128) (before : List Char) :
    lowerFrom before cs = cs.map Char.toLower := by
  induction cs generalizing before with
  | nil => rfl
  | cons c cs ih =>
    have hc := h c List.mem_cons_self
    -- the final sigma is the only letter whose lower case depends on its place
    have hsigma : c ≠ 'Σ' := by
      rintro rfl
      exact absurd hc (by decide)
    rw [lowerFrom, if_neg hsigma, lowerChar_ascii hc,
      ih (fun x hx => h x (List.mem_cons_of_mem _ hx))]
    rfl

/-- The lower-case form of an ASCII text has its letters one by one. -/
theorem lower_ascii {s : String} (h : ∀ c ∈ s.toList, c.toNat < 128) :
    lower s = String.ofList (s.toList.map Char.toLower) :=
  congrArg String.ofList (lowerFrom_ascii h [])

/-- An ASCII text in lower case stays as it is in lower case. -/
theorem lower_lower_ascii {s : String} (h : ∀ c ∈ s.toList, c.toNat < 128) :
    lower (lower s) = lower s := by
  have hlower : ∀ c : Char, c.toNat < 128 → c.toLower.toNat < 128 ∧ c.toLower.toLower = c.toLower := by
    intro c hc
    have key := ascii_all (p := fun c => decide (c.toLower.toNat < 128 ∧
      c.toLower.toLower = c.toLower)) (by decide) hc
    simpa using key
  have hascii : ∀ c ∈ (lower s).toList, c.toNat < 128 := by
    intro c hc
    rw [lower_ascii h, String.toList_ofList] at hc
    obtain ⟨d, hd, rfl⟩ := List.mem_map.1 hc
    exact (hlower d (h d hd)).1
  rw [lower_ascii hascii, lower_ascii h, String.toList_ofList, List.map_map]
  congr 1
  exact List.map_congr_left fun c hc => (hlower c (h c hc)).2

end TableScaffold.Text
