import TableScaffold.Proofs.Text.Ascii
import TableScaffold.Proofs.Text.SmallForm

/-!
# Texts in small letters

No letter has a small form with a letter in it that has another small form itself: the spans that
the shifts lead to lie apart from the spans that they start from. So a text in small letters stays as
it is (`lower_lower`).
-/

namespace TableScaffold.Text

variable {c d : Char} {cs before : List Char}

/-! ## Spans apart -/

/-- Whether two spans are seen to have no code point in common. -/
def Span.apart (s t : Span) : Bool :=
  s.last < t.first || t.last < s.first || (s.first == s.last && !t.holds s.first) ||
    (s.stride == t.stride && s.first % s.stride != t.first % s.stride)

/-- Most spans are apart because one ends before the other begins, which is quick to see. -/
theorem Span.apart_of_order (s t : Span) :
    (s.last.blt t.first || t.last.blt s.first || s.apart t) = s.apart t := by
  have hblt : ∀ m n : Nat, m.blt n = decide (m < n) := fun m n => by
    rw [Bool.eq_iff_iff, Nat.blt_eq, decide_eq_true_eq]
  rw [hblt, hblt]
  unfold apart
  simp only [Bool.or_assoc, Bool.or_self_left, Bool.or_left_comm]

theorem Span.mod_eq_of_holds {s : Span} {n : Nat} (h : s.holds n = true) :
    n % s.stride = s.first % s.stride := by
  have hfirst := first_le_of_holds h
  simp only [holds, Bool.and_eq_true, beq_iff_eq] at h
  calc n % s.stride = ((n - s.first) + s.first) % s.stride := by rw [Nat.sub_add_cancel hfirst]
    _ = s.first % s.stride := by rw [Nat.add_mod, h.2, Nat.zero_add, Nat.mod_mod]

theorem Span.holds_of_apart {s t : Span} (h : s.apart t = true) {n : Nat} (hs : s.holds n = true) :
    t.holds n = false := by
  have hfirst := first_le_of_holds hs
  have hlast := le_last_of_holds hs
  refine Bool.eq_false_iff.mpr fun ht => ?_
  have hfirst' := first_le_of_holds ht
  have hlast' := le_last_of_holds ht
  simp only [apart, Bool.or_eq_true, Bool.and_eq_true, decide_eq_true_eq, beq_iff_eq, bne_iff_ne,
    Bool.not_eq_true'] at h
  rcases h with ((h | h) | ⟨hone, h⟩) | ⟨hstride, h⟩
  · omega
  · omega
  · have hn : n = s.first := by omega
    rw [← hn, ht] at h
    cases h
  · -- both spans hit the same remainder
    have hrest := mod_eq_of_holds ht
    rw [← hstride] at hrest
    exact h ((mod_eq_of_holds hs).symm.trans hrest)

/-- Where a shift leads to. -/
def Shift.image (s : Shift) : Span where
  first := (s.span.first + s.distance).toNat
  last := (s.span.last + s.distance).toNat
  stride := s.span.stride

theorem Shift.isPlain.holds_image {s : Shift} (hs : s.isPlain = true) {n : Nat}
    (hn : s.span.holds n = true) :
    s.image.holds (Char.ofNat (Int.ofNat n + s.distance).toNat).toNat = true := by
  have himage := toNat_shifted hs hn
  have hfirst := Span.first_le_of_holds hn
  have hlast := Span.le_last_of_holds hn
  simp only [isPlain, Bool.and_eq_true, decide_eq_true_eq] at hs
  simp only [Span.holds, Bool.and_eq_true, decide_eq_true_eq, beq_iff_eq] at hn
  simp only [Span.holds, Bool.and_eq_true, decide_eq_true_eq, beq_iff_eq]
  generalize (Char.ofNat (Int.ofNat n + s.distance).toNat).toNat = m at himage ⊢
  have hstep : m - s.image.first = n - s.span.first := by
    dsimp only [image]
    omega
  rw [hstep]
  dsimp only [image]
  exact ⟨⟨by omega, by omega⟩, hn.2⟩

/-! ## Small forms stay -/

theorem lowerShifts_apart : (lowerShifts.all fun s => s.isPlain &&
    lowerShifts.all (s.image.apart ·.span) && lowerExpansions.all (!s.image.holds ·.1)) = true := by
  have hquick : (lowerShifts.all fun s => s.isPlain &&
      (lowerShifts.all fun t => s.image.last.blt t.span.first || t.span.last.blt s.image.first ||
        s.image.apart t.span) && lowerExpansions.all (!s.image.holds ·.1)) = true := by
    decide +kernel
  simpa only [Span.apart_of_order] using hquick

/-- A character on a span that no shift starts from and that has no expansion stays. -/
theorem mapCase_eq_of_holds {shifts : List Shift} {expansions : List (Nat × List Nat)}
    {span : Span}
    (hshifts : ∀ s ∈ shifts, span.apart s.span = true)
    (hexpansions : ∀ e ∈ expansions, span.holds e.1 = false) (h : span.holds c.toNat = true) :
    mapCase shifts expansions c = [c] := by
  have hshift : shifted shifts c.toNat = none :=
    Option.map_eq_none_iff.mpr <| List.find?_eq_none.mpr fun s hs =>
      Bool.eq_false_iff.mp (Span.holds_of_apart (hshifts s hs) h)
  have hlookup : expansions.lookup c.toNat = none := by
    refine List.lookup_eq_none_iff.mpr fun e he => bne_iff_ne.mpr fun heq => ?_
    rw [heq, hexpansions e he] at h
    cases h
  unfold mapCase
  rw [hshift, hlookup]

/-- A letter of a small form is its own small form. -/
theorem lowerChar_of_mem (h : d ∈ lowerChar c) : lowerChar d = [d] := by
  have hexpansions : (lowerExpansions.all fun e => (e.2.map Char.ofNat).all fun d =>
      lowerChar d == [d]) = true := by decide
  unfold lowerChar mapCase at h
  cases hshift : shifted lowerShifts c.toNat with
  | some n =>
    rw [hshift] at h
    obtain ⟨s, hs, rfl⟩ := Option.map_eq_some_iff.mp hshift
    obtain rfl := List.mem_singleton.mp h
    have hall := List.all_eq_true.mp lowerShifts_apart s (List.mem_of_find?_eq_some hs)
    simp only [Bool.and_eq_true, List.all_eq_true, Bool.not_eq_true'] at hall
    obtain ⟨⟨hplain, happart⟩, hlookup⟩ := hall
    have himage := Shift.isPlain.holds_image hplain (by simpa using List.find?_some hs)
    exact mapCase_eq_of_holds happart hlookup himage
  | none =>
    rw [hshift] at h
    dsimp only at h
    cases hlookup : lowerExpansions.lookup c.toNat with
    | none =>
      rw [hlookup] at h
      obtain rfl := List.mem_singleton.mp h
      unfold lowerChar mapCase
      rw [hshift, hlookup]
    | some ns =>
      rw [hlookup] at h
      obtain ⟨front, back, hsplit, -⟩ := List.lookup_eq_some_iff.mp hlookup
      have hall := List.all_eq_true.mp hexpansions (c.toNat, ns) (by simp [hsplit])
      exact eq_of_beq (List.all_eq_true.mp hall d h)

namespace SmallForm

variable {w : List Char}

/-- The letters of a form are their own small forms. -/
theorem small (h : SmallForm c w) : ∀ d ∈ w, lowerChar d = [d] := by
  have hfinal : lowerChar 'ς' = ['ς'] := by decide
  rcases h with rfl | ⟨-, rfl⟩
  · exact fun d => lowerChar_of_mem
  · exact List.forall_mem_singleton.mpr hfinal

end SmallForm

/-! ## Texts -/

theorem lowerFrom_small (before cs : List Char) : ∀ d ∈ lowerFrom before cs, lowerChar d = [d] := by
  induction cs generalizing before with
  | nil => exact fun _ hd => absurd hd List.not_mem_nil
  | cons c cs ih =>
    obtain ⟨w, hw, hform⟩ := exists_smallForm before c cs
    rw [hw]
    exact List.forall_mem_append.mpr ⟨hform.small, ih (c :: before)⟩

/-- Characters that are their own small forms stay, whatever stands before them. -/
theorem lowerFrom_of_small (h : ∀ d ∈ cs, lowerChar d = [d]) (before : List Char) :
    lowerFrom before cs = cs := by
  induction cs generalizing before with
  | nil => rfl
  | cons c cs ih =>
    obtain ⟨hc, hcs⟩ := List.forall_mem_cons.mp h
    obtain ⟨w, hw, hform⟩ := exists_smallForm before c cs
    rw [hw, hform.of_lowerChar hc, ih hcs]
    rfl

/-- A text in small letters stays as it is. -/
theorem lower_lower (s : String) : lower (lower s) = lower s := by
  unfold lower
  rw [String.toList_ofList, lowerFrom_of_small (lowerFrom_small [] s.toList)]

/-- A capital is no letter of a text in small letters. -/
theorem toLower_of_mem_lower {s : String} (hd : d.toNat < 128) (h : d ∈ (lower s).toList) :
    d.toLower = d := by
  rw [lower, String.toList_ofList] at h
  have hsmall := lowerFrom_small [] s.toList d h
  rw [lowerChar_ascii hd] at hsmall
  exact List.singleton_inj.mp hsmall

/-- Small letters make no underscore. -/
theorem underscore_notMem_lower {s : String} (h : '_' ∉ s.toList) : '_' ∉ (lower s).toList := by
  rw [lower, String.toList_ofList]
  generalize ([] : List Char) = before
  generalize s.toList = cs at h
  induction cs generalizing before with
  | nil => exact List.not_mem_nil
  | cons c cs ih =>
    obtain ⟨hc, hcs⟩ := List.ne_and_not_mem_of_not_mem_cons h
    obtain ⟨w, hw, hform⟩ := exists_smallForm before c cs
    rw [hw, List.mem_append]
    exact not_or.mpr ⟨hform.underscore_notMem hc.symm, ih (c :: before) hcs⟩

end TableScaffold.Text
