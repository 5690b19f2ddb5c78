import TableScaffold.Proofs.Text.CaseMap

/-!
# Small forms of characters

What a character is mapped to is one character or one of the listed expansions, so the few facts here
on all characters are checks of the spans and of the expansions, not of every letter.

1. A character that is neither a small letter nor a title letter is its own capital.
2. Where a small form begins with its character, it is that character.
3. Where the capital of a small form begins with the character, it is that character.
-/

namespace TableScaffold.Text

variable {c : Char}

/-! ## Spans in spans -/

/-- Whether one span lies on another. -/
def Span.within (s t : Span) : Bool :=
  t.first ≤ s.first && s.last ≤ t.last && (s.first - t.first) % t.stride == 0 &&
    (s.first == s.last || s.stride % t.stride == 0)

theorem Span.holds_of_within {s t : Span} (h : s.within t = true) {n : Nat}
    (hn : s.holds n = true) : t.holds n = true := by
  simp only [within, holds, Bool.and_eq_true, Bool.or_eq_true, decide_eq_true_eq, beq_iff_eq]
    at h hn ⊢
  obtain ⟨⟨⟨hfirst, hlast⟩, hstart⟩, hstep⟩ := h
  obtain ⟨⟨hlow, hhigh⟩, hstride⟩ := hn
  refine ⟨⟨by omega, by omega⟩, ?_⟩
  have hsplit : n - t.first = (n - s.first) + (s.first - t.first) := by omega
  have hfront : t.stride ∣ n - s.first := by
    rcases hstep with hone | hstep
    · have hzero : n - s.first = 0 := by omega
      rw [hzero]
      exact Nat.dvd_zero _
    · exact Nat.dvd_trans (Nat.dvd_of_mod_eq_zero hstep) (Nat.dvd_of_mod_eq_zero hstride)
  rw [hsplit]
  exact Nat.mod_eq_zero_of_dvd (Nat.dvd_add hfront (Nat.dvd_of_mod_eq_zero hstart))

/-- What is left of spans in ascending order behind those that other spans lie on. -/
def Span.behind (spans ss : List Span) : List Span :=
  ss.foldl (fun left s => left.dropWhile fun t => !s.within t) spans

theorem Span.behind_nil (ss : List Span) : behind [] ss = [] := by
  induction ss with
  | nil => rfl
  | cons s ss ih => exact ih

theorem Span.exists_within {spans ss : List Span} (h : (behind spans ss).isEmpty = false) :
    ∀ s ∈ ss, ∃ t ∈ spans, s.within t = true := by
  induction ss generalizing spans with
  | nil => exact fun _ hs => absurd hs List.not_mem_nil
  | cons s ss ih =>
    change (behind (spans.dropWhile fun t => !s.within t) ss).isEmpty = false at h
    refine List.forall_mem_cons.mpr ⟨?_, fun x hx => ?_⟩
    · cases hleft : spans.dropWhile fun t => !s.within t with
      | nil =>
        rw [hleft, behind_nil] at h
        cases h
      | cons t ts =>
        have hhead := List.head?_dropWhile_not (fun t => !s.within t) spans
        rw [hleft] at hhead
        have hmem : t ∈ spans.dropWhile fun t => !s.within t := hleft ▸ List.mem_cons_self
        exact ⟨t, (List.dropWhile_sublist _).mem hmem, by simpa using hhead⟩
    · obtain ⟨t, ht, hwithin⟩ := ih h x hx
      exact ⟨t, (List.dropWhile_sublist _).mem ht, hwithin⟩

/-- Only the spans that lie on none of a few others are looked for in order. -/
theorem Span.exists_within_append {spans others ss : List Span}
    (h : (behind spans (ss.filter fun s => !others.any (s.within ·))).isEmpty = false) :
    ∀ s ∈ ss, ∃ t ∈ spans ++ others, s.within t = true := by
  intro s hs
  cases hany : others.any (s.within ·) with
  | true =>
    obtain ⟨t, ht, hwithin⟩ := List.any_eq_true.mp hany
    exact ⟨t, List.mem_append_right _ ht, hwithin⟩
  | false =>
    obtain ⟨t, ht, hwithin⟩ := exists_within h s (List.mem_filter.mpr ⟨hs, by rw [hany]; rfl⟩)
    exact ⟨t, List.mem_append_left _ ht, hwithin⟩

/-- The span of one code point. -/
def Span.point (n : Nat) : Span := ⟨n, n, 1⟩

theorem Span.holds_point (n : Nat) : (point n).holds n = true := by simp [point, holds]

/-! ## Images -/

/-- A character is mapped to one character or as its expansion says. -/
theorem mapCase_cases (shifts : List Shift) (expansions : List (Nat × List Nat)) (c : Char) :
    (∃ d, mapCase shifts expansions c = [d]) ∨
      ∃ ns, (c.toNat, ns) ∈ expansions ∧ mapCase shifts expansions c = ns.map Char.ofNat := by
  unfold mapCase
  cases shifted shifts c.toNat with
  | some n => exact .inl ⟨_, rfl⟩
  | none =>
    cases hlookup : expansions.lookup c.toNat with
    | none => exact .inl ⟨c, rfl⟩
    | some ns =>
      obtain ⟨front, back, hsplit, -⟩ := List.lookup_eq_some_iff.mp hlookup
      exact .inr ⟨ns, by simp [hsplit], rfl⟩

/-- A character that is on no span of a mapping stays. -/
theorem mapCase_eq_self {shifts : List Shift} {expansions : List (Nat × List Nat)}
    {spans : List Span} (hshifts : ∀ s ∈ shifts.map (·.span), ∃ t ∈ spans, s.within t = true)
    (hexpansions : ∀ s ∈ expansions.map (Span.point ·.1), ∃ t ∈ spans, s.within t = true)
    (h : inSpans spans c = false) : mapCase shifts expansions c = [c] := by
  have hnot : ∀ s : Span, (∃ t ∈ spans, s.within t = true) → ¬ s.holds c.toNat = true := by
    rintro s ⟨t, ht, hwithin⟩ hholds
    exact List.any_eq_false.mp h t ht (Span.holds_of_within hwithin hholds)
  have hshift : shifted shifts c.toNat = none :=
    Option.map_eq_none_iff.mpr <| List.find?_eq_none.mpr fun s hs =>
      hnot s.span (hshifts _ (List.mem_map_of_mem hs))
  have hlookup : expansions.lookup c.toNat = none := by
    refine List.lookup_eq_none_iff.mpr fun e he => ?_
    have hpoint := hnot _ (hexpansions _ (List.mem_map_of_mem he))
    rw [bne_iff_ne]
    intro heq
    exact hpoint (heq ▸ Span.holds_point c.toNat)
  unfold mapCase
  rw [hshift, hlookup]

/-- A character that is neither a small letter nor a title letter is its own capital. -/
theorem upperChar_eq_self (h : inSpans (lowerSpans ++ titleSpans) c = false) : upperChar c = [c] :=
  mapCase_eq_self (Span.exists_within_append (by decide +kernel))
    (Span.exists_within_append (by decide +kernel)) h

/-! ## Small forms -/

/-- A small form that begins with its character is that character. -/
theorem lowerChar_eq_self {ls : List Char} (h : lowerChar c = c :: ls) : lowerChar c = [c] := by
  have hexpansions : (lowerExpansions.all fun e =>
      (e.2.map Char.ofNat).head? != some (Char.ofNat e.1)) = true := by decide
  rcases mapCase_cases lowerShifts lowerExpansions c with ⟨d, hd⟩ | ⟨ns, hns, hmap⟩
  · change lowerChar c = [d] at hd
    rw [hd] at h ⊢
    rw [(List.cons.inj h).1]
  · change lowerChar c = ns.map Char.ofNat at hmap
    have hhead := List.all_eq_true.mp hexpansions _ hns
    rw [Char.ofNat_toNat, ← hmap, h] at hhead
    simp at hhead

/-- The capital of a small form, where it begins with the character, is that character. -/
theorem upperChar_of_lowerChar {l : Char} {ls us : List Char} (h : lowerChar c = l :: ls)
    (hl : upperChar l = c :: us) : lowerChar c = [l] ∧ upperChar l = [c] := by
  have hlower : (lowerExpansions.all fun e => ((e.2.map Char.ofNat).head?.map fun l =>
      (upperChar l).head? != some (Char.ofNat e.1)).getD true) = true := by decide
  have hupper : (upperExpansions.all fun e => ((e.2.map Char.ofNat).head?.map fun c =>
      (lowerChar c).head? != some (Char.ofNat e.1)).getD true) = true := by decide +kernel
  constructor
  · rcases mapCase_cases lowerShifts lowerExpansions c with ⟨d, hd⟩ | ⟨ns, hns, hmap⟩
    · change lowerChar c = [d] at hd
      rw [hd] at h ⊢
      rw [(List.cons.inj h).1]
    · change lowerChar c = ns.map Char.ofNat at hmap
      have hhead := List.all_eq_true.mp hlower _ hns
      rw [Char.ofNat_toNat, ← hmap, h] at hhead
      simp [hl] at hhead
  · rcases mapCase_cases upperShifts upperExpansions l with ⟨d, hd⟩ | ⟨ns, hns, hmap⟩
    · change upperChar l = [d] at hd
      rw [hd] at hl ⊢
      rw [(List.cons.inj hl).1]
    · change upperChar l = ns.map Char.ofNat at hmap
      have hhead := List.all_eq_true.mp hupper _ hns
      rw [Char.ofNat_toNat, ← hmap, hl] at hhead
      simp [h] at hhead

/-- No other character has an underscore in its small form. -/
theorem underscore_notMem_lowerChar (hc : c ≠ '_') : '_' ∉ lowerChar c := by
  have hshifts : (lowerShifts.all fun s => s.isPlain && 95 < s.span.first + s.distance) = true := by
    decide +kernel
  have hexpansions : (lowerExpansions.all fun e => !(e.2.map Char.ofNat).contains '_') = true := by
    decide
  unfold lowerChar mapCase
  cases hshift : shifted lowerShifts c.toNat with
  | some n =>
    obtain ⟨s, hs, rfl⟩ := Option.map_eq_some_iff.mp hshift
    have hholds : s.span.holds c.toNat = true := by simpa using List.find?_some hs
    have hall := List.all_eq_true.mp hshifts s (List.mem_of_find?_eq_some hs)
    simp only [Bool.and_eq_true, decide_eq_true_eq] at hall
    have himage := Shift.isPlain.shifted hall.1 hholds
    intro hmem
    rw [← List.mem_singleton.mp hmem] at himage
    have hmark : '_'.toNat = 95 := rfl
    omega
  | none =>
    cases hlookup : lowerExpansions.lookup c.toNat with
    | none => simpa using Ne.symm hc
    | some ns =>
      obtain ⟨front, back, hsplit, -⟩ := List.lookup_eq_some_iff.mp hlookup
      have hall := List.all_eq_true.mp hexpansions (c.toNat, ns) (by simp [hsplit])
      intro hmem
      simp only [List.contains_iff_mem.mpr hmem] at hall
      cases hall

/-! ## Texts in small letters -/

/-- What a character may become in a text in small letters. -/
def SmallForm (c : Char) (w : List Char) : Prop := w = lowerChar c ∨ c = 'Σ' ∧ w = ['ς']

theorem lowerChar_sigma : lowerChar 'Σ' = ['σ'] := by decide

theorem exists_smallForm (before : List Char) (c : Char) (rest : List Char) :
    ∃ w, lowerFrom before (c :: rest) = w ++ lowerFrom (c :: before) rest ∧ SmallForm c w := by
  refine ⟨_, rfl, ?_⟩
  split
  · next hc =>
    subst hc
    split
    · exact .inr ⟨rfl, rfl⟩
    · exact .inl lowerChar_sigma.symm
  · exact .inl rfl

namespace SmallForm

variable {w : List Char}

theorem ne_nil (h : SmallForm c w) : w ≠ [] := by
  rcases h with rfl | ⟨-, rfl⟩
  · exact (mapped_lowerChar c).ne_nil
  · exact List.cons_ne_nil _ _

theorem underscore_notMem (h : SmallForm c w) (hc : c ≠ '_') : '_' ∉ w := by
  rcases h with rfl | ⟨-, rfl⟩
  · exact underscore_notMem_lowerChar hc
  · decide

theorem eq_underscore (h : SmallForm '_' w) : w = ['_'] := by
  have hlower : lowerChar '_' = ['_'] := by decide
  rcases h with rfl | ⟨hc, -⟩
  · exact hlower
  · cases hc

/-- A form that begins with its character is that character, which then has no other. -/
theorem eq_self {ls : List Char} (h : SmallForm c (c :: ls)) : ls = [] ∧ lowerChar c = [c] := by
  rcases h with hw | ⟨rfl, hw⟩
  · have hself := lowerChar_eq_self hw.symm
    rw [hself] at hw
    exact ⟨(List.cons.inj hw).2, hself⟩
  · exact absurd (List.cons.inj hw).1 (by decide)

theorem of_lowerChar (h : SmallForm c w) (hc : lowerChar c = [c]) : w = [c] := by
  rcases h with rfl | ⟨rfl, -⟩
  · exact hc
  · rw [lowerChar_sigma] at hc
    exact absurd hc (by decide)

theorem upperChar_sigma : upperChar 'σ' = ['Σ'] ∧ upperChar 'ς' = ['Σ'] := by decide

/-- A form whose capital begins with the character has it as its capital. -/
theorem capital {l : Char} {ls us : List Char} (h : SmallForm c (l :: ls))
    (hl : upperChar l = c :: us) :
    ls = [] ∧ upperChar l = [c] ∧ (lowerChar c).map upperChar = [[c]] := by
  rcases h with hw | ⟨rfl, hw⟩
  · obtain ⟨hlower, hupper⟩ := upperChar_of_lowerChar hw.symm hl
    rw [hlower] at hw
    refine ⟨(List.cons.inj hw).2, hupper, ?_⟩
    rw [hlower, List.map_singleton, hupper]
  · obtain ⟨rfl, rfl⟩ := List.cons.inj hw
    refine ⟨rfl, upperChar_sigma.2, ?_⟩
    rw [lowerChar_sigma, List.map_singleton, upperChar_sigma.1]

theorem of_capital (h : SmallForm c w) (hc : (lowerChar c).map upperChar = [[c]]) :
    ∃ l, w = [l] ∧ upperChar l = [c] := by
  rcases h with rfl | ⟨rfl, rfl⟩
  · obtain ⟨l, hl, hupper⟩ := List.map_eq_singleton_iff.mp hc
    exact ⟨l, hl, hupper⟩
  · exact ⟨'ς', rfl, upperChar_sigma.2⟩

end SmallForm

end TableScaffold.Text
