import TableScaffold.Proofs.Text.Ascii
import TableScaffold.Proofs.Text.SmallForm

/-!
# ASCII words in any letter case

A text is an ASCII word in some letter case if its letters are those of the word one by one. Full case
mapping agrees with this; for small letters also the other way round, unless the word has an `i` or a
`k`, which are in the small forms of two other letters (`lower_eq_iff`).
-/

namespace TableScaffold.Text

variable {c : Char} {s w : String}

theorem toNat_lt_of_toLower (h : c.toLower.toNat < 128) : c.toNat < 128 := by
  unfold Char.toLower at h
  split at h
  · next hin =>
    have hle := UInt32.le_iff_toNat_le.mp hin.2
    have hZ : 'Z'.val.toNat = 90 := rfl
    have hc : c.toNat = c.val.toNat := rfl
    omega
  · exact h

theorem toNat_lt_of_toUpper (h : c.toUpper.toNat < 128) : c.toNat < 128 := by
  unfold Char.toUpper at h
  split at h
  · next hin =>
    have hle := UInt32.le_iff_toNat_le.mp hin.2
    have hz : 'z'.val.toNat = 122 := rfl
    have hc : c.toNat = c.val.toNat := rfl
    omega
  · exact h

theorem lower_of_letters (hw : w.toList.all (·.toNat < 128) = true)
    (h : s.toList.map Char.toLower = w.toList) : lower s = w := by
  have hs : ∀ c ∈ s.toList, c.toNat < 128 := fun c hc =>
    toNat_lt_of_toLower (by simpa using List.all_eq_true.mp hw _ (h ▸ List.mem_map_of_mem hc))
  rw [lower_ascii hs, h, String.ofList_toList]

theorem upper_of_letters (hw : w.toList.all (·.toNat < 128) = true)
    (h : s.toList.map Char.toUpper = w.toList) : upper s = w := by
  have hs : ∀ c ∈ s.toList, c.toNat < 128 := fun c hc =>
    toNat_lt_of_toUpper (by simpa using List.all_eq_true.mp hw _ (h ▸ List.mem_map_of_mem hc))
  rw [upper_ascii hs, h, String.ofList_toList]

/-! ## Small forms in ASCII -/

/-- Whether a shift leads out of ASCII, or to `k` alone. -/
def Shift.leavesAscii (s : Shift) : Bool :=
  s.isPlain && (128 ≤ s.span.first + s.distance ||
    (s.span.first == s.span.last && Char.ofNat (s.span.first + s.distance).toNat == 'k'))

/-- The small form of a letter that is not in ASCII has no ASCII letters but `i` and `k`. -/
theorem lowerChar_leavesAscii (hc : 128 ≤ c.toNat) {d : Char} (hd : d ∈ lowerChar c) :
    128 ≤ d.toNat ∨ d = 'i' ∨ d = 'k' := by
  have hshifts : (lowerShifts.all fun s => s.span.last < 128 || s.leavesAscii) = true := by
    decide +kernel
  have hexpansions : (lowerExpansions.all fun e => (e.2.map Char.ofNat).all fun d =>
      128 ≤ d.toNat || d == 'i' || d == 'k') = true := by decide
  unfold lowerChar mapCase at hd
  cases hshift : shifted lowerShifts c.toNat with
  | some n =>
    rw [hshift] at hd
    obtain ⟨s, hs, rfl⟩ := Option.map_eq_some_iff.mp hshift
    obtain rfl := List.mem_singleton.mp hd
    have hholds : s.span.holds c.toNat = true := by simpa using List.find?_some hs
    have hfirst := Span.first_le_of_holds hholds
    have hlast := Span.le_last_of_holds hholds
    have hall := List.all_eq_true.mp hshifts s (List.mem_of_find?_eq_some hs)
    simp only [Shift.leavesAscii, Bool.or_eq_true, Bool.and_eq_true, decide_eq_true_eq,
      beq_iff_eq] at hall
    rcases hall with hlow | ⟨hplain, hhigh | ⟨hone, hk⟩⟩
    · omega
    · have himage := Shift.isPlain.shifted hplain hholds
      left
      omega
    · have hself : c.toNat = s.span.first := by omega
      rw [hself]
      exact .inr (.inr hk)
  | none =>
    rw [hshift] at hd
    dsimp only at hd
    cases hlookup : lowerExpansions.lookup c.toNat with
    | none =>
      rw [hlookup] at hd
      obtain rfl := List.mem_singleton.mp hd
      exact .inl hc
    | some ns =>
      rw [hlookup] at hd
      obtain ⟨front, back, hsplit, -⟩ := List.lookup_eq_some_iff.mp hlookup
      have hall := List.all_eq_true.mp hexpansions (c.toNat, ns) (by simp [hsplit])
      have hd := List.all_eq_true.mp hall d hd
      simpa [or_assoc] using hd

theorem SmallForm.leavesAscii {ds : List Char} (h : SmallForm c ds) (hc : 128 ≤ c.toNat) {d : Char}
    (hd : d ∈ ds) : 128 ≤ d.toNat ∨ d = 'i' ∨ d = 'k' := by
  rcases h with rfl | ⟨-, rfl⟩
  · exact lowerChar_leavesAscii hc hd
  · obtain rfl := List.mem_singleton.mp hd
    decide

theorem ascii_of_lowerFrom {before cs : List Char}
    (h : ∀ d ∈ lowerFrom before cs, d.toNat < 128 ∧ d ≠ 'i' ∧ d ≠ 'k') :
    ∀ c ∈ cs, c.toNat < 128 := by
  induction cs generalizing before with
  | nil => exact fun _ hc => absurd hc List.not_mem_nil
  | cons c cs ih =>
    obtain ⟨w, hw, hform⟩ := exists_smallForm before c cs
    rw [hw] at h
    refine List.forall_mem_cons.mpr ⟨?_, ih fun d hd => h d (List.mem_append_right w hd)⟩
    obtain ⟨d, hd⟩ := List.exists_mem_of_ne_nil w hform.ne_nil
    obtain ⟨hlow, hi, hk⟩ := h d (List.mem_append_left _ hd)
    refine Nat.lt_of_not_le fun hc => ?_
    rcases hform.leavesAscii hc hd with hhigh | rfl | rfl
    · omega
    · exact hi rfl
    · exact hk rfl

/-- A text is an ASCII word in small letters exactly if its letters are those of the word. -/
theorem lower_eq_iff (hw : w.toList.all (fun c => c.toNat < 128 && c != 'i' && c != 'k') = true) :
    lower s = w ↔ s.toList.map Char.toLower = w.toList := by
  have hletters : ∀ c ∈ w.toList, c.toNat < 128 ∧ c ≠ 'i' ∧ c ≠ 'k' := by
    simpa [and_assoc] using hw
  refine ⟨fun h => ?_, lower_of_letters (by simpa using fun c hc => (hletters c hc).1)⟩
  have hlist : lowerFrom [] s.toList = w.toList := by
    rw [← h, lower, String.toList_ofList]
  rw [← hlist, lowerFrom_ascii (ascii_of_lowerFrom (hlist ▸ hletters))]

/-! ## Small ASCII letters -/

/-- A text with its ASCII letters in lower case. -/
def small (s : String) : String := String.ofList (s.toList.map Char.toLower)

theorem toLower_of_le (hc : 128 ≤ c.toNat) : c.toLower = c := by
  unfold Char.toLower
  rw [dif_neg]
  intro hin
  have hle := UInt32.le_iff_toNat_le.mp hin.2
  have hZ : 'Z'.val.toNat = 90 := rfl
  have hval : c.toNat = c.val.toNat := rfl
  omega

theorem ascii_toLower (hc : c.toNat < 128) :
    c.toLower.toNat < 128 ∧ c.toLower.toLower = c.toLower ∧ (c.toLower = 'Σ' ↔ c = 'Σ') := by
  have key := ascii_all (p := fun c => decide (c.toLower.toNat < 128 ∧
    c.toLower.toLower = c.toLower ∧ (c.toLower = 'Σ' ↔ c = 'Σ'))) (by decide) hc
  exact of_decide_eq_true key

/-- A class of characters that is closed under letter case in ASCII is so everywhere. -/
theorem inSpans_toLower {spans near : List Span} (hnear : spans.filter (·.first < 128) = near)
    (h : (List.range 128).all (fun n =>
      inSpans near (Char.ofNat n).toLower == inSpans near (Char.ofNat n)) = true) (c : Char) :
    inSpans spans c.toLower = inSpans spans c := by
  rcases Nat.lt_or_ge c.toNat 128 with hc | hc
  · rw [inSpans_ascii hnear hc, inSpans_ascii hnear (ascii_toLower hc).1]
    exact eq_of_beq (ascii_all (p := fun c => inSpans near c.toLower == inSpans near c) h hc)
  · rw [toLower_of_le hc]

theorem lowerChar_toLower (c : Char) : lowerChar c.toLower = lowerChar c := by
  rcases Nat.lt_or_ge c.toNat 128 with hc | hc
  · obtain ⟨hascii, hagain, -⟩ := ascii_toLower hc
    rw [lowerChar_ascii hc, lowerChar_ascii hascii, hagain]
  · rw [toLower_of_le hc]

theorem toLower_eq_sigma : c.toLower = 'Σ' ↔ c = 'Σ' := by
  rcases Nat.lt_or_ge c.toNat 128 with hc | hc
  · exact (ascii_toLower hc).2.2
  · rw [toLower_of_le hc]

theorem meetsCased_map_toLower (cs : List Char) :
    meetsCased (cs.map Char.toLower) = meetsCased cs := by
  have hignorable : caseIgnorableSpans.filter (·.first < 128) =
      [⟨39, 39, 1⟩, ⟨46, 46, 1⟩, ⟨58, 58, 1⟩, ⟨94, 96, 2⟩] := by decide +kernel
  have hcased : casedSpans.filter (·.first < 128) = [⟨65, 90, 1⟩, ⟨97, 122, 1⟩] := rfl
  induction cs with
  | nil => rfl
  | cons c cs ih =>
    rw [List.map_cons, meetsCased, meetsCased, ih, inSpans_toLower hignorable (by decide),
      inSpans_toLower hcased (by decide)]

theorem lowerFrom_map_toLower (before cs : List Char) :
    lowerFrom (before.map Char.toLower) (cs.map Char.toLower) = lowerFrom before cs := by
  induction cs generalizing before with
  | nil => rfl
  | cons c cs ih =>
    rw [List.map_cons, lowerFrom, lowerFrom, ← List.map_cons, ih, meetsCased_map_toLower,
      meetsCased_map_toLower, lowerChar_toLower]
    simp only [toLower_eq_sigma]

/-- The letter case of ASCII letters makes no difference to a text in small letters. -/
theorem lower_small (s : String) : lower (small s) = lower s := by
  unfold lower small
  rw [String.toList_ofList]
  exact congrArg String.ofList (lowerFrom_map_toLower [] s.toList)

theorem isEmpty_small (s : String) : (small s).isEmpty = s.isEmpty := by
  rw [Bool.eq_iff_iff, String.isEmpty_iff, String.isEmpty_iff, ← String.toList_eq_nil_iff,
    ← String.toList_eq_nil_iff, small, String.toList_ofList, List.map_eq_nil_iff]

end TableScaffold.Text
