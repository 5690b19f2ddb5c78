import TableScaffold.Proofs.Naming.CamelCase

/-!
# Where words break

The words of a text can be told from its places. Two letters or digits side by side are in two words
exactly if they are of different kinds in one of a few ways (`breaks`), and anything else between two
of them always parts them (`words_of_places`).

Every word but the last is followed by what ends it (`Cut.breaks_of_head`), and inside a word nothing
breaks (`Cut.breaks_inside`). From this the places are counted through along the words.
-/

namespace TableScaffold.Naming

variable {c d : Char} {w rest cs : List Char} {ws : List (List Char)}

/-! ## Places -/

/-- Whether a word ends between two letters or digits that stand side by side in front of a rest. -/
def breaks (c d : Char) (rest : List Char) : Bool :=
  c.isDigit != d.isDigit || c.isLower && d.isUpper ||
    c.isUpper && d.isUpper && starts Char.isLower rest

/-- The number of the word that the n-th letter of some words is in. -/
def wordAt : List (List Char) → Nat → Nat
  | [], _ => 0
  | w :: ws, n => if n < w.length then 0 else wordAt ws (n - w.length) + 1

/-- How many letters and digits stand in front of a place. -/
def rank (cs : List Char) (i : Nat) : Nat := (cs.take i).countP Char.isAlphanum

/-- The number of the word that the letter or digit at a place of a text is in. -/
def wordOf (cs : List Char) (i : Nat) : Nat := wordAt (words cs) (rank cs i)

/-- Whether a letter or a digit stands at a place. -/
def Holds (cs : List Char) (i : Nat) : Prop := ∃ c ∈ cs[i]?, c.isAlphanum = true

theorem rank_cons_of_not (hc : c.isAlphanum = false) (i : Nat) :
    rank (c :: cs) (i + 1) = rank cs i := by
  simp [rank, hc]

theorem rank_append_left (hw : ∀ c ∈ w, c.isAlphanum = true) {i : Nat} (hi : i ≤ w.length) :
    rank (w ++ rest) i = i := by
  rw [rank, List.take_append_of_le_length hi, List.countP_eq_length.mpr, List.length_take_of_le hi]
  exact fun c hc => hw c (List.mem_of_mem_take hc)

theorem rank_append_right (hw : ∀ c ∈ w, c.isAlphanum = true) (i : Nat) :
    rank (w ++ rest) (w.length + i) = w.length + rank rest i := by
  rw [rank, List.take_length_add_append, List.countP_append, List.countP_eq_length.mpr hw, rank]

theorem getElem?_append_add (w rest : List Char) (i : Nat) :
    (w ++ rest)[w.length + i]? = rest[i]? := by
  rw [List.getElem?_append_right (Nat.le_add_right _ _), Nat.add_sub_cancel_left]

theorem holds_append_right (i : Nat) : Holds (w ++ rest) (w.length + i) ↔ Holds rest i := by
  rw [Holds, getElem?_append_add, Holds]

theorem wordAt_cons_left (hw : ∀ c ∈ w, c.isAlphanum = true) {i : Nat} (hi : i < w.length) :
    wordAt (w :: ws) (rank (w ++ rest) i) = 0 := by
  rw [rank_append_left hw (Nat.le_of_lt hi), wordAt, if_pos hi]

theorem wordAt_cons_right (hw : ∀ c ∈ w, c.isAlphanum = true) (i : Nat) :
    wordAt (w :: ws) (rank (w ++ rest) (w.length + i)) = wordAt ws (rank rest i) + 1 := by
  rw [rank_append_right hw, wordAt, if_neg (by omega), Nat.add_sub_cancel_left]

/-! ## Inside a word and behind it -/

theorem OfKind.breaks_eq {u l n u' l' n' : Bool} (hc : OfKind c u l n) (hd : OfKind d u' l' n') :
    breaks c d rest = (n != n' || l && u' || u && u' && starts Char.isLower rest) := by
  rw [breaks, hc.isUpper, hc.isLower, hc.isDigit, hd.isUpper, hd.isDigit]

/-- Behind letters of one kind stands another of them, or what follows them all. -/
theorem starts_append {p : Char → Bool} (hw : ∀ c ∈ w, p c = false)
    (hrest : starts p rest = false) : starts p (w ++ rest) = false := by
  cases w with
  | nil => exact hrest
  | cons x xs => exact (starts_cons p x _).trans (hw x List.mem_cons_self)

/-- Inside a word nothing breaks. -/
theorem Cut.breaks_inside (h : Cut w rest) {i : Nat} {back : List Char}
    (hback : w.drop i = c :: d :: back) : breaks c d (back ++ rest) = false := by
  have hmem : ∀ e ∈ c :: d :: back, e ∈ w := fun e he => List.mem_of_mem_drop (hback ▸ he)
  have hc := hmem c (by simp)
  have hd := hmem d (by simp)
  cases h with
  | digits _ hds _ => exact (kind_of_isDigit (hds c hc)).breaks_eq (kind_of_isDigit (hds d hd))
  | small _ hls _ => exact (kind_of_isLower (hls c hc)).breaks_eq (kind_of_isLower (hls d hd))
  | @capital x ls _ hx _ hls _ =>
    have hbehind : (x :: ls).drop (i + 1) = d :: back := by rw [← List.tail_drop, hback, List.tail_cons]
    rw [List.drop_succ_cons] at hbehind
    have hkind := kind_of_isLower (hls d (List.mem_of_mem_drop (hbehind ▸ List.mem_cons_self)))
    rcases List.mem_cons.mp hc with rfl | hc
    · exact (kind_of_isUpper hx).breaks_eq hkind
    · exact (kind_of_isLower (hls c hc)).breaks_eq hkind
  | lone _ _ _ | beside _ _ _ =>
    have hlength := congrArg List.length hback
    simp only [List.length_drop, List.length_cons, List.length_nil] at hlength
    omega
  | @capitals x y us _ hx hy hus hrest _ =>
    have hall : ∀ e ∈ x :: y :: us, e.isUpper = true := by simpa [hx, hy] using hus
    have hfollows := starts_append (fun e he =>
      (kind_of_isUpper (hall e (hmem e (List.mem_cons_of_mem _ (List.mem_cons_of_mem _ he))))).isLower)
      hrest
    rw [(kind_of_isUpper (hall c hc)).breaks_eq (kind_of_isUpper (hall d hd)), hfollows]
    rfl

theorem breaks_of_isDigit (hc : c.isDigit = true) (hd : d.isAlphanum = true)
    (h : d.isDigit = false) : breaks c d rest = true := by
  rcases exists_kind hd with hd | hd | hd
  · exact (kind_of_isDigit hc).breaks_eq hd
  · exact (kind_of_isDigit hc).breaks_eq hd
  · cases h.symm.trans hd.isDigit

theorem breaks_of_isLower (hc : c.isLower = true) (hd : d.isAlphanum = true)
    (h : d.isLower = false) : breaks c d rest = true := by
  rcases exists_kind hd with hd | hd | hd
  · exact (kind_of_isLower hc).breaks_eq hd
  · cases h.symm.trans hd.isLower
  · exact (kind_of_isLower hc).breaks_eq hd

/-- Behind a capital, another one breaks only in front of a small letter. -/
theorem breaks_of_isUpper (hc : c.isUpper = true) (hd : d.isAlphanum = true) (h : d.isLower = false)
    (hrest : d.isUpper = true → starts Char.isLower rest = true) : breaks c d rest = true := by
  rcases exists_kind hd with hd | hd | hd
  · rw [(kind_of_isUpper hc).breaks_eq hd, hrest hd.isUpper]
    rfl
  · cases h.symm.trans hd.isLower
  · exact (kind_of_isUpper hc).breaks_eq hd

/-- A letter or a digit directly behind a word is in another one. -/
theorem Cut.breaks_of_head (h : Cut w (d :: rest)) (hc : w.getLast? = some c)
    (hd : d.isAlphanum = true) : breaks c d rest = true := by
  have hcw := List.mem_of_getLast? hc
  cases h with
  | digits _ hds hrest => exact breaks_of_isDigit (hds c hcw) hd (by rwa [starts_cons] at hrest)
  | small _ hls hrest => exact breaks_of_isLower (hls c hcw) hd (by rwa [starts_cons] at hrest)
  | capital _ hne hls hrest =>
    rw [List.getLast?_cons_of_ne_nil hne] at hc
    exact breaks_of_isLower (hls c (List.mem_of_getLast? hc)) hd (by rwa [starts_cons] at hrest)
  | lone hx hlower hupper =>
    rw [starts_cons] at hlower hupper
    rw [List.mem_singleton.mp hcw]
    exact breaks_of_isUpper hx hd hlower fun h => absurd h (by simp [hupper])
  | beside hx hd' hrest =>
    rw [List.mem_singleton.mp hcw]
    exact breaks_of_isUpper hx hd (kind_of_isUpper hd').isLower fun _ => hrest
  | @capitals x y us _ hx hy hus hrest hnext =>
    have hall : ∀ e ∈ x :: y :: us, e.isUpper = true := by simpa [hx, hy] using hus
    rw [starts_cons] at hrest hnext
    exact breaks_of_isUpper (hall c hcw) hd hrest hnext

/-! ## Along the words -/

/-- The word that a place of a text is in: where it starts, and what follows it. -/
structure Within (cs : List Char) (ws : List (List Char)) (i start : Nat) (w rest : List Char) :
    Prop where
  start_le : start ≤ i
  lt_end : i < start + w.length
  text : cs.drop start = w ++ rest
  cut : Cut w rest
  word : ws[wordAt ws (rank cs i)]? = some w
  inside : ∀ j, start ≤ j → j < start + w.length → wordAt ws (rank cs j) = wordAt ws (rank cs i)
  behind : ∀ j, start + w.length ≤ j → wordAt ws (rank cs i) < wordAt ws (rank cs j)

namespace Within

variable {i start : Nat}

/-- In front of the text may stand what is in no word. -/
theorem skip (hc : c.isAlphanum = false) (h : Within cs ws i start w rest) :
    Within (c :: cs) ws (i + 1) (start + 1) w rest where
  start_le := Nat.succ_le_succ h.start_le
  lt_end := by have := h.lt_end; omega
  text := h.text
  cut := h.cut
  word := by rw [rank_cons_of_not hc, h.word]
  inside j hj hj' := by
    obtain ⟨j, rfl⟩ : ∃ n, j = n + 1 := ⟨j - 1, by omega⟩
    rw [rank_cons_of_not hc, rank_cons_of_not hc]
    exact h.inside j (by omega) (by omega)
  behind j hj := by
    obtain ⟨j, rfl⟩ : ∃ n, j = n + 1 := ⟨j - 1, by omega⟩
    rw [rank_cons_of_not hc, rank_cons_of_not hc]
    exact h.behind j (by omega)

/-- In front of the text may stand another word. -/
theorem append {v : List Char} (hv : ∀ c ∈ v, c.isAlphanum = true)
    (h : Within cs ws i start w rest) :
    Within (v ++ cs) (v :: ws) (v.length + i) (v.length + start) w rest where
  start_le := Nat.add_le_add_left h.start_le _
  lt_end := by have := h.lt_end; omega
  text := by rw [List.drop_length_add_append, h.text]
  cut := h.cut
  word := by rw [wordAt_cons_right hv, List.getElem?_cons_succ, h.word]
  inside j hj hj' := by
    obtain ⟨j, rfl⟩ := Nat.exists_eq_add_of_le (Nat.le_trans (Nat.le_add_right _ _) hj)
    rw [wordAt_cons_right hv, wordAt_cons_right hv, h.inside j (by omega) (by omega)]
  behind j hj := by
    obtain ⟨j, rfl⟩ : ∃ n, j = v.length + n := ⟨j - v.length, by omega⟩
    rw [wordAt_cons_right hv, wordAt_cons_right hv]
    exact Nat.succ_lt_succ (h.behind j (by omega))

/-- The places of the first word. -/
theorem first (h : Cut w rest) (hi : i < w.length) : Within (w ++ rest) (w :: ws) i 0 w rest where
  start_le := Nat.zero_le i
  lt_end := by omega
  text := rfl
  cut := h
  word := by rw [wordAt_cons_left h.isAlphanum hi]; rfl
  inside j _ hj := by
    rw [wordAt_cons_left h.isAlphanum hi, wordAt_cons_left h.isAlphanum (by omega)]
  behind j hj := by
    obtain ⟨j, rfl⟩ : ∃ n, j = w.length + n := ⟨j - w.length, by omega⟩
    rw [wordAt_cons_left h.isAlphanum hi, wordAt_cons_right h.isAlphanum]
    exact Nat.succ_pos _

end Within

/-- Every letter and every digit is in a word. -/
theorem exists_within (cs : List Char) :
    ∀ i, Holds cs i → ∃ start w rest, Within cs (words cs) i start w rest := by
  refine words_induction (P := fun cs ws => ∀ i, Holds cs i →
    ∃ start w rest, Within cs ws i start w rest) ?nil ?skip ?cut cs
  case nil =>
    rintro i ⟨c, hc, -⟩
    simp at hc
  case skip =>
    intro x cs ws hx ih i hi
    cases i with
    | zero =>
      obtain ⟨c, hc, halnum⟩ := hi
      obtain rfl : x = c := by simpa using hc
      cases hx.symm.trans halnum
    | succ i =>
      obtain ⟨start, w, rest, h⟩ := ih i hi
      exact ⟨start + 1, w, rest, h.skip hx⟩
  case cut =>
    intro v behind ws hcut ih i hi
    rcases Nat.lt_or_ge i v.length with hlt | hge
    · exact ⟨0, v, behind, .first hcut hlt⟩
    · obtain ⟨i, rfl⟩ := Nat.exists_eq_add_of_le hge
      obtain ⟨start, w, rest, h⟩ := ih i (holds_append_right i |>.mp hi)
      exact ⟨v.length + start, w, rest, h.append hcut.isAlphanum⟩

/-- A letter or a digit is in the word of its place. -/
theorem mem_word {i : Nat} (h : cs[i]? = some c) (hc : c.isAlphanum = true) :
    ∃ w, (words cs)[wordOf cs i]? = some w ∧ c ∈ w := by
  obtain ⟨start, w, rest, hin⟩ := exists_within cs i ⟨c, h, hc⟩
  obtain ⟨n, rfl⟩ := Nat.exists_eq_add_of_le hin.start_le
  have hn : n < w.length := by have := hin.lt_end; omega
  rw [← List.getElem?_drop, hin.text, List.getElem?_append_left hn] at h
  exact ⟨w, hin.word, List.mem_of_getElem? h⟩

/-- Letters and digits side by side are in two words exactly where something breaks. -/
theorem wordOf_ne_iff_breaks {i : Nat} (h : cs.drop i = c :: d :: rest) (hc : c.isAlphanum = true)
    (hd : d.isAlphanum = true) :
    wordOf cs i ≠ wordOf cs (i + 1) ↔ breaks c d rest = true := by
  have hplace : cs[i]? = some c := by rw [← Nat.add_zero i, ← List.getElem?_drop, h]; rfl
  obtain ⟨start, w, behind, hin⟩ := exists_within cs i ⟨c, hplace, hc⟩
  obtain ⟨n, rfl⟩ := Nat.exists_eq_add_of_le hin.start_le
  have hn : n < w.length := by have := hin.lt_end; omega
  rw [← List.drop_drop, hin.text, List.drop_append_of_le_length (Nat.le_of_lt hn)] at h
  match hback : w.drop n with
  | [] => exact absurd (List.drop_eq_nil_iff.mp hback) (Nat.not_le_of_lt hn)
  | [x] =>
    -- the word ends between the two
    rw [hback] at h
    obtain ⟨rfl, rfl⟩ := List.cons.inj h
    have hlast : w.getLast? = some x := by
      rw [← List.take_append_drop n w, hback, List.getLast?_concat]
    have hlength := congrArg List.length hback
    simp only [List.length_drop, List.length_singleton] at hlength
    exact iff_of_true (Nat.ne_of_lt (hin.behind _ (by omega))) (hin.cut.breaks_of_head hlast hd)
  | x :: y :: back =>
    simp only [hback, List.cons_append, List.cons.injEq] at h
    obtain ⟨rfl, rfl, rfl⟩ := h
    have hlength := congrArg List.length hback
    simp only [List.length_drop, List.length_cons] at hlength
    have hsame := hin.inside (start + n + 1) (by omega) (by omega)
    exact iff_of_false (not_not_intro hsame.symm) (by simp [hin.cut.breaks_inside hback])

/-- What is neither a letter nor a digit parts those on its two sides. -/
theorem wordOf_ne_of_between {i j k : Nat} (hik : i < k) (hkj : k < j) (hi : Holds cs i)
    (hk : ¬ Holds cs k) : wordOf cs i ≠ wordOf cs j := by
  obtain ⟨start, w, rest, hin⟩ := exists_within cs i hi
  refine Nat.ne_of_lt (hin.behind j (Nat.le_trans (Nat.le_of_not_lt fun hlt => hk ?_) (Nat.le_of_lt hkj)))
  -- every place of a word holds a letter or a digit
  obtain ⟨n, rfl⟩ := Nat.exists_eq_add_of_le (Nat.le_trans hin.start_le (Nat.le_of_lt hik))
  have hn : n < w.length := by omega
  refine ⟨w[n], ?_, hin.cut.isAlphanum _ (List.getElem_mem hn)⟩
  rw [← List.getElem?_drop, hin.text, List.getElem?_append_left hn, List.getElem?_eq_getElem hn]
  rfl

/-! ## Camel case -/

theorem toLower_case (hc : c.isAlphanum = true) :
    c.toLower.toLower = c.toLower ∧ c.toUpper.toLower = c.toLower := by
  have key := Text.ascii_all (p := fun c => c.toLower.toLower == c.toLower &&
    c.toUpper.toLower == c.toLower) (by decide) (Text.toNat_lt_of_isAlphanum hc)
  rwa [Bool.and_eq_true, beq_iff_eq, beq_iff_eq] at key

theorem toLower_capitalized (hw : ∀ c ∈ w, c.isAlphanum = true) :
    (capitalized w).map Char.toLower = w.map Char.toLower := by
  cases w with
  | nil => rfl
  | cons c cs =>
    obtain ⟨hc, hcs⟩ := List.forall_mem_cons.mp hw
    rw [capitalized, List.map_cons, List.map_cons, List.map_map, (toLower_case hc).2]
    exact congrArg _ (List.map_congr_left fun x hx => (toLower_case (hcs x hx)).1)

/-- Words in camel case are the words, up to letter case. -/
theorem toLower_joinCamel (hws : ∀ w ∈ ws, ∀ c ∈ w, c.isAlphanum = true) :
    (joinCamel ws).map Char.toLower = ws.flatten.map Char.toLower := by
  cases ws with
  | nil => rfl
  | cons w ws =>
    obtain ⟨hw, hws⟩ := List.forall_mem_cons.mp hws
    have hhead : (w.map Char.toLower).map Char.toLower = w.map Char.toLower := by
      rw [List.map_map]
      exact List.map_congr_left fun c hc => (toLower_case (hw c hc)).1
    have htail : (ws.flatMap capitalized).map Char.toLower = ws.flatten.map Char.toLower := by
      rw [List.map_flatMap, List.map_flatten, List.flatMap_def]
      exact congrArg _ (List.map_congr_left fun v hv => toLower_capitalized (hws v hv))
    rw [joinCamel, List.map_append, hhead, htail, List.flatten_cons, List.map_append]

theorem isAlphanum_of_mem_words {w : List Char} (hw : w ∈ words cs) :
    ∀ c ∈ w, c.isAlphanum = true := by
  intro c hc
  have hmem : c ∈ (words cs).flatten := List.mem_flatten.mpr ⟨w, hw, hc⟩
  rw [flatten_words] at hmem
  exact (List.mem_filter.mp hmem).2

theorem capitalized_eq (w : List Char) :
    capitalized w = (w.take 1).map Char.toUpper ++ (w.drop 1).map Char.toLower := by
  cases w <;> rfl

/-- The words of a text are its letters and digits in order, cut exactly where something breaks or
stands between them. Camel case joins them: the first in small letters, every other with a capital in
front of small letters. -/
theorem words_of_places (v : String) :
    (words v.toList).flatten = v.toList.filter Char.isAlphanum ∧
      (∀ i c, v.toList[i]? = some c → c.isAlphanum = true →
        ∃ w, (words v.toList)[wordOf v.toList i]? = some w ∧ c ∈ w) ∧
      (∀ i c d rest, v.toList.drop i = c :: d :: rest → c.isAlphanum = true → d.isAlphanum = true →
        (wordOf v.toList i ≠ wordOf v.toList (i + 1) ↔ breaks c d rest = true)) ∧
      (∀ i j k, i < k → k < j → Holds v.toList i → Holds v.toList j → ¬ Holds v.toList k →
        wordOf v.toList i ≠ wordOf v.toList j) ∧
      (∀ c ∈ (camelCase v).toList, c.isAlphanum = true) ∧
      (camelCase v).toList.map Char.toLower =
        (v.toList.filter Char.isAlphanum).map Char.toLower ∧
      (camelCase v).toList = (words v.toList).head?.elim [] (List.map Char.toLower) ++
        (words v.toList).tail.flatMap fun w =>
          (w.take 1).map Char.toUpper ++ (w.drop 1).map Char.toLower := by
  refine ⟨flatten_words _, fun _ _ => mem_word, fun _ _ _ _ => wordOf_ne_iff_breaks,
    fun _ _ _ hik hkj hi _ hk => wordOf_ne_of_between hik hkj hi hk,
    fun _ => isAlphanum_of_mem_camelCase, ?_, ?_⟩
  · rw [camelCase, String.toList_ofList, toLower_joinCamel fun _ => isAlphanum_of_mem_words,
      flatten_words]
  · rw [camelCase, String.toList_ofList]
    cases words v.toList with
    | nil => rfl
    | cons w ws => exact congrArg (w.map Char.toLower ++ ws.flatMap ·) (funext capitalized_eq)

end TableScaffold.Naming
