import TableScaffold.Proofs.Sql.Part
import TableScaffold.Sql.Reading

/-!
# How readings run

What a reading does is decided by the first token. `Token.Spells` says that a token is a given word,
in any letter case. The lemmas on a token in front are `simp` lemmas, so that a reading is run on
given tokens by rewriting.

`closedList_joined`: if an item can be read in front of a comma and in front of a closing parenthesis,
a list of items between commas can be read up to its parenthesis, whatever layout follows the commas.
-/

namespace TableScaffold.Sql

namespace Token

variable {t : Token}

/-- Whether a token is a word that reads as given in capital letters. -/
def Spells (w : String) (t : Token) : Prop := t.kind = .word ∧ t.upper = w

theorem Spells.isWord {w : String} (h : t.Spells w) (v : String) : t.isWord v = (w == v) := by
  simp [Token.isWord, h.1, h.2]

theorem Spells.isOneOf {w : String} (h : t.Spells w) (vs : List String) :
    t.isOneOf vs = vs.contains w := by
  simp [Token.isOneOf, h.1, h.2]

theorem Spells.isMark {w : String} (h : t.Spells w) (c : Char) : t.isMark c = false := by
  simp [Token.isMark, h.1]

theorem Spells.hasText {w : String} (h : t.Spells w) (ws : List String) :
    t.hasText ws = ws.contains (Text.upper t.text) := by
  simp [Token.hasText, h.1]

/-- A token that is none of some words is not any one of them. -/
theorem isWord_of_isOneOf {w : String} {ws : List String} (h : t.isOneOf ws = false) (hw : w ∈ ws) :
    t.isWord w = false := by
  simp only [isOneOf, isWord, Bool.and_eq_false_iff] at h ⊢
  rcases h with h | h
  · exact .inl h
  · refine .inr (beq_eq_false_iff_ne.2 fun e => ?_)
    rw [e] at h
    simp [hw] at h

/-- A token that is none of some words is none of fewer. -/
theorem isOneOf_of_subset {vs ws : List String} (h : t.isOneOf ws = false) (hvs : vs ⊆ ws) :
    t.isOneOf vs = false := by
  simp only [isOneOf, Bool.and_eq_false_iff] at h ⊢
  refine h.imp id fun h => ?_
  simp only [List.contains_eq_mem, decide_eq_false_iff_not] at h ⊢
  exact fun hm => h (hvs hm)

/-- A token that says none of some words says none of fewer. -/
theorem hasText_of_subset {vs ws : List String} (h : t.hasText ws = false) (hvs : vs ⊆ ws) :
    t.hasText vs = false := by
  simp only [hasText, Bool.and_eq_false_iff, List.contains_eq_mem, decide_eq_false_iff_not] at h ⊢
  exact h.imp id fun h hm => h (hvs hm)

theorem hasText_cons (w : String) (ws : List String) :
    t.hasText (w :: ws) = (t.hasText [w] || t.hasText ws) := by
  simp [hasText, Bool.and_or_distrib_left]

theorem isWord_eq_false (h : t.kind ≠ .word) (w : String) : t.isWord w = false := by
  simp [Token.isWord, h]

theorem isOneOf_eq_false (h : t.kind ≠ .word) (ws : List String) : t.isOneOf ws = false := by
  simp [Token.isOneOf, h]

theorem isMark_eq_false (h : t.kind ≠ .mark) (c : Char) : t.isMark c = false := by
  simp [Token.isMark, h]

@[simp] theorem isWord_name (s w : String) (r : List Char) : isWord w ⟨.name, s, r⟩ = false :=
  isWord_eq_false (by simp) w

@[simp] theorem isOneOf_name (s : String) (ws : List String) (r : List Char) :
    isOneOf ws ⟨.name, s, r⟩ = false := isOneOf_eq_false (by simp) ws

@[simp] theorem isMark_name (s : String) (c : Char) (r : List Char) :
    isMark c ⟨.name, s, r⟩ = false := isMark_eq_false (by simp) c

@[simp] theorem kind_ofMark (c : Char) (r : List Char) : (ofMark c r).kind = .mark := rfl

@[simp] theorem isWord_ofMark (c : Char) (r : List Char) (w : String) :
    (ofMark c r).isWord w = false := isWord_eq_false (by simp) w

@[simp] theorem isOneOf_ofMark (c : Char) (r : List Char) (ws : List String) :
    (ofMark c r).isOneOf ws = false := isOneOf_eq_false (by simp) ws

@[simp] theorem isMark_ofMark (c d : Char) (r : List Char) : (ofMark c r).isMark d = (c == d) := by
  by_cases h : c = d
  · simp [isMark, ofMark, h]
  · have hne : String.singleton c ≠ String.singleton d := fun e => h (by simpa using e)
    rw [isMark, ofMark, beq_eq_false_iff_ne.2 hne, beq_eq_false_iff_ne.2 h, Bool.and_false]

end Token

namespace Reading

variable {α β γ : Type} {t : Token} {ts : List Token}

@[simp] theorem run_failure : (failure : Reading α).run ts = none := rfl

@[simp] theorem run_peek : peek.run ts = some (ts.head?, ts) := rfl

@[simp] theorem run_takeIf_nil (p : Token → Bool) : (takeIf p).run [] = some (none, []) := rfl

@[simp] theorem run_takeIf_cons (p : Token → Bool) :
    (takeIf p).run (t :: ts) = if p t then some (some t, ts) else some (none, t :: ts) := by
  cases h : p t <;> simp [takeIf, h]

@[simp] theorem run_word_nil (w : String) : (word w).run [] = some (false, []) := rfl

@[simp] theorem run_word_cons (w : String) :
    (word w).run (t :: ts) = if t.isWord w then some (true, ts) else some (false, t :: ts) := by
  cases h : t.isWord w <;> simp [word, h]

theorem run_wordWhere_of_false {w : String} (known : Bool) (h : (word w).run ts = some (false, ts)) :
    (wordWhere known w).run ts = some (false, ts) := by
  cases known
  · rfl
  · exact h

@[simp] theorem run_wordWhere_cons (known : Bool) (w : String) :
    (wordWhere known w).run (t :: ts) =
      if known && t.isWord w then some (true, ts) else some (false, t :: ts) := by
  cases known <;> simp [wordWhere]

@[simp] theorem run_oneOf_nil (ws : List String) : (oneOf ws).run [] = some (none, []) := rfl

@[simp] theorem run_oneOf_cons (ws : List String) :
    (oneOf ws).run (t :: ts) = if t.isOneOf ws then some (some t, ts) else some (none, t :: ts) :=
  run_takeIf_cons _

@[simp] theorem run_said_nil (ws : List String) : (said ws).run [] = some (false, []) := rfl

@[simp] theorem run_said_cons (ws : List String) :
    (said ws).run (t :: ts) = if t.hasText ws then some (true, ts) else some (false, t :: ts) := by
  cases h : t.hasText ws <;> simp [said, h]

@[simp] theorem run_mark_nil (c : Char) : (mark c).run [] = some (false, []) := rfl

@[simp] theorem run_mark_cons (c : Char) :
    (mark c).run (t :: ts) = if t.isMark c then some (true, ts) else some (false, t :: ts) := by
  cases h : t.isMark c <;> simp [mark, h]

@[simp] theorem run_seesMark_nil (c : Char) : (seesMark c).run [] = some (false, []) := rfl

@[simp] theorem run_seesMark_cons (c : Char) :
    (seesMark c).run (t :: ts) = some (t.isMark c, t :: ts) := by
  simp [seesMark]

@[simp] theorem run_sees (ws : List String) :
    (sees ws).run ts = some ((afterWords ws ts).isSome, ts) := by
  simp [sees]

@[simp] theorem run_words (ws : List String) :
    (words ws).run ts = match afterWords ws ts with
      | some rest => some (true, rest)
      | none => some (false, ts) := by
  cases h : afterWords ws ts <;> simp [words, h]

@[simp] theorem run_attempt (x : Reading α) :
    (attempt x).run ts = match x.run ts with
      | some (a, rest) => some (some a, rest)
      | none => some (none, ts) := rfl

/-! ## Alternatives -/

section

variable {yes no : Reading α} {w : String} {ws : List String}

theorem run_word_then (h : t.isWord w = true) :
    (do if ← word w then yes else no : Reading α).run (t :: ts) = yes.run ts := by
  rw [StateT.run_bind, run_word_cons, if_pos h]
  rfl

theorem run_word_else (h : t.isWord w = false) :
    (do if ← word w then yes else no : Reading α).run (t :: ts) = no.run (t :: ts) := by
  rw [StateT.run_bind, run_word_cons, h]
  rfl

theorem run_words_then {rest : List Token} (h : afterWords ws ts = some rest) :
    (do if ← words ws then yes else no : Reading α).run ts = yes.run rest := by
  rw [StateT.run_bind, run_words, h]
  rfl

theorem run_words_else (h : t.isWord w = false) :
    (do if ← words (w :: ws) then yes else no : Reading α).run (t :: ts) = no.run (t :: ts) := by
  rw [StateT.run_bind, run_words, afterWords, h]
  rfl

theorem run_oneOf_else (h : t.isOneOf ws = false) :
    (do if (← oneOf ws).isSome then yes else no : Reading α).run (t :: ts) = no.run (t :: ts) := by
  rw [StateT.run_bind, run_oneOf_cons, h]
  rfl

end

/-! ## Lists -/

/-- Items with a comma between them and a layout behind every comma. -/
def joined (gap : List Part) : List (List Part) → List Part
  | [] => []
  | [p] => p
  | p :: q :: rest => p ++ .mark ',' :: (gap ++ joined gap (q :: rest))

/-- Items with a comma and a blank between them. -/
def commas : List (List Part) → List Part
  | [] => []
  | [p] => p
  | p :: q :: rest => p ++ .mark ',' :: .blank ' ' :: commas (q :: rest)

theorem commas_eq_joined (items : List (List Part)) : commas items = joined [.blank ' '] items := by
  induction items with
  | nil => rfl
  | cons p items ih =>
    cases items with
    | nil => rfl
    | cons q rest =>
      rw [commas, joined, ih]
      rfl

/-- The marks that end an item of a list. -/
def itemEnds : List Char := [',', ')']

theorem itemEnds_cases {c : Char} (h : c ∈ itemEnds) : c = ',' ∨ c = ')' := by
  simpa [itemEnds] using h

/-- Whether parts start where an item of a list ends. -/
structure EndsItem (ps : List Part) : Prop where
  endsWord : EndsWord (script ps)
  mark : ∃ c ∈ itemEnds, ∃ r us, tokens ps = .ofMark c r :: us

theorem endsItem_mark {c : Char} (hc : c ∈ itemEnds) (ps : List Part) : EndsItem (.mark c :: ps) := by
  have hclosers : c ∈ closers := by rcases itemEnds_cases hc with rfl | rfl <;> decide
  exact ⟨endsWord_mark hclosers ps, c, hc, script ps, tokens ps, rfl⟩

/-- Parts without tokens are passed over. -/
theorem tokens_append_of_nil {ps : List Part} (h : tokens ps = []) (qs : List Part) :
    tokens (ps ++ qs) = tokens qs := by
  induction ps with
  | nil => rfl
  | cons p ps ih =>
    cases p with
    | blank c => exact ih h
    | word | name | number | mark | other => exact absurd h (by simp [tokens])

theorem length_tokens_append (ps qs : List Part) :
    (tokens (ps ++ qs)).length = (tokens ps).length + (tokens qs).length := by
  induction ps with
  | nil => simp [tokens]
  | cons p ps ih => cases p <;> simp [tokens, ih] <;> omega

/-- Between the items stands at least one token each. -/
theorem length_le_tokens_joined (gap : List Part) (ps : List (List Part)) :
    ps.length ≤ (tokens (joined gap ps)).length + 1 := by
  induction ps with
  | nil => simp
  | cons p ps ih =>
    cases ps with
    | nil => simp
    | cons q rest =>
      simp only [joined, length_tokens_append, tokens, List.length_cons] at ih ⊢
      omega

section

variable {item : Reading (Option α)} {shown : β → List Part} {f : α → γ} {g : β → γ}

/-- A list of items is read up to the mark behind it. -/
theorem commaList_joined {gap : List Part} (hgap : tokens gap = []) {xs : List β} (hne : xs ≠ [])
    (h : ∀ x ∈ xs, ∀ ps, EndsItem ps →
      ∃ a, item.run (tokens (shown x ++ ps)) = some (some a, tokens ps) ∧ f a = g x)
    {qs : List Part} {r : List Char} (hqs : EndsItem qs) (hclose : tokens qs = .ofMark ')' r :: ts) :
    ∀ fuel, xs.length ≤ fuel → ∃ as,
      (commaList item fuel).run (tokens (joined gap (xs.map shown) ++ qs)) =
        some (as, .ofMark ')' r :: ts) ∧ as.map f = xs.map g := by
  induction xs with
  | nil => exact absurd rfl hne
  | cons x xs ih =>
    intro fuel hfuel
    obtain ⟨fuel, rfl⟩ : ∃ n, fuel = n + 1 := ⟨fuel - 1, by simp at hfuel; omega⟩
    cases xs with
    | nil =>
      obtain ⟨a, ha, hfa⟩ := h x List.mem_cons_self qs hqs
      refine ⟨[a], ?_, by simp [hfa]⟩
      rw [hclose] at ha
      simp only [List.map_cons, List.map_nil, joined]
      simp [commaList, ha]
    | cons y xs =>
      obtain ⟨a, ha, hfa⟩ := h x List.mem_cons_self _ (endsItem_mark (c := ',') (by decide)
        (gap ++ (joined gap ((y :: xs).map shown) ++ qs)))
      obtain ⟨as, has, hfas⟩ := ih (by simp) (fun z hz => h z (List.mem_cons_of_mem _ hz)) fuel
        (by simpa using hfuel)
      refine ⟨a :: as, ?_, by simp [hfa, hfas]⟩
      simp only [List.map_cons] at ha has ⊢
      rw [joined, List.append_assoc, List.cons_append, List.append_assoc]
      simp [commaList, ha, tokens, tokens_append_of_nil hgap, has]

/-- A list in parentheses is read from behind the opening one. -/
theorem closedList_joined (gap : List Part) (hgap : tokens gap = []) {xs : List β} (hne : xs ≠ [])
    (h : ∀ x ∈ xs, ∀ ps, EndsItem ps →
      ∃ a, item.run (tokens (shown x ++ ps)) = some (some a, tokens ps) ∧ f a = g x)
    {qs : List Part} {r : List Char} (hqs : EndsItem qs) (hclose : tokens qs = .ofMark ')' r :: ts) :
    ∃ as, (closedList item).run (tokens (joined gap (xs.map shown) ++ qs)) = some (as, ts) ∧
      as.map f = xs.map g := by
  have hfuel := length_le_tokens_joined gap (xs.map shown)
  obtain ⟨as, has, hfas⟩ := commaList_joined hgap hne h hqs hclose
    ((tokens (joined gap (xs.map shown) ++ qs)).length + 1)
    (by simp only [List.length_map] at hfuel; rw [length_tokens_append]; omega)
  refine ⟨as, ?_, hfas⟩
  simp [closedList, has, expect]

/-- The same with a blank behind every comma. -/
theorem closedList_commas {xs : List β} (hne : xs ≠ [])
    (h : ∀ x ∈ xs, ∀ ps, EndsItem ps →
      ∃ a, item.run (tokens (shown x ++ ps)) = some (some a, tokens ps) ∧ f a = g x)
    {qs : List Part} {r : List Char} (hqs : EndsItem qs) (hclose : tokens qs = .ofMark ')' r :: ts) :
    ∃ as, (closedList item).run (tokens (commas (xs.map shown) ++ qs)) = some (as, ts) ∧
      as.map f = xs.map g := by
  rw [commas_eq_joined]
  exact closedList_joined [.blank ' '] rfl hne h hqs hclose

end

end Reading

end TableScaffold.Sql
