import TableScaffold.Proofs.Sql.Exchange

/-!
# Comments between tokens

Blanks and block comments part two tokens and are no tokens themselves (`Remarks.upTo`). The word that is
read again behind the name of a column is not found behind a comment (`Remarks.typeWord?_eq_none`); behind
any token that ends earlier it stays the same when what follows a later token is exchanged
(`UpTo.typeWord?_eq`).
-/

namespace TableScaffold.Sql

open Text

/-- Blanks and whole block comments. -/
inductive Remarks (d : Dialect) : List Char → Prop
  | nil : Remarks d []
  | blank {c : Char} {cs : List Char} (hc : isBlank c = true) (rest : Remarks d cs) : Remarks d (c :: cs)
  | comment {body cs : List Char} (hbody : d.lexis.blockEnd 1 body = some []) (rest : Remarks d cs) :
    Remarks d ('/' :: '*' :: (body ++ cs))

variable {d : Dialect} {m w q cs gap : List Char} {c : Char} {sameLine after : Bool}

theorem typeWord?_blank (hc : isBlank c = true) (cs : List Char) : typeWord? (c :: cs) = typeWord? cs := by
  unfold typeWord?
  rw [List.dropWhile_cons_of_pos hc]

theorem typeWord?_eq_none (hc : isBlank c = false) (hstarts : startsTypeWord c = false)
    (cs : List Char) : typeWord? (c :: cs) = none := by
  simp [typeWord?, hc, hstarts]

/-- A whole block comment ends where it ends, whatever follows. -/
theorem comment?_block (d : Dialect) {body : List Char} (h : d.lexis.blockEnd 1 body = some [])
    (w : List Char) : d.lexis.comment? ('/' :: '*' :: (body ++ w)) = some (some w) := by
  have hline : d.lexis.lineComments.any (·.isPrefixOf ['/', '*']) = false := by cases d <;> rfl
  obtain ⟨q', hq', hend⟩ := Lexis.blockEnd_boundary (m := []) ((List.append_nil body).symm ▸ h)
    (Nat.le_refl _)
  obtain rfl : q' = [] := by simpa using hq'.symm
  rw [Lexis.comment?_cons_cons, hline, if_neg Bool.false_ne_true, if_pos ⟨rfl, rfl⟩, hend]
  rfl

namespace Remarks

theorem append (hq : Remarks d q) (hgap : Remarks d gap) : Remarks d (q ++ gap) := by
  induction hq with
  | nil => exact hgap
  | blank hc _ ih => exact .blank hc ih
  | @comment body cs hbody _ ih =>
    have heq : '/' :: '*' :: (body ++ cs) ++ gap = '/' :: '*' :: (body ++ (cs ++ gap)) := by simp
    exact heq ▸ .comment hbody ih

/-- Blanks and comments are no tokens. -/
theorem upTo (h : Remarks d gap) (m : List Char) (sameLine : Bool) :
    ∃ (flags : List Bool) (after : Bool), UpTo d m sameLine gap (flags.map .comment) after := by
  induction h generalizing sameLine with
  | nil => exact ⟨[], sameLine, .here _⟩
  | @blank c _ hc _ ih =>
    obtain ⟨flags, after, hrest⟩ := ih (sameLine && !isBreak c)
    exact ⟨flags, after, .blank hc hrest⟩
  | @comment body cs hbody _ ih =>
    obtain ⟨flags, after, hrest⟩ := ih (sameLine && !Lexis.breaksBefore ('*' :: (body ++ cs)) cs)
    refine ⟨sameLine :: flags, after, .comment (by decide) (fun w => ?_) hrest⟩
    rw [List.cons_append, List.append_assoc]
    exact comment?_block d hbody (cs ++ w)

/-- No word is found behind a comment. -/
theorem typeWord?_eq_none (h : Remarks d gap) (hcomment : ∃ c ∈ gap, isBlank c = false)
    (m : List Char) : typeWord? (gap ++ m) = none := by
  induction h with
  | nil =>
    obtain ⟨c, hc, -⟩ := hcomment
    cases hc
  | blank hc _ ih =>
    rw [List.cons_append, typeWord?_blank hc]
    obtain ⟨x, hx, hblank⟩ := hcomment
    refine ih ⟨x, (List.mem_cons.1 hx).resolve_left ?_, hblank⟩
    rintro rfl
    exact Bool.false_ne_true (hblank.symm.trans hc)
  | comment => exact Sql.typeWord?_eq_none (by decide) (by decide) _

end Remarks

/-! ## The word behind a token -/

/-- Two tokens behind which the same word is read. -/
def SameWord (t u : Token) : Prop := typeWord? t.rest = typeWord? u.rest

/-- A run of characters ends at one that fails the test. -/
theorem takeWhile_stop {p : Char → Bool} {c : Char} (hc : p c = false) (cs w : List Char) :
    (cs ++ c :: w).takeWhile p = cs.takeWhile p := by
  rw [List.takeWhile_append]
  split
  · next hall =>
    rw [List.takeWhile_cons, hc, if_neg Bool.false_ne_true, List.append_nil,
      (List.takeWhile_prefix p).eq_of_length hall]
  · rfl

/-- A word ends at a character that is neither blank nor part of a word. -/
theorem typeWord?_append {c : Char} (hblank : isBlank c = false) (hword : inTypeWord c = false)
    (r w : List Char) : typeWord? (r ++ c :: w) = typeWord? r := by
  have hstarts : startsTypeWord c = false :=
    Bool.eq_false_iff.2 fun h => Bool.false_ne_true (hword.symm.trans (inTypeWord_of_starts h))
  unfold typeWord?
  rw [List.dropWhile_append]
  cases r.dropWhile isBlank with
  | nil => simp [hblank, hstarts]
  | cons x cs =>
    simp only [List.isEmpty_cons, Bool.false_eq_true, if_false, List.cons_append]
    rw [takeWhile_stop hword]

theorem length_takeWhile_mono {p p' : Char → Bool} (h : ∀ c, p c = true → p' c = true) (cs : List Char) :
    (cs.takeWhile p).length ≤ (cs.takeWhile p').length := by
  induction cs with
  | nil => exact Nat.le_refl _
  | cons c cs ih =>
    cases hc : p c with
    | false => simp [hc]
    | true => simpa [hc, h c hc] using ih

/-- A token that starts like a word goes at least as far as the word. -/
theorem length_token?_word {t : Token} (hc : startsTypeWord c = true)
    (h : d.lexis.token? c cs = some t) :
    t.rest.length ≤ (cs.drop (cs.takeWhile inTypeWord).length).length := by
  obtain ⟨-, hdigit, hmark⟩ := starts_class hc
  obtain ⟨hname, htext⟩ := quotes_subset_marks d hmark
  have hmarks : marks.contains c = false := by simpa using hmark
  unfold Lexis.token? at h
  rw [hdigit, hname] at h
  simp only [Bool.false_eq_true, if_false, htext, hmarks] at h
  split at h
  · next hquote =>
    have hstop : cs.takeWhile inTypeWord = [] := by
      cases cs with
      | nil => rfl
      | cons x cs =>
        have hx : inTypeWord x = false := Bool.eq_false_iff.2 fun hin => by
          have hin : ∀ y ∈ [x], inTypeWord y = true := by simp [hin]
          have hend : EndsWord [] := by simp [EndsWord]
          exact Bool.false_ne_true
            ((headD_not_quote d hin hend).symm.trans (Bool.and_eq_true_iff.1 hquote).2)
        rw [List.takeWhile_cons, hx, if_neg Bool.false_ne_true]
    have hlength := Lexis.length_quoted h
    rw [hstop]
    simp only [List.length_drop, List.length_nil] at hlength ⊢
    omega
  · cases h
    have hle : (cs.takeWhile inTypeWord).length ≤ (cs.takeWhile d.lexis.inWord).length :=
      length_takeWhile_mono (fun _ => inWord_of_inTypeWord d) cs
    simp only [List.length_drop]
    omega

/-- A word is in front of the place if a token is, and then it does not depend on what follows. -/
theorem UpTo.typeWord?_eq {parts : List Lexeme} {t : Token} (h : UpTo d m sameLine q parts after)
    (ht : .token t ∈ parts) (hw : EndsWord w) : typeWord? (q ++ m) = typeWord? (q ++ w) := by
  induction h with
  | here => cases ht
  | blank hc _ ih =>
    rw [List.cons_append, List.cons_append, typeWord?_blank hc, typeWord?_blank hc]
    exact ih ht
  | @comment _ _ c q r _ hc hcomment _ _ =>
    have hstarts : startsTypeWord c = false := Bool.eq_false_iff.2 fun hstarts => by
      have hmark := (starts_class hstarts).2.2
      have hnone := comment?_eq_none d (q ++ m) fun hin => hmark (by
        have hsub : ∀ x ∈ ['-', '#', '/'], x ∈ marks := by simp [marks]
        exact hsub c hin)
      rw [hcomment m] at hnone
      cases hnone
    rw [List.cons_append, List.cons_append, typeWord?_eq_none hc hstarts,
      typeWord?_eq_none hc hstarts]
  | @token _ _ c q r u _ hc _ htoken hu _ _ =>
    cases hstarts : startsTypeWord c with
    | false =>
      rw [List.cons_append, List.cons_append, typeWord?_eq_none hc hstarts,
        typeWord?_eq_none hc hstarts]
    | true =>
      have hstop : ∀ x ∈ w.head?, inTypeWord x = false := fun x hx =>
        Bool.eq_false_iff.2 fun hin => Bool.false_ne_true
          ((closer_class d (hw x hx)).1.symm.trans (inWord_of_inTypeWord d hin))
      have hlength := length_token?_word hstarts htoken
      rw [hu, List.length_append] at hlength
      have hend : m.length ≤ ((q ++ m).drop ((q ++ m).takeWhile inTypeWord).length).length := by omega
      obtain ⟨hm, hw⟩ := Lexis.takeWhile_boundary hstop q hend
      unfold typeWord?
      rw [List.cons_append, List.cons_append, List.dropWhile_cons_of_neg (by simp [hc]),
        List.dropWhile_cons_of_neg (by simp [hc])]
      dsimp only
      rw [hm, hw]

end TableScaffold.Sql
