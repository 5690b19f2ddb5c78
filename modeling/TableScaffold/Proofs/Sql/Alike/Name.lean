import TableScaffold.Proofs.Sql.Alike.Expression
import TableScaffold.Proofs.Sql.Reading

/-!
# Names are read blindly

The parts of a dashed name are read as one name as long as they touch. A dashed name starts in front of
a dash and ends at a parenthesis or a comma, and that far lists of tokens that are alike tell alike
which tokens touch.
-/

namespace TableScaffold.Sql.Reading

variable {ρ : Likeness} {t u : Token}

theorem isStrayQuote_eq (h : t.Like u) : isStrayQuote t = isStrayQuote u := isMarkOf_eq h _

theorem isAnyName_eq (h : t.Like u) : isAnyName t = isAnyName u := by
  unfold isAnyName
  rw [h.kind, h.isWord, isStrayQuote_eq h]

theorem isPlainName_eq (h : t.Like u) : isPlainName t = isPlainName u := by
  unfold isPlainName
  rw [h.kind, h.upper, h.isWord, isStrayQuote_eq h]

theorem anyName_picks : Picks ρ anyName :=
  Agree.bind (mark_blind '#') fun _ _ _ => takeIf_picks fun _ _ h => isAnyName_eq h

/-! ## Dashed names -/

theorem run_dashedRest_cons (last t : Token) (ts : List Token) (fuel : Nat) :
    (dashedRest last (fuel + 1)).run (t :: ts) =
      if last.touches t && !t.endsDashes then
        ((dashedRest t fuel).run ts).map fun a => (t.text ++ a.1, a.2)
      else some ("", t :: ts) := by
  have hrun : (dashedRest last (fuel + 1)).run (t :: ts) =
      (if last.touches t && !t.endsDashes then do
        let _ ← take
        return t.text ++ (← dashedRest t fuel)
      else return "" : Reading String).run (t :: ts) := rfl
  rw [hrun]
  split
  · show ((dashedRest t fuel).run ts >>= fun a => some (t.text ++ a.1, a.2)) = _
    cases (dashedRest t fuel).run ts <;> rfl
  · rfl

/-- A dashed name goes on alike, as long as the same tokens touch. -/
theorem dashedRest_rel (hd : ρ.dialect = .bigquery) (fuel : Nat) {last last' : Token}
    {ts us : List Token} (htouch : last.touchesNext ts = last'.touchesNext us) (h : Alike ρ true ts us) :
    Option.Rel (fun a b => a.1 = b.1 ∧ Alike ρ false a.2 b.2) ((dashedRest last fuel).run ts)
      ((dashedRest last' fuel).run us) := by
  induction fuel generalizing last last' ts us with
  | zero => exact .some ⟨rfl, h.start⟩
  | succ fuel ih =>
    cases h with
    | nil => exact .some ⟨rfl, .nil⟩
    | @cons _ t u ts us head related touching tail =>
      have htouches : last.touches t = last'.touches u := by
        simpa [Token.touchesNext] using htouch
      have hends : t.endsDashes = u.endsDashes := isMarkOf_eq head _
      rw [run_dashedRest_cons, run_dashedRest_cons, htouches, hends]
      cases hgo : last'.touches u && !u.endsDashes with
      | false => exact .some ⟨rfl, Alike.start (.cons head related touching tail)⟩
      | true =>
        have hdashes : (!t.endsDashes) = true := by
          rw [hends]
          exact (Bool.and_eq_true_iff.1 hgo).2
        have hrest := ih (touching hd rfl) (hdashes ▸ tail)
        rw [if_pos rfl, if_pos rfl]
        generalize (dashedRest t fuel).run ts = a at hrest ⊢
        generalize (dashedRest u fuel).run us = b at hrest ⊢
        cases hrest with
        | none => exact .none
        | some hab => exact .some ⟨congrArg₂ (· ++ ·) head.text hab.1, hab.2⟩

/-- Whether a token starts a part of the name of a table. -/
def startsPart (t : Token) : Bool := isPlainName t || t.kind == .text

/-- A part of a name ends no dashed name. -/
theorem endsDashes_of_startsPart (h : startsPart t = true) : t.endsDashes = false := by
  by_cases hkind : t.kind = .mark
  · have hquote : isStrayQuote t = true := by simpa [startsPart, isPlainName, hkind] using h
    obtain ⟨q, hq, hmark⟩ := List.any_eq_true.1 hquote
    have htext : t.text = String.singleton q := by simpa [Token.isMark, hkind] using hmark
    have hother : ['\x60', '"', '\''].all (fun q => ['.', '(', ')', ',', ';'].all fun c =>
        String.singleton q != String.singleton c) = true := by decide
    refine List.any_eq_false.2 fun c hc => ?_
    have hne := List.all_eq_true.1 (List.all_eq_true.1 hother q hq) c hc
    rw [bne, Bool.not_eq_true'] at hne
    rw [Token.isMark, htext, hne]
    simp
  · simp [Token.endsDashes, isMarkOf, Token.isMark, hkind]

/-- What is read of a part of a name behind its first token. -/
def partRest (d : Dialect) (t : Token) : Reading (Option String) := do
  if d == .bigquery && (← seesMark '-') then
    return some (t.text ++ (← dashedRest t (← get).length))
  else return some t.text

theorem run_partRest (d : Dialect) (t : Token) (ts : List Token) :
    (partRest d t).run ts =
      if d == .bigquery && ts.head?.any (·.isMark '-') then
        ((dashedRest t ts.length).run ts).map fun a => (some (t.text ++ a.1), a.2)
      else some (some t.text, ts) := by
  have hsees : (seesMark '-').run ts = some (ts.head?.any (·.isMark '-'), ts) := by
    cases ts <;> simp
  unfold partRest
  cases d == .bigquery with
  | false => rfl
  | true =>
    simp only [Bool.true_and, StateT.run_bind, hsees]
    cases ts.head?.any (·.isMark '-') with
    | false => rfl
    | true =>
      show ((dashedRest t ts.length).run ts >>= fun a => some (some (t.text ++ a.1), a.2)) = _
      cases (dashedRest t ts.length).run ts <;> rfl

theorem partRest_rel {t u : Token} {ts us : List Token} (ht : startsPart t = true)
    (h : Alike ρ false (t :: ts) (u :: us)) :
    Option.Rel (fun a b => a.1 = b.1 ∧ Alike ρ false a.2 b.2) ((partRest ρ.dialect t).run ts)
      ((partRest ρ.dialect u).run us) := by
  cases h with
  | cons head related touching tail =>
    rw [endsDashes_of_startsPart ht] at tail
    have hdash : ts.head?.any (·.isMark '-') = us.head?.any (·.isMark '-') := by
      cases tail with
      | nil => rfl
      | cons next _ _ _ => simp [next.isMark]
    rw [run_partRest, run_partRest, hdash]
    cases hgo : ρ.dialect == .bigquery && us.head?.any (·.isMark '-') with
    | false => exact .some ⟨congrArg some head.text, tail.start⟩
    | true =>
      obtain ⟨hd, hsees⟩ := Bool.and_eq_true_iff.1 hgo
      have hrest := dashedRest_rel (eq_of_beq hd) ts.length
        (touching (eq_of_beq hd) (by rw [hdash, hsees]; rfl)) tail
      rw [if_pos rfl, if_pos rfl, ← tail.length_eq]
      generalize (dashedRest t ts.length).run ts = a at hrest ⊢
      generalize (dashedRest u ts.length).run us = b at hrest ⊢
      cases hrest with
      | none => exact .none
      | some hab => exact .some ⟨congrArg some (congrArg₂ (· ++ ·) head.text hab.1), hab.2⟩

theorem tablePart_blind : Blind ρ (tablePart ρ.dialect) := by
  have hpart {k : Option Token → Reading (Option String)} (hnone : k none = pure none)
      (hsome : ∀ t, k (some t) = partRest ρ.dialect t) : Blind ρ (takeIf startsPart >>= k) := by
    intro ts us h
    cases h with
    | nil =>
      rw [StateT.run_bind, run_takeIf_nil, Option.bind_eq_bind, Option.bind_some, hnone]
      exact .some ⟨rfl, .nil⟩
    | @cons _ t u ts us head related touching tail =>
      have hstarts : startsPart t = startsPart u := by
        unfold startsPart
        rw [isPlainName_eq head, head.kind]
      rw [StateT.run_bind, StateT.run_bind, run_takeIf_cons, run_takeIf_cons, hstarts]
      cases hpart : startsPart u with
      | false =>
        simp only [Bool.false_eq_true, if_false, Option.bind_eq_bind, Option.bind_some, hnone]
        exact .some ⟨rfl, .cons head related touching tail⟩
      | true =>
        simp only [if_true, Option.bind_eq_bind, Option.bind_some, hsome]
        exact partRest_rel (hstarts.trans hpart) (.cons head related touching tail)
  exact .ite ((mark_blind '#').bind fun _ => (mark_blind '#').bind fun _ => hpart rfl fun _ => rfl)
    (hpart rfl fun _ => rfl)

theorem tableParts_blind (fuel : Nat) : Blind ρ (tableParts ρ.dialect fuel) := by
  induction fuel with
  | zero => exact .pure []
  | succ fuel ih =>
    refine (mark_blind '.').bind fun _ => .ite (tablePart_blind.bind fun part => ?_) (.pure [])
    have hothers : Blind ρ (do return part.getD "" :: (← tableParts ρ.dialect fuel)) :=
      ih.bind fun _ => .pure _
    exact (seesMark_blind '.').bind fun _ => .ite (Blind.failure.bind fun _ => hothers) hothers

theorem allTableParts_blind : Blind ρ (allTableParts ρ.dialect) := by
  refine tablePart_blind.bind fun o => ?_
  cases o with
  | none => exact .failure
  | some first =>
    exact .look fun ts us h => h.length_eq ▸ (tableParts_blind ts.length).bind fun _ => .pure _

theorem tableName_blind : Blind ρ (tableName ρ.dialect) :=
  allTableParts_blind.bind fun _ => .pure _

theorem schemaName_blind : Blind ρ (schemaName ρ.dialect) :=
  allTableParts_blind.bind fun _ => .pure _

/-! ## Columns -/

theorem dotted_eq : ∀ {ts us : List Token}, List.Forall₂ Token.Like ts us →
    columnOf.dotted ts = columnOf.dotted us
  | [], [], _ | [_], [_], _ => rfl
  | [_, _], [_, _], .cons _ (.cons hd .nil) => by simp [columnOf.dotted, hd.isMark]
  | [_, _, _], [_, _, _], .cons hs (.cons hd (.cons ht .nil)) => by
    simp [columnOf.dotted, hs.kind, hd.isMark, ht.text]
  | _ :: _ :: _ :: _ :: _, _ :: _ :: _ :: _ :: _, .cons _ (.cons hd hrest) => by
    simp only [columnOf.dotted, hd.isMark, dotted_eq hrest]

theorem columnOf_eq : ∀ {ts us : List Token}, List.Forall₂ Token.Like ts us →
    columnOf ts = columnOf us
  | [], [], _ => rfl
  | [_], [_], .cons h .nil => h.text
  | [_, _], [_, _], h | [_, _, _], [_, _, _], h => dotted_eq h
  | [_, _, _, _], [_, _, _, _], h@(.cons ht (.cons ho (.cons hn (.cons hc .nil)))) => by
    simp only [columnOf, ht.kind, ho.isMark, hn.kind, hc.isMark, ht.text, dotted_eq h]
  | _ :: _ :: _ :: _ :: _ :: _, _ :: _ :: _ :: _ :: _ :: _, h => dotted_eq h

theorem orderedColumn_blind (d : Dialect) : Blind ρ (orderedColumn d) := by
  refine (seesMark_blind ')').bind fun _ => (seesMark_blind ',').bind fun _ => .ite (.pure none) ?_
  refine .look fun before before' hbefore => ?_
  refine Agree.bind (condition_blind d) fun _ _ _ => Agree.bind .get fun after after' hafter => ?_
  have hcolumn : columnOf (before.take (before.length - after.length)) =
      columnOf (before'.take (before'.length - after'.length)) := by
    rw [hbefore.length_eq, hafter.length_eq]
    exact columnOf_eq (List.forall₂_take _ hbefore.forall₂)
  rw [hcolumn]
  refine (oneOf_picks _).ignore ((word_blind "NULLS").bind fun _ => .ite ?_ (.pure _))
  exact (oneOf_picks _).ignore (.pure _)

end TableScaffold.Sql.Reading
