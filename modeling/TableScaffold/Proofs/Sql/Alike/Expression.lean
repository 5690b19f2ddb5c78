import TableScaffold.Proofs.Sql.Alike

/-!
# Types, expressions and names are read blindly

What is read of a type, an expression or a name does not depend on what follows the tokens. Only the
parts of a dashed name have to touch; that they do is told alike in both lists.
-/

namespace TableScaffold.Sql.Reading

variable {ρ : Likeness}

/-! ## Types -/

/-- A token of some kind. -/
theorem takeKind_picks (p : TokenKind → Bool) : Picks ρ (takeIf fun t => p t.kind) :=
  takeIf_picks fun _ _ h => congrArg p h.kind

theorem typeParameter_blind : Blind ρ typeParameter := by
  refine .pick (takeKind_picks (· != .mark)) (fun t u h => ?_) fun o => ?_
  · dsimp only
    rw [h.text]
  · cases o with
    | none => exact .pure none
    | some t => exact (takeKind_picks (· != .mark)).ignore (.pure _)

theorem typeParameters_blind : Blind ρ typeParameters :=
  (mark_blind '(').bind fun _ => .ite (closedList_blind typeParameter_blind) (.pure [])

theorem afterAngle_eq (depth : Nat) (ts : List Token) :
    afterAngle depth ts = afterMatching (·.isMark '<') (·.isMark '>') depth ts := by
  fun_induction afterAngle depth ts <;> simp_all [afterMatching]

theorem nestedParameters_blind : Blind ρ nestedParameters := by
  refine (mark_blind '<').bind fun _ => .ite (.skipTo fun ts us h => ?_) ?_
  · rw [afterAngle_eq, afterAngle_eq]
    exact afterMatching_rel (fun _ _ h => h.isMark _) (fun _ _ h => h.isMark _) 0 h
  · exact skipParenthesized_blind.bind fun _ => .pure ()

theorem afterBracket_rel {ts us : List Token} {dashes : Bool} (h : Alike ρ dashes ts us) :
    Option.Rel (Alike ρ false) (afterBracket ts) (afterBracket us) := by
  unfold afterBracket
  induction h with
  | nil => exact .none
  | cons head _ _ tail ih =>
    rw [List.dropWhile_cons, List.dropWhile_cons, head.isMark]
    cases Token.isMark ']' _ with
    | false => exact ih
    | true => exact .some tail.start

theorem arraySuffix_blind : Blind ρ arraySuffix :=
  (word_blind _).bind fun _ => (mark_blind _).bind fun _ =>
    .ite (.skip (fun _ _ h => afterBracket_rel h) (.pure true) .failure) (.pure _)

theorem longName_blind (w : String) : Blind ρ (longName w) := by
  refine (wordWhere_blind _ _).bind fun _ => .ite (.pure _) ?_
  refine (wordWhere_blind _ _).bind fun _ => .ite (.pure _) ?_
  refine (wordWhere_blind _ _).bind fun _ => .ite (.pure _) ?_
  exact .ite ((word_blind _).bind fun _ => .pure _) (.pure _)

theorem timeZone_blind (name : String) : Blind ρ (timeZone name) := by
  refine .ite (.pure name) ((words_blind _).bind fun _ => .ite (.pure _) ?_)
  exact (words_blind _).bind fun _ => .ite (.pure _) ((words_blind _).bind fun _ => .pure _)

theorem signedness_blind (name : String) : Blind ρ (signedness name) := by
  refine (word_blind _).bind fun _ => .ite ?_ (.pure name)
  cases unsignedTypes.lookup name with
  | some n => exact .pure n
  | none => exact .failure

theorem typeName_blind (d : Dialect) : Blind ρ (typeName d) := by
  refine .pick (takeKind_picks fun k => k == .word || k == .name) (fun t u h => ?_) fun o => ?_
  · dsimp only
    rw [h.kind, h.upper]
  cases o with
  | none => exact .failure
  | some t =>
    refine .ite ((longName_blind _).bind fun w => ?_) ?_
    · cases d.typeOfWord? w with
      | some name => exact .pure name
      | none => exact (sees_blind _).bind fun _ => .ite (.pure _) .failure
    · cases if d == .postgres then none else d.typeOfWord? t.upper with
      | some name => exact .pure name
      | none => exact .ite (.pure _) .failure

theorem dottedRest_blind (fuel : Nat) : Blind ρ (dottedRest fuel) := by
  induction fuel with
  | zero => exact .pure ()
  | succ fuel ih =>
    exact (mark_blind '.').bind fun _ =>
      .ite ((takeKind_picks fun k => k == .word || k == .name).require ih) (.pure ())

theorem typeUnit_blind (d : Dialect) : Blind ρ (typeUnit d) := by
  refine .pick (oneOf_picks _) (fun _ _ _ => rfl) fun o => ?_
  cases o with
  | none => exact .pure false
  | some t => exact (word_blind _).bind fun _ => .ite ((oneOf_picks _).ignore (.pure true)) (.pure true)

theorem namedType_blind (d : Dialect) (name : String) : Blind ρ (namedType d name) := by
  refine .ite ?_ (typeParameters_blind.bind fun _ => .ite ?_ ?_)
  · exact nestedParameters_blind.bind fun _ => arraySuffix_blind.bind fun _ => .pure _
  · exact (typeUnit_blind d).bind fun _ => arraySuffix_blind.bind fun _ => .ite (.pure _) (.pure _)
  · exact (timeZone_blind _).bind fun _ => (signedness_blind _).bind fun _ =>
      arraySuffix_blind.bind fun _ => .ite (.pure _) (.pure _)

theorem dataType_blind (d : Dialect) : Blind ρ (dataType d) := by
  refine (oneOf_picks _).ifSome (.pure _) ((typeName_blind d).bind fun name => ?_)
  exact .ite (.count fun n => (dottedRest_blind n).bind fun _ => namedType_blind d name)
    (namedType_blind d name)

theorem dataType?_blind (d : Dialect) : Blind ρ (dataType? d) := attempt_blind (dataType_blind d)

/-! ## Expressions -/

theorem isMarkOf_eq {t u : Token} (h : t.Like u) (cs : List Char) :
    isMarkOf cs t = isMarkOf cs u := by
  unfold isMarkOf
  simp only [h.isMark]

theorem takeMarkOf_picks (cs : List Char) : Picks ρ (takeIf (isMarkOf cs)) :=
  takeIf_picks fun _ _ h => isMarkOf_eq h cs

theorem marks_blind (c d : Char) : Blind ρ (marks c d) := by
  refine .look fun ts us h => ?_
  cases h with
  | nil => exact Blind.pure false
  | cons head _ _ tail =>
    cases tail with
    | nil => exact Blind.pure false
    | cons next _ _ tail =>
      dsimp only
      rw [head.isMark, next.isMark]
      split
      · exact Agree.bind (.set tail) fun _ _ _ => Blind.pure true
      · exact Blind.pure false

theorem afterCase_eq (depth : Nat) (ts : List Token) :
    afterCase depth ts = afterMatching (·.isWord "CASE") (·.isWord "END") depth ts := by
  fun_induction afterCase depth ts <;> simp_all [afterMatching]

theorem afterCase_rel {ts us : List Token} (h : Alike ρ false ts us) :
    Option.Rel (Alike ρ false) (afterCase 0 ts) (afterCase 0 us) := by
  rw [afterCase_eq, afterCase_eq]
  exact afterMatching_rel (fun _ _ h => h.isWord _) (fun _ _ h => h.isWord _) 0 h

theorem operatorRest_blind (cs : List Char) (fuel : Nat) : Blind ρ (operatorRest cs fuel) := by
  induction fuel with
  | zero => exact .pure ()
  | succ fuel ih => exact (takeMarkOf_picks cs).ifSome ih (.pure ())

theorem operator_blind (e : Extent) : Blind ρ (operator e) := by
  unfold operator
  extract_lets cs
  refine (marks_blind '<' '<').bind fun _ => .ite (.pure true) ?_
  refine (takeMarkOf_picks cs).ifSome ((operatorRest_blind _ 2).bind fun _ => .pure true) ?_
  refine (oneOf_picks valueWords).ifSome (.pure true) ?_
  refine (words_blind _).bind fun _ => .ite (.pure true) (.ite (.pure false) ?_)
  refine (word_blind "NOT").bind fun negated => .pick (oneOf_picks conditionWords) (fun t u h => ?_) ?_
  · dsimp only
    rw [h.isWord]
  · intro o
    cases o with
    | none => exact .ite .failure (.pure false)
    | some t =>
      refine .ite ((words_blind _).bind fun _ => ?_) (.pure true)
      exact .ite ((words_blind _).bind fun _ => .pure true) (.pure true)

theorem attached_blind (d : Dialect) (fuel : Nat) : Blind ρ (attached d fuel) := by
  induction fuel with
  | zero => exact .pure ()
  | succ fuel ih =>
    refine (mark_blind '.').bind fun _ => .ite ?_ ?_
    · exact (takeIf_picks fun _ _ h => by rw [h.kind, h.isMark]).require
        (skipParenthesized_blind.bind fun _ => ih)
    refine (mark_blind '[').bind fun _ => .ite ?_ ?_
    · exact .skip (fun _ _ h => afterBracket_rel h) ih (Blind.failure.bind fun _ => ih)
    · exact (marks_blind ':' ':').bind fun _ => .ite ((dataType_blind d).bind fun _ => ih) (.pure ())

section

variable {d : Dialect} {fuel : Nat}

/-- An operand is read blindly with more fuel, if it and what it holds are with less. -/
theorem operand_succ_blind (hoperand : Blind ρ (operand d fuel))
    (hcall : ∀ wordy, Blind ρ (call d fuel wordy))
    (hexpression : ∀ e, Blind ρ (expression d e fuel)) : Blind ρ (operand d (fuel + 1)) := by
  have hattached := attached_blind (ρ := ρ) d fuel
  refine .pick take_picks (fun t u h => ?_) fun o => ?_
  · dsimp only
    simp only [h.kind, h.isWord, h.upper, h.isMark, isMarkOf_eq h]
  cases o with
  | none => exact .failure
  | some t =>
    dsimp only
    cases t.kind with
    | number => exact hattached
    | text => exact .ite ((takeKind_picks (· == .text)).ignore hattached) hattached
    | name => exact hcall false
    | word =>
      refine .ite hoperand (.ite (.skipTo fun _ _ h => afterCase_rel h) (.ite ?_ ?_))
      · exact hoperand.bind fun _ => (oneOf_picks _).ignore (.pure ())
      · exact .ite .failure (hcall _)
    | mark =>
      refine .ite ((oneOf_picks _).ifSome ?_ ?_) (.ite ?_ (.ite hoperand (.ite ?_ ?_)))
      · exact skipToClosing_blind.bind fun _ => hattached
      · exact (closedList_blind ((hexpression _).bind fun _ => .pure _)).bind fun _ => hattached
      · exact (takeKind_picks (· == .number)).require hattached
      · exact (mark_blind '@').bind fun _ =>
          (takeKind_picks fun k => k == .word || k == .name).require (.pure ())
      · exact .ite (.pure ()) .failure

theorem call_succ_blind (hexpression : ∀ e, Blind ρ (expression d e fuel)) (wordy : Bool) :
    Blind ρ (call d (fuel + 1) wordy) := by
  have hattached := attached_blind (ρ := ρ) d fuel
  refine (mark_blind '(').bind fun _ => .ite (.ite ?_ ?_) ?_
  · exact skipToClosing_blind.bind fun _ => hattached
  · refine (mark_blind ')').bind fun _ => .ite hattached ((closedList_blind ?_).bind fun _ => hattached)
    exact (word_blind _).bind fun _ => (hexpression _).bind fun _ => .pure _
  · exact (takeKind_picks (· == .text)).ignore hattached

theorem expression_succ_blind (hoperand : Blind ρ (operand d fuel))
    (hexpression : ∀ e, Blind ρ (expression d e fuel)) (e : Extent) :
    Blind ρ (expression d e (fuel + 1)) := by
  have hnext : Blind ρ (operator e >>= fun more => if more then expression d e fuel else pure ()) :=
    (operator_blind e).bind fun _ => .ite (hexpression e) (.pure ())
  exact hoperand.bind fun _ => .ite ((words_blind _).bind fun _ => hnext) hnext

end

/-- Operands, calls and expressions hold each other, so they are read blindly together. -/
theorem expressions_blind (d : Dialect) (fuel : Nat) :
    Blind ρ (operand d fuel) ∧ (∀ wordy, Blind ρ (call d fuel wordy)) ∧
      ∀ e, Blind ρ (expression d e fuel) := by
  induction fuel with
  | zero => exact ⟨.failure, fun _ => .failure, fun _ => .failure⟩
  | succ fuel ih =>
    obtain ⟨hoperand, hcall, hexpression⟩ := ih
    exact ⟨operand_succ_blind hoperand hcall hexpression, call_succ_blind hexpression,
      expression_succ_blind hoperand hexpression⟩

theorem operand_blind (d : Dialect) (fuel : Nat) : Blind ρ (operand d fuel) :=
  (expressions_blind d fuel).1

theorem value_blind (d : Dialect) : Blind ρ (value d) :=
  .count fun n => (expressions_blind d (4 * n + 4)).2.2 .value

theorem condition_blind (d : Dialect) : Blind ρ (condition d) :=
  .count fun n => (expressions_blind d (4 * n + 4)).2.2 .condition

end TableScaffold.Sql.Reading
