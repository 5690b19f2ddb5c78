import TableScaffold.Proofs.Sql.Alike.Name
import TableScaffold.Sql.Clause

/-!
# Clauses are read blindly

A clause keeps names, labels and actions; none of them depends on what follows a token.
-/

namespace TableScaffold.Sql.Reading

variable {ρ : Likeness}

/-! ## Keys -/

theorem firstOf_blind (wss : List (List String)) : Blind ρ (firstOf wss) := by
  induction wss with
  | nil => exact .pure none
  | cons ws wss ih => exact (words_blind ws).bind fun _ => .ite (.pure _) ih

theorem keyOption_blind : Blind ρ keyOption := (firstOf_blind _).bind fun _ => .pure _

theorem keyOptions_blind (fuel : Nat) : Blind ρ (keyOptions fuel) := by
  induction fuel with
  | zero => exact .pure []
  | succ fuel ih =>
    refine (word_blind "ON").bind fun _ => .ite ?_ (keyOption_blind.bind fun _ => .ite ih (.pure []))
    refine .pick (takeKind_picks (· != .mark)) (fun t u h => ?_) fun o => ?_
    · dsimp only
      rw [h.upper]
    · cases o with
      | none => exact .failure
      | some event =>
        refine (firstOf_blind actions).bind fun action => ?_
        cases action with
        | none => exact .failure
        | some action => exact ih.bind fun _ => .pure _

theorem looseActions_blind (fuel : Nat) : Blind ρ (looseActions fuel) := by
  induction fuel with
  | zero => exact .pure []
  | succ fuel ih =>
    refine (word_blind "ON").bind fun _ => .ite ?_ (.pure [])
    refine .pick (oneOf_picks _) (fun t u h => ?_) fun o => ?_
    · dsimp only
      rw [h.upper]
    · cases o with
      | none => exact .failure
      | some event =>
        refine (firstOf_blind actions).bind fun action => ?_
        cases action with
        | none =>
          refine .pick take_picks (fun t u h => ?_) fun _ => ih.bind fun _ => .pure _
          simp only [Option.map_some, h.upper]
        | some action => exact ih.bind fun _ => .pure _

theorem indexTail_blind (d : Dialect) (fuel : Nat) : Blind ρ (indexTail d fuel) := by
  induction fuel with
  | zero => exact .pure ()
  | succ fuel ih =>
    refine (word_blind "USING").bind fun _ => .ite (take_picks.ignore ih) ?_
    refine (word_blind "INCLUDE").bind fun _ => .ite (skipParenthesized_blind.bind fun _ => ih) ?_
    refine (sees_blind ["WITH"]).bind fun _ => .ite ?_ ?_
    · refine .look fun ts us h => ?_
      have hrest := h.drop 1
      generalize ts.drop 1 = ts at hrest ⊢
      generalize us.drop 1 = us at hrest ⊢
      cases hrest with
      | nil => exact Blind.pure ()
      | cons head _ _ tail =>
        dsimp only
        rw [head.isMark]
        split
        · exact Agree.bind (.set tail) fun _ _ _ => skipToClosing_blind.bind fun _ => ih
        · exact Blind.pure ()
    · exact (word_blind "WHERE").bind fun _ => .ite (condition_blind d) (.pure ())

theorem nameOfList_blind : Blind ρ nameOfList := by
  refine .look fun ts us h => ?_
  cases h with
  | nil => exact Blind.pure none
  | cons head _ _ tail =>
    cases tail with
    | nil => exact Blind.pure none
    | cons next related touching tail =>
      dsimp only
      rw [isPlainName_eq head, next.isMark, head.isOneOf, head.text]
      split
      · exact Agree.bind (.set (.cons next related touching tail)) fun _ _ _ => Blind.pure _
      · exact Blind.pure none

theorem nameItem_blind : Blind ρ nameItem :=
  .pick anyName_picks (fun t u h => by simp [h.text]) fun _ => .pure _

theorem listedColumn_blind (d : Dialect) : Blind ρ (listedColumn d) := by
  refine .pick (takeIf_picks fun _ _ h => isAnyName_eq h) (fun t u h => ?_) fun o => ?_
  · dsimp only
    rw [h.text]
  · cases o with
    | none => exact .pure none
    | some t =>
      exact skipParenthesized_blind.bind fun _ => (dataType?_blind d).bind fun _ =>
        (oneOf_picks _).ignore (.pure _)

theorem changeStream_blind : Blind ρ (changeStream ρ.dialect) := by
  have hstream : Blind ρ (do
      if ← mark '(' then
        let _ ← tableName ρ.dialect
        expect ')'
      else
        let _ ← tableName ρ.dialect
        let _ ← skipParenthesized) :=
    (mark_blind '(').bind fun _ => .ite (tableName_blind.bind fun _ => expect_blind ')')
      (tableName_blind.bind fun _ => skipParenthesized_blind.bind fun _ => .pure ())
  exact (said_blind _).bind fun _ => .ite hstream (Blind.failure.bind fun _ => hstream)

theorem valueRow_blind (d : Dialect) : Blind ρ (valueRow d) := by
  refine (mark_blind '(').bind fun _ => .ite ?_ (attempt_blind (condition_blind d))
  exact (closedList_blind ((condition_blind d).bind fun _ => .pure _)).bind fun _ => .pure _

theorem target_blind : Blind ρ (target ρ.dialect) := by
  refine (attempt_blind changeStream_blind).bind fun _ => .ite (.pure _) ?_
  refine (said_blind _).bind fun _ => .ite ?_ (tableName_blind.bind fun table => ?_)
  · exact .look fun ts us h => h.length_eq ▸
      (commaList_blind (valueRow_blind _) _).bind fun _ => .pure _
  · exact (mark_blind '(').bind fun _ =>
      .ite ((closedList_blind (listedColumn_blind _)).bind fun _ => .pure _)
        ((Blind.pure []).bind fun _ => .pure _)

theorem reference_blind : Blind ρ (reference ρ.dialect) :=
  target_blind.bind fun _ => .fuel keyOptions_blind fun _ => .pure _

theorem foreignKey_blind : Blind ρ (foreignKey ρ.dialect) := by
  refine nameOfList_blind.bind fun _ => (sees_blind _).bind fun _ => ?_
  extract_lets rest
  have hrest : ∀ columns, Blind ρ (rest columns) := by
    refine fun columns => (word_blind "REFERENCES").bind fun _ => ?_
    extract_lets options
    have hoptions : ∀ t, Blind ρ (options t) := fun _ =>
      .fuel looseActions_blind fun _ => .fuel keyOptions_blind fun _ => .pure _
    exact .ite (reference_blind.bind hoptions) ((Blind.pure _).bind hoptions)
  exact .ite ((Blind.pure []).bind hrest) ((parenthesized_blind nameItem_blind).bind hrest)

theorem primaryKey_blind (d : Dialect) : Blind ρ (primaryKey d) := by
  refine (oneOf_picks _).ignore ?_
  extract_lets options rest
  have hoptions : ∀ u, Blind ρ (options u) := fun _ => .fuel keyOptions_blind fun _ => .pure _
  have hrest : ∀ u, Blind ρ (rest u) := by
    refine fun _ => (mark_blind '(').bind fun _ => .ite ?_ (.fuel keyOptions_blind fun _ => .pure _)
    exact (closedList_blind (listedColumn_blind d)).bind fun _ =>
      .fuel (indexTail_blind d) fun _ => (word_blind "ON").bind fun _ =>
        .ite (take_picks.ignore (hoptions ())) (hoptions ())
  exact .ite (nameOfList_blind.bind fun _ => hrest ()) (hrest ())

theorem unique_blind (d : Dialect) : Blind ρ (unique d) := by
  refine (oneOf_picks _).ignore ((words_blind _).bind fun _ => nameOfList_blind.bind fun _ =>
    (mark_blind '(').bind fun _ => ?_)
  extract_lets options rest
  have hoptions : ∀ u, Blind ρ (options u) := fun _ => .fuel keyOptions_blind fun _ => .pure _
  have hrest : ∀ u, Blind ρ (rest u) := fun _ =>
    (word_blind "USING").bind fun _ => .ite (take_picks.ignore (hoptions ())) (hoptions ())
  exact .ite ((closedList_blind (listedColumn_blind d)).bind fun _ => hrest ()) (hrest ())

/-! ## Indexes and numbers -/

theorem indexOptions_blind (fuel : Nat) : Blind ρ (indexOptions fuel) := by
  induction fuel with
  | zero => exact .pure ()
  | succ fuel ih =>
    refine (oneOf_picks _).ifSome ((mark_blind '=').bind fun _ => take_picks.ignore ih) ?_
    refine (oneOf_picks _).ifSome (take_picks.ignore ih) ?_
    refine (words_blind _).bind fun _ => .ite (take_picks.ignore ih) ?_
    exact (oneOf_picks _).ifSome ih (.pure ())

theorem index_blind (d : Dialect) (kind : String) : Blind ρ (index d kind) := by
  unfold index
  extract_lets rest start
  have hrest : ∀ name, Blind ρ (rest name) := by
    refine fun name => (word_blind "USING").bind fun _ => ?_
    extract_lets columns
    have hcolumns : ∀ u, Blind ρ (columns u) := fun _ =>
      (seesMark_blind '(').bind fun _ => .ite (.pure _) <|
        (parenthesized_blind (orderedColumn_blind d)).bind fun _ =>
          .fuel indexOptions_blind fun _ => .pure _
    exact .ite (take_picks.ignore (hcolumns ())) (hcolumns ())
  have hstart : ∀ u, Blind ρ (start u) := by
    refine fun _ => (seesMark_blind '(').bind fun _ => (sees_blind _).bind fun _ => ?_
    have hnone : Blind ρ (pure none >>= rest) := (Blind.pure none).bind hrest
    refine .ite hnone (.look fun ts us h => ?_)
    cases h with
    | nil => exact hnone
    | cons head _ _ tail =>
      cases tail with
      | nil => exact hnone
      | cons next related touching tail =>
        dsimp only
        rw [isPlainName_eq head, next.isMark, next.isWord, head.text]
        split
        · exact Agree.bind (.set (.cons next related touching tail)) fun _ _ _ =>
            (Blind.pure _).bind hrest
        · exact hnone
  exact .ite ((oneOf_picks _).ignore (hstart ())) (hstart ())

theorem generated_blind (d : Dialect) : Blind ρ (generated d) := by
  refine (words_blind _).bind fun _ => ?_
  extract_lets rest start
  have hrest : ∀ u, Blind ρ (rest u) := fun _ => (oneOf_picks _).ignore (.pure _)
  have hstart : ∀ u, Blind ρ (start u) := by
    refine fun _ => (word_blind "AS").bind fun _ => (word_blind "ROW").bind fun _ => .ite ?_ ?_
    · exact (oneOf_picks _).ignore ((word_blind "HIDDEN").bind fun _ => .pure _)
    refine (word_blind "IDENTITY").bind fun _ => (mark_blind '(').bind fun _ => ?_
    refine .ite (.ite (skipToClosing_blind.bind hrest) ?_) (hrest ())
    exact (condition_blind d).bind fun _ => (expect_blind ')').bind hrest
  exact .ite ((words_blind _).bind fun _ => hstart ()) ((word_blind _).bind fun _ => hstart ())

theorem numbering_blind (d : Dialect) : Blind ρ (numbering d) := by
  unfold numbering
  extract_lets rest order
  have hrest : ∀ u, Blind ρ (rest u) := fun _ => .pure _
  have horder : ∀ u, Blind ρ (order u) := fun _ => (oneOf_picks _).ignore (hrest ())
  refine skipParenthesized_blind.bind fun _ => .ite (hrest ()) ((word_blind _).bind fun _ => ?_)
  refine .ite ((value_blind d).bind fun _ => (word_blind _).bind fun _ => ?_) (hrest ())
  exact .ite ((value_blind d).bind horder) (horder ())

theorem likeOptions_blind (fuel : Nat) : Blind ρ (likeOptions fuel) := by
  induction fuel with
  | zero => exact .pure ()
  | succ fuel ih => exact (oneOf_picks _).ifSome (anyName_picks.require ih) (.pure ())

/-! ## The clauses -/

/-- A parenthesized part that must follow. -/
theorem parenthesizedPart_blind (c : Clause) : Blind ρ (do
    unless ← skipParenthesized do failure
    return some c) :=
  skipParenthesized_blind.bind fun _ => .ite (.pure _) (Blind.failure.bind fun _ => .pure _)

theorem clause_blind : Blind ρ (clause ρ.dialect) := by
  refine (words_blind _).bind fun _ => .ite (.pure _) ?_
  refine (word_blind _).bind fun _ => .ite (.pure _) ?_
  refine (words_blind _).bind fun _ => .ite (.pure _) ?_
  refine (word_blind _).bind fun _ => .ite ((value_blind _).bind fun _ => .pure _) ?_
  refine (word_blind _).bind fun _ => .ite ((takeKind_picks (· == .text)).require (.pure _)) ?_
  refine (words_blind _).bind fun _ => .ite ((primaryKey_blind _).bind fun _ => .pure _) ?_
  refine (words_blind _).bind fun _ => .ite (foreignKey_blind.bind fun _ => .pure _) ?_
  refine (word_blind _).bind fun _ => .ite ((unique_blind _).bind fun _ => .pure _) ?_
  refine (word_blind _).bind fun _ => .ite (reference_blind.bind fun _ => .pure _) ?_
  refine (word_blind _).bind fun _ => .ite ?check ?_
  case check =>
    exact (expect_blind '(').bind fun _ => (condition_blind _).bind fun _ =>
      (expect_blind ')').bind fun _ => (firstOf_blind _).bind fun _ => .pure _
  refine (word_blind _).bind fun _ => .ite ?collation ?_
  case collation =>
    exact (takeKind_picks (· != .mark)).require (.fuel (attached_blind _) fun _ => .pure _)
  refine (words_blind _).bind fun _ => .ite ?characters ?_
  case characters => exact (takeKind_picks fun k => k == .word || k == .text).require (.pure _)
  refine (oneOf_picks _).ifSome ((numbering_blind _).bind fun _ => .pure _) ?_
  refine (word_blind _).bind fun _ => .ite ((generated_blind _).bind fun _ => .pure _) ?_
  refine (words_blind _).bind fun _ => .ite ?update ?_
  case update => exact .look fun ts us h => h.length_eq ▸ (operand_blind _ _).bind fun _ => .pure _
  refine (word_blind _).bind fun _ => .ite (anyName_picks.require (.pure _)) ?_
  refine (oneOf_picks _).ifSome ?clustered ?_
  case clustered => exact (parenthesized_blind (orderedColumn_blind _)).bind fun _ => .pure _
  refine (word_blind _).bind fun _ => .ite (parenthesizedPart_blind _) ?_
  refine (word_blind _).bind fun _ => .ite ?like ?_
  case like => exact tableName_blind.bind fun _ => .fuel likeOptions_blind fun _ => .pure _
  refine (wordWhere_blind _ _).bind fun _ => .ite (.pure _) ?_
  refine (wordWhere_blind _ _).bind fun _ => .ite (parenthesizedPart_blind _) (.ite ?index (.pure none))
  refine .pick (oneOf_picks _) (fun t u h => ?_) fun o => ?_
  · dsimp only
    rw [h.upper]
  · cases o with
    | none => exact .pure none
    | some t => exact (index_blind _ _).bind fun _ => .pure _

end TableScaffold.Sql.Reading
