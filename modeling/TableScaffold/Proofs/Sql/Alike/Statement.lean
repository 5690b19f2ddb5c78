import Mathlib.Data.List.Induction
import TableScaffold.Proofs.Attempt
import TableScaffold.Proofs.Sql.Alike.Entry

/-!
# Statements are read alike

Two lists of tokens that are alike are read as statements of one kind, and what is known of the entries
of a table is known of those of a CREATE statement (`readStatement_agree`). So the two statements
differ at most in what follows the names of columns (`readStatement_like`).
-/

namespace TableScaffold.Sql

/-- Two statements of one kind, the entries of the one related to those of the other. -/
inductive Statement.Like (R : Entry → Entry → Prop) : Statement → Statement → Prop
  | create (keyword : String) (table : Option TableName) {es es' : List Entry}
      (h : List.Forall₂ R es es') :
    Statement.Like R (.create keyword table es) (.create keyword table es')
  | other (kind : String) : Statement.Like R (.other kind) (.other kind)

namespace Reading

variable {ρ : Likeness} {R : Entry → Entry → Prop}

/-! ## The options of a table -/

theorem optionValue_blind : Blind ρ optionValue :=
  (mark_blind '=').bind fun _ => (takeKind_picks (· != .mark)).require (.pure ())

theorem grouping_blind (d : Dialect) : Blind ρ (grouping d) := by
  refine (mark_blind '=').bind fun _ => skipParenthesized_blind.bind fun _ => .ite (.pure ()) ?_
  refine .look fun ts us h => h.length_eq ▸ (commaList_blind ?_ _).bind fun _ => .pure ()
  exact (value_blind d).bind fun _ => .pure _

theorem namedOption_blind (d : Dialect) : Blind ρ (namedOption d) := by
  refine .look fun before before' h => ?_
  cases h with
  | nil => exact Blind.pure false
  | cons head related touching tail =>
    dsimp only
    simp only [head.kind, head.upper, head.isWord, List.length_cons, tail.length_eq]
    refine .ite (.pure rfl) (.next (operand_blind d _) fun _ => .next (mark_blind '=') fun _ => ?_)
    refine .ite ((value_blind d).bind fun _ => .pure true) ?_
    exact .bind (.set (.cons head related touching tail)) fun _ _ _ => .pure rfl

/-- A parenthesized part behind the word `WITH`, which `before` starts with. -/
theorem storage_agree {before before' : List Token} (h : Alike ρ false before before') :
    Agree ρ Eq
      (match before.drop 1 with
        | t :: _ => if t.isMark '(' then (do let _ ← take; skipParenthesized) else return false
        | [] => return false)
      (match before'.drop 1 with
        | t :: _ => if t.isMark '(' then (do let _ ← take; skipParenthesized) else return false
        | [] => return false) := by
  have hrest := h.drop 1
  generalize before.drop 1 = ts at hrest ⊢
  generalize before'.drop 1 = us at hrest ⊢
  cases hrest with
  | nil => exact .pure rfl
  | cons head _ _ _ =>
    dsimp only
    rw [head.isMark]
    exact .ite (take_picks.ignore skipParenthesized_blind) (.pure rfl)

theorem tableOption_blind : Blind ρ (tableOption ρ.dialect) := by
  have htrue : Agree ρ Eq (pure true : Reading Bool) (pure true) := .pure rfl
  refine .look fun before before' h => .next (word_blind _) fun defaulted => ?_
  refine .ifSome (oneOf_picks _) htrue ?_
  refine .ifSome (oneOf_picks _) (.next optionValue_blind fun _ => htrue) ?_
  refine .next (words_blind _) fun _ => .ite (.next optionValue_blind fun _ => htrue) ?_
  refine .ite (.bind (.set h) fun _ _ _ => namedOption_blind _) ?_
  refine .next (word_blind _) fun _ => .ite ?like ?_
  case like => exact tableName_blind.bind fun _ => .fuel likeOptions_blind fun _ => .pure true
  refine .next (words_blind _) fun _ => .next (words_blind _) fun _ => .next (words_blind _) fun _ => ?_
  refine .ite (.next (grouping_blind _) fun _ => htrue) ?_
  refine .next (words_blind _) fun _ => .ite (.next (firstOf_blind _) fun _ => htrue) ?_
  refine .next (word_blind _) fun _ => .ite ?target ?_
  case target => exact anyName_picks.require (skipParenthesized_blind.bind fun _ => .pure true)
  refine .ifSome (oneOf_picks _) (.next skipParenthesized_blind fun _ => ?_) ?_
  · exact .ite htrue (.bind .failure fun _ _ (_ : True) => htrue)
  · exact .next (sees_blind _) fun _ => .ite (storage_agree h) (namedOption_blind _)

theorem tableOptions_blind (fuel : Nat) : Blind ρ (tableOptions ρ.dialect fuel) := by
  induction fuel with
  | zero => exact .pure false
  | succ fuel ih => exact tableOption_blind.bind fun _ => .ite (ih.bind fun _ => .pure _) (.pure _)

/-! ## CREATE statements -/

theorem startsQuery_eq {dashes : Bool} {ts us : List Token} (h : Alike ρ dashes ts us) :
    startsQuery ts = startsQuery us := by
  induction h with
  | nil => rfl
  | @cons _ t u _ _ head _ _ _ ih =>
    unfold startsQuery at ih ⊢
    rw [List.dropWhile_cons, List.dropWhile_cons, head.isMark]
    cases u.isMark '(' with
    | true => exact ih
    | false => exact head.isOneOf _

theorem query_blind : Blind ρ query := by
  refine .look fun ts us h => startsQuery_eq h ▸ .ite skipRest_blind ?_
  exact (seesMark_blind '(').bind fun _ => .ite .failure (.pure ())

/-- The entries of a table that is copied are not kept. -/
theorem bodyPassed_blind : Blind ρ (do
    let _ ← body ρ.dialect
    pure ()) := Agree.bind body_agree fun _ _ _ => .pure rfl

theorem tableEnd_blind : Blind ρ (tableEnd ρ.dialect) := by
  refine .fuel tableOptions_blind fun _ => (word_blind _).bind fun hasAlias => (sees_blind _).bind fun _ =>
    (sees_blind _).bind fun _ => (seesMark_blind _).bind fun _ => ?_
  extract_lets copied rest
  have hcopied : ∀ u, Blind ρ (copied u) := fun _ =>
    .fuel tableOptions_blind fun _ => (word_blind _).bind fun _ =>
      (oneOf_picks _).ifSome (tableName_blind.bind fun _ => bodyPassed_blind) (.pure ())
  have hrest : ∀ u, Blind ρ (rest u) := fun _ =>
    query_blind.bind fun _ =>
      .ite ((attempt_blind tableName_blind).bind fun _ => hcopied ()) (hcopied ())
  exact .ite (hrest ()) (.fuel tableOptions_blind fun _ => hrest ())

theorem indexTarget_blind : Blind ρ (indexTarget ρ.dialect) := by
  refine (sees_blind _).bind fun _ => ?_
  extract_lets columns rest
  have hcolumns : ∀ u, Blind ρ (columns u) := fun _ =>
    skipParenthesized_blind.bind fun _ => .count (indexTail_blind _)
  have hrest : ∀ u, Blind ρ (rest u) := fun _ =>
    (word_blind _).bind fun _ => (word_blind _).bind fun _ => tableName_blind.bind fun _ =>
      (word_blind _).bind fun _ => .ite (take_picks.ignore (hcolumns ())) (hcolumns ())
  exact .ite (hrest ()) (anyName_picks.ignore (hrest ()))

theorem giveUp_agree : Agree ρ (Statement.Like R) giveUp giveUp :=
  .bind (.set (.nil : Alike ρ false [] [])) fun _ _ _ => .pure (.other _)

theorem finish_agree {s s' : Statement} (h : s.Like R s') :
    Agree ρ (Statement.Like R) (finish s) (finish s') := by
  refine .bind peek_agree fun o o' ho => ?_
  cases ho with
  | none => exact .pure h
  | some ht =>
    dsimp only
    rw [ht.isMark, ht.isMark]
    exact .ite .failure giveUp_agree

section

variable (hbody : Agree ρ (List.Forall₂ R) (body ρ.dialect) (body ρ.dialect))

include hbody

theorem creation_agree (kind : String) :
    Agree ρ (Statement.Like R) (creation ρ.dialect kind) (creation ρ.dialect kind) := by
  refine .next (said_blind _) fun _ => .next (said_blind _) fun _ => ?_
  extract_lets keyword table rest
  have htable : ∀ name, Agree ρ (Statement.Like R) (table name) (table name) := fun _ =>
    .next (mark_blind ',') fun _ => .bind hbody fun _ _ hes =>
      .next tableEnd_blind fun _ => finish_agree (.create _ _ hes)
  have hrest : ∀ u, Agree ρ (Statement.Like R) (rest u) (rest u) := by
    refine fun _ => .ite (.next indexTarget_blind fun _ => finish_agree (.create _ _ .nil)) ?_
    exact .ite (.next schemaName_blind htable) (.next tableName_blind htable)
  refine .ite (.next (word_blind _) fun _ => ?_) (hrest ())
  exact .ite (.next (word_blind _) fun _ => hrest ()) (hrest ())

theorem create_agree : Agree ρ (Statement.Like R) (create ρ.dialect) (create ρ.dialect) := by
  have hcreatable {f g : Option Token → Reading Statement}
      (hnone : Agree ρ (Statement.Like R) (f none) (g none))
      (hf : ∀ t, f (some t) = creation ρ.dialect t.upper)
      (hg : ∀ t, g (some t) = creation ρ.dialect t.upper) :
      Agree ρ (Statement.Like R) (oneOf creatables >>= f) (oneOf creatables >>= g) := by
    refine .bind (oneOf_picks _) fun o o' ho => ?_
    cases ho with
    | none => exact hnone
    | some ht =>
      rw [hf, hg, ht.upper]
      exact creation_agree hbody _
  have hsome (t : Token) : creation ρ.dialect t.upper = creation ρ.dialect t.upper := rfl
  refine .next (firstOf_blind _) fun _ => .next (word_blind _) fun _ => hcreatable ?_ hsome hsome
  refine .bind .get fun ts us h => h.length_eq ▸ .next (tableOptions_blind _) fun _ => ?_
  exact .ite (hcreatable giveUp_agree hsome hsome) giveUp_agree

end

/-! ## Other statements -/

theorem any_eq {p : Token → Bool} (hp : ∀ t u, Token.Like t u → p t = p u) {ts us : List Token}
    (h : List.Forall₂ Token.Like ts us) : ts.any p = us.any p := by
  induction h with
  | nil => rfl
  | cons head _ ih => rw [List.any_cons, List.any_cons, hp _ _ head, ih]

theorem operandKind_eq {ts us : List Token} (h : List.Forall₂ Token.Like ts us) :
    operandKind ts = operandKind us := by
  induction ts using List.twoStepInduction generalizing us with
  | nil =>
    cases h
    rfl
  | singleton t =>
    obtain ⟨u, _, ht, hrest, rfl⟩ := List.forall₂_cons_left_iff.1 h
    cases hrest
    simp only [operandKind, ht.kind, ht.isWord, ht.isOneOf, ht.upper]
  | cons_cons t p ts ih _ =>
    obtain ⟨u, _, ht, htail, rfl⟩ := List.forall₂_cons_left_iff.1 h
    obtain ⟨q, us, hp, hrest, rfl⟩ := List.forall₂_cons_left_iff.1 htail
    simp only [operandKind, ht.kind, hp.isMark, ih hrest]

/-- The kind of an operand with another name behind it; `last` is that name, `before` all tokens in
front of it, the last one first. -/
theorem alias_agree {last last' : Token} {before before' : List Token} (hlast : last.Like last')
    (h : List.Forall₂ Token.Like before before') :
    Agree ρ (Statement.Like R)
      (let named := match before with
        | w :: rest => if w.isWord "AS" then rest else before
        | [] => []
      if isPlainName last && (operandKind named.reverse).isSome then pure (.other "Alias") else failure)
      (let named := match before' with
        | w :: rest => if w.isWord "AS" then rest else before'
        | [] => []
      if isPlainName last' && (operandKind named.reverse).isSome then pure (.other "Alias")
      else failure) := by
  extract_lets named named'
  have hnamed : List.Forall₂ Token.Like named named' := by
    cases h with
    | nil => exact .nil
    | cons hw hrest =>
      show List.Forall₂ _ (if _ then _ else _) (if _ then _ else _)
      rw [hw.isWord]
      split
      · exact hrest
      · exact .cons hw hrest
  rw [isPlainName_eq hlast, operandKind_eq (List.rel_reverse hnamed)]
  exact .ite (.pure (.other _)) .failure

theorem bare_agree : Agree ρ (Statement.Like R) bare bare := by
  refine .bind .get fun ts us h => .bind (.set (.nil : Alike ρ false [] [])) fun _ _ _ => ?_
  rw [operandKind_eq h.forall₂]
  cases operandKind us with
  | some kind => exact .pure (.other kind)
  | none =>
    have hreverse := List.rel_reverse h.forall₂
    generalize ts.reverse = ts at hreverse ⊢
    generalize us.reverse = us at hreverse ⊢
    cases hreverse with
    | nil => exact .failure
    | cons hlast hrest => exact alias_agree hlast hrest

theorem alter_agree : Agree ρ (Statement.Like R) alter alter := by
  refine .bind .get fun ts us h => .next skipRest_blind fun _ => ?_
  have htable : (ts.head?.map (·.isWord "TABLE")).getD false =
      (us.head?.map (·.isWord "TABLE")).getD false := by
    cases h with
    | nil => rfl
    | cons head _ _ _ => exact head.isWord _
  extract_lets actions
  rw [htable, any_eq (fun _ _ h => h.isOneOf actions) h.forall₂]
  exact .ite (.pure (.other _)) (.pure (.other _))

theorem drop_agree : Agree ρ (Statement.Like R) drop drop := by
  refine .bind peek_agree fun o o' ho => .next skipRest_blind fun _ => .pure ?_
  have hlike (b : Bool) : Statement.Like R (if b then .other "Drop" else command)
      (if b then .other "Drop" else command) := by
    cases b <;> exact .other _
  cases ho with
  | none => exact hlike _
  | some ht =>
    rw [Option.map_some, Option.map_some, ht.isOneOf]
    exact hlike _

theorem topLevel_like {ts us : List Token} (h : List.Forall₂ Token.Like ts us) (depth : Nat) :
    List.Forall₂ Token.Like (topLevel depth ts) (topLevel depth us) := by
  induction h generalizing depth with
  | nil => exact .nil
  | cons head _ ih =>
    rw [topLevel, topLevel, head.isMark, head.isMark]
    split
    · exact ih _
    split
    · exact ih _
    split
    · exact .cons head (ih _)
    · exact ih _

theorem firstKind_eq (kinds : List (String × String)) {ts us : List Token}
    (h : List.Forall₂ Token.Like ts us) : firstKind kinds ts = firstKind kinds us := by
  unfold firstKind
  induction h with
  | nil => rfl
  | cons head _ ih => simp only [List.findSome?_cons, head.kind, head.upper, ih]

theorem queryKind_eq {ts us : List Token} (h : List.Forall₂ Token.Like ts us) :
    queryKind ts = queryKind us := by
  have htop := topLevel_like h 0
  simp only [queryKind, firstKind_eq _ htop, firstKind_eq _ (List.rel_reverse htop)]

theorem statement_agree (hbody : Agree ρ (List.Forall₂ R) (body ρ.dialect) (body ρ.dialect)) :
    Agree ρ (Statement.Like R) (statement ρ.dialect) (statement ρ.dialect) := by
  refine .bind .get fun ts us h => ?_
  cases h with
  | nil => exact .failure
  | cons head related touching tail =>
    dsimp only
    simp only [head.isWord, head.isOneOf, head.isMark, head.kind, head.upper,
      any_eq (fun _ _ h => Token.Like.isWord h "SELECT") tail.forall₂,
      queryKind_eq (.cons head tail.forall₂)]
    refine .ite (.bind (.set tail) fun _ _ _ => create_agree hbody) ?_
    refine .ite (.bind (.set tail) fun _ _ _ => drop_agree) ?_
    refine .ite (.bind (.set tail) fun _ _ _ => alter_agree) ?_
    refine .ite (.next skipRest_blind fun _ => .pure (.other _)) ?_
    split
    · exact .next skipRest_blind fun _ => .pure (.other _)
    · exact bare_agree

end Reading

open Reading in
/-- What is known of the entries of a table is known of those of a statement. -/
theorem readStatement_agree {ρ : Likeness} {R : Entry → Entry → Prop}
    (hbody : Agree ρ (List.Forall₂ R) (body ρ.dialect) (body ρ.dialect)) {ts us : List Token}
    (h : Alike ρ false ts us) :
    Option.Rel (Statement.Like R) (readStatement ρ.dialect ts) (readStatement ρ.dialect us) := by
  have hrun : Option.Rel _ (statement ρ.dialect ts) (statement ρ.dialect us) :=
    statement_agree hbody h
  unfold readStatement
  generalize statement ρ.dialect ts = a at hrun ⊢
  generalize statement ρ.dialect us = b at hrun ⊢
  cases hrun with
  | none => exact .none
  | @some a b hab =>
    obtain ⟨s, rest⟩ := a
    obtain ⟨s', rest'⟩ := b
    cases hab.2 with
    | nil => exact .some hab.1
    | cons => exact .none

/-- Tokens that are alike are read as one statement, but for what follows the names of columns. -/
theorem readStatement_like {ρ : Likeness} {ts us : List Token} (h : Alike ρ false ts us) :
    Option.Rel (Statement.Like (Entry.Like ρ)) (readStatement ρ.dialect ts)
      (readStatement ρ.dialect us) :=
  readStatement_agree Reading.body_agree h

/-! ## Trees -/

/-- What follows the name of a column matters as far as its first word. -/
theorem ColumnEntry.tree_after {c : ColumnEntry} {after : Option (List Char)}
    (h : c.after.bind typeWord? = after.bind typeWord?) : c.tree = { c with after }.tree := by
  have hdeclared (t : DataType) : c.declaredType t = { c with after }.declaredType t := by
    unfold ColumnEntry.declaredType
    rw [h]
  have htypeAndLength : c.typeAndLength = { c with after }.typeAndLength := by
    unfold ColumnEntry.typeAndLength
    rw [funext hdeclared]
  unfold ColumnEntry.tree
  rw [htypeAndLength]

/-- Two entries have one tree if the word behind the name of a column stays the same. -/
theorem Entry.Like.tree_eq {ρ : Likeness} {e e' : Entry} (h : e.Like ρ e')
    (hword : ∀ t u, ρ.Relates t u → typeWord? t.rest = typeWord? u.rest) : e.tree = e'.tree := by
  cases h with
  | other => rfl
  | @column c after hafter =>
    refine ColumnEntry.tree_after ?_
    generalize c.after = before at hafter
    cases hafter with
    | none => rfl
    | some h =>
      obtain ⟨t, u, htu, rfl, rfl⟩ := h
      exact hword t u htu

/-- Two statements have one tree if their entries have. -/
theorem Statement.Like.tree_eq {R : Entry → Entry → Prop} {s s' : Statement} (h : s.Like R s')
    (hR : ∀ e e', R e e' → e.tree = e'.tree) : s.tree = s'.tree := by
  cases h with
  | other => rfl
  | create keyword table hes => simp only [Statement.tree, mapM_congr (hes.imp hR)]

end TableScaffold.Sql
