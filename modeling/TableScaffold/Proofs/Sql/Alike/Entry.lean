import TableScaffold.Proofs.Sql.Alike.Clause
import TableScaffold.Proofs.Sql.Kinds
import TableScaffold.Sql.Body

/-!
# Entries are read alike

A column keeps what follows its name. All else of an entry does not depend on what follows a token, so
the entries of two lists of tokens that are alike differ at most there (`Entry.Like`).
-/

namespace TableScaffold.Sql

/-- Whether an entry is a column. -/
def Entry.isColumn : Entry → Bool
  | .column _ => true
  | _ => false

/-- How what follows the names of two columns is related: as it is for the two names. -/
def Likeness.After (ρ : Likeness) : Option (List Char) → Option (List Char) → Prop :=
  Option.Rel fun r r' => ∃ t u, ρ.Relates t u ∧ t.rest = r ∧ u.rest = r'

/-- Two entries that differ at most in what follows the name of a column. -/
inductive Entry.Like (ρ : Likeness) : Entry → Entry → Prop
  | column (c : ColumnEntry) {after : Option (List Char)} (h : ρ.After c.after after) :
    Entry.Like ρ (.column c) (.column { c with after })
  | other {e : Entry} (h : e.isColumn = false) : Entry.Like ρ e e

namespace Reading

variable {ρ : Likeness}

/-! ## No clause is a column -/

/-- Whether a clause makes an entry that is no column. -/
def NoColumn (c : Clause) : Prop := c.entry.isColumn = false

theorem primaryKey_yields (d : Dialect) : Yields NoColumn (primaryKey d) := by
  refine .next fun _ => ?_
  extract_lets options rest
  have hoptions : ∀ u, Yields NoColumn (options u) := fun _ => .next fun _ => .next fun _ => .pure rfl
  have hrest : ∀ u, Yields NoColumn (rest u) := by
    refine fun _ => .next fun _ => .ite (.next fun _ => .next fun _ => .next fun _ => .next fun _ => ?_)
      (.next fun _ => .next fun _ => .pure rfl)
    exact .ite (.next fun _ => hoptions ()) (hoptions ())
  exact .ite (.next fun _ => hrest ()) (hrest ())

theorem unique_yields (d : Dialect) : Yields NoColumn (unique d) := by
  refine .next fun _ => .next fun _ => .next fun _ => .next fun _ => ?_
  extract_lets options rest
  have hoptions : ∀ u, Yields NoColumn (options u) := fun _ => .next fun _ => .next fun _ => .pure rfl
  have hrest : ∀ u, Yields NoColumn (rest u) := fun _ =>
    .next fun _ => .ite (.next fun _ => hoptions ()) (hoptions ())
  exact .ite (.next fun _ => hrest ()) (hrest ())

theorem index_yields (d : Dialect) (kind : String) : Yields NoColumn (index d kind) := by
  unfold index
  extract_lets rest start
  have hrest : ∀ name, Yields NoColumn (rest name) := by
    refine fun name => .next fun _ => ?_
    extract_lets columns
    have hcolumns : ∀ u, Yields NoColumn (columns u) := fun _ =>
      .next fun _ => .ite (.pure rfl) (.next fun _ => .next fun _ => .next fun _ => .pure rfl)
    exact .ite (.next fun _ => hcolumns ()) (hcolumns ())
  have hstart : ∀ u, Yields NoColumn (start u) := by
    refine fun _ => .next fun _ => .next fun _ => .ite (.next hrest) (.next fun ts => ?_)
    split
    · exact .ite (.next fun _ => .next hrest) (.next hrest)
    · exact .next hrest
  exact .ite (.next fun _ => hstart ()) (hstart ())

theorem generated_yields (d : Dialect) : Yields NoColumn (generated d) := by
  refine .next fun _ => ?_
  extract_lets rest start
  have hrest : ∀ u, Yields NoColumn (rest u) := fun _ => .next fun _ => .pure rfl
  have hstart : ∀ u, Yields NoColumn (start u) := by
    refine fun _ => .next fun _ => .next fun _ => .ite (.next fun _ => .next fun _ => .pure rfl) ?_
    refine .next fun _ => .next fun _ => .ite (.ite (.next hrest) ?_) (hrest ())
    exact .next fun _ => .next hrest
  exact .ite (.next fun _ => hstart ()) (.next fun _ => hstart ())

theorem numbering_yields (d : Dialect) : Yields NoColumn (numbering d) := by
  unfold numbering
  extract_lets rest order
  have hrest : ∀ u, Yields NoColumn (rest u) := fun _ => .pure rfl
  have horder : ∀ u, Yields NoColumn (order u) := fun _ => .next fun _ => hrest ()
  refine .next fun _ => .ite (hrest ()) (.next fun _ => .ite ?_ (hrest ()))
  exact .next fun _ => .next fun _ => .ite (.next horder) (horder ())

/-- A clause that was read and is no column. -/
theorem noColumn_some {c : Clause} (h : NoColumn c) : Yields (fun o => ∀ c ∈ o, NoColumn c)
    (pure (some c)) := .pure fun _ hc => Option.some.inj hc ▸ h

/-- No clause makes a column. -/
theorem clause_yields (d : Dialect) : Yields (fun o => ∀ c ∈ o, NoColumn c) (clause d) := by
  have hplain (label : String) : Yields (fun o => ∀ c ∈ o, NoColumn c)
      (pure (some (Clause.plain label))) := noColumn_some rfl
  refine .next fun _ => .ite (noColumn_some rfl) ?_
  refine .next fun _ => .ite (noColumn_some rfl) ?_
  refine .next fun _ => .ite (hplain _) ?_
  refine .next fun _ => .ite (.next fun _ => hplain _) ?_
  refine .next fun _ => .ite (.option .failure fun _ => hplain _) ?_
  refine .next fun _ => .ite (.bind (primaryKey_yields d) fun _ => noColumn_some) ?_
  refine .next fun _ => .ite (.next fun _ => noColumn_some rfl) ?_
  refine .next fun _ => .ite (.bind (unique_yields d) fun _ => noColumn_some) ?_
  refine .next fun _ => .ite (.next fun _ => hplain _) ?_
  refine .next fun _ => .ite (.next fun _ => .next fun _ => .next fun _ => .next fun _ => hplain _) ?_
  refine .next fun _ => .ite (.option .failure fun _ => .next fun _ => .next fun _ => hplain _) ?_
  refine .next fun _ => .ite (.option .failure fun _ => hplain _) ?_
  refine .next fun _ => .ite (.bind (numbering_yields d) fun _ => noColumn_some) ?_
  refine .next fun _ => .ite (.bind (generated_yields d) fun _ => noColumn_some) ?_
  refine .next fun _ => .ite (.next fun _ => .next fun _ => hplain _) ?_
  refine .next fun _ => .ite (.option .failure fun _ => hplain _) ?_
  refine .next fun _ => .ite (.next fun _ => hplain _) ?_
  refine .next fun _ => .ite (.next fun _ => .ite (hplain _) (.next fun _ => hplain _)) ?_
  refine .next fun _ => .ite (.next fun _ => .next fun _ => .next fun _ => hplain _) ?_
  refine .next fun _ => .ite (hplain _) ?_
  refine .next fun _ => .ite (.next fun _ => .ite (hplain _) (.next fun _ => hplain _)) ?_
  have hnone : Yields (fun o => ∀ c ∈ o, NoColumn c) (pure none) :=
    .pure fun _ hc => absurd hc (Option.not_mem_none _)
  exact .ite (.option hnone fun _ => .bind (index_yields d _) fun _ => noColumn_some) hnone

theorem namedClauses_yields (d : Dialect) (fuel : Nat) :
    Yields (fun cs => ∀ c ∈ cs, NoColumn c) (namedClauses d fuel) := by
  induction fuel with
  | zero => exact .pure fun _ hc => absurd hc List.not_mem_nil
  | succ fuel ih =>
    refine .bind (clause_yields d) fun o ho => ?_
    cases o with
    | none => exact .pure fun _ hc => absurd hc List.not_mem_nil
    | some c => exact .bind ih fun cs hcs => .pure (List.forall_mem_cons.2 ⟨ho c rfl, hcs⟩)

theorem isColumn_named (name : String) (e : Entry) : (e.named name).isColumn = e.isColumn := by
  cases e <;> rfl

theorem namedConstraint_yields (d : Dialect) :
    Yields (fun es => ∀ e ∈ es, e.isColumn = false) (namedConstraint d) := by
  refine .next fun _ => .next fun _ => ?_
  extract_lets rest
  have hrest : ∀ u, Yields (fun es => ∀ e ∈ es, e.isColumn = false) (rest u) := by
    refine fun _ => .next fun name => ?_
    extract_lets label
    refine .next fun ts => .bind (namedClauses_yields d _) fun cs hcs => ?_
    have hclauses : ∀ e ∈ cs.map fun c => c.entry.named label, e.isColumn = false := by
      intro e he
      obtain ⟨c, hc, rfl⟩ := List.mem_map.1 he
      rw [isColumn_named]
      exact hcs c hc
    exact .ite (.next fun _ => .pure hclauses) (.pure hclauses)
  exact .ite (.next hrest) (hrest ())

/-- A reading that is blind gives the same result in both lists, with what every result has. -/
theorem Blind.yields {α : Type} {P : α → Prop} {x : Reading α} (hx : Blind ρ x) (hP : Yields P x) :
    Agree ρ (fun a b => a = b ∧ P a) x x := by
  intro ts us h
  have hrun := hx h
  have hyields := @hP ts
  generalize x.run ts = a at hrun hyields ⊢
  generalize x.run us = b at hrun ⊢
  cases hrun with
  | none => exact .none
  | some hab => exact .some ⟨⟨hab.1, hyields rfl⟩, hab.2⟩

/-! ## Columns -/

theorem columnClause_blind : Blind ρ (columnClause ρ.dialect) := by
  refine (word_blind _).bind fun _ => .ite ?_ (clause_blind.bind fun _ => .pure _)
  refine .pick anyName_picks (fun _ _ _ => rfl) fun o => ?_
  cases o with
  | none => exact clause_blind.bind fun _ => .pure _
  | some name => exact clause_blind.bind fun _ => .pure _

theorem columnClauses_blind (fuel : Nat) : Blind ρ (columnClauses ρ.dialect fuel) := by
  induction fuel with
  | zero => exact .pure []
  | succ fuel ih =>
    refine columnClause_blind.bind fun o => ?_
    cases o with
    | none => exact .pure []
    | some c => exact ih.bind fun _ => .pure _

theorem computed_blind (d : Dialect) (typed : Bool) : Blind ρ (computed d typed) := by
  refine (word_blind _).bind fun _ => .ite ((condition_blind d).bind fun _ => ?_) (.pure false)
  refine .ite ((oneOf_picks _).ignore (.pure true)) ((word_blind _).bind fun _ => ?_)
  exact (dataType?_blind d).bind fun _ => (words_blind _).bind fun _ => .pure true

theorem valueRest_blind (d : Dialect) (form : ValueForm) : Blind ρ (valueRest d form) := by
  cases form with
  | constant => exact .pure true
  | call => exact skipParenthesized_blind.bind fun _ => .pure true
  | operand => exact (value_blind d).bind fun _ => .pure true
  | cases => exact .skip (fun _ _ h => afterCase_rel h) (.pure true) .failure
  | condition =>
    have hend : Blind ρ (do
        let _ ← word "END"
        return true) := (word_blind _).bind fun _ => .pure true
    refine (seesMark_blind ',').bind fun _ => (seesMark_blind ')').bind fun _ => .ite (.pure false) ?_
    refine (mark_blind '(').bind fun _ => .ite ?_ ?_
    · exact (closedList_blind ((condition_blind d).bind fun _ => .pure _)).bind fun _ =>
        .ite (.pure true) .failure
    · exact (condition_blind d).bind fun _ => (word_blind _).bind fun _ =>
        (condition_blind d).bind fun _ => (word_blind _).bind fun _ =>
          .ite ((condition_blind d).bind fun _ => hend) hend

/-- Two beginnings of columns that differ at most in what follows a name. -/
structure Head.Like (ρ : Likeness) (h h' : Head) : Prop where
  name : h.name = h'.name
  after : ρ.After h.after h'.after
  label : h.label = h'.label
  names : h.names = h'.names

theorem Head.Like.refl_none {name label : String} {names : Bool} :
    Head.Like ρ ⟨name, none, label, names⟩ ⟨name, none, label, names⟩ := ⟨rfl, .none, rfl, rfl⟩

theorem Head.like_ofToken {t u : Token} (h : t.Like u) (hrest : ρ.Relates t u) :
    Head.Like ρ (.ofToken t) (.ofToken u) := by
  unfold Head.ofToken
  rw [h.kind, h.text]
  split
  · exact .refl_none
  · exact ⟨rfl, .some ⟨t, u, hrest, rfl, rfl⟩, rfl, rfl⟩

theorem head_agree {t u : Token} (h : t.Like u) (hrest : ρ.Relates t u) :
    Agree ρ (Head.Like ρ) (head ρ.dialect t) (head ρ.dialect u) := by
  unfold head
  rw [h.kind, h.upper]
  split
  · exact .pure (Head.like_ofToken h hrest)
  · exact .next (valueRest_blind _ _) fun _ => .ite (.pure .refl_none) (.pure (Head.like_ofToken h hrest))

theorem isColumn_alone (h : Head) : h.alone.isColumn = false := by
  unfold Head.alone
  split <;> rfl

theorem column_agree {h h' : Head} (hh : Head.Like ρ h h') :
    Agree ρ (Entry.Like ρ) (column ρ.dialect h) (column ρ.dialect h') := by
  refine .next (dataType?_blind _) fun type => .next (computed_blind _ _) fun isComputed => ?_
  refine Agree.bind .get fun ts us hts => hts.length_eq ▸ .next (columnClauses_blind _) fun clauses => ?_
  split
  · have hsame : h.alone = h'.alone := by
      unfold Head.alone
      rw [hh.name, hh.label, hh.names]
    exact .pure (hsame ▸ .other (isColumn_alone h))
  · refine .pure ?_
    rw [← hh.name]
    exact .column ⟨h.name, h.after, type, _, _⟩ hh.after

/-! ## The list of entries -/

theorem namedClauses_blind (fuel : Nat) : Blind ρ (namedClauses ρ.dialect fuel) := by
  induction fuel with
  | zero => exact .pure []
  | succ fuel ih =>
    refine clause_blind.bind fun o => ?_
    cases o with
    | none => exact .pure []
    | some c => exact ih.bind fun _ => .pure _

theorem namedConstraint_blind : Blind ρ (namedConstraint ρ.dialect) := by
  refine (sees_blind _).bind fun _ => (sees_blind _).bind fun _ => ?_
  extract_lets rest
  have hrest : ∀ u, Blind ρ (rest u) := by
    refine fun _ => .pick anyName_picks (fun t u h => ?_) fun _ => ?_
    · simp only [Option.map_some, h.text]
    · exact .fuel namedClauses_blind fun _ => .ite (Blind.failure.bind fun _ => .pure _) (.pure _)
  exact .ite (Blind.failure.bind hrest) (hrest ())

theorem startsTableClause_blind (d : Dialect) : Blind ρ (startsTableClause d) := by
  refine .pick peek_agree (fun t u h => ?_) fun o => ?_
  · dsimp only
    rw [h.isOneOf, h.isOneOf, h.isOneOf]
  cases o with
  | none => exact .pure false
  | some t =>
    refine .ite (.pure true) (.ite ?_ (.pure _))
    exact (sees_blind _).bind fun _ => (sees_blind _).bind fun _ => .pure _

/-- The entries of a clause are the same. -/
theorem like_of_noColumn {es : List Entry} (h : ∀ e ∈ es, e.isColumn = false) :
    List.Forall₂ (Entry.Like ρ) es es :=
  List.forall₂_same.2 fun e he => .other (h e he)

theorem exclusion_blind (d : Dialect) : Blind ρ (exclusion d) := by
  refine (word_blind _).bind fun _ => ?_
  extract_lets rest
  have hrest : ∀ u, Blind ρ (rest u) := fun _ =>
    skipParenthesized_blind.bind fun _ => .fuel (indexTail_blind d) fun _ => .pure _
  exact .ite (take_picks.ignore (hrest ())) (hrest ())

/-- What excludes rows is no column. -/
theorem exclusion_yields (d : Dialect) : Yields (fun e => e.isColumn = false) (exclusion d) := by
  refine .next fun _ => ?_
  extract_lets rest
  have hrest : ∀ u, Yields (fun e => e.isColumn = false) (rest u) := fun _ =>
    .next fun _ => .next fun _ => .next fun _ => .pure rfl
  exact .ite (.next fun _ => hrest ()) (hrest ())

theorem entries_agree : Agree ρ (Option.Rel (List.Forall₂ (Entry.Like ρ))) (entries ρ.dialect)
    (entries ρ.dialect) := by
  refine .next (word_blind _) fun _ => .ite ?_ ?_
  · refine Agree.bind (namedConstraint_blind.yields (namedConstraint_yields _)) fun es _ hes => ?_
    exact .pure (.some (hes.1 ▸ like_of_noColumn hes.2))
  refine .next (startsTableClause_blind _) fun _ => .ite ?_ ?_
  · refine Agree.bind (clause_blind.yields (clause_yields _)) fun o _ ho => ?_
    obtain ⟨rfl, ho⟩ := ho
    cases o with
    | none => exact .pure .none
    | some c => exact .pure (.some (.cons (.other (ho c rfl)) .nil))
  refine .next (word_blind _) fun _ => .ite ?_ ?_
  · refine Agree.bind ((exclusion_blind _).yields (exclusion_yields _)) fun e _ he => ?_
    obtain ⟨rfl, he⟩ := he
    exact .pure (.some (.cons (.other he) .nil))
  extract_lets rest
  have hrest : ∀ b, Agree ρ (Option.Rel (List.Forall₂ (Entry.Like ρ))) (rest b) (rest b) := by
    refine fun _ => Agree.bind (takeIf_agree fun _ _ h => isAnyName_eq h) fun o o' ho => ?_
    cases ho with
    | none => exact .pure .none
    | some h =>
      exact Agree.bind (head_agree h.1 h.2) fun _ _ hh =>
        Agree.bind (column_agree hh) fun _ _ he => .pure (.some (.cons he .nil))
  exact .ite (.next (mark_blind '#') hrest) (hrest false)

theorem body_agree : Agree ρ (List.Forall₂ (Entry.Like ρ)) (body ρ.dialect) (body ρ.dialect) := by
  refine Agree.bind .get fun ts us h => ?_
  cases h with
  | nil => exact .pure .nil
  | cons head _ _ tail =>
    cases tail with
    | nil => exact .pure .nil
    | cons next related touching tail =>
      dsimp only
      rw [head.isMark, next.isMark, next.isOneOf]
      split
      · refine Agree.bind (.set (.cons next related touching tail)) fun _ _ _ => ?_
        exact Agree.bind (closedList_agree entries_agree) fun _ _ h => .pure (List.rel_flatten h)
      · exact .pure .nil

end Reading

end TableScaffold.Sql
