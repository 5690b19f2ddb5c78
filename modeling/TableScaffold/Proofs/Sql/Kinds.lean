import TableScaffold.Proofs.Attempt
import TableScaffold.Proofs.Sql.Reading
import TableScaffold.Sql.Script

/-!
# The kinds of statements

What a script is read as is of a known kind: a CREATE statement has one of five keywords, and every
other statement one of the names of `otherKinds` (`known_of_parse`). No such name is mistaken for a
CREATE statement when the trees of a script are read.
-/

namespace TableScaffold.Sql

/-- The keywords of CREATE statements. -/
def createKeywords : List String := creatables.map Text.lower

/-- The kinds of the statements that are no CREATE statements. -/
def otherKinds : List String :=
  ["Command", "Drop", "Alter", "Show", "Transaction", "Describe", "Alias", "Subquery", "Semicolon",
   "Select", "Insert", "Update", "Delete", "Merge", "Union", "Except", "Intersect", "Literal", "Column",
   "Null", "Boolean"] ++ statementKinds.map (·.2)

/-- A statement is of a known kind. -/
def Statement.Known : Statement → Prop
  | .create keyword _ _ => keyword ∈ createKeywords
  | .other kind => kind ∈ otherKinds

theorem known_command : command.Known := by
  show "Command" ∈ otherKinds
  decide

/-! ## Words -/

theorem mem_of_lookup {kinds : List (String × String)} {w kind : String}
    (h : kinds.lookup w = some kind) : kind ∈ kinds.map (·.2) := by
  obtain ⟨front, rest, rfl, -⟩ := List.lookup_eq_some_iff.1 h
  simp

theorem firstKind_mem {kinds : List (String × String)} {ts : List Token} {kind : String}
    (h : firstKind kinds ts = some kind) : kind ∈ kinds.map (·.2) := by
  obtain ⟨t, -, ht⟩ := List.exists_of_findSome?_eq_some h
  split at ht
  · exact mem_of_lookup ht
  · cases ht

theorem queryKind_mem (ts : List Token) : queryKind ts ∈ otherKinds := by
  unfold queryKind
  dsimp only
  generalize hmain : firstKind [("SELECT", "Select"), ("INSERT", "Insert"), ("UPDATE", "Update"),
    ("DELETE", "Delete"), ("MERGE", "Merge")] (topLevel 0 ts) = main
  -- a word that joins two queries decides, if there is one
  have hjoined : ∀ kind ∈ otherKinds,
      (firstKind setWords (topLevel 0 ts).reverse).getD kind ∈ otherKinds := by
    intro kind hkind
    cases hset : firstKind setWords (topLevel 0 ts).reverse with
    | none => exact hkind
    | some joined =>
      have hsub : setWords.map (·.2) ⊆ otherKinds := by decide
      exact hsub (firstKind_mem hset)
  split
  · exact hjoined "Select" (by decide)
  · exact hjoined "Subquery" (by decide)
  · next kind _ _ =>
    have hsub : ["Select", "Insert", "Update", "Delete", "Merge"] ⊆ otherKinds := by decide
    exact hsub (firstKind_mem hmain)

theorem kindOfWord?_mem {d : Dialect} {w kind : String} (h : kindOfWord? d w = some kind) :
    kind ∈ otherKinds := by
  unfold kindOfWord? at h
  split at h
  · cases h
    decide
  split at h
  · cases h
    decide
  split at h
  · cases h
    decide
  · have hsub : statementKinds.map (·.2) ⊆ otherKinds := by decide
    cases hlookup : statementKinds.lookup w with
    | some k =>
      rw [hlookup] at h
      cases h
      exact hsub (mem_of_lookup hlookup)
    | none =>
      rw [hlookup] at h
      change (if commandWords.contains w then some "Command" else none) = some kind at h
      split at h
      · cases h
        decide
      · cases h

/-! ## Readings -/

namespace Reading

variable {α β : Type} {P : α → Prop} {Q : β → Prop}

/-- Every result of a reading has a property. -/
def Yields (P : α → Prop) (x : Reading α) : Prop :=
  ∀ ⦃ts a rest⦄, x.run ts = some (a, rest) → P a

namespace Yields

theorem pure {a : α} (h : P a) : Yields P (Pure.pure a) := by
  rintro ts b rest hb
  cases hb
  exact h

theorem failure : Yields P (Alternative.failure : Reading α) := by
  rintro ts b rest hb
  cases hb

theorem bind {x : Reading α} {f : α → Reading β} (hx : Yields P x) (hf : ∀ a, P a → Yields Q (f a)) :
    Yields Q (x >>= f) := by
  intro ts b rest h
  rw [StateT.run_bind] at h
  obtain ⟨⟨a, us⟩, ha, hb⟩ := Option.bind_eq_some_iff.1 h
  exact hf a (hx ha) hb

/-- What comes first does not matter where the property holds whatever it is. -/
theorem next {x : Reading α} {f : α → Reading β} (hf : ∀ a, Yields Q (f a)) : Yields Q (x >>= f) :=
  bind (P := fun _ => True) (fun _ _ _ _ => trivial) fun a _ => hf a

/-- What comes first may find something or not. -/
theorem option {x : Reading (Option α)} {f : Option α → Reading β} (hnone : Yields Q (f none))
    (hsome : ∀ a, Yields Q (f (some a))) : Yields Q (x >>= f) := by
  refine next fun o => ?_
  cases o with
  | none => exact hnone
  | some a => exact hsome a

theorem ite {c : Prop} [Decidable c] {x y : Reading α} (hx : Yields P x) (hy : Yields P y) :
    Yields P (if c then x else y) := by
  split
  · exact hx
  · exact hy

end Yields

theorem oneOf_yields (ws : List String) : Yields (fun o => ∀ t ∈ o, t.upper ∈ ws) (oneOf ws) := by
  rintro ts o rest h t ht
  cases ts with
  | nil =>
    cases h
    cases ht
  | cons u us =>
    rw [run_oneOf_cons] at h
    split at h
    · next hu =>
      cases h
      cases ht
      simpa using (Bool.and_eq_true_iff.1 hu).2
    · cases h
      cases ht

/-! ## CREATE statements -/

section

variable {P : Statement → Prop} (hcommand : P command)

include hcommand

theorem giveUp_yields : Yields P giveUp :=
  .next fun _ => .pure hcommand

theorem finish_yields {s : Statement} (h : P s) : Yields P (finish s) := by
  refine .next fun o => ?_
  cases o with
  | none => exact .pure h
  | some t =>
    show Yields _ (if _ then _ else _)
    split
    · exact .failure
    · exact giveUp_yields hcommand

theorem creation_yields (d : Dialect) {kind : String}
    (h : ∀ table entries, P (.create (Text.lower kind) table entries)) :
    Yields P (creation d kind) := by
  have hend : ∀ table entries, Yields P (finish (.create (Text.lower kind) table entries)) :=
    fun table entries => finish_yields hcommand (h table entries)
  unfold creation
  refine .next fun _ => .next fun _ => ?_
  extract_lets keyword table rest
  have htable : ∀ name, Yields P (table name) := fun name =>
    .next fun _ => .next fun _ => .next fun _ => hend _ _
  have hrest : ∀ u, Yields P (rest u) := by
    intro u
    show Yields _ (if _ then _ else _)
    split
    · exact .next fun _ => hend _ _
    · split
      · exact .next htable
      · exact .next htable
  split
  · refine .next fun _ => ?_
    split
    · exact .next fun _ => hrest ()
    · exact hrest ()
  · exact hrest ()

end

theorem create_yields (d : Dialect) : Yields Statement.Known (create d) := by
  have hcreation : ∀ {kind}, kind ∈ creatables → Yields Statement.Known (creation d kind) :=
    fun hkind => creation_yields known_command d fun _ _ => List.mem_map_of_mem hkind
  refine .next fun _ => .next fun _ => .bind (oneOf_yields creatables) fun o ho => ?_
  cases o with
  | some t => exact hcreation (ho t rfl)
  | none =>
    refine .next fun _ => .next fun hasOptions => ?_
    cases hasOptions with
    | false => exact giveUp_yields known_command
    | true =>
      refine .bind (oneOf_yields creatables) fun o ho => ?_
      cases o with
      | none => exact giveUp_yields known_command
      | some t => exact hcreation (ho t rfl)

/-! ## Other statements -/

theorem operandKind_mem {ts : List Token} {kind : String} (h : operandKind ts = some kind) :
    kind ∈ otherKinds := by
  fun_induction operandKind ts with
  | case1 | case2 | case3 | case4 | case5 | case7 =>
    cases h
    decide
  | case6 | case8 | case10 | case11 => cases h
  | case9 t p rest hdot ih => exact ih h

theorem bare_yields : Yields Statement.Known bare := by
  refine .next fun ts => .next fun _ => ?_
  split
  · next kind hkind => exact .pure (operandKind_mem hkind)
  · split
    · extract_lets named
      split
      · exact .pure (show "Alias" ∈ otherKinds by decide)
      · exact .failure
    · exact .failure

theorem alter_yields : Yields Statement.Known alter := by
  refine .next fun _ => .next fun _ => ?_
  extract_lets actions
  split
  · exact .pure (show "Alter" ∈ otherKinds by decide)
  · exact .pure known_command

theorem drop_yields : Yields Statement.Known drop := by
  refine .next fun _ => .next fun _ => .pure ?_
  split
  · exact (show "Drop" ∈ otherKinds by decide)
  · exact known_command

/-- A statement is of a known kind. -/
theorem statement_yields (d : Dialect) : Yields Statement.Known (statement d) := by
  refine .next fun ts => ?_
  cases ts with
  | nil => exact .failure
  | cons t rest =>
    show Yields _ (if _ then _ else _)
    split
    · exact .next fun _ => create_yields d
    split
    · exact .next fun _ => drop_yields
    split
    · exact .next fun _ => alter_yields
    split
    · exact .next fun _ => .pure (queryKind_mem _)
    split
    · next kind hkind =>
      refine .next fun _ => .pure ?_
      split at hkind
      · exact kindOfWord?_mem hkind
      · cases hkind
    · exact bare_yields

end Reading

theorem Segment.known_of_statements {d : Dialect} {part : Segment} {ss : List Statement}
    (h : part.statements d = some ss) : ∀ s ∈ ss, s.Known := by
  intro s hs
  cases part with
  | remark =>
    cases h
    obtain rfl := List.mem_singleton.1 hs
    exact (show "Semicolon" ∈ otherKinds by decide)
  | statement ts =>
    cases ts with
    | nil =>
      cases h
      cases hs
    | cons t ts =>
      obtain ⟨s', hread, rfl⟩ := Option.map_eq_some_iff.1 h
      obtain rfl := List.mem_singleton.1 hs
      unfold readStatement at hread
      split at hread
      · next hrun =>
        cases hread
        exact Reading.statement_yields d hrun
      · cases hread

/-- A script is read as statements of known kinds. -/
theorem known_of_parse {d : Dialect} {script : String} {ss : List Statement}
    (h : parse d script = some ss) : ∀ s ∈ ss, s.Known := by
  unfold parse at h
  obtain ⟨lexemes, -, h⟩ := Option.bind_eq_some_iff.1 h
  obtain ⟨parts, hparts, h⟩ := Option.bind_eq_some_iff.1 h
  cases h
  intro s hs
  obtain ⟨ss, hss, hs⟩ := List.mem_flatten.1 hs
  obtain ⟨part, -, hpart⟩ := exists_of_forall₂ (List.Forall₂.flip (mapM_eq_some.1 hparts)) hss
  exact Segment.known_of_statements hpart s hs

end TableScaffold.Sql
