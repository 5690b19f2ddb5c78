import TableScaffold.Proofs.Sql.Alike.Statement

/-!
# Where the columns of a statement stand

Every column of a CREATE statement is read behind its name, and the name stands right behind a mark: the
parenthesis that opens the list of the entries, or a comma (`readStatement_columns`). A reading leaves the
end of the tokens it starts with, which is what it means to agree with itself on the ends of a list.
-/

namespace TableScaffold.Sql

/-- The ends of a list of tokens, read in some dialect. -/
def endsOf (d : Dialect) (all : List Token) : Likeness := ⟨d, fun ts us => ts = us ∧ ts <:+ all⟩

variable {d : Dialect} {all ts us rest : List Token}

theorem alike_endsOf {dashes : Bool} : Alike (endsOf d all) dashes ts us ↔ ts = us ∧ ts <:+ all := by
  refine ⟨fun h => ?_, ?_⟩
  · cases h with
    | nil => exact ⟨rfl, List.nil_suffix⟩
    | cons _ related _ _ => exact related
  · rintro ⟨rfl, hts⟩
    induction ts generalizing dashes with
    | nil => exact .nil
    | cons t ts ih =>
      exact .cons ⟨rfl, rfl⟩ ⟨rfl, hts⟩ (fun _ _ => rfl) (ih ((List.suffix_cons t ts).trans hts))

/-- An entry of a statement; a column whose name is no literal is read behind it, and the name is behind
a mark. -/
def Entry.StandsIn (d : Dialect) (all : List Token) (e : Entry) : Prop :=
  ∀ c r, e = .column c → c.after = some r → ∃ front mark name ts rest,
    all = front ++ mark :: name :: ts ∧ (d ≠ .tsql → mark.endsDashes = true) ∧
    Reading.isAnyName name = true ∧ name.rest = r ∧
    (Reading.column d (.ofToken name)).run ts = some (.column c, rest)

namespace Reading

variable {α β : Type}

/-- The steps of a reading. -/
theorem exists_of_bind {x : Reading α} {f : α → Reading β} {b : β}
    (h : (x >>= f).run ts = some (b, rest)) :
    ∃ a us, x.run ts = some (a, us) ∧ (f a).run us = some (b, rest) := by
  rw [StateT.run_bind] at h
  obtain ⟨⟨a, us⟩, ha, hb⟩ := Option.bind_eq_some_iff.1 h
  exact ⟨a, us, ha, hb⟩

/-- A reading that agrees with itself on the ends of a list leaves such an end. -/
theorem Agree.suffix {P : α → α → Prop} {x : Reading α} (hx : Agree (endsOf d all) P x x) {a : α}
    (hts : ts <:+ all) (h : x.run ts = some (a, rest)) : rest <:+ all := by
  have hrun := hx (alike_endsOf.2 ⟨rfl, hts⟩)
  rw [h] at hrun
  obtain ⟨-, halike⟩ := hrun
  exact (alike_endsOf.1 halike).2

theorem word_false {w : String} (h : (word w).run ts = some (false, rest)) : rest = ts := by
  cases ts with
  | nil => cases h; rfl
  | cons t ts =>
    rw [run_word_cons] at h
    split at h <;> cases h
    rfl

theorem mark_true {c : Char} (h : (mark c).run ts = some (true, rest)) :
    ∃ t, t.isMark c = true ∧ ts = t :: rest := by
  cases ts with
  | nil => cases h
  | cons t ts =>
    rw [run_mark_cons] at h
    split at h <;> cases h
    exact ⟨t, ‹_›, rfl⟩

theorem mark_false {c : Char} (h : (mark c).run ts = some (false, rest)) : rest = ts := by
  cases ts with
  | nil => cases h; rfl
  | cons t ts =>
    rw [run_mark_cons] at h
    split at h <;> cases h
    rfl

theorem takeIf_some {p : Token → Bool} {t : Token} (h : (takeIf p).run ts = some (some t, rest)) :
    p t = true ∧ ts = t :: rest := by
  cases ts with
  | nil => cases h
  | cons u ts =>
    rw [run_takeIf_cons] at h
    split at h <;> cases h
    exact ⟨‹_›, rfl⟩

theorem takeIf_none {p : Token → Bool} (h : (takeIf p).run ts = some (none, rest)) : rest = ts := by
  cases ts with
  | nil => cases h; rfl
  | cons t ts =>
    rw [run_takeIf_cons] at h
    split at h <;> cases h
    rfl

/-- Looking for a mark takes nothing. -/
theorem seesMark_keeps {c : Char} {b : Bool} (h : (seesMark c).run ts = some (b, rest)) :
    rest = ts := by
  cases ts with
  | nil => cases h; rfl
  | cons t ts =>
    rw [run_seesMark_cons] at h
    cases h
    rfl

/-- Looking for a table clause takes nothing. -/
theorem startsTableClause_keeps {b : Bool} (h : (startsTableClause d).run ts = some (b, rest)) :
    rest = ts := by
  cases ts with
  | nil => cases h; rfl
  | cons t ts =>
    simp only [startsTableClause, StateT.run_bind, run_peek, List.head?_cons, Option.bind_eq_bind,
      Option.bind_some] at h
    split at h
    · cases h; rfl
    · split at h
      · simp only [StateT.run_bind, run_sees, Option.bind_eq_bind, Option.bind_some] at h
        cases h
        rfl
      · cases h; rfl

/-- What holds of the items of a list: `starts` holds where the list starts and behind its commas. -/
theorem commaList_forall {item : Reading (Option α)} {P : α → Prop} {starts : List Token → Prop}
    (hitem : ∀ ts o rest, starts ts → item.run ts = some (o, rest) →
      (∀ a ∈ o, P a) ∧ ∀ t us, rest = t :: us → t.isMark ',' = true → starts us)
    {fuel : Nat} {items : List α} (hts : starts ts)
    (h : (commaList item fuel).run ts = some (items, rest)) : ∀ a ∈ items, P a := by
  induction fuel generalizing ts items rest with
  | zero => cases h
  | succ fuel ih =>
    obtain ⟨first, us, hfirst, h⟩ := exists_of_bind h
    obtain ⟨hP, hcomma⟩ := hitem _ _ _ hts hfirst
    obtain ⟨comma, vs, hmark, h⟩ := exists_of_bind h
    have hall : ∃ others, items = first.toList ++ others ∧ ∀ a ∈ others, P a := by
      cases comma with
      | false =>
        cases h
        exact ⟨[], rfl, fun a ha => absurd ha List.not_mem_nil⟩
      | true =>
        obtain ⟨others, ws, hothers, h⟩ := exists_of_bind (x := commaList item fuel) h
        cases h
        obtain ⟨t, ht, rfl⟩ := mark_true hmark
        exact ⟨others, rfl, ih (hcomma t vs rfl ht) hothers⟩
    obtain ⟨others, rfl, hothers⟩ := hall
    intro a ha
    rcases List.mem_append.1 ha with ha | ha
    · exact hP a (Option.mem_toList.1 ha)
    · exact hothers a ha

/-! ## Columns -/

/-- Whether a type has a name. -/
def Named (name : String) : Prop := name ≠ ""

theorem named_of_lookup {types : List (String × String)} (hall : ∀ p ∈ types, p.2 ≠ "") {w name : String}
    (h : types.lookup w = some name) : Named name := by
  obtain ⟨front, rest, rfl, -⟩ := List.lookup_eq_some_iff.1 h
  exact hall _ (List.mem_append_right _ List.mem_cons_self)

theorem named_typeOfWord? {w name : String} (h : d.typeOfWord? w = some name) : Named name := by
  unfold Dialect.typeOfWord? at h
  simp only [Option.orElse_eq_orElse, Option.orElse_eq_or, Option.or_eq_some_iff] at h
  rcases h with h | ⟨-, h | ⟨-, h⟩⟩
  · exact named_of_lookup (by cases d <;> decide) h
  · exact named_of_lookup (by decide) h
  · exact (by decide : ∀ n ∈ plainTypes, n ≠ "") name (List.mem_of_find?_eq_some h)

theorem typeName_yields (d : Dialect) : Yields Named (typeName d) := by
  have huser : Yields Named (pure userType) := .pure (by decide : userType ≠ "")
  refine .next fun o => ?_
  cases o with
  | none => exact .failure
  | some t =>
    refine .ite (.next fun w => ?_) ?_
    · split
      · next hw => exact .pure (named_typeOfWord? hw)
      · exact .next fun _ => .ite huser .failure
    · split
      · next hw =>
        split at hw
        · cases hw
        · exact .pure (named_typeOfWord? hw)
      · exact .ite huser .failure

theorem timeZone_yields {name : String} (h : Named name) : Yields Named (timeZone name) := by
  have hzone : ∀ n ∈ ["TIMETZ", "TIMESTAMPTZ", "TIMESTAMPLTZ"], Named n :=
    (by decide : ∀ n ∈ ["TIMETZ", "TIMESTAMPTZ", "TIMESTAMPLTZ"], n ≠ "")
  refine .ite (.pure h) (.next fun _ => .ite (.pure ?_) (.next fun _ => .ite (.pure ?_) ?_))
  · split
    · exact hzone _ (by simp)
    · exact hzone _ (by simp)
  · exact hzone _ (by simp)
  · exact .next fun _ => .pure h

theorem signedness_yields {name : String} (h : Named name) : Yields Named (signedness name) := by
  refine .next fun _ => .ite ?_ (.pure h)
  split
  · next hn => exact .pure (named_of_lookup (by decide) hn)
  · exact .failure

/-- A type from a word with a name has that name or another, or none. -/
theorem namedType_yields {name : String} (hname : Named name) :
    Yields (fun t => ∀ n ∈ t.name, Named n) (namedType d name) := by
  have hnamed {n : String} {size : Option String} (hn : Named n) :
      Yields (fun t : DataType => ∀ n ∈ t.name, Named n) (pure ⟨some n, size⟩) :=
    .pure fun _ h => Option.some.inj h ▸ hn
  have harray : Named "ARRAY" := (by decide : "ARRAY" ≠ "")
  refine .ite (.next fun _ => .next fun _ => hnamed hname) (.next fun parameters => .ite ?_ ?_)
  · refine .next fun hasUnit => .next fun _ => .ite (hnamed harray) ?_
    cases hasUnit with
    | true => exact .pure fun _ h => nomatch h
    | false => exact hnamed hname
  · refine .bind (timeZone_yields hname) fun zoned hzoned => .bind (signedness_yields hzoned) fun n hn => ?_
    exact .next fun _ => .ite (hnamed harray) (hnamed hn)

/-- The name of a type that is read is not empty. -/
theorem dataType_yields (d : Dialect) : Yields (fun t => ∀ n ∈ t.name, Named n) (dataType d) := by
  refine .next fun _ => .ite (.pure fun _ h => nomatch h) (.bind (typeName_yields d) fun name hname => ?_)
  exact .ite (.next fun _ => .next fun _ => namedType_yields hname) (namedType_yields hname)

/-- A type starts with a word or a name. -/
theorem dataType_starts {t : DataType} (h : (dataType d).run ts = some (t, rest)) :
    ∃ u us, ts = u :: us ∧ u.kind ≠ .mark := by
  obtain ⟨object, us, hobject, h⟩ := exists_of_bind h
  cases object with
  | some u =>
    obtain ⟨hword, rfl⟩ := takeIf_some hobject
    refine ⟨u, us, rfl, fun hmark => ?_⟩
    rw [Token.isOneOf_eq_false (by simp [hmark])] at hword
    cases hword
  | none =>
    cases takeIf_none hobject
    obtain ⟨name, vs, hname, -⟩ := exists_of_bind (x := typeName d) h
    obtain ⟨first, ws, hfirst, hname⟩ := exists_of_bind hname
    cases first with
    | none => cases hname
    | some u =>
      obtain ⟨hkind, rfl⟩ := takeIf_some hfirst
      refine ⟨u, ws, rfl, fun hmark => ?_⟩
      rw [hmark] at hkind
      cases hkind

/-- What a column keeps: the place of what it begins with; the name of its type is not empty, and the type
starts with no mark. -/
theorem column_shape {begins : Head} {c : ColumnEntry}
    (h : (column d begins).run ts = some (.column c, rest)) : c.after = begins.after ∧
      ∀ t ∈ c.type, (∀ n ∈ t.name, Named n) ∧ ∃ u us, ts = u :: us ∧ u.kind ≠ .mark := by
  obtain ⟨type, us, htype, h⟩ := exists_of_bind h
  obtain ⟨isComputed, vs, -, h⟩ := exists_of_bind h
  obtain ⟨_, _, -, h⟩ := exists_of_bind h
  obtain ⟨clauses, ws, -, h⟩ := exists_of_bind h
  split at h
  · have halone : begins.alone = .column c := congrArg Prod.fst (Option.some.inj h)
    have hcolumn := isColumn_alone begins
    rw [halone] at hcolumn
    cases hcolumn
  · cases h
    refine ⟨rfl, ?_⟩
    rintro t ⟨⟩
    unfold dataType? at htype
    rw [run_attempt] at htype
    split at htype
    · next hrun =>
      cases htype
      exact ⟨dataType_yields d hrun, dataType_starts hrun⟩
    · cases htype

/-- A word for a value that is a name after all takes nothing with it. -/
theorem valueRest_false {form : ValueForm} (h : (valueRest d form).run ts = some (false, rest)) :
    rest = ts := by
  have htrue {x : Reading Bool} (hx : Yields (· = true) x) (hrun : x.run ts = some (false, rest)) :
      rest = ts := absurd (hx hrun) Bool.false_ne_true
  cases form with
  | constant => exact htrue (.pure rfl) h
  | call => exact htrue (.next fun _ => .pure rfl) h
  | operand => exact htrue (.next fun _ => .pure rfl) h
  | cases =>
    refine htrue (.next fun ts => ?_) h
    split
    · exact .next fun _ => .pure rfl
    · exact .failure
  | condition =>
    obtain ⟨comma, us, hcomma, hbehind⟩ := exists_of_bind h
    obtain ⟨close, vs, hclose, hrun⟩ := exists_of_bind hbehind
    cases seesMark_keeps hcomma
    cases seesMark_keeps hclose
    have hvalue : Yields (· = true) (do
        if ← mark '(' then
          let parts ← closedList (do condition d; return some ())
          if parts.length = 2 || parts.length = 3 then return true else failure
        else
          condition d
          let _ ← word "THEN"
          condition d
          if ← word "ELSE" then condition d
          let _ ← word "END"
          return true) := by
      refine .next fun _ => .ite (.next fun _ => .ite (.pure rfl) .failure) ?_
      exact .next fun _ => .next fun _ => .next fun _ => .next fun _ =>
        .ite (.next fun _ => .next fun _ => .pure rfl) (.next fun _ => .pure rfl)
    split at hrun
    · cases hrun
      rfl
    · exact htrue hvalue hrun

/-- A column that begins with a placed name begins with one token. -/
theorem head_placed {t : Token} {begins : Head} {r : List Char}
    (h : (head d t).run ts = some (begins, rest)) (hafter : begins.after = some r) :
    begins = .ofToken t ∧ rest = ts ∧ t.rest = r := by
  have htoken : begins = .ofToken t ∧ rest = ts := by
    unfold head at h
    split at h
    · cases h
      exact ⟨rfl, rfl⟩
    · next v _ =>
      obtain ⟨isValue, us, hvalue, h⟩ := exists_of_bind h
      cases isValue with
      | true =>
        cases h
        cases hafter
      | false =>
        cases h
        exact ⟨rfl, valueRest_false hvalue⟩
  obtain ⟨rfl, rfl⟩ := htoken
  refine ⟨rfl, rfl, ?_⟩
  unfold Head.ofToken at hafter
  split at hafter
  · cases hafter
  · exact Option.some.inj hafter

/-- A column that is read behind a mark stands there. -/
theorem name_stands {front : List Token} {p : Token} {o : Option (List Entry)}
    (hall : all = front ++ p :: ts) (hp : d ≠ .tsql → p.endsDashes = true)
    (h : (do
      match ← takeIf isAnyName with
      | none => return none
      | some t => return some [← column d (← head d t)] :
        Reading (Option (List Entry))).run ts = some (o, rest)) :
    ∀ es ∈ o, ∀ e ∈ es, e.StandsIn d all := by
  obtain ⟨name, us, hname, h⟩ := exists_of_bind h
  cases name with
  | none =>
    cases h
    exact fun es hes => nomatch hes
  | some t =>
    obtain ⟨begins, vs, hhead, h⟩ := exists_of_bind h
    obtain ⟨e, ws, he, h⟩ := exists_of_bind h
    cases h
    obtain ⟨hany, rfl⟩ := takeIf_some hname
    rintro _ ⟨⟩
    refine List.forall_mem_singleton.2 fun c r hcolumn hafter => ?_
    obtain rfl := hcolumn
    rw [(column_shape he).1] at hafter
    obtain ⟨rfl, rfl, hrest⟩ := head_placed hhead hafter
    exact ⟨front, p, t, _, _, hall, hp, hany, hrest, he⟩

/-- The entries of one place between the commas of a list stand there. -/
theorem entries_stand {front : List Token} {p : Token} {o : Option (List Entry)}
    (hall : all = front ++ p :: ts) (hp : p.endsDashes = true)
    (h : (entries d).run ts = some (o, rest)) : ∀ es ∈ o, ∀ e ∈ es, e.StandsIn d all := by
  have hother : ∀ es : List Entry, (∀ e ∈ es, e.isColumn = false) → ∀ e ∈ es, e.StandsIn d all :=
    fun es hes e he c r hcolumn _ => by
      have hno := hes e he
      rw [hcolumn] at hno
      cases hno
  obtain ⟨isNamed, us, hnamed, h⟩ := exists_of_bind h
  cases isNamed with
  | true =>
    obtain ⟨es, vs, hes, h⟩ := exists_of_bind (x := namedConstraint d) h
    cases h
    rintro _ ⟨⟩
    exact hother es (namedConstraint_yields d hes)
  | false =>
    cases word_false hnamed
    obtain ⟨isClause, vs, hclause, h⟩ := exists_of_bind (x := startsTableClause d) h
    cases startsTableClause_keeps hclause
    cases isClause with
    | true =>
      obtain ⟨c, ws, hc, h⟩ := exists_of_bind (x := clause d) h
      cases h
      intro es hes
      obtain ⟨c, rfl, rfl⟩ := Option.map_eq_some_iff.1 hes
      exact hother _ (List.forall_mem_singleton.2 (clause_yields d hc c rfl))
    | false =>
      obtain ⟨isExclusion, ws, hexclusion, h⟩ := exists_of_bind (x := word "EXCLUDE") h
      cases isExclusion with
      | true =>
        obtain ⟨e, xs, he, h⟩ := exists_of_bind (x := exclusion d) h
        cases h
        rintro _ ⟨⟩
        exact hother _ (List.forall_mem_singleton.2 (exclusion_yields d he))
      | false =>
        cases word_false hexclusion
        cases hd : d == .tsql with
        | false =>
          rw [hd] at h
          exact name_stands hall (fun _ => hp) h
        | true =>
          rw [hd] at h
          obtain ⟨isHash, xs, hhash, hname⟩ := exists_of_bind (x := mark '#') h
          have htsql : d ≠ .tsql → False := fun hne => hne (eq_of_beq hd)
          cases isHash with
          | false =>
            cases mark_false hhash
            exact name_stands hall (fun hne => (htsql hne).elim) hname
          | true =>
            obtain ⟨t, -, rfl⟩ := mark_true hhash
            have hall' : all = (front ++ [p]) ++ t :: xs := by simp [hall]
            exact name_stands hall' (fun hne => (htsql hne).elim) hname

/-- The list of the entries of a table. -/
theorem body_stands {es : List Entry} (hts : ts <:+ all) (h : (body d).run ts = some (es, rest)) :
    ∀ e ∈ es, e.StandsIn d all := by
  have hnone : ∀ e ∈ ([] : List Entry), e.StandsIn d all := fun e he => absurd he List.not_mem_nil
  unfold body at h
  obtain ⟨_, _, hget, h⟩ := exists_of_bind h
  cases hget
  match ts, h with
  | [], h | [_], h =>
    cases h
    exact hnone
  | o :: t :: us, h =>
    dsimp only at h
    split at h
    · next hopen =>
      obtain ⟨_, _, hset, h⟩ := exists_of_bind h
      cases hset
      obtain ⟨items, ws, hitems, h⟩ := exists_of_bind h
      cases h
      obtain ⟨_, _, hget, hitems⟩ := exists_of_bind hitems
      cases hget
      obtain ⟨_, _, hlist, hitems⟩ := exists_of_bind hitems
      obtain ⟨_, _, -, hitems⟩ := exists_of_bind hitems
      cases hitems
      obtain ⟨front, hfront⟩ := hts
      have hdashes : ∀ c ∈ ['(', ','], ∀ t : Token, t.isMark c = true → t.endsDashes = true := by
        intro c hc t ht
        simp only [List.mem_cons, List.not_mem_nil, or_false] at hc
        rcases hc with rfl | rfl <;> simp [Token.endsDashes, isMarkOf, ht]
      have hitem : ∀ ts o rest, (∃ front p, all = front ++ p :: ts ∧ p.endsDashes = true) →
          (entries d).run ts = some (o, rest) →
          (∀ es ∈ o, ∀ e ∈ es, e.StandsIn d all) ∧ ∀ t us, rest = t :: us → t.isMark ',' = true →
            ∃ front p, all = front ++ p :: us ∧ p.endsDashes = true := by
        rintro ts o rest ⟨front, p, rfl, hp⟩ hrun
        refine ⟨entries_stand rfl hp hrun, fun t us hrest ht => ?_⟩
        have hsuffix := entries_agree.suffix
          ((List.suffix_cons p ts).trans (List.suffix_append front (p :: ts))) hrun
        rw [hrest] at hsuffix
        obtain ⟨front', hfront'⟩ := hsuffix
        exact ⟨front', t, hfront'.symm, hdashes ',' (by simp) t ht⟩
      have hopens : ∃ front p, all = front ++ p :: t :: us ∧ p.endsDashes = true :=
        ⟨front, o, hfront.symm, hdashes '(' (by simp) o (Bool.and_eq_true_iff.1 hopen).1⟩
      intro e he
      obtain ⟨es, hes, he⟩ := List.mem_flatten.1 he
      exact commaList_forall hitem hopens hlist es hes e he
    · cases h
      exact hnone

end Reading

open Reading in
theorem body_agree_stands (d : Dialect) (all : List Token) :
    Agree (endsOf d all) (List.Forall₂ fun e _ => e.StandsIn d all) (body d) (body d) := by
  intro ts us h
  have hbody := body_agree h
  obtain ⟨rfl, hts⟩ := alike_endsOf.1 h
  show Option.Rel _ ((body d).run ts) ((body d).run ts)
  change Option.Rel _ ((body d).run ts) ((body d).run ts) at hbody
  cases hrun : (body d).run ts with
  | none => exact .none
  | some r =>
    rw [hrun] at hbody
    obtain ⟨-, halike⟩ := hbody
    exact .some ⟨List.forall₂_same.2 (body_stands hts hrun), halike⟩

/-- The columns of a CREATE statement stand behind marks. -/
theorem readStatement_columns {keyword : String} {table : Option TableName} {entries : List Entry}
    (h : readStatement d all = some (.create keyword table entries)) :
    ∀ e ∈ entries, e.StandsIn d all := by
  have halike : Alike (endsOf d all) false all all := alike_endsOf.2 ⟨rfl, List.suffix_rfl⟩
  have hlike := readStatement_agree (body_agree_stands d all) halike
  rw [show (endsOf d all).dialect = d from rfl, h] at hlike
  obtain ⟨hlike⟩ := hlike
  obtain ⟨-, -, hentries⟩ := hlike
  have hall := List.forall₂_same.1 hentries
  exact hall

theorem isMark_of_anyName {t : Token} (h : Reading.isAnyName t = true) : t.isMark ';' = false := by
  unfold Reading.isAnyName at h
  cases hkind : t.kind == .mark with
  | false => simp [Token.isMark, hkind]
  | true =>
    rw [hkind, if_pos rfl] at h
    refine Bool.eq_false_iff.2 fun hmark => ?_
    have htext := eq_of_beq (Bool.and_eq_true_iff.1 hmark).2
    simp only [Reading.isStrayQuote, Reading.isMarkOf, Token.isMark, htext] at h
    revert h
    cases t.kind <;> decide

/-- Where a column stands whose name is no literal: `r` follows the name. -/
structure ColumnEntry.Place (d : Dialect) (c : ColumnEntry) (r : List Char) (all front : List Token)
    (mark name : Token) (ts : List Token) : Prop where
  split : all = front ++ mark :: name :: ts
  endsDashes : d ≠ .tsql → mark.endsDashes = true
  goesOn : name.isMark ';' = false
  follows : name.rest = r
  next : ∀ t ∈ c.type, (∀ n ∈ t.name, Reading.Named n) ∧ ts.head?.any (·.isMark '-') = false
  read : ∃ rest, (Reading.column d (.ofToken name)).run ts = some (.column c, rest)

/-- The place of a column of a CREATE statement. -/
theorem exists_place {keyword : String} {table : Option TableName} {entries : List Entry}
    (h : readStatement d all = some (.create keyword table entries)) {c : ColumnEntry}
    (hc : .column c ∈ entries) {r : List Char} (hafter : c.after = some r) :
    ∃ front mark name ts, c.Place d r all front mark name ts := by
  obtain ⟨front, mark, name, ts, rest, hall, hmark, hname, hfollows, hcolumn⟩ :=
    readStatement_columns h _ hc c r rfl hafter
  obtain ⟨-, hnext⟩ := Reading.column_shape hcolumn
  refine ⟨front, mark, name, ts, hall, hmark, isMark_of_anyName hname, hfollows, fun t ht => ?_, rest,
    hcolumn⟩
  obtain ⟨hnamed, u, us, rfl, hu⟩ := hnext t ht
  exact ⟨hnamed, Token.isMark_eq_false hu '-'⟩

end TableScaffold.Sql
