import TableScaffold.Proofs.Sql.Alike.Statement
import TableScaffold.Proofs.Sql.Exchange

/-!
# Statements in front of an exchanged end

When the end of a script is exchanged, the tokens in front of it are alike, and so are the statements
that they make up. The word that is read again as the type of a column stays the same, so the
statements are written out as before.
-/

namespace TableScaffold.Sql

open Text

/-! ## Tokens -/

/-- Tokens read in some dialect, each of which has its relation to its counterpart. -/
def tokenwise (d : Dialect) (R : Token → Token → Prop) : Likeness :=
  ⟨d, fun ts us => ∀ t ∈ ts.head?, ∀ u ∈ us.head?, R t u⟩

/-- Every token is followed by less than the one before it. -/
def Descending (ts : List Token) : Prop := ts.Pairwise fun t u => u.rest.length < t.rest.length

/-- What follows it tells a token. -/
theorem Descending.eq_of_rest {ts : List Token} (h : Descending ts) {t u : Token} (ht : t ∈ ts)
    (hu : u ∈ ts) (hrest : t.rest = u.rest) : t = u := by
  obtain ⟨before, behind, rfl⟩ := List.append_of_mem ht
  obtain ⟨-, hbehind, hbefore⟩ := List.pairwise_append.1 h
  rcases List.mem_append.1 hu with hu | hu
  · exact absurd (hbefore u hu t List.mem_cons_self) (by simp [hrest])
  rcases List.mem_cons.1 hu with rfl | hu
  · rfl
  · exact absurd ((List.pairwise_cons.1 hbehind).1 u hu) (by simp [hrest])

/-- Whether a dashed name may go on behind some tokens. -/
def dashesAfter (dashes : Bool) (ts : List Token) : Bool := ts.foldl (fun _ t => !t.endsDashes) dashes

variable {d : Dialect} {R : Token → Token → Prop} {m w : List Char} {t u t' u' : Token}
  {ts us vs vs' : List Token}

theorem relates_tokenwise : (tokenwise d R).Relates t u ↔ R t u := by
  refine ⟨fun ⟨_, _, h⟩ => h t rfl u rfl, fun h => ⟨[], [], ?_⟩⟩
  rintro _ ⟨⟩ _ ⟨⟩
  exact h

theorem Token.Moved.like (h : t.Moved m w u) : t.Like u := by
  obtain ⟨r, -, rfl⟩ := h
  exact ⟨rfl, rfl⟩

/-- Whether two tokens touch depends on what stands between them only. -/
theorem Token.Moved.touches_eq (h : t.Moved m w u) (h' : t'.Moved m w u')
    (hlt : t'.rest.length < t.rest.length) : t.touches t' = u.touches u' := by
  obtain ⟨r, hr, rfl⟩ := h
  obtain ⟨r', hr', rfl⟩ := h'
  unfold Token.touches
  rw [hr, hr'] at hlt ⊢
  cases r with
  | nil =>
    simp only [List.nil_append, List.length_append] at hlt
    omega
  | cons c r =>
    have hlength (n : List Char) : ((c :: (r ++ n)).length == (r' ++ n).length + t'.text.length) =
        ((c :: r).length == r'.length + t'.text.length) := by
      rw [Bool.eq_iff_iff, beq_iff_eq, beq_iff_eq, List.length_cons, List.length_append,
        List.length_append, List.length_cons]
      omega
    simp only [List.cons_append]
    rw [hlength, hlength]

theorem Token.Moved.touchesNext_eq (h : t.Moved m w u)
    (hnext : Option.Rel (Token.Moved m w) vs.head? vs'.head?)
    (hlt : ∀ v ∈ vs.head?, v.rest.length < t.rest.length) : t.touchesNext vs = u.touchesNext vs' := by
  unfold Token.touchesNext
  generalize vs.head? = o at hnext hlt ⊢
  generalize vs'.head? = o' at hnext ⊢
  cases hnext with
  | none => rfl
  | some hv => exact h.touches_eq hv (hlt _ rfl)

/-- Tokens in front of the exchanged end are alike, if those behind them are. -/
theorem alike_append (h : List.Forall₂ (Token.Moved m w) ts us) (hts : Descending ts)
    (hR : ∀ t ∈ ts, ∀ u, t.Moved m w u → R t u)
    (hnext : Option.Rel (Token.Moved m w) vs.head? vs'.head?)
    (hlt : ∀ t ∈ ts, ∀ v ∈ vs.head?, v.rest.length < t.rest.length) {dashes : Bool}
    (hrest : Alike (tokenwise d R) (dashesAfter dashes ts) vs vs') :
    Alike (tokenwise d R) dashes (ts ++ vs) (us ++ vs') := by
  induction h generalizing dashes with
  | nil => exact hrest
  | @cons t u ts us htu htail ih =>
    obtain ⟨hfirst, hts⟩ := List.pairwise_cons.1 hts
    refine .cons htu.like ?_ (fun _ _ => htu.touchesNext_eq ?_ ?_) (ih hts ?_ ?_ hrest)
    · rintro _ ⟨⟩ _ ⟨⟩
      exact hR t List.mem_cons_self u htu
    · cases htail with
      | nil => exact hnext
      | cons ht' _ => exact .some ht'
    · cases ts with
      | nil => exact hlt t List.mem_cons_self
      | cons t' ts =>
        rintro _ ⟨⟩
        exact hfirst t' List.mem_cons_self
    · exact fun t ht => hR t (List.mem_cons_of_mem _ ht)
    · exact fun t ht => hlt t (List.mem_cons_of_mem _ ht)

/-- Tokens all of which stand in front of the exchanged end are alike. -/
theorem alike_of_moved (h : List.Forall₂ (Token.Moved m w) ts us) (hts : Descending ts)
    (hR : ∀ t ∈ ts, ∀ u, t.Moved m w u → R t u) : Alike (tokenwise d R) false ts us := by
  have hnil : Alike (tokenwise d R) (dashesAfter false ts) [] [] := .nil
  simpa using alike_append h hts hR .none (by simp) hnil

/-- Tokens that stay the same are alike. -/
theorem alike_refl (hR : ∀ t ∈ ts, R t t) {dashes : Bool} : Alike (tokenwise d R) dashes ts ts := by
  induction ts generalizing dashes with
  | nil => exact .nil
  | cons t ts ih =>
    refine .cons ⟨rfl, rfl⟩ ?_ (fun _ _ => rfl) (ih fun t ht => hR t (List.mem_cons_of_mem _ ht))
    rintro _ ⟨⟩ _ ⟨⟩
    exact hR t List.mem_cons_self

/-! ## Segments -/

/-- Two segments whose tokens are alike. -/
inductive Segment.Like (ρ : Likeness) : Segment → Segment → Prop
  | statement {ts us : List Token} (h : Alike ρ false ts us) :
    Segment.Like ρ (.statement ts) (.statement us)
  | remark : Segment.Like ρ .remark .remark

theorem Segment.Like.statements {ρ : Likeness} {part part' : Segment} (h : part.Like ρ part') :
    Option.Rel (List.Forall₂ (Statement.Like (Entry.Like ρ))) (part.statements ρ.dialect)
      (part'.statements ρ.dialect) := by
  cases h with
  | remark => exact .some (.cons (.other _) .nil)
  | @statement ts us h =>
    cases h with
    | nil => exact .some .nil
    | cons head related touching tail =>
      have hread := readStatement_like (.cons head related touching tail)
      unfold Segment.statements
      dsimp only
      generalize readStatement ρ.dialect _ = o at hread ⊢
      generalize readStatement ρ.dialect _ = o' at hread ⊢
      cases hread with
      | none => exact .none
      | some h => exact .some (.cons h .nil)

/-- Segments that are alike are read as statements that differ at most in what follows the names of
columns. -/
theorem mapM_statements_like {ρ : Likeness} {parts parts' : List Segment}
    (h : List.Forall₂ (Segment.Like ρ) parts parts') :
    Option.Rel (List.Forall₂ (Statement.Like (Entry.Like ρ)))
      ((parts.mapM (Segment.statements ρ.dialect)).map List.flatten)
      ((parts'.mapM (Segment.statements ρ.dialect)).map List.flatten) := by
  induction h with
  | nil => exact .some .nil
  | @cons part part' parts parts' hpart _ ih =>
    rw [List.mapM_cons, List.mapM_cons]
    have hss := hpart.statements
    generalize part.statements ρ.dialect = o at hss ⊢
    generalize part'.statements ρ.dialect = o' at hss ⊢
    generalize parts.mapM (Segment.statements ρ.dialect) = os at ih ⊢
    generalize parts'.mapM (Segment.statements ρ.dialect) = os' at ih ⊢
    cases hss with
    | none => exact .none
    | some hss =>
      cases os <;> cases os' <;> cases ih
      · exact .none
      · next ih => exact .some (List.rel_append hss ih)

/-- The statements of a script are those of its segments. -/
theorem parse_of_lexes {script : String} {parts : List Lexeme}
    (h : lexes d false script.toList = some parts) :
    parse d script = ((segments (startsWithComment parts) [] parts).mapM
      (Segment.statements d)).map List.flatten := by
  have hlexemes : lexemes? d script.toList = some parts := h
  unfold parse
  rw [hlexemes]
  dsimp only [Option.bind_eq_bind, Option.bind_some]
  cases (segments (startsWithComment parts) [] parts).mapM (Segment.statements d) <;> rfl

/-- The tokens among the parts of a script. -/
def tokensOf (parts : List Lexeme) : List Token :=
  parts.filterMap fun
    | .token t => some t
    | .comment _ => none

theorem tokensOf_map (ts : List Token) : tokensOf (ts.map .token) = ts := by
  induction ts with
  | nil => rfl
  | cons t ts ih => exact congrArg (t :: ·) ih

/-- Every token of a script is followed by less than the one before it. -/
theorem descending_lexes {cs : List Char} {sameLine : Bool} {parts : List Lexeme}
    (h : lexes d sameLine cs = some parts) : Descending (tokensOf parts) := by
  refine lexes_induction d (motive := fun _ _ parts => Descending (tokensOf parts)) ?_ ?_ ?_ ?_ h
  · exact fun _ => .nil
  · exact fun _ _ _ _ _ _ ih => ih
  · exact fun _ _ _ _ _ _ _ _ ih => ih
  · intro _ _ _ t parts _ _ _ hparts ih
    refine List.pairwise_cons.2 ⟨fun u hu => length_of_mem_lexes d hparts ?_, ih⟩
    obtain ⟨x, hx, hxu⟩ := List.mem_filterMap.1 hu
    cases x with
    | comment => cases hxu
    | token v =>
      cases hxu
      exact hx

/-- Whether nothing but comments is left. -/
def onlyComments (parts : List Lexeme) : Bool :=
  parts.all fun x => match x with
    | .comment _ => true
    | .token _ => false

/-- The tokens of a segment. -/
def Segment.tokens : Segment → List Token
  | .statement ts => ts
  | .remark => []

variable {before before' behind behind' : List Lexeme}

theorem onlyComments_append (h : List.Forall₂ (Lexeme.Moved m w) before before')
    (hbehind : onlyComments behind = onlyComments behind') :
    onlyComments (before ++ behind) = onlyComments (before' ++ behind') := by
  induction h with
  | nil => exact hbehind
  | cons hx _ ih =>
    cases hx with
    | token => rfl
    | comment => exact ih

theorem carriesComment_append (h : List.Forall₂ (Lexeme.Moved m w) before before')
    (hcarries : carriesComment behind = carriesComment behind')
    (honly : onlyComments behind = onlyComments behind') :
    carriesComment (before ++ behind) = carriesComment (before' ++ behind') := by
  cases h with
  | nil => exact hcarries
  | cons hx hrest =>
    cases hx with
    | token => rfl
    | comment sameLine => exact congrArg (sameLine || ·) (onlyComments_append hrest honly)

/-- The segments that the tokens `ts` in front of the exchanged end make up: those that are complete,
and what is held of the one that goes on there, the last token first. -/
structure UpToEnd (d : Dialect) (R : Token → Token → Prop) (m w : List Char) (ts : List Token)
    (parts parts' : List Segment) (held held' : List Token) : Prop where
  alike : List.Forall₂ (Segment.Like (tokenwise d R)) parts parts'
  moved : List.Forall₂ (Token.Moved m w) held held'
  mem : ∀ part ∈ parts, ∀ t ∈ part.tokens, t ∈ ts
  sublist : held.reverse.Sublist ts

/-- A semicolon makes a segment of the tokens held. -/
theorem UpToEnd.semicolon {held held' last last' : List Token} {parts parts' : List Segment}
    (hheld : List.Forall₂ (Token.Moved m w) held held') (hts : Descending (held.reverse ++ t :: ts))
    (hR : ∀ v ∈ held.reverse ++ t :: ts, ∀ u, v.Moved m w u → R v u)
    (h : UpToEnd d R m w ts parts parts' last last') (remark : Bool) :
    UpToEnd d R m w (held.reverse ++ t :: ts)
      (.statement held.reverse :: (if remark then [.remark] else []) ++ parts)
      (.statement held'.reverse :: (if remark then [.remark] else []) ++ parts') last last' := by
  have hsub : ts.Sublist (held.reverse ++ t :: ts) :=
    (List.sublist_cons_self t ts).trans (List.sublist_append_right _ _)
  have hfirst : Segment.Like (tokenwise d R) (.statement held.reverse) (.statement held'.reverse) :=
    .statement (alike_of_moved (List.rel_reverse hheld)
      (hts.sublist (List.sublist_append_left _ _)) fun t ht => hR t (List.mem_append_left _ ht))
  have hfirstMem : ∀ v ∈ held.reverse, v ∈ held.reverse ++ t :: ts :=
    fun _ hv => List.mem_append_left _ hv
  cases remark with
  | false =>
    refine ⟨.cons hfirst h.alike, h.moved, ?_, h.sublist.trans hsub⟩
    exact List.forall_mem_cons.2 ⟨hfirstMem, fun part hpart v hv => hsub.subset (h.mem part hpart v hv)⟩
  | true =>
    refine ⟨.cons hfirst (.cons .remark h.alike), h.moved, ?_, h.sublist.trans hsub⟩
    refine List.forall_mem_cons.2 ⟨hfirstMem, List.forall_mem_cons.2 ⟨by simp [Segment.tokens], ?_⟩⟩
    exact fun part hpart v hv => hsub.subset (h.mem part hpart v hv)

/-- The segments of a script whose end is exchanged. -/
theorem segments_exchange (h : List.Forall₂ (Lexeme.Moved m w) before before')
    (hcarries : carriesComment behind = carriesComment behind')
    (honly : onlyComments behind = onlyComments behind') (commented : Bool) {held held' : List Token}
    (hheld : List.Forall₂ (Token.Moved m w) held held')
    (hts : Descending (held.reverse ++ tokensOf before))
    (hR : ∀ t ∈ held.reverse ++ tokensOf before, ∀ u, t.Moved m w u → R t u) :
    ∃ parts parts' last last', ∃ flag : Bool,
      UpToEnd d R m w (held.reverse ++ tokensOf before) parts parts' last last' ∧
      segments commented held (before ++ behind) = parts ++ segments flag last behind ∧
      segments commented held' (before' ++ behind') = parts' ++ segments flag last' behind' := by
  induction h generalizing commented held held' with
  | nil =>
    have hnone : UpToEnd d R m w (held.reverse ++ tokensOf []) [] [] held held' :=
      ⟨.nil, hheld, by simp, by simp [tokensOf]⟩
    exact ⟨[], [], held, held', commented, hnone, rfl, rfl⟩
  | @cons x x' before before' hx hrest ih =>
    cases hx with
    | comment sameLine => exact ih commented hheld hts hR
    | @token t u htu =>
      have htokens : tokensOf (.token t :: before) = t :: tokensOf before := rfl
      have hcomment := carriesComment_append hrest hcarries honly
      rw [htokens] at hts hR ⊢
      simp only [List.cons_append, segments, ← htu.like.isMark, ← hcomment]
      split
      · have hsub : (tokensOf before).Sublist (held.reverse ++ t :: tokensOf before) :=
          (List.sublist_cons_self t _).trans (List.sublist_append_right _ _)
        obtain ⟨parts, parts', last, last', flag, hupTo, heq, heq'⟩ :=
          ih false .nil (hts.sublist hsub) fun t ht => hR t (hsub.subset ht)
        have hnext := UpToEnd.semicolon hheld hts hR hupTo
          (commented || carriesComment (before ++ behind))
        refine ⟨_, _, last, last', flag, hnext, ?_, ?_⟩
        · rw [heq, List.append_assoc]
          rfl
        · rw [heq', List.append_assoc]
          rfl
      · simpa using ih false (.cons htu hheld) (by simpa using hts) (by simpa using hR)

/-! ## Scripts without comments -/

theorem exists_tokens {parts : List Lexeme} (h : ∀ b, .comment b ∉ parts) :
    ∃ ts : List Token, parts = ts.map .token := by
  induction parts with
  | nil => exact ⟨[], rfl⟩
  | cons x parts ih =>
    obtain ⟨ts, rfl⟩ := ih fun b hb => h b (List.mem_cons_of_mem _ hb)
    cases x with
    | token t => exact ⟨t :: ts, rfl⟩
    | comment b => exact absurd List.mem_cons_self (h b)

theorem moved_tokens {parts : List Lexeme} (h : List.Forall₂ (Lexeme.Moved m w) (ts.map .token) parts) :
    ∃ us : List Token, parts = us.map .token := by
  induction ts generalizing parts with
  | nil =>
    cases h
    exact ⟨[], rfl⟩
  | cons t ts ih =>
    cases h with
    | cons hpart hrest =>
      obtain ⟨us, rfl⟩ := ih hrest
      cases hpart with
      | @token _ u ht => exact ⟨u :: us, rfl⟩

theorem carriesComment_tokens (ts : List Token) : carriesComment (ts.map .token) = false := by
  cases ts <;> rfl

theorem startsWithComment_tokens (ts : List Token) : startsWithComment (ts.map .token) = false := by
  cases ts <;> rfl

theorem segments_cons (held : List Token) (t : Token) (ts : List Token) :
    segments false held ((t :: ts).map .token) =
      if t.isMark ';' then .statement held.reverse :: segments false [] (ts.map .token)
      else segments false (t :: held) (ts.map .token) := by
  rw [List.map_cons, segments, carriesComment_tokens]
  rfl

/-- A semicolon parts two scripts without comments. -/
theorem segments_join {s : Token} (hs : s.isMark ';' = true) (held ts us : List Token) :
    segments false held ((ts ++ s :: us).map .token) =
      segments false held (ts.map .token) ++ segments false [] (us.map .token) := by
  induction ts generalizing held with
  | nil => rw [List.nil_append, segments_cons, if_pos hs]; rfl
  | cons t ts ih =>
    rw [List.cons_append, segments_cons, segments_cons]
    split
    · rw [ih, List.cons_append]
    · exact ih _

end TableScaffold.Sql
