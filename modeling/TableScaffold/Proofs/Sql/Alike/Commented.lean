import TableScaffold.Proofs.Sql.Alike.Moved
import TableScaffold.Proofs.Sql.Alike.Place
import TableScaffold.Proofs.Sql.Remarks

/-!
# Comments behind the name of a column

Block comments that are put in behind the name of a column change neither the tokens nor the segments of
a script, and no dashed name goes on there. So the statements stay the same, but for what follows the
names of columns, and there the word that is read again stays the same, except behind the one name
(`parse_commented`).
-/

namespace TableScaffold.Sql

open Text

/-- Block comments in front of which a blank stands. -/
structure Insertion (d : Dialect) (gap : List Char) : Prop where
  remarks : Remarks d gap
  blank : ∀ c ∈ gap.head?, isBlank c = true
  comment : ∃ c ∈ gap, isBlank c = false

variable {d : Dialect} {m gap q blanks : List Char} {t t' : Token} {parts rest : List Lexeme}

theorem Insertion.endsWord (h : Insertion d gap) (m : List Char) : EndsWord (gap ++ m) := by
  obtain ⟨x, hx, -⟩ := h.comment
  cases gap with
  | nil => cases hx
  | cons c gap =>
    rintro _ ⟨⟩
    exact .inl (h.blank c rfl)

/-! ## The parts of the script -/

theorem exists_append_of_forall₂ {α β : Type} {R : α → β → Prop} {xs xs' : List α} {ys : List β}
    (h : List.Forall₂ R (xs ++ xs') ys) :
    ∃ us vs, ys = us ++ vs ∧ List.Forall₂ R xs us ∧ List.Forall₂ R xs' vs := by
  induction xs generalizing ys with
  | nil => exact ⟨[], ys, rfl, .nil, h⟩
  | cons x xs ih =>
    cases h with
    | cons hx hrest =>
      obtain ⟨us, vs, rfl, hus, hvs⟩ := ih hrest
      exact ⟨_ :: us, vs, rfl, .cons hx hus, hvs⟩

theorem moved_comments {w : List Char} {flags : List Bool}
    (h : List.Forall₂ (Lexeme.Moved m w) (flags.map .comment) parts) : parts = flags.map .comment := by
  induction flags generalizing parts with
  | nil =>
    cases h
    rfl
  | cons flag flags ih =>
    cases h with
    | cons hx hrest =>
      cases hx
      rw [ih hrest]
      rfl

/-- A script and the same with comments behind one of its tokens: the tokens in front of the comments are
moved, those behind them are the same. -/
structure CommentedLexemes (m w : List Char) (t t' : Token) (parts parts' : List Lexeme)
    (before before' rest : List Lexeme) : Prop where
  parts : ∃ flags : List Bool, parts = before ++ .token t :: (flags.map .comment ++ rest)
  parts' : ∃ flags : List Bool, parts' = before' ++ .token t' :: (flags.map .comment ++ rest)
  moved : List.Forall₂ (Lexeme.Moved m w) before before'
  token : t.Moved m w t'
  words : ∀ u ∈ tokensOf before, ∀ u', u.Moved m w u' → SameWord u u'

/-- The word behind a token stays the same when what follows a later one is exchanged. -/
theorem sameWord_of_upTo {w : List Char} {sameLine after : Bool} {before behind : List Lexeme}
    (h : UpTo d m sameLine q (before ++ .token t :: behind) after) {u u' : Token}
    (hu : u ∈ tokensOf before) (hw : EndsWord w) (hu' : u.Moved m w u') : SameWord u u' := by
  obtain ⟨x, hx, hxu⟩ := List.mem_filterMap.1 hu
  cases x with
  | comment => cases hxu
  | token v =>
    cases hxu
    obtain ⟨front, back, rfl⟩ := List.append_of_mem hx
    rw [List.append_assoc, List.cons_append] at h
    obtain ⟨r, hr, hupTo⟩ := h.behind
    obtain ⟨r', hr', rfl⟩ := hu'
    obtain rfl : r = r' := List.append_cancel_right (hr.symm.trans hr')
    unfold SameWord
    rw [hr]
    exact hupTo.typeWord?_eq (List.mem_append_right _ List.mem_cons_self) hw

/-- The parts of a script with comments behind one of its tokens. -/
theorem lexes_commented (h : lexes d false (q ++ (blanks ++ m)) = some parts) (ht : .token t ∈ parts)
    (hrest : t.rest = blanks ++ m) (hblanks : Remarks d blanks) (hgap : Insertion d gap) :
    ∃ parts' t' before before' rest, lexes d false (q ++ (blanks ++ (gap ++ m))) = some parts' ∧
      CommentedLexemes m (gap ++ m) t t' parts parts' before before' rest := by
  obtain ⟨before, behind, hparts, hupTo⟩ := upTo_token h ht hrest
  obtain ⟨flags, after, hblank⟩ := hblanks.upTo m true
  have hplace := hupTo.trans hblank
  obtain ⟨parts', hmoved, hplace'⟩ := hplace.exchange (hgap.endsWord m)
  obtain ⟨flags', after', hcomment⟩ := hgap.remarks.upTo m after
  have hall := hplace.lexes_eq
  rw [List.append_assoc, h] at hall
  obtain ⟨tail, htail, rfl⟩ := Option.map_eq_some_iff.1 hall.symm
  obtain ⟨more, rest, rfl, hfront⟩ := lexes_front d htail
  obtain ⟨more', -, htail'⟩ := hfront after'
  obtain ⟨front, comments, rfl, hfrontMoved, hcomments⟩ := exists_append_of_forall₂ hmoved
  obtain ⟨before', last, rfl, hbefore, hlast⟩ := exists_append_of_forall₂ hfrontMoved
  cases hlast with
  | cons hx hnil =>
    cases hnil
    cases hx with
    | @token _ t' htoken =>
      obtain rfl := moved_comments hcomments
      refine ⟨_, t', before, before', rest, ?_, ⟨flags ++ more, ?_⟩,
        ⟨flags ++ flags' ++ more', rfl⟩, hbefore, htoken, fun u hu u' hu' => ?_⟩
      · rw [← List.append_assoc, hplace'.lexes_eq, hcomment.lexes_eq, htail']
        simp
      · simp
      · exact sameWord_of_upTo (by simpa using hplace) hu (hgap.endsWord m) hu'

/-! ## The segments of the script -/

theorem segments_comments (commented : Bool) (held : List Token) (flags : List Bool)
    (rest : List Lexeme) :
    segments commented held (flags.map .comment ++ rest) = segments commented held rest := by
  induction flags with
  | nil => rfl
  | cons flag flags ih => exact ih

/-- What is held when a segment goes on is its front. -/
theorem segments_held (rest : List Lexeme) :
    ∃ ts behind, ∀ held, segments false held rest = .statement (held.reverse ++ ts) :: behind := by
  induction rest with
  | nil => exact ⟨[], [], fun held => by simp [segments]⟩
  | cons x rest ih =>
    obtain ⟨ts, behind, hall⟩ := ih
    cases x with
    | comment => exact ⟨ts, behind, hall⟩
    | token t =>
      cases hmark : t.isMark ';' with
      | true => exact ⟨[], _, fun held => by simp [segments, hmark]; rfl⟩
      | false => exact ⟨t :: ts, behind, fun held => by simp [segments, hmark, hall]⟩

theorem tokens_of_segments {commented : Bool} {held : List Token} {part : Segment}
    (h : part ∈ segments commented held rest) {u : Token} (hu : u ∈ part.tokens) :
    u ∈ held ∨ u ∈ tokensOf rest := by
  induction rest generalizing commented held with
  | nil =>
    obtain rfl := List.mem_singleton.1 h
    exact .inl (List.mem_reverse.1 hu)
  | cons x rest ih =>
    cases x with
    | comment => exact ih h
    | token t =>
      have htokens : tokensOf (.token t :: rest) = t :: tokensOf rest := rfl
      rw [htokens, List.mem_cons]
      rw [segments] at h
      split at h
      · rcases List.mem_cons.1 h with rfl | h
        · exact .inl (List.mem_reverse.1 hu)
        rcases List.mem_append.1 h with h | h
        · split at h
          · obtain rfl := List.mem_singleton.1 h
            cases hu
          · cases h
        · exact (ih h).elim (fun hu => absurd hu List.not_mem_nil) fun hu => .inr (.inr hu)
      · rcases ih h with hu | hu
        · exact (List.mem_cons.1 hu).elim (fun hu => .inr (.inl hu)) .inl
        · exact .inr (.inr hu)

theorem mem_tokensOf {u : Token} : u ∈ tokensOf parts ↔ .token u ∈ parts := by
  unfold tokensOf
  rw [List.mem_filterMap]
  refine ⟨fun ⟨x, hx, hu⟩ => ?_, fun h => ⟨_, h, rfl⟩⟩
  cases x with
  | comment => cases hu
  | token v =>
    cases hu
    exact hx

theorem tokensOf_append (xs ys : List Lexeme) : tokensOf (xs ++ ys) = tokensOf xs ++ tokensOf ys :=
  List.filterMap_append

theorem tokensOf_comments (flags : List Bool) : tokensOf (flags.map .comment) = [] := by
  induction flags with
  | nil => rfl
  | cons flag flags ih => exact ih

namespace CommentedLexemes

variable {w : List Char} {parts' before before' : List Lexeme}
  (h : CommentedLexemes m w t t' parts parts' before before' rest)

include h

theorem tokens_eq : tokensOf parts = tokensOf before ++ t :: tokensOf rest := by
  obtain ⟨flags, rfl⟩ := h.parts
  rw [tokensOf_append, ← List.singleton_append, tokensOf_append, tokensOf_append, tokensOf_comments]
  rfl

/-- No other token is followed by what follows the commented one. -/
theorem rest_ne (hts : Descending (tokensOf parts)) :
    (∀ u ∈ tokensOf before, u.rest ≠ t.rest) ∧ ∀ u ∈ tokensOf rest, u.rest ≠ t.rest := by
  rw [h.tokens_eq] at hts
  obtain ⟨-, hrest, hbefore⟩ := List.pairwise_append.1 hts
  refine ⟨fun u hu heq => ?_, fun u hu heq => ?_⟩
  · exact absurd (hbefore u hu t List.mem_cons_self) (by simp [heq])
  · exact absurd ((List.pairwise_cons.1 hrest).1 u hu) (by simp [heq])

theorem startsWithComment_eq : startsWithComment parts = startsWithComment parts' := by
  obtain ⟨flags, rfl⟩ := h.parts
  obtain ⟨flags', rfl⟩ := h.parts'
  cases h.moved with
  | nil => rfl
  | cons hx _ => cases hx <;> rfl

/-- The segments of the two scripts: the commented token is in one that `held` starts and `ts` ends. -/
theorem segments_eq {R : Token → Token → Prop}
    (hR : ∀ u ∈ tokensOf before, ∀ u', SameWord u u' → R u u')
    (hts : Descending (tokensOf parts)) (ht : t.isMark ';' = false) :
    ∃ complete complete' held held' ts behind,
      segments (startsWithComment parts) [] parts =
        complete ++ .statement (held.reverse ++ t :: ts) :: behind ∧
      segments (startsWithComment parts') [] parts' =
        complete' ++ .statement (held'.reverse ++ t' :: ts) :: behind ∧
      UpToEnd d R m w (tokensOf before) complete complete' held held' ∧
      ∀ part ∈ .statement ts :: behind, ∀ u ∈ part.tokens, u ∈ tokensOf rest := by
  rw [← h.startsWithComment_eq]
  generalize startsWithComment parts = commented
  rw [h.tokens_eq] at hts
  obtain ⟨flags, rfl⟩ := h.parts
  obtain ⟨flags', rfl⟩ := h.parts'
  have hcarries : carriesComment (.token t :: (flags.map .comment ++ rest)) =
      carriesComment (.token t' :: (flags'.map .comment ++ rest)) := rfl
  obtain ⟨complete, complete', held, held', flag, hupTo, heq, heq'⟩ :=
    segments_exchange (d := d) h.moved hcarries rfl commented .nil
      (hts.sublist (List.sublist_append_left _ _)) fun u hu u' hu' => hR u hu _ (h.words u hu u' hu')
  obtain ⟨ts, behind, hheld⟩ := segments_held rest
  refine ⟨complete, complete', held, held', ts, behind, ?_, ?_, hupTo, fun part hpart u hu => ?_⟩
  · rw [heq, segments, ht, if_neg Bool.false_ne_true, segments_comments, hheld]
    simp
  · rw [heq', segments, ← h.token.like.isMark, ht, if_neg Bool.false_ne_true, segments_comments, hheld]
    simp
  · have hmem : part ∈ segments false [] rest := by
      rw [hheld]
      exact hpart
    exact (tokens_of_segments hmem hu).resolve_left List.not_mem_nil

end CommentedLexemes

/-! ## The statements of the script -/

/-- Two tokens behind which the same word is read, unless comments were put in behind the first. -/
def Retold (old new : List Char) (t u : Token) : Prop :=
  if t.rest = old then u.rest = new else SameWord t u

theorem retold_of_eq {old new : List Char} {u : Token} (h : t.rest = old) :
    Retold old new t u ↔ u.rest = new := by
  rw [Retold, if_pos h]

theorem retold_of_ne {old new : List Char} {u : Token} (h : t.rest ≠ old) :
    Retold old new t u ↔ SameWord t u := by
  rw [Retold, if_neg h]

variable {w : List Char} {parts' before before' : List Lexeme}

/-- The tokens of the statement with comments behind the name of a column. -/
theorem alike_commented {R : Token → Token → Prop} {held held' ts : List Token} {r : List Char}
    {c : ColumnEntry} {front us : List Token} {mark : Token}
    (hheld : List.Forall₂ (Token.Moved m w) held held') (ht : t.Moved m w t') (hr : R t t')
    (hts : Descending (held.reverse ++ [t]))
    (hR : ∀ u ∈ held.reverse, ∀ u', u.Moved m w u' → R u u') (hrefl : ∀ u ∈ ts, R u u)
    (hplace : c.Place d r (held.reverse ++ t :: ts) front mark t us)
    {type : DataType} (htype : c.type = some type) (hfront : t ∉ held.reverse) (hbehind : t ∉ ts) :
    Alike (tokenwise d R) false (held.reverse ++ t :: ts) (held'.reverse ++ t' :: ts) := by
  obtain ⟨heq, -, rfl⟩ : held.reverse = front ++ [mark] ∧ t = t ∧ ts = us := by
    refine (List.append_cons_inj_of_notMem hfront hbehind).1 ?_
    rw [hplace.split]
    simp
  obtain ⟨hheldOrder, -, horder⟩ := List.pairwise_append.1 hts
  have hnext : Option.Rel (Token.Moved m w) (t :: ts).head? (t' :: ts).head? := .some ht
  refine alike_append (List.rel_reverse hheld) hheldOrder hR hnext ?_ ?_
  · rintro u hu _ ⟨⟩
    exact horder u hu t List.mem_cons_self
  · refine .cons ht.like ?_ (fun hd hdash => ?_) (alike_refl hrefl)
    · rintro _ ⟨⟩ _ ⟨⟩
      exact hr
    · -- no dashed name goes on behind a mark, and none starts in front of a type
      have hmark : mark.endsDashes = true := hplace.endsDashes (by rintro rfl; cases hd)
      rw [(hplace.next type htype).2, heq, dashesAfter, List.foldl_append] at hdash
      simp [hmark] at hdash

/-- The tokens of the segments are in order tokens of the script. -/
theorem segments_sublist (commented : Bool) (held : List Token) (rest : List Lexeme) :
    ((segments commented held rest).flatMap Segment.tokens).Sublist (held.reverse ++ tokensOf rest) := by
  induction rest generalizing commented held with
  | nil => simp [segments, Segment.tokens]
  | cons x rest ih =>
    cases x with
    | comment => exact ih commented held
    | token t =>
      have htokens : tokensOf (.token t :: rest) = t :: tokensOf rest := rfl
      have hremark (b : Bool) : (if b then [Segment.remark] else []).flatMap Segment.tokens = [] := by
        cases b <;> rfl
      rw [segments, htokens]
      split
      · rw [List.cons_append, List.flatMap_cons, List.flatMap_append, hremark]
        exact ((ih false []).cons t).append_left held.reverse
      · simpa using ih false (t :: held)

/-- A segment has one statement at most. -/
theorem Segment.statements_cases {part : Segment} {l : List Statement}
    (h : part.statements d = some l) : l = [] ∨ ∃ s, l = [s] ∧
      (s.entries = [] ∨ readStatement d part.tokens = some s) := by
  match part, h with
  | .remark, h =>
    cases h
    exact .inr ⟨_, rfl, .inl rfl⟩
  | .statement [], h =>
    cases h
    exact .inl rfl
  | .statement (t :: ts), h =>
    obtain ⟨s, hs, rfl⟩ := Option.map_eq_some_iff.1 h
    exact .inr ⟨s, rfl, .inr hs⟩

/-- The segment of the first statement, in front of those of the other ones. -/
theorem segment_of_first {segments : List Segment} {lists : List (List Statement)} {s : Statement}
    {ss : List Statement} (h : List.Forall₂ (fun part l => Segment.statements d part = some l)
      segments lists) (hflat : lists.flatten = s :: ss) :
    ∃ front part behind, segments = front ++ part :: behind ∧
      (s.entries = [] ∨ readStatement d part.tokens = some s) ∧
      ∀ s' ∈ ss, s'.entries = [] ∨ ∃ part' ∈ behind, readStatement d part'.tokens = some s' := by
  induction h with
  | nil => cases hflat
  | @cons part l segments lists hpart hrest ih =>
    rcases Segment.statements_cases hpart with rfl | ⟨s', rfl, hread⟩
    · obtain ⟨front, part', behind, rfl, hfound⟩ := ih hflat
      exact ⟨part :: front, part', behind, rfl, hfound⟩
    · obtain ⟨rfl, rfl⟩ := List.cons.inj hflat
      refine ⟨[], part, segments, rfl, hread, fun s' hs' => ?_⟩
      obtain ⟨l, hl, hs'⟩ := List.mem_flatten.1 hs'
      obtain ⟨part', hpart', hl⟩ := exists_of_forall₂ hrest.flip hl
      rcases Segment.statements_cases hl with rfl | ⟨s'', rfl, hread'⟩
      · cases hs'
      · obtain rfl := List.mem_singleton.1 hs'
        exact hread'.imp id fun hread' => ⟨part', hpart', hread'⟩

/-- The segment that a first CREATE statement comes from. No token of it is followed by what follows a
token of a later statement. -/
theorem segment_of_create {script : String} {keyword : String} {table : Option TableName}
    {entries : List Entry} {ss : List Statement}
    (h : parse d script = some (.create keyword table entries :: ss)) (hne : entries ≠ []) :
    ∃ parts, lexes d false script.toList = some parts ∧ ∃ ts,
      .statement ts ∈ segments (startsWithComment parts) [] parts ∧
      readStatement d ts = some (.create keyword table entries) ∧
      ∀ s ∈ ss, s.entries = [] ∨ ∃ us, readStatement d us = some s ∧
        ∀ t ∈ ts, ∀ u ∈ us, u.rest.length < t.rest.length := by
  unfold parse at h
  obtain ⟨parts, hparts, h⟩ := Option.bind_eq_some_iff.1 h
  obtain ⟨lists, hlists, h⟩ := Option.bind_eq_some_iff.1 h
  obtain ⟨front, part, behind, hsplit, hread, hothers⟩ :=
    segment_of_first (mapM_eq_some.1 hlists) (Option.some.inj h)
  have hordered : Descending ((front ++ part :: behind).flatMap Segment.tokens) :=
    hsplit ▸ (descending_lexes hparts).sublist (segments_sublist _ [] parts)
  have hpart := hread.resolve_left hne
  cases part with
  | remark => cases hpart
  | statement ts =>
    refine ⟨parts, hparts, ts, hsplit ▸ List.mem_append_right _ List.mem_cons_self, hpart,
      fun s hs => (hothers s hs).imp id ?_⟩
    rintro ⟨part', hpart', hread'⟩
    refine ⟨part'.tokens, hread', fun t ht u hu => ?_⟩
    rw [List.flatMap_append, List.flatMap_cons] at hordered
    have hbehind := (List.pairwise_append.1 (List.pairwise_append.1 hordered).2.1).2.2
    exact hbehind t ht u (List.mem_flatMap.2 ⟨part', hpart', hu⟩)

/-- The segments of a script with comments behind the name of a column are alike, and the name stands once
in its segment. -/
theorem CommentedLexemes.segments_like
    (h : CommentedLexemes m w t t' parts parts' before before' rest)
    (hts : Descending (tokensOf parts)) {R : Token → Token → Prop}
    (hR : ∀ u u', u.rest ≠ t.rest → SameWord u u' → R u u') (hr : R t t') {all front us : List Token} {mark : Token}
    (hall : .statement all ∈ segments (startsWithComment parts) [] parts) {c : ColumnEntry}
    {r : List Char} (hplace : c.Place d r all front mark t us) {type : DataType}
    (htype : c.type = some type) :
    List.Forall₂ (Segment.Like (tokenwise d R)) (segments (startsWithComment parts) [] parts)
      (segments (startsWithComment parts') [] parts') ∧
    ∃ front ts, all = front ++ t :: ts ∧ t ∉ front ∧ t ∉ ts := by
  obtain ⟨hbefore, hrest⟩ := h.rest_ne hts
  have hrefl : ∀ u ∈ tokensOf rest, R u u := fun u hu => hR u u (hrest u hu) rfl
  obtain ⟨complete, complete', held, held', ts, behind, heq, heq', hupTo, hbehind⟩ :=
    h.segments_eq (d := d) (fun u hu u' => hR u u' (hbefore u hu)) hts hplace.goesOn
  have hheld : t ∉ held.reverse := fun ht => hbefore t (hupTo.sublist.subset ht) rfl
  have htail : t ∉ ts := fun ht => hrest t (hbehind _ List.mem_cons_self t ht) rfl
  have ht : t ∈ all := hplace.split ▸ List.mem_append_right _ (.tail _ List.mem_cons_self)
  -- the segment of the column is the one that is commented: no other one holds its name
  obtain rfl : all = held.reverse ++ t :: ts := by
    rw [heq] at hall
    rcases List.mem_append.1 hall with hall | hall
    · exact absurd rfl (hbefore t (hupTo.mem _ hall t ht))
    rcases List.mem_cons.1 hall with hall | hall
    · exact Segment.statement.inj hall
    · exact absurd rfl (hrest t (hbehind _ (List.mem_cons_of_mem _ hall) t ht))
  refine ⟨?_, held.reverse, ts, rfl, hheld, htail⟩
  rw [heq, heq']
  refine List.rel_append hupTo.alike (.cons (.statement ?_) (List.forall₂_same.2 fun part hpart => ?_))
  · have hsub : (held.reverse ++ [t]).Sublist (tokensOf parts) :=
      h.tokens_eq ▸ hupTo.sublist.append (List.singleton_sublist.2 List.mem_cons_self)
    exact alike_commented hupTo.moved h.token hr (hts.sublist hsub)
      (fun u hu u' hu' => hR u u' (hbefore u (hupTo.sublist.subset hu))
        (h.words u (hupTo.sublist.subset hu) u' hu'))
      (fun u hu => hrefl u (hbehind _ List.mem_cons_self u hu)) hplace htype hheld htail
  · cases part with
    | statement ts =>
      exact .statement (alike_refl fun u hu => hrefl u (hbehind _ (List.mem_cons_of_mem _ hpart) u hu))
    | remark => exact .remark

/-- `commented` is `script` with block comments put in behind the name of the column `c`, and perhaps
behind some blanks and comments that follow it. -/
structure Commented (d : Dialect) (c : ColumnEntry) (script commented : String)
    (before blanks gap behind : List Char) : Prop where
  script : script.toList = before ++ (blanks ++ behind)
  commented : commented.toList = before ++ (blanks ++ (gap ++ behind))
  name : c.after = some (blanks ++ behind)
  blanks : Remarks d blanks
  gap : Insertion d gap

/-- Segments that are alike are read as statements that are alike. -/
theorem parse_like {R : Token → Token → Prop} {script script' : String}
    (h : lexes d false script.toList = some parts) (h' : lexes d false script'.toList = some parts')
    (hlike : List.Forall₂ (Segment.Like (tokenwise d R)) (segments (startsWithComment parts) [] parts)
      (segments (startsWithComment parts') [] parts')) :
    Option.Rel (List.Forall₂ (Statement.Like (Entry.Like (tokenwise d R)))) (parse d script)
      (parse d script') := by
  rw [parse_of_lexes h, parse_of_lexes h']
  exact mapM_statements_like hlike

/-- Comments behind the name of a column with a type leave the statements as they are, but for what
follows the names of columns. The name is that of no other column, and the name of the type is not
empty. -/
theorem parse_commented {c : ColumnEntry} {script commented : String}
    {before blanks gap behind : List Char} (h : Commented d c script commented before blanks gap behind)
    {keyword : String} {table : Option TableName} {entries : List Entry} {ss : List Statement}
    (hss : parse d script = some (.create keyword table entries :: ss)) (hc : .column c ∈ entries)
    {type : DataType} (htype : c.type = some type) :
    (∃ ss', parse d commented = some ss' ∧
      List.Forall₂ (Statement.Like (Entry.Like (tokenwise d
        (Retold (blanks ++ behind) (blanks ++ (gap ++ behind))))))
        (.create keyword table entries :: ss) ss') ∧
    (∀ c', .column c' ∈ entries → c'.after = c.after → c' = c) ∧
    (∀ s ∈ ss, ∀ c', .column c' ∈ s.entries → c'.after ≠ c.after) ∧ ∀ n ∈ type.name, n ≠ "" := by
  obtain ⟨parts, hparts, all, hall, hread, hothers⟩ :=
    segment_of_create hss (List.ne_nil_of_mem hc)
  obtain ⟨front, mark, t, us, hplace⟩ := exists_place hread hc h.name
  have ht : t ∈ all := hplace.split ▸ List.mem_append_right _ (.tail _ List.mem_cons_self)
  have hlexeme := mem_tokensOf.1 ((tokens_of_segments hall ht).resolve_left List.not_mem_nil)
  have hlexes := hparts
  rw [h.script] at hlexes
  obtain ⟨parts', t', before', before'', rest, hparts', hlexemes⟩ :=
    lexes_commented hlexes hlexeme hplace.follows h.blanks h.gap
  rw [← h.commented] at hparts'
  have hretold : Retold (blanks ++ behind) (blanks ++ (gap ++ behind)) t t' := by
    obtain ⟨r, hr, rfl⟩ := hlexemes.token
    obtain rfl : blanks = r := List.append_cancel_right (hplace.follows.symm.trans hr)
    exact (retold_of_eq hr).2 rfl
  have hword : ∀ u u', u.rest ≠ t.rest → SameWord u u' →
      Retold (blanks ++ behind) (blanks ++ (gap ++ behind)) u u' := fun u u' hne =>
    (retold_of_ne (hplace.follows ▸ hne)).2
  obtain ⟨hlike, l, r, hsplit, hl, hr⟩ := hlexemes.segments_like (d := d) (descending_lexes hparts)
    hword hretold hall hplace htype
  have hparse := parse_like hparts hparts' hlike
  rw [hss] at hparse
  refine ⟨?_, fun c' hc' hafter => ?_, fun s hs c' hc' hafter => ?_, (hplace.next type htype).1⟩
  · generalize parse d commented = o at hparse
    cases hparse with
    | some hparse => exact ⟨_, rfl, hparse⟩
  · obtain ⟨front', mark', u, us', hplace'⟩ := exists_place hread hc' (hafter.trans h.name)
    have hu : u ∈ all := hplace'.split ▸ List.mem_append_right _ (.tail _ List.mem_cons_self)
    obtain rfl : t = u := by
      have hmem : ∀ v ∈ all, v ∈ tokensOf parts := fun v hv =>
        (tokens_of_segments hall hv).resolve_left List.not_mem_nil
      exact (descending_lexes hparts).eq_of_rest (hmem t ht) (hmem u hu)
        (hplace.follows.trans hplace'.follows.symm)
    have hsame {front : List Token} {mark : Token} {us : List Token}
        (heq : all = front ++ mark :: t :: us) : us = r := by
      have hmove : l ++ t :: r = (front ++ [mark]) ++ t :: us := by
        rw [← hsplit, heq]
        simp
      exact ((List.append_cons_inj_of_notMem hl hr).1 hmove).2.2.symm
    obtain ⟨rest, hcolumn⟩ := hplace.read
    obtain ⟨rest', hcolumn'⟩ := hplace'.read
    rw [hsame hplace.split] at hcolumn
    rw [hsame hplace'.split, hcolumn] at hcolumn'
    cases hcolumn'
    rfl
  · -- a later statement is read from tokens behind those of the first
    obtain hnone | ⟨us', hread', hbehind⟩ := hothers s hs
    · rw [hnone] at hc'
      cases hc'
    cases s with
    | other kind => cases hc'
    | create keyword' table' entries' =>
      obtain ⟨front', mark', u, us'', hplace'⟩ := exists_place hread' hc' (hafter.trans h.name)
      have hu : u ∈ us' := hplace'.split ▸ List.mem_append_right _ (.tail _ List.mem_cons_self)
      have hlater := hbehind t ht u hu
      rw [hplace.follows, hplace'.follows] at hlater
      exact absurd hlater (Nat.lt_irrefl _)

end TableScaffold.Sql
