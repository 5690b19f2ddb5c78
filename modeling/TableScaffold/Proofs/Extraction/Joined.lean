import TableScaffold.Proofs.Extraction.Acceptance
import TableScaffold.Proofs.Sql.Alike.Moved
import TableScaffold.Proofs.Sql.Remarks

/-!
# Scripts joined by a semicolon

Two scripts without comments that are joined by a semicolon have the trees of the one and then those of
the other (`extract_joined`). A semicolon ends every word, so the first script is split into tokens as it
is alone, and the word behind the name of a column stays the same; the second script starts where the
tokens are as good as at the start of a script.
-/

namespace TableScaffold

namespace Sql

open Text

/-- Whether a part of a script is a token. -/
def Lexeme.isToken : Lexeme → Bool
  | .token _ => true
  | .comment _ => false

/-- Whether nothing in a script is read as a comment. -/
def commentFree (d : Dialect) (script : String) : Bool :=
  (lexemes? d script.toList).all (·.all Lexeme.isToken)

variable {d : Dialect} {sameLine sameLine' : Bool} {p q : List Char} {ts us : List Token}

theorem tokens_of_commentFree {script : String} {parts : List Lexeme}
    (h : commentFree d script = true) (hparts : lexes d false script.toList = some parts) :
    ∃ ts : List Token, parts = ts.map .token := by
  refine exists_tokens fun b hb => ?_
  have hlexemes : lexemes? d script.toList = some parts := hparts
  rw [commentFree, hlexemes] at h
  exact Bool.false_ne_true (List.all_eq_true.1 h _ hb)

/-- Where the lines end matters to comments only. -/
theorem lexes_sameLine (h : lexes d sameLine q = some (ts.map .token)) :
    lexes d sameLine' q = some (ts.map .token) := by
  obtain ⟨flags, rest, hparts, hall⟩ := lexes_front d h
  cases flags with
  | nil =>
    obtain ⟨flags', hlength, hrest⟩ := hall sameLine'
    rw [hrest, List.eq_nil_of_length_eq_zero hlength, hparts]
  | cons =>
    cases ts <;> cases hparts

/-- The tokens of two scripts that are joined by a semicolon. -/
theorem lexes_join (hp : lexes d false p = some (ts.map .token))
    (hq : lexes d false q = some (us.map .token)) :
    ∃ ts' : List Token,
      List.Forall₂ (Lexeme.Moved [] (';' :: q)) (ts.map .token) (ts'.map .token) ∧
      lexes d false (p ++ ';' :: q) = some ((ts' ++ Token.ofMark ';' q :: us).map .token) := by
  have hmark : ';' ∈ closers := by decide
  have hend : EndsWord (';' :: q) := by simp [EndsWord, hmark]
  obtain ⟨after, hupTo⟩ := upTo_end hp (by simp)
  obtain ⟨parts, hmoved, hupTo⟩ := hupTo.exchange hend
  obtain ⟨ts', rfl⟩ := moved_tokens hmoved
  obtain ⟨hblank, hcomment⟩ := mark_class hmark
  refine ⟨ts', hmoved, ?_⟩
  rw [hupTo.lexes_eq, lexes_token d hblank (comment?_eq_none d q hcomment) (token?_mark d hmark q)]
  show ((lexes d true q).map _).map _ = _
  rw [lexes_sameLine hq, Option.map_some, Option.map_some, List.map_append, List.map_cons]

/-- The segments of a script without comments, if a semicolon follows it. -/
theorem segments_semicolon {ts' : List Token}
    (h : List.Forall₂ (Lexeme.Moved [] (';' :: q)) (ts.map .token) (ts'.map .token))
    (hts : Descending ts) :
    List.Forall₂ (Segment.Like (tokenwise d SameWord)) (segments false [] (ts.map .token))
      (segments false [] (ts'.map .token)) := by
  have hword : ∀ t ∈ ts, ∀ u, t.Moved [] (';' :: q) u → SameWord t u := by
    rintro t - _ ⟨r, hr, rfl⟩
    unfold SameWord
    rw [hr, List.append_nil]
    exact (typeWord?_append (by decide) (by decide) r q).symm
  have htokens : [].reverse ++ tokensOf (ts.map .token) = ts := tokensOf_map ts
  obtain ⟨parts, parts', last, last', flag, hupTo, heq, heq'⟩ :=
    segments_exchange (d := d) h (rfl : carriesComment [] = _) rfl false .nil (htokens.symm ▸ hts)
      (htokens.symm ▸ hword)
  rw [List.append_nil] at heq heq'
  rw [heq, heq']
  refine List.rel_append hupTo.alike (.cons (.statement ?_) .nil)
  rw [htokens] at hupTo
  exact alike_of_moved (List.rel_reverse hupTo.moved) (hts.sublist hupTo.sublist)
    fun t ht => hword t (hupTo.sublist.subset ht)

/-- The statements of two scripts that are joined by a semicolon. -/
theorem parse_join {a b : String} {ss ss' : List Statement} (ha : commentFree d a = true)
    (hb : commentFree d b = true) (hss : parse d a = some ss) (hss' : parse d b = some ss') :
    ∃ front, List.Forall₂ (Statement.Like (Entry.Like (tokenwise d SameWord))) ss front ∧
      parse d (a ++ ";" ++ b) = some (front ++ ss') := by
  obtain ⟨parts, hparts, -⟩ := Option.bind_eq_some_iff.1 hss
  obtain ⟨parts', hparts', -⟩ := Option.bind_eq_some_iff.1 hss'
  obtain ⟨ts, rfl⟩ := tokens_of_commentFree ha hparts
  obtain ⟨us, rfl⟩ := tokens_of_commentFree hb hparts'
  obtain ⟨ts', hmoved, hlexes⟩ := lexes_join hparts hparts'
  have hjoined : (a ++ ";" ++ b).toList = a.toList ++ ';' :: b.toList := by simp
  rw [← hjoined] at hlexes
  rw [parse_of_lexes hparts, startsWithComment_tokens] at hss
  rw [parse_of_lexes hparts', startsWithComment_tokens] at hss'
  have hdescending : Descending ts := tokensOf_map ts ▸ descending_lexes hparts
  have hlike := mapM_statements_like (segments_semicolon (d := d) hmoved hdescending)
  rw [show (tokenwise d SameWord).dialect = d from rfl, hss] at hlike
  obtain ⟨parts, hpart, hflat⟩ := Option.map_eq_some_iff.1 hss'
  rw [parse_of_lexes hlexes, startsWithComment_tokens, segments_join rfl, List.mapM_append, hpart]
  generalize (segments false [] (ts'.map .token)).mapM (Segment.statements d) = o at hlike ⊢
  cases o with
  | none => cases hlike
  | some front =>
    obtain ⟨hlike⟩ := hlike
    exact ⟨_, hlike, by simp [hflat]⟩

/-- The trees of two scripts that are joined by a semicolon. -/
theorem trees_join {a b : String} {vs ws : List Value} (ha : commentFree d a = true)
    (hb : commentFree d b = true) (hvs : (trees d a).outcome = .ok vs)
    (hws : (trees d b).outcome = .ok ws) : (trees d (a ++ ";" ++ b)).outcome = .ok (vs ++ ws) := by
  obtain ⟨ss, hss, htrees⟩ := statements_of_trees hvs
  obtain ⟨ss', hss', htrees'⟩ := statements_of_trees hws
  obtain ⟨front, hfront, hjoined⟩ := parse_join ha hb hss hss'
  have hfrontTrees : front.mapM Statement.tree = .ok vs := by
    rw [← htrees]
    refine (mapM_congr (hfront.imp fun _ _ h => h.tree_eq fun _ _ he => ?_)).symm
    exact he.tree_eq fun _ _ htu => relates_tokenwise.1 htu
  rw [outcome_trees hjoined, List.mapM_append, hfrontTrees, htrees']
  rfl

end Sql

/-- Statements are read on their own and in order: two scripts without comments that are joined by a
semicolon have the trees of the one and then those of the other, and the schema is that of the first, if
it has a statement. -/
theorem extract_joined {d : Sql.Dialect} {a b : String} {vs ws : List Value}
    (ha : Sql.commentFree d a = true) (hb : Sql.commentFree d b = true)
    (hvs : (Sql.trees d a).outcome = .ok vs) (hws : (Sql.trees d b).outcome = .ok ws) :
    (Sql.trees d (a ++ ";" ++ b)).outcome = .ok (vs ++ ws) ∧
      (vs ≠ [] → (extract (.list (vs ++ ws))).outcome = (extract (.list vs)).outcome) := by
  refine ⟨Sql.trees_join ha hb hvs hws, fun hne => ?_⟩
  obtain ⟨v, rest, rfl⟩ := List.exists_cons_of_ne_nil hne
  rw [(extract_statementOf _).1, (extract_statementOf (.list (v :: rest))).1]
  rfl

/-- Semicolons in names and texts part nothing, and empty statements leave no trees. -/
theorem extract_joined_quoted : ∃ vs ws,
    (Sql.trees .mysql "CREATE TABLE \x60a;b\x60 (x VARCHAR(3));;").outcome = .ok vs ∧
    (Sql.trees .mysql " ; CREATE TABLE u (c TIMESTAMP DEFAULT ';', d INT); DROP TABLE v").outcome =
      .ok ws ∧
    vs.length = 1 ∧ ws.length = 2 ∧
    (Sql.trees .mysql ("CREATE TABLE \x60a;b\x60 (x VARCHAR(3));;" ++ ";" ++
      " ; CREATE TABLE u (c TIMESTAMP DEFAULT ';', d INT); DROP TABLE v")).outcome = .ok (vs ++ ws) ∧
    (extract (.list (vs ++ ws))).outcome = (extract (.list vs)).outcome := by
  have hfirst : (Sql.trees .mysql "CREATE TABLE \x60a;b\x60 (x VARCHAR(3));;").outcome.toOption.map
      List.length = some 1 := by
    decide +kernel
  have hsecond : (Sql.trees .mysql
      " ; CREATE TABLE u (c TIMESTAMP DEFAULT ';', d INT); DROP TABLE v").outcome.toOption.map
      List.length = some 2 := by
    decide +kernel
  obtain ⟨vs, hvs, hlength⟩ := Option.map_eq_some_iff.1 hfirst
  obtain ⟨ws, hws, hlength'⟩ := Option.map_eq_some_iff.1 hsecond
  have htrees := Attempt.ok_of_toOption hvs
  have htrees' := Attempt.ok_of_toOption hws
  obtain ⟨hjoined, hextract⟩ := extract_joined (by decide +kernel) (by decide +kernel) htrees htrees'
  refine ⟨vs, ws, htrees, htrees', hlength, hlength', hjoined, hextract ?_⟩
  rintro rfl
  cases hlength

end TableScaffold
