import TableScaffold.Proofs.Sql.Entry
import TableScaffold.Sql.Script

/-!
# Reading a script that creates one table

`parse_statement`: a script whose parts fit, and whose tokens are a statement without semicolons and
perhaps a semicolon behind it, is that statement alone.
-/

namespace TableScaffold.Sql

namespace Reading

variable {t : Token} {ts : List Token}

/-- A list of entries that does not start like a query is read as such. -/
theorem run_body (d : Dialect) (p : List Char) {us : List Token} {es : List (List Entry)}
    (hmark : t.kind ≠ .mark) (hquery : t.isOneOf ["SELECT", "WITH"] = false)
    (h : (closedList (entries d)).run (t :: us) = some (es, ts)) :
    (body d).run (.ofMark '(' p :: t :: us) = some (es.flatten, ts) := by
  simp [body, Token.isMark_eq_false hmark, hquery, h]

theorem run_tableEnd_nil (d : Dialect) : (tableEnd d).run [] = some ((), []) := by
  cases d <;> rfl

/-- A table after the word `CREATE`. -/
theorem run_create {d : Dialect} {table : Token} (htable : table.Spells "TABLE")
    (ht : NamesTable d t) (hfree : t.hasText creationWords = false) (q : List Char)
    {us : List Token} {es : List Entry}
    (h : (body d).run (.ofMark '(' q :: us) = some (es, [])) :
    (create d).run (table :: t :: .ofMark '(' q :: us) =
      some (.create "table" (some ⟨none, t.text⟩) es, []) := by
  have hlower : Text.lower "TABLE" = "table" := by decide +kernel
  have hconcurrently : t.hasText ["CONCURRENTLY"] = false := Token.hasText_of_subset hfree (by decide)
  have hif : t.hasText ["IF"] = false := Token.hasText_of_subset hfree (by decide)
  have hcreation : (creation d "TABLE").run (t :: .ofMark '(' q :: us) =
      some (.create "table" (some ⟨none, t.text⟩) es, []) := by
    simp [creation, run_tableName ht, hconcurrently, hif, h, run_tableEnd_nil, finish, hlower]
  simp [create, firstOf, afterWords, htable.isWord, htable.isOneOf, creatables, htable.2, hcreation]

/-- A statement that creates a table. -/
theorem run_statement {d : Dialect} {create table : Token} (hc : create.Spells "CREATE")
    (htable : table.Spells "TABLE") (ht : NamesTable d t) (hfree : t.hasText creationWords = false)
    (q : List Char) {us : List Token} {es : List Entry}
    (h : (body d).run (.ofMark '(' q :: us) = some (es, [])) :
    (statement d).run (create :: table :: t :: .ofMark '(' q :: us) =
      some (.create "table" (some ⟨none, t.text⟩) es, []) := by
  simp [statement, hc.isWord, run_create htable ht hfree q h]

/-- No table is made under a name that is found as a word in front of it: then no name is left. -/
theorem run_create_refused {table : Token} (htable : table.Spells "TABLE")
    (htext : t.hasText creationWords = true) (q : List Char) (us : List Token) :
    (create .mysql).run (table :: t :: .ofMark '(' q :: us) = none := by
  have hopen (ws : List String) (hws : "(" ∉ ws) : (Token.ofMark '(' q).hasText ws = false := by
    have hupper : Text.upper "(" = "(" := by decide +kernel
    simp [Token.hasText, Token.ofMark, hupper, hws]
  have hif := hopen ["IF"] (by decide)
  have hname : (tableName .mysql).run (.ofMark '(' q :: us) = none := by
    simp [tableName, allTableParts, tablePart, isPlainName, isStrayQuote, isMarkOf_ofMark]
  have hcreation : (creation .mysql "TABLE").run (t :: .ofMark '(' q :: us) = none := by
    cases hc : t.hasText ["CONCURRENTLY"] with
    | true => simp [creation, hc, hif, hname]
    | false =>
      have hi : t.hasText ["IF"] = true := by
        rwa [creationWords, Token.hasText_cons, hc, Bool.false_or] at htext
      simp [creation, hc, hi, hname]
  simp [create, firstOf, afterWords, htable.isWord, htable.isOneOf, creatables, htable.2, hcreation]

end Reading

/-- Tokens that are no semicolon are held for the statement that they are part of. -/
theorem segments_append {ts : List Token} (h : ∀ t ∈ ts, t.isMark ';' = false) (held : List Token)
    (rest : List Lexeme) :
    segments false held (ts.map .token ++ rest) = segments false (ts.reverse ++ held) rest := by
  induction ts generalizing held with
  | nil => rfl
  | cons t ts ih =>
    have ht := h t List.mem_cons_self
    have ih := ih (fun u hu => h u (List.mem_cons_of_mem _ hu)) (t :: held)
    rw [List.map_cons, List.cons_append, segments, ht, if_neg (by simp), ih]
    simp

/-- A semicolon at the end closes the one statement and starts none. -/
theorem segments_statement {ts us : List Token} (h : ∀ t ∈ ts, t.isMark ';' = false)
    (hus : us = ts ∨ ∃ r, us = ts ++ [.ofMark ';' r]) :
    segments false [] (us.map .token) = [.statement ts] ∨
      segments false [] (us.map .token) = [.statement ts, .statement []] := by
  rcases hus with rfl | ⟨r, rfl⟩
  · refine .inl ?_
    have hseg := segments_append h [] []
    rw [List.append_nil, List.append_nil] at hseg
    rw [hseg, segments, List.reverse_reverse]
  · refine .inr ?_
    rw [List.map_append, segments_append h]
    simp [segments, carriesComment]

/-- Only a mark gives a token that is a semicolon. -/
theorem isMark_of_mem_tokens {ps : List Part} (h : .mark ';' ∉ ps) :
    ∀ t ∈ tokens ps, t.isMark ';' = false := by
  induction ps with
  | nil => simp [tokens]
  | cons p ps ih =>
    have ih := ih fun hm => h (List.mem_cons_of_mem _ hm)
    cases p with
    | blank => exact ih
    | mark b =>
      have hb : b ≠ ';' := fun e => h (by rw [e]; exact List.mem_cons_self)
      simpa [tokens, hb] using ih
    | word w => simpa [tokens, Token.isMark] using ih
    | name s => simpa [tokens, Token.isMark] using ih
    | number n => simpa [tokens, Token.isMark] using ih
    | other kind written text inside =>
      refine List.forall_mem_cons.2 ⟨?_, ih⟩
      simpa [Token.isMark] using inside

/-- A script is the statement of its tokens, with or without a semicolon at the end. -/
theorem parse_statement {d : Dialect} {text : String} {ps : List Part} {ts : List Token}
    {s : Statement} (htext : text.toList = script ps) (hfit : Fit d ps)
    (hmark : ∀ t ∈ ts, t.isMark ';' = false)
    (hps : tokens ps = ts ∨ ∃ r, tokens ps = ts ++ [.ofMark ';' r])
    (h : (Reading.statement d).run ts = some (s, [])) : parse d text = some [s] := by
  have hread : readStatement d ts = some s := by
    unfold readStatement
    rw [show Reading.statement d ts = some (s, []) from h]
  obtain ⟨t, us, rfl⟩ : ∃ t us, ts = t :: us := by
    refine List.exists_cons_of_ne_nil ?_
    rintro rfl
    exact absurd h (by simp [Reading.statement])
  have hsegment : Segment.statements d (.statement (t :: us)) = some [s] := by
    rw [Segment.statements, hread, Option.map_some]
    simp
  have hempty : Segment.statements d (.statement []) = some [] := rfl
  have hstart : startsWithComment ((tokens ps).map .token) = false := by
    rcases hps with hps | ⟨r, hps⟩ <;> rw [hps] <;> rfl
  unfold parse
  rw [htext, lexemes?_script d hfit]
  simp only [Option.bind_eq_bind, Option.bind_some, hstart]
  rcases segments_statement hmark hps with hsegments | hsegments <;> rw [hsegments] <;>
    simp [hsegment, hempty]

/-- A script without a semicolon is the statement of its tokens. -/
theorem parse_script {d : Dialect} {text : String} {ps : List Part} {s : Statement}
    (htext : text.toList = script ps) (hfit : Fit d ps) (hmark : .mark ';' ∉ ps)
    (h : (Reading.statement d).run (tokens ps) = some (s, [])) : parse d text = some [s] :=
  parse_statement htext hfit (isMark_of_mem_tokens hmark) (.inl rfl) h

/-- A script that starts no statement is not read. -/
theorem parse_refused {d : Dialect} {text : String} {ps : List Part} {t : Token} {us : List Token}
    (htext : text.toList = script ps) (hfit : Fit d ps) (hmark : .mark ';' ∉ ps)
    (hps : tokens ps = t :: us) (h : (Reading.statement d).run (t :: us) = none) :
    parse d text = none := by
  have hread : readStatement d (t :: us) = none := by
    unfold readStatement
    rw [show Reading.statement d (t :: us) = none from h]
  have hone := segments_append (isMark_of_mem_tokens hmark) [] []
  rw [hps, List.append_nil, List.append_nil, segments, List.reverse_reverse] at hone
  have hstart : startsWithComment ((t :: us).map .token) = false := rfl
  have hsegment : Segment.statements d (.statement (t :: us)) = none := by
    rw [Segment.statements, hread, Option.map_none]
    simp
  unfold parse
  rw [htext, lexemes?_script d hfit, hps]
  simp only [Option.bind_eq_bind, Option.bind_some, hstart, hone]
  simp [hsegment]

end TableScaffold.Sql
