import Mathlib.Data.List.Forall2
import TableScaffold.Proofs.Sql.Boundary

/-!
# Exchanging the end of a script

The parts of a script that end in front of some place are read in the same way whatever stands behind
that place, if a word ends there (`UpTo.exchange`). The place is the end of a script without comments
(`upTo_end`) or the end of one of its tokens (`upTo_token`).
-/

namespace TableScaffold.Sql

open Text

/-- A token and its counterpart if the end `m` of the script is exchanged for `w`. -/
def Token.Moved (m w : List Char) (t u : Token) : Prop :=
  ∃ r, t.rest = r ++ m ∧ u = { t with rest := r ++ w }

/-- A part of a script and its counterpart. -/
inductive Lexeme.Moved (m w : List Char) : Lexeme → Lexeme → Prop
  | token {t u : Token} (h : t.Moved m w u) : Lexeme.Moved m w (.token t) (.token u)
  | comment (sameLine : Bool) : Lexeme.Moved m w (.comment sameLine) (.comment sameLine)

namespace Lexis

/-! ## Fuel -/

variable {l : Lexis} {c : Char} {cs : List Char} {t : Token}

theorem length_number (l : Lexis) (hc : isDigit c = true) :
    (l.number (c :: cs)).rest.length ≤ cs.length := by
  unfold number
  split
  · next hhex => exact Nat.le_of_lt (length_hexNumber hhex)
  · rw [decimalNumber_eq]
    refine Nat.le_trans (length_numberOrName l _ _) ?_
    simp [numberLength, hc]

theorem length_token? (h : l.token? c cs = some t) : t.rest.length ≤ cs.length := by
  unfold token? at h
  split at h
  · next hdigit =>
    cases h
    exact length_number l hdigit
  split at h
  · exact Nat.le_of_lt (length_quoted h)
  split at h
  · exact Nat.le_of_lt (length_quoted h)
  split at h
  · have := length_quoted h
    simp only [List.length_drop] at this
    omega
  split at h
  · cases h
    exact Nat.le_refl _
  · cases h
    simp

/-- With enough steps the parts of a script do not depend on how many there are. -/
theorem lexemes_fuel (d : Dialect) {fuel fuel' : Nat} {sameLine : Bool} (h : cs.length ≤ fuel)
    (h' : cs.length ≤ fuel') :
    d.lexis.lexemes fuel sameLine cs = d.lexis.lexemes fuel' sameLine cs := by
  induction fuel generalizing fuel' sameLine cs with
  | zero =>
    obtain rfl : cs = [] := List.eq_nil_of_length_eq_zero (Nat.le_zero.1 h)
    cases fuel' <;> rfl
  | succ fuel ih =>
    cases cs with
    | nil => cases fuel' <;> rfl
    | cons c cs =>
      cases fuel' with
      | zero => cases h'
      | succ fuel' =>
        simp only [List.length_cons] at h h'
        unfold lexemes
        split
        · exact ih (by omega) (by omega)
        · cases hcomment : d.lexis.comment? (c :: cs) with
          | some o =>
            cases o with
            | none => rfl
            | some r =>
              have hr := length_comment? d hcomment
              exact congrArg (Option.map _) (ih (Nat.le_trans hr (Nat.le_of_succ_le_succ h))
                (Nat.le_trans hr (Nat.le_of_succ_le_succ h')))
          | none =>
            cases htoken : d.lexis.token? c cs with
            | none => rfl
            | some t =>
              have ht := length_token? htoken
              exact congrArg (Option.map _) (ih (Nat.le_trans ht (Nat.le_of_succ_le_succ h))
                (Nat.le_trans ht (Nat.le_of_succ_le_succ h')))

end Lexis

/-- The parts of a script from some place on. -/
def lexes (d : Dialect) (sameLine : Bool) (cs : List Char) : Option (List Lexeme) :=
  d.lexis.lexemes cs.length sameLine cs

section

variable (d : Dialect) {sameLine : Bool} {c : Char} {cs : List Char}

theorem lexes_blank (hc : isBlank c = true) :
    lexes d sameLine (c :: cs) = lexes d (sameLine && !isBreak c) cs :=
  lexemes_blank _ _ _ hc cs

theorem lexes_token {t : Token} (hc : isBlank c = false) (hcomment : d.lexis.comment? (c :: cs) = none)
    (ht : d.lexis.token? c cs = some t) :
    lexes d sameLine (c :: cs) = (lexes d true t.rest).map (.token t :: ·) := by
  unfold lexes
  rw [List.length_cons, lexemes_token _ _ _ hc hcomment ht,
    Lexis.lexemes_fuel d (Lexis.length_token? ht) (Nat.le_refl _)]

theorem lexes_comment {r : List Char} (hc : isBlank c = false)
    (hcomment : d.lexis.comment? (c :: cs) = some (some r)) :
    lexes d sameLine (c :: cs) =
      (lexes d (sameLine && !Lexis.breaksBefore cs r) r).map (.comment sameLine :: ·) := by
  unfold lexes
  rw [← Lexis.lexemes_fuel d (Lexis.length_comment? d hcomment) (Nat.le_refl _)]
  simp [Lexis.lexemes, hc, hcomment]

/-- What stands first in a script: a blank, a comment or a token. -/
theorem lexes_cons {parts : List Lexeme} (h : lexes d sameLine (c :: cs) = some parts) :
    (isBlank c = true ∧ lexes d (sameLine && !isBreak c) cs = some parts) ∨
    (isBlank c = false ∧ ∃ r rest, d.lexis.comment? (c :: cs) = some (some r) ∧
      lexes d (sameLine && !Lexis.breaksBefore cs r) r = some rest ∧
        parts = .comment sameLine :: rest) ∨
    (isBlank c = false ∧ d.lexis.comment? (c :: cs) = none ∧ ∃ t rest,
      d.lexis.token? c cs = some t ∧ lexes d true t.rest = some rest ∧ parts = .token t :: rest) := by
  cases hc : isBlank c with
  | true => exact .inl ⟨rfl, lexes_blank d hc ▸ h⟩
  | false =>
    cases hcomment : d.lexis.comment? (c :: cs) with
    | some o =>
      cases o with
      | none => simp [lexes, Lexis.lexemes, hc, hcomment] at h
      | some r =>
        rw [lexes_comment d hc hcomment] at h
        obtain ⟨rest, hrest, rfl⟩ := Option.map_eq_some_iff.1 h
        exact .inr (.inl ⟨rfl, r, rest, rfl, hrest, rfl⟩)
    | none =>
      cases htoken : d.lexis.token? c cs with
      | none => simp [lexes, Lexis.lexemes, hc, hcomment, htoken] at h
      | some t =>
        rw [lexes_token d hc hcomment htoken] at h
        obtain ⟨rest, hrest, rfl⟩ := Option.map_eq_some_iff.1 h
        exact .inr (.inr ⟨rfl, rfl, t, rest, rfl, hrest, rfl⟩)

/-- What holds of the parts of a script is shown along the script. -/
theorem lexes_induction {motive : Bool → List Char → List Lexeme → Prop}
    (nil : ∀ sameLine, motive sameLine [] [])
    (blank : ∀ sameLine c cs parts, isBlank c = true →
      lexes d (sameLine && !isBreak c) cs = some parts →
      motive (sameLine && !isBreak c) cs parts → motive sameLine (c :: cs) parts)
    (comment : ∀ sameLine c cs r parts, isBlank c = false →
      d.lexis.comment? (c :: cs) = some (some r) →
      lexes d (sameLine && !Lexis.breaksBefore cs r) r = some parts →
      motive (sameLine && !Lexis.breaksBefore cs r) r parts →
        motive sameLine (c :: cs) (.comment sameLine :: parts))
    (token : ∀ sameLine c cs t parts, isBlank c = false → d.lexis.comment? (c :: cs) = none →
      d.lexis.token? c cs = some t → lexes d true t.rest = some parts →
      motive true t.rest parts → motive sameLine (c :: cs) (.token t :: parts))
    {parts : List Lexeme} (h : lexes d sameLine cs = some parts) : motive sameLine cs parts := by
  generalize hn : cs.length = n
  induction n using Nat.strongRecOn generalizing sameLine cs parts with
  | ind n ih =>
    subst hn
    cases cs with
    | nil =>
      cases h
      exact nil sameLine
    | cons c cs =>
      have ih {sameLine : Bool} {r : List Char} {parts : List Lexeme} (hr : r.length ≤ cs.length)
          (h : lexes d sameLine r = some parts) : motive sameLine r parts :=
        ih r.length (Nat.lt_succ_of_le hr) h rfl
      rcases lexes_cons d h with ⟨hc, hrest⟩ | ⟨hc, r, rest, hcomment, hrest, rfl⟩ |
        ⟨hc, hcomment, t, rest, htoken, hrest, rfl⟩
      · exact blank _ _ _ _ hc hrest (ih (Nat.le_refl _) hrest)
      · exact comment _ _ _ _ _ hc hcomment hrest (ih (Lexis.length_comment? d hcomment) hrest)
      · exact token _ _ _ _ _ hc hcomment htoken hrest (ih (Lexis.length_token? htoken) hrest)

/-- From the first token on the parts do not depend on where the lines end in front of it. -/
theorem lexes_front {parts : List Lexeme} (h : lexes d sameLine cs = some parts) :
    ∃ (flags : List Bool) (rest : List Lexeme), parts = flags.map .comment ++ rest ∧
      ∀ sameLine', ∃ flags' : List Bool, flags'.length = flags.length ∧
        lexes d sameLine' cs = some (flags'.map .comment ++ rest) := by
  refine lexes_induction d
    (motive := fun _ cs parts => ∃ (flags : List Bool) (rest : List Lexeme),
      parts = flags.map .comment ++ rest ∧ ∀ sameLine', ∃ flags' : List Bool,
        flags'.length = flags.length ∧ lexes d sameLine' cs = some (flags'.map .comment ++ rest))
    ?_ ?_ ?_ ?_ h
  · exact fun _ => ⟨[], [], rfl, fun _ => ⟨[], rfl, rfl⟩⟩
  · rintro _ c cs _ hc _ ⟨flags, rest, rfl, hall⟩
    refine ⟨flags, rest, rfl, fun sameLine' => ?_⟩
    rw [lexes_blank d hc]
    exact hall _
  · rintro sameLine c cs r _ hc hcomment _ ⟨flags, rest, rfl, hall⟩
    refine ⟨sameLine :: flags, rest, rfl, fun sameLine' => ?_⟩
    obtain ⟨flags', hlength, hrest⟩ := hall (sameLine' && !Lexis.breaksBefore cs r)
    refine ⟨sameLine' :: flags', congrArg (· + 1) hlength, ?_⟩
    rw [lexes_comment d hc hcomment, hrest]
    rfl
  · intro _ c cs t parts hc hcomment htoken hparts _
    refine ⟨[], .token t :: parts, rfl, fun sameLine' => ⟨[], rfl, ?_⟩⟩
    rw [lexes_token d hc hcomment htoken, hparts]
    rfl

/-- What follows a token is shorter than the script. -/
theorem length_of_mem_lexes {parts : List Lexeme} {t : Token} (h : lexes d sameLine cs = some parts)
    (ht : .token t ∈ parts) : t.rest.length < cs.length := by
  refine lexes_induction d (motive := fun _ cs parts => .token t ∈ parts → t.rest.length < cs.length)
    ?_ ?_ ?_ ?_ h ht
  · exact fun _ ht => absurd ht List.not_mem_nil
  · exact fun _ c cs parts _ _ ih ht => Nat.lt_succ_of_lt (ih ht)
  · intro sameLine c cs r parts _ hcomment _ ih ht
    have hrest := ih ((List.mem_cons.1 ht).resolve_left (by simp))
    exact Nat.lt_succ_of_le (Nat.le_trans (Nat.le_of_lt hrest) (Lexis.length_comment? d hcomment))
  · intro sameLine c cs u parts _ _ htoken _ ih ht
    have hle := Lexis.length_token? htoken
    rcases List.mem_cons.1 ht with heq | ht
    · cases heq
      exact Nat.lt_succ_of_le hle
    · exact Nat.lt_succ_of_le (Nat.le_trans (Nat.le_of_lt (ih ht)) hle)

end

/-! ## Reading up to a place -/

/-- Whether a line ends between two points does not depend on what follows both. -/
theorem breaksBefore_append (q r m : List Char) :
    Lexis.breaksBefore (q ++ m) (r ++ m) = Lexis.breaksBefore q r := by
  have hlength : (q ++ m).length - (r ++ m).length = q.length - r.length := by
    simp only [List.length_append]
    omega
  unfold Lexis.breaksBefore
  rw [hlength, List.take_append_of_le_length (Nat.sub_le _ _)]

/-- Some parts that a script is read as up to a place in front of `m`; a comment ends there whatever
follows. The flags say that no line has ended since the last token. -/
inductive UpTo (d : Dialect) (m : List Char) : Bool → List Char → List Lexeme → Bool → Prop
  | here (sameLine : Bool) : UpTo d m sameLine [] [] sameLine
  | blank {sameLine after : Bool} {c : Char} {q : List Char} {parts : List Lexeme}
      (hc : isBlank c = true) (rest : UpTo d m (sameLine && !isBreak c) q parts after) :
    UpTo d m sameLine (c :: q) parts after
  | comment {sameLine after : Bool} {c : Char} {q r : List Char} {parts : List Lexeme}
      (hc : isBlank c = false)
      (hcomment : ∀ w, d.lexis.comment? (c :: (q ++ w)) = some (some (r ++ w)))
      (rest : UpTo d m (sameLine && !Lexis.breaksBefore q r) r parts after) :
    UpTo d m sameLine (c :: q) (.comment sameLine :: parts) after
  | token {sameLine after : Bool} {c : Char} {q r : List Char} {t : Token} {parts : List Lexeme}
      (hc : isBlank c = false) (hcomment : d.lexis.comment? (c :: (q ++ m)) = none)
      (htoken : d.lexis.token? c (q ++ m) = some t) (ht : t.rest = r ++ m)
      (rest : UpTo d m true r parts after) :
    UpTo d m sameLine (c :: q) (.token t :: parts) after

namespace UpTo

variable {d : Dialect} {m w q : List Char} {sameLine after : Bool} {parts : List Lexeme}

/-- The parts of the script are those up to the place and those behind it. -/
theorem lexes_eq (h : UpTo d m sameLine q parts after) :
    lexes d sameLine (q ++ m) = (lexes d after m).map (parts ++ ·) := by
  induction h with
  | here => simp
  | blank hc _ ih => rw [List.cons_append, lexes_blank d hc, ih]
  | comment hc hcomment _ ih =>
    rw [List.cons_append, lexes_comment d hc (hcomment m), breaksBefore_append, ih, Option.map_map]
    rfl
  | token hc hcomment htoken ht _ ih =>
    rw [List.cons_append, lexes_token d hc hcomment htoken, ht, ih, Option.map_map]
    rfl

/-- What is read up to a place and from there up to a second one. -/
theorem trans {q' : List Char} {parts' : List Lexeme} {after' : Bool}
    (h : UpTo d (q' ++ m) sameLine q parts after) (h' : UpTo d m after q' parts' after') :
    UpTo d m sameLine (q ++ q') (parts ++ parts') after' := by
  induction h with
  | here => exact h'
  | blank hc _ ih => exact .blank hc (ih h')
  | @comment _ _ _ q r _ hc hcomment _ ih =>
    refine .comment (r := r ++ q') hc (fun w => ?_) (breaksBefore_append q r q' ▸ ih h')
    rw [List.append_assoc, ← hcomment, ← List.append_assoc]
    rfl
  | @token _ _ _ q r _ _ hc hcomment htoken ht _ ih =>
    exact .token hc (List.append_assoc q q' m ▸ hcomment) (List.append_assoc q q' m ▸ htoken)
      (ht.trans (List.append_assoc r q' m).symm) (ih h')

/-- What is read from the end of a token on. -/
theorem behind {t : Token} {parts' : List Lexeme}
    (h : UpTo d m sameLine q (parts ++ .token t :: parts') after) :
    ∃ r, t.rest = r ++ m ∧ UpTo d m true r parts' after := by
  generalize hparts : parts ++ .token t :: parts' = all at h
  induction h generalizing parts with
  | here => cases parts <;> cases hparts
  | blank _ _ ih => exact ih hparts
  | comment _ _ _ ih =>
    cases parts with
    | nil => cases hparts
    | cons x parts => exact ih (List.cons.inj hparts).2
  | token _ _ _ ht hrest ih =>
    cases parts with
    | nil =>
      cases hparts
      exact ⟨_, ht, hrest⟩
    | cons x parts => exact ih (List.cons.inj hparts).2

/-- Another end may follow, if a word ends there. -/
theorem exchange (h : UpTo d m sameLine q parts after) (hw : EndsWord w) :
    ∃ parts', List.Forall₂ (Lexeme.Moved m w) parts parts' ∧ UpTo d w sameLine q parts' after := by
  induction h with
  | here => exact ⟨[], .nil, .here _⟩
  | blank hc _ ih =>
    obtain ⟨parts', hmoved, hrest⟩ := ih
    exact ⟨parts', hmoved, .blank hc hrest⟩
  | comment hc hcomment _ ih =>
    obtain ⟨parts', hmoved, hrest⟩ := ih
    exact ⟨_, .cons (.comment _) hmoved, .comment hc hcomment hrest⟩
  | @token _ _ _ q r t _ hc hcomment htoken ht _ ih =>
    obtain ⟨parts', hmoved, hrest⟩ := ih
    obtain ⟨r', hr', htokenw⟩ := Lexis.token?_kept d hw htoken (by simp [ht])
    obtain rfl := List.append_cancel_right (ht.symm.trans hr')
    exact ⟨_, .cons (.token ⟨r, ht, rfl⟩) hmoved,
      .token hc (Lexis.comment?_none_kept d hw hcomment) htokenw rfl hrest⟩

end UpTo

/-- A script without comments is read up to its end. -/
theorem upTo_end {d : Dialect} {cs : List Char} {sameLine : Bool} {parts : List Lexeme}
    (h : lexes d sameLine cs = some parts) (hparts : ∀ b, .comment b ∉ parts) :
    ∃ after, UpTo d [] sameLine cs parts after := by
  refine lexes_induction d
    (motive := fun sameLine cs parts => (∀ b, .comment b ∉ parts) →
      ∃ after, UpTo d [] sameLine cs parts after) ?_ ?_ ?_ ?_ h hparts
  · exact fun sameLine _ => ⟨_, .here sameLine⟩
  · intro _ c cs parts hc _ ih hparts
    obtain ⟨after, hrest⟩ := ih hparts
    exact ⟨after, .blank hc hrest⟩
  · exact fun sameLine _ _ _ _ _ _ _ _ hparts => absurd List.mem_cons_self (hparts sameLine)
  · intro _ c cs t parts hc hcomment htoken _ ih hparts
    obtain ⟨after, hrest⟩ := ih fun b hb => hparts b (List.mem_cons_of_mem _ hb)
    exact ⟨after, .token hc (by simpa using hcomment) (by simpa using htoken) (by simp) hrest⟩

/-- The first character stands in front of the place, if as much is left behind it. -/
theorem eq_cons_of_append {c : Char} {cs q m : List Char} (h : c :: cs = q ++ m)
    (hm : m.length ≤ cs.length) : ∃ q', q = c :: q' ∧ cs = q' ++ m := by
  cases q with
  | nil =>
    have hlength := congrArg List.length h
    simp only [List.length_cons, List.nil_append] at hlength
    omega
  | cons x q =>
    obtain ⟨rfl, hcs⟩ : c = x ∧ cs = q ++ m := by simpa using h
    exact ⟨q, rfl, hcs⟩

/-- A script is read up to the end of each of its tokens. -/
theorem upTo_token {d : Dialect} {q m : List Char} {sameLine : Bool} {parts : List Lexeme} {t : Token}
    (h : lexes d sameLine (q ++ m) = some parts) (ht : .token t ∈ parts) (hrest : t.rest = m) :
    ∃ before behind, parts = before ++ .token t :: behind ∧
      UpTo d m sameLine q (before ++ [.token t]) true := by
  subst hrest
  refine lexes_induction d
    (motive := fun sameLine cs parts => ∀ q, cs = q ++ t.rest → .token t ∈ parts →
      ∃ before behind, parts = before ++ .token t :: behind ∧
        UpTo d t.rest sameLine q (before ++ [.token t]) true) ?_ ?_ ?_ ?_ h q rfl ht
  · exact fun _ _ _ ht => absurd ht List.not_mem_nil
  · intro _ c cs parts hc hparts ih q hq ht
    obtain ⟨q, rfl, rfl⟩ := eq_cons_of_append hq (Nat.le_of_lt (length_of_mem_lexes d hparts ht))
    obtain ⟨before, behind, heq, hupTo⟩ := ih q rfl ht
    exact ⟨before, behind, heq, .blank hc hupTo⟩
  · intro _ c cs r parts hc hcomment hparts ih q hq ht
    have ht := (List.mem_cons.1 ht).resolve_left (by simp)
    have hlength := length_of_mem_lexes d hparts ht
    obtain ⟨q, rfl, rfl⟩ := eq_cons_of_append hq
      (Nat.le_trans (Nat.le_of_lt hlength) (Lexis.length_comment? d hcomment))
    obtain ⟨r, rfl, hkept⟩ := Lexis.comment?_kept d hcomment hlength
    obtain ⟨before, behind, rfl, hupTo⟩ := ih r rfl ht
    rw [breaksBefore_append] at hupTo
    exact ⟨.comment _ :: before, behind, rfl, .comment hc hkept hupTo⟩
  · intro _ c cs u parts hc hcomment htoken hparts ih q hq ht
    rcases List.mem_cons.1 ht with heq | ht
    · cases heq
      obtain ⟨q, rfl, rfl⟩ := eq_cons_of_append hq (Lexis.length_token? htoken)
      exact ⟨[], parts, rfl, .token hc hcomment htoken rfl (.here true)⟩
    · have hlength := Nat.le_of_lt (length_of_mem_lexes d hparts ht)
      obtain ⟨q, rfl, rfl⟩ := eq_cons_of_append hq
        (Nat.le_trans hlength (Lexis.length_token? htoken))
      obtain ⟨r, hr, -⟩ := Lexis.token?_kept d (w := []) (by simp [EndsWord]) htoken hlength
      obtain ⟨before, behind, rfl, hupTo⟩ := ih r hr ht
      exact ⟨.token u :: before, behind, rfl, .token hc hcomment htoken hr hupTo⟩

end TableScaffold.Sql
