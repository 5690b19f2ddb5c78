import Mathlib.Data.List.Forall2
import TableScaffold.Proofs.Sql.Reading
import TableScaffold.Sql.Names

/-!
# Tokens that differ in what follows them

A token knows the script after it. Readings look at the kinds and the texts of tokens; what follows a
token is only kept for columns, and in one place it tells whether two tokens of a dashed name touch.
Here two lists of tokens are compared that differ in what follows their tokens (`Alike`). A reading is
blind to the difference (`Blind`) if it takes as many tokens from both and gives the same result, and
two readings agree (`Agree`) if their results are related.

In the dialect with dashed names the same tokens must touch in both lists. That may differ in front of
a list and behind a parenthesis or a comma: no dashed name goes on there, and none starts unless a dash
follows.
-/

namespace TableScaffold.Sql

/-- What is asked of two lists of tokens to be alike. -/
structure Likeness where
  /-- The dialect in which the tokens are read. -/
  dialect : Dialect
  /-- How the tokens from some place on are related to their counterparts. -/
  rel : List Token → List Token → Prop

/-- Two tokens with which related lists start. -/
def Likeness.Relates (ρ : Likeness) (t u : Token) : Prop := ∃ ts us, ρ.rel (t :: ts) (u :: us)

namespace Token

/-- Two tokens that differ at most in what follows them. -/
structure Like (t u : Token) : Prop where
  kind : t.kind = u.kind
  text : t.text = u.text

/-- Whether nothing stands between two tokens of which the second is no quoted one. -/
def touches (last t : Token) : Bool :=
  match last.rest with
  | [] => false
  | c :: _ => !Text.isBlank c && last.rest.length == t.rest.length + t.text.length

/-- Whether a token touches the one behind it. -/
def touchesNext (t : Token) (ts : List Token) : Bool := ts.head?.any t.touches

/-- Whether a token is a mark at which a dashed name ends. -/
def endsDashes (t : Token) : Bool := Reading.isMarkOf ['.', '(', ')', ',', ';'] t

variable {t u : Token}

theorem Like.upper (h : t.Like u) : t.upper = u.upper := by
  unfold Token.upper
  rw [h.text]

theorem Like.isWord (h : t.Like u) (w : String) : t.isWord w = u.isWord w := by
  unfold Token.isWord
  rw [h.kind, h.upper]

theorem Like.isOneOf (h : t.Like u) (ws : List String) : t.isOneOf ws = u.isOneOf ws := by
  unfold Token.isOneOf
  rw [h.kind, h.upper]

theorem Like.hasText (h : t.Like u) (ws : List String) : t.hasText ws = u.hasText ws := by
  unfold Token.hasText
  rw [h.kind, h.text]

theorem Like.isMark (h : t.Like u) (c : Char) : t.isMark c = u.isMark c := by
  unfold Token.isMark
  rw [h.kind, h.text]

end Token

/-- Two lists of tokens that differ at most in what follows their tokens. `dashes` says that a dashed
name may go on with the first token; then the same tokens touch in both lists. -/
inductive Alike (ρ : Likeness) : Bool → List Token → List Token → Prop
  | nil {dashes : Bool} : Alike ρ dashes [] []
  | cons {dashes : Bool} {t u : Token} {ts us : List Token} (head : t.Like u)
      (related : ρ.rel (t :: ts) (u :: us))
      (touching : ρ.dialect = .bigquery → (dashes || ts.head?.any (·.isMark '-')) = true →
        t.touchesNext ts = u.touchesNext us)
      (tail : Alike ρ (!t.endsDashes) ts us) : Alike ρ dashes (t :: ts) (u :: us)

namespace Alike

variable {ρ : Likeness} {dashes : Bool} {t u : Token} {ts us : List Token}

/-- At the start of a reading no dashed name goes on. -/
theorem start (h : Alike ρ dashes ts us) : Alike ρ false ts us := by
  cases h with
  | nil => exact .nil
  | cons head related touching tail =>
    refine .cons head related (fun hd hdash => touching hd ?_) tail
    simpa using .inr hdash

theorem length_eq (h : Alike ρ dashes ts us) : ts.length = us.length := by
  induction h with
  | nil => rfl
  | cons _ _ _ _ ih => simp [ih]

theorem drop (h : Alike ρ dashes ts us) (n : Nat) : Alike ρ false (ts.drop n) (us.drop n) := by
  induction n generalizing dashes ts us with
  | zero => exact h.start
  | succ n ih =>
    cases h with
    | nil => exact .nil
    | cons _ _ _ tail => exact ih tail

theorem forall₂ (h : Alike ρ dashes ts us) : List.Forall₂ Token.Like ts us := by
  induction h with
  | nil => exact .nil
  | cons head _ _ _ ih => exact .cons head ih

theorem head? (h : Alike ρ dashes ts us) : Option.Rel Token.Like ts.head? us.head? := by
  cases h with
  | nil => exact .none
  | cons head _ _ _ => exact .some head

end Alike

namespace Reading

variable {ρ : Likeness} {α β γ δ : Type} {P : α → β → Prop} {Q : γ → δ → Prop}

/-- Two readings succeed on the same tokens, with related results and as many tokens left. -/
def Agree (ρ : Likeness) (P : α → β → Prop) (x : Reading α) (y : Reading β) : Prop :=
  ∀ ⦃ts us⦄, Alike ρ false ts us →
    Option.Rel (fun a b => P a.1 b.1 ∧ Alike ρ false a.2 b.2) (x.run ts) (y.run us)

/-- A reading whose result does not depend on what follows the tokens. -/
def Blind (ρ : Likeness) (x : Reading α) : Prop := Agree ρ Eq x x

/-- A reading whose result is a token, and the same one but for what follows it. -/
def Picks (ρ : Likeness) (x : Reading (Option Token)) : Prop :=
  Agree ρ (Option.Rel Token.Like) x x

namespace Agree

theorem pure {a : α} {b : β} (h : P a b) : Agree ρ P (Pure.pure a) (Pure.pure b) :=
  fun _ _ hts => .some ⟨h, hts⟩

theorem failure : Agree ρ P (Alternative.failure : Reading α) (Alternative.failure : Reading β) :=
  fun _ _ _ => .none

theorem bind {x : Reading α} {y : Reading β} {f : α → Reading γ} {g : β → Reading δ}
    (hx : Agree ρ P x y) (hf : ∀ a b, P a b → Agree ρ Q (f a) (g b)) :
    Agree ρ Q (x >>= f) (y >>= g) := by
  intro ts us hts
  rw [StateT.run_bind, StateT.run_bind]
  have h := hx hts
  generalize x.run ts = a at h
  generalize y.run us = b at h
  cases h with
  | none => exact .none
  | some hab => exact hf _ _ hab.1 hab.2

theorem get : Agree ρ (Alike ρ false) (MonadState.get : Reading (List Token)) MonadState.get :=
  fun _ _ hts => .some ⟨hts, hts⟩

theorem set {dashes : Bool} {ts us : List Token} (h : Alike ρ dashes ts us) :
    Agree ρ Eq (MonadState.set ts : Reading Unit) (MonadState.set us : Reading Unit) :=
  fun _ _ _ => .some ⟨rfl, h.start⟩

theorem ite {c : Prop} [Decidable c] {x x' : Reading α} {y y' : Reading β} (hx : Agree ρ P x y)
    (hx' : Agree ρ P x' y') : Agree ρ P (if c then x else x') (if c then y else y') := by
  split
  · exact hx
  · exact hx'

/-- After a reading that is blind both go on alike. -/
theorem next {x : Reading α} {f : α → Reading γ} {g : α → Reading δ} (hx : Blind ρ x)
    (hf : ∀ a, Agree ρ Q (f a) (g a)) : Agree ρ Q (x >>= f) (x >>= g) :=
  hx.bind fun a _ hab => hab ▸ hf a

/-- Whether a token was picked does not depend on what follows it. -/
theorem ifSome {x : Reading (Option Token)} {y z : Reading α} {y' z' : Reading β} (hx : Picks ρ x)
    (hy : Agree ρ P y y') (hz : Agree ρ P z z') :
    Agree ρ P (x >>= fun o => if o.isSome then y else z)
      (x >>= fun o => if o.isSome then y' else z') := by
  refine hx.bind fun o o' h => ?_
  cases h with
  | none => exact hz
  | some _ => exact hy

theorem mono {P' : α → β → Prop} {x : Reading α} {y : Reading β} (hx : Agree ρ P x y)
    (h : ∀ a b, P a b → P' a b) : Agree ρ P' x y := by
  intro ts us hts
  have hrun := hx hts
  generalize x.run ts = a at hrun ⊢
  generalize y.run us = b at hrun ⊢
  cases hrun with
  | none => exact .none
  | some hab => exact .some ⟨h _ _ hab.1, hab.2⟩

end Agree

namespace Blind

variable {x : Reading α}

theorem pure (a : α) : Blind ρ (Pure.pure a) := Agree.pure rfl

theorem failure : Blind ρ (Alternative.failure : Reading α) := Agree.failure

theorem bind {f : α → Reading γ} (hx : Blind ρ x) (hf : ∀ a, Blind ρ (f a)) : Blind ρ (x >>= f) :=
  Agree.bind hx fun a _ hab => hab ▸ hf a

theorem ite {c : Prop} [Decidable c] {y : Reading α} (hx : Blind ρ x) (hy : Blind ρ y) :
    Blind ρ (if c then x else y) := Agree.ite hx hy

/-- What is made of a token may depend on its kind and its text only. -/
theorem pick {x : Reading (Option Token)} {f : Option Token → Reading γ} (hx : Picks ρ x)
    (hsame : ∀ t u, Token.Like t u → f (some t) = f (some u)) (hf : ∀ o, Blind ρ (f o)) :
    Blind ρ (x >>= f) := by
  refine Agree.bind hx fun o o' h => ?_
  cases h with
  | none => exact hf none
  | some h => exact hsame _ _ h ▸ hf _

/-- The tokens in front may be looked at. -/
theorem look {f : List Token → Reading γ}
    (hf : ∀ ts us, Alike ρ false ts us → Agree ρ Eq (f ts) (f us)) :
    Blind ρ (MonadState.get >>= f) := Agree.bind Agree.get hf

/-- How many tokens there are is the same. -/
theorem count {f : Nat → Reading γ} (hf : ∀ n, Blind ρ (f n)) :
    Blind ρ (MonadState.get >>= fun ts : List Token => f ts.length) :=
  look fun _ _ h => h.length_eq ▸ hf _

/-- As many steps may be made as there are tokens. -/
theorem fuel {x : Nat → Reading α} {f : α → Reading γ} (hx : ∀ n, Blind ρ (x n))
    (hf : ∀ a, Blind ρ (f a)) :
    Blind ρ (MonadState.get >>= fun ts : List Token => x ts.length >>= f) :=
  look fun _ _ h => h.length_eq ▸ (hx _).bind hf

/-- The tokens behind some part may be skipped, if the part is there. -/
theorem skip {g : List Token → Option (List Token)} {x y : Reading α}
    (hg : ∀ ⦃ts us⦄, Alike ρ false ts us → Option.Rel (Alike ρ false) (g ts) (g us))
    (hx : Blind ρ x) (hy : Blind ρ y) :
    Blind ρ (MonadState.get >>= fun ts => match g ts with
      | some rest => MonadState.set rest >>= fun _ => x
      | none => y) := by
  refine look fun ts us h => ?_
  have hrest := hg h
  generalize g ts = o at hrest ⊢
  generalize g us = o' at hrest ⊢
  cases hrest with
  | none => exact hy
  | some hrest => exact Agree.bind (.set hrest) fun _ _ _ => hx

/-- The tokens behind some part are skipped, if the part is there. -/
theorem skipTo {g : List Token → Option (List Token)}
    (hg : ∀ ⦃ts us⦄, Alike ρ false ts us → Option.Rel (Alike ρ false) (g ts) (g us)) :
    Blind ρ (MonadState.get >>= fun ts => match g ts with
      | some rest => MonadState.set rest
      | none => Alternative.failure) := by
  simpa using skip hg (.pure ()) .failure

end Blind

/-! ## Single tokens -/

variable {x : Reading α}

theorem takeIf_agree {p : Token → Bool} (hp : ∀ t u, Token.Like t u → p t = p u) :
    Agree ρ (Option.Rel fun t u => t.Like u ∧ ρ.Relates t u) (takeIf p) (takeIf p) := by
  refine Agree.bind Agree.get fun ts us h => ?_
  cases h with
  | nil => exact .pure .none
  | cons head related _ tail =>
    dsimp only
    rw [hp _ _ head]
    split
    · exact Agree.bind (.set tail) fun _ _ _ => .pure (.some ⟨head, _, _, related⟩)
    · exact .pure .none

theorem takeIf_picks {p : Token → Bool} (hp : ∀ t u, Token.Like t u → p t = p u) :
    Picks ρ (takeIf p) := by
  refine (takeIf_agree hp).mono fun o o' h => ?_
  cases h with
  | none => exact .none
  | some h => exact .some h.1

theorem take_picks : Picks ρ take := takeIf_picks fun _ _ _ => rfl

theorem oneOf_picks (ws : List String) : Picks ρ (oneOf ws) := takeIf_picks fun _ _ h => h.isOneOf ws

namespace Picks

variable {x : Reading (Option Token)}

/-- Whether a token was picked does not depend on what follows it. -/
theorem isSome (hx : Picks ρ x) : Blind ρ (return (← x).isSome) :=
  Blind.pick hx (fun _ _ _ => rfl) fun _ => .pure _

theorem ifSome {y z : Reading α} (hx : Picks ρ x) (hy : Blind ρ y) (hz : Blind ρ z) :
    Blind ρ (x >>= fun o => if o.isSome then y else z) := Agree.ifSome hx hy hz

/-- A token that may be there. -/
theorem ignore {y : Reading α} (hx : Picks ρ x) (hy : Blind ρ y) : Blind ρ (x >>= fun _ => y) :=
  Blind.pick hx (fun _ _ _ => rfl) fun _ => hy

/-- A token that must be there. -/
theorem require {y : Reading α} (hx : Picks ρ x) (hy : Blind ρ y) :
    Blind ρ (x >>= fun o => match o with
      | some _ => y
      | _ => failure) := by
  refine Blind.pick hx (fun _ _ _ => rfl) fun o => ?_
  cases o with
  | none => exact .failure
  | some t => exact hy

end Picks

theorem peek_agree : Agree ρ (Option.Rel Token.Like) peek peek :=
  Agree.bind Agree.get fun _ _ h => .pure h.head?

theorem word_blind (w : String) : Blind ρ (word w) :=
  (takeIf_picks fun _ _ h => h.isWord w).isSome

theorem said_blind (ws : List String) : Blind ρ (said ws) :=
  (takeIf_picks fun _ _ h => h.hasText ws).isSome

theorem wordWhere_blind (known : Bool) (w : String) : Blind ρ (wordWhere known w) :=
  .ite (word_blind w) (.pure false)

theorem mark_blind (c : Char) : Blind ρ (mark c) :=
  (takeIf_picks fun _ _ h => h.isMark c).isSome

theorem seesMark_blind (c : Char) : Blind ρ (seesMark c) :=
  Blind.pick peek_agree (fun _ _ h => by simp [h.isMark]) fun _ => .pure _

theorem expect_blind (c : Char) : Blind ρ (expect c) :=
  (mark_blind c).bind fun _ => .ite (.pure ()) .failure

/-! ## Several tokens -/

theorem afterWords_rel (ws : List String) {ts us : List Token} (h : Alike ρ false ts us) :
    Option.Rel (Alike ρ false) (afterWords ws ts) (afterWords ws us) := by
  induction ws generalizing ts us with
  | nil => exact .some h
  | cons w ws ih =>
    cases h with
    | nil => exact .none
    | cons head _ _ tail =>
      rw [afterWords, afterWords, head.isWord]
      split
      · exact ih tail.start
      · exact .none

theorem words_blind (ws : List String) : Blind ρ (words ws) :=
  Blind.skip (fun _ _ h => afterWords_rel ws h) (.pure true) (.pure false)

theorem sees_blind (ws : List String) : Blind ρ (sees ws) := by
  refine Blind.look fun ts us h => ?_
  have hsome : (afterWords ws ts).isSome = (afterWords ws us).isSome := by
    have hrest := afterWords_rel ws h
    generalize afterWords ws ts = o at hrest ⊢
    generalize afterWords ws us = o' at hrest ⊢
    cases hrest <;> rfl
  rw [hsome]
  exact .pure rfl

theorem attempt_blind {x : Reading α} (hx : Blind ρ x) : Blind ρ (attempt x) := by
  intro ts us h
  have hrun := hx h
  rw [run_attempt, run_attempt]
  generalize x.run ts = a at hrun ⊢
  generalize x.run us = b at hrun ⊢
  cases hrun with
  | none => exact .some ⟨rfl, h⟩
  | some hab => exact .some ⟨congrArg some hab.1, hab.2⟩

/-- The tokens behind the one that closes `depth + 1` open brackets of some kind. -/
def afterMatching (opens closes : Token → Bool) : Nat → List Token → Option (List Token)
  | _, [] => none
  | depth, t :: ts =>
    if opens t then afterMatching opens closes (depth + 1) ts
    else if closes t then
      if depth = 0 then some ts else afterMatching opens closes (depth - 1) ts
    else afterMatching opens closes depth ts

theorem afterMatching_rel {opens closes : Token → Bool}
    (hopens : ∀ t u, Token.Like t u → opens t = opens u)
    (hcloses : ∀ t u, Token.Like t u → closes t = closes u) (depth : Nat) {dashes : Bool}
    {ts us : List Token} (h : Alike ρ dashes ts us) :
    Option.Rel (Alike ρ false) (afterMatching opens closes depth ts)
      (afterMatching opens closes depth us) := by
  induction h generalizing depth with
  | nil => exact .none
  | cons head _ _ tail ih =>
    rw [afterMatching, afterMatching, hopens _ _ head, hcloses _ _ head]
    split
    · exact ih _
    split
    · split
      · exact .some tail.start
      · exact ih _
    · exact ih _

theorem afterClosing_eq (depth : Nat) (ts : List Token) :
    afterClosing depth ts = afterMatching (·.isMark '(') (·.isMark ')') depth ts := by
  fun_induction afterClosing depth ts <;> simp_all [afterMatching]

theorem skipToClosing_blind : Blind ρ skipToClosing := by
  refine Blind.skip (fun ts us h => ?_) (.pure ()) .failure
  rw [afterClosing_eq, afterClosing_eq]
  exact afterMatching_rel (fun _ _ h => h.isMark _) (fun _ _ h => h.isMark _) 0 h

theorem skipParenthesized_blind : Blind ρ skipParenthesized :=
  (mark_blind '(').bind fun _ => .ite (skipToClosing_blind.bind fun _ => .pure true) (.pure false)

theorem closesAll_eq (depth : Nat) {dashes : Bool} {ts us : List Token} (h : Alike ρ dashes ts us) :
    closesAll depth ts = closesAll depth us := by
  induction h generalizing depth with
  | nil => rfl
  | cons head _ _ _ ih => simp only [closesAll, head.isMark, ih]

theorem skipRest_blind : Blind ρ skipRest := by
  refine Blind.look fun ts us h => ?_
  rw [closesAll_eq 0 h]
  refine Blind.ite ?_ (Blind.failure.bind fun _ => ?_)
  · exact Agree.set (.nil : Alike ρ false [] [])
  · exact Agree.set (.nil : Alike ρ false [] [])

/-! ## Lists -/

theorem commaList_agree {item : Reading (Option α)} {item' : Reading (Option β)}
    (hitem : Agree ρ (Option.Rel P) item item') (fuel : Nat) :
    Agree ρ (List.Forall₂ P) (commaList item fuel) (commaList item' fuel) := by
  induction fuel with
  | zero => exact .failure
  | succ fuel ih =>
    refine Agree.bind hitem fun o o' ho => ?_
    have hfirst : List.Forall₂ P o.toList o'.toList := by
      cases ho with
      | none => exact .nil
      | some h => exact .cons h .nil
    refine Agree.bind (mark_blind ',') fun comma _ hcomma => ?_
    subst hcomma
    cases comma with
    | false => exact Agree.bind (.pure .nil) fun _ _ h => .pure (List.rel_append hfirst h)
    | true => exact Agree.bind ih fun _ _ h => .pure (List.rel_append hfirst h)

theorem closedList_agree {item : Reading (Option α)} {item' : Reading (Option β)}
    (hitem : Agree ρ (Option.Rel P) item item') :
    Agree ρ (List.Forall₂ P) (closedList item) (closedList item') := by
  refine Agree.bind .get fun ts us h => ?_
  rw [h.length_eq]
  refine Agree.bind (commaList_agree hitem _) fun items items' hitems => ?_
  exact Agree.bind (expect_blind ')') fun _ _ _ => .pure hitems

/-- An item that is the same is present in both or in none. -/
theorem Blind.item {item : Reading (Option α)} (h : Blind ρ item) :
    Agree ρ (Option.Rel Eq) item item := by
  refine Agree.mono h ?_
  rintro o _ rfl
  cases o with
  | none => exact .none
  | some a => exact .some rfl

theorem commaList_blind {item : Reading (Option α)} (hitem : Blind ρ item) (fuel : Nat) :
    Blind ρ (commaList item fuel) :=
  (commaList_agree hitem.item fuel).mono fun _ _ h => List.forall₂_eq_eq_eq ▸ h

theorem closedList_blind {item : Reading (Option α)} (hitem : Blind ρ item) :
    Blind ρ (closedList item) :=
  (closedList_agree hitem.item).mono fun _ _ h => List.forall₂_eq_eq_eq ▸ h

theorem parenthesized_blind {item : Reading (Option α)} (hitem : Blind ρ item) :
    Blind ρ (parenthesized item) :=
  (expect_blind '(').bind fun _ => closedList_blind hitem

end Reading

end TableScaffold.Sql
