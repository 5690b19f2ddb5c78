import Mathlib.Data.List.Forall2
import Mathlib.Data.Nat.Basic
import TableScaffold.Logged

/-!
# Outcomes

Work over a list succeeds if it succeeds for each item. The outcome of an attempt does not depend on
its notices: each step passes its result on, and the first failure is the outcome of the whole.
-/

namespace TableScaffold

/-! ## Work over lists -/

section

variable {ε α β : Type} {f : α → Except ε β} {xs : List α} {ys : List β}

theorem mapM_eq_ok : xs.mapM f = .ok ys ↔ List.Forall₂ (fun x y => f x = .ok y) xs ys := by
  induction xs generalizing ys with
  | nil => cases ys <;> simp [pure, Except.pure]
  | cons x xs ih =>
    rw [List.mapM_cons]
    cases hx : f x with
    | error e => cases ys <;> simp [bind, Except.bind, hx]
    | ok y =>
      cases hxs : xs.mapM f with
      | error e => cases ys <;> simp [bind, Except.bind, ← ih, hxs]
      | ok zs => cases ys <;> simp [bind, Except.bind, pure, Except.pure, ← ih, hxs, hx]

theorem mapM_isOk : (∃ ys, xs.mapM f = .ok ys) ↔ ∀ x ∈ xs, ∃ y, f x = .ok y := by
  induction xs with
  | nil => simp [pure, Except.pure]
  | cons x xs ih =>
    rw [List.mapM_cons, List.forall_mem_cons, ← ih]
    cases f x <;> cases xs.mapM f <;> simp [bind, Except.bind, pure, Except.pure]

/-- Work over a list fails with the one failure that there is for its items. -/
theorem mapM_eq_error {e : ε} (h : ∀ x ∈ xs, (∃ y, f x = .ok y) ∨ f x = .error e)
    (hx : ∃ x ∈ xs, f x = .error e) : xs.mapM f = .error e := by
  induction xs with
  | nil => simp at hx
  | cons x xs ih =>
    rw [List.mapM_cons]
    obtain ⟨⟨y, hy⟩ | hy, hrest⟩ := List.forall_mem_cons.1 h
    · have htail : ∃ x ∈ xs, f x = .error e := by simpa [hy] using hx
      simp [hy, ih hrest htail, bind, Except.bind]
    · simp [hy, bind, Except.bind]

theorem exists_of_forall₂ {R : α → β → Prop} (h : List.Forall₂ R xs ys) {x : α} (hx : x ∈ xs) :
    ∃ y ∈ ys, R x y := by
  induction h with
  | nil => cases hx
  | @cons a b _ _ hab _ ih =>
    rcases List.mem_cons.mp hx with rfl | hx
    · exact ⟨b, List.mem_cons_self, hab⟩
    · obtain ⟨y, hy, hxy⟩ := ih hx
      exact ⟨y, List.mem_cons_of_mem _ hy, hxy⟩

theorem forall₂_of_forall_exists {R : α → β → Prop} (h : ∀ x ∈ xs, ∃ y, R x y) :
    ∃ ys, List.Forall₂ R xs ys := by
  induction xs with
  | nil => exact ⟨[], .nil⟩
  | cons x xs ih =>
    obtain ⟨⟨y, hy⟩, hxs⟩ := List.forall_mem_cons.mp h
    obtain ⟨ys, hys⟩ := ih hxs
    exact ⟨y :: ys, .cons hy hys⟩

theorem mapM_eq_some {f : α → Option β} :
    xs.mapM f = some ys ↔ List.Forall₂ (fun x y => f x = some y) xs ys := by
  induction xs generalizing ys with
  | nil => cases ys <;> simp
  | cons x xs ih =>
    rw [List.mapM_cons]
    cases hx : f x with
    | none => cases ys <;> simp [hx]
    | some y =>
      cases hxs : xs.mapM f with
      | none => cases ys <;> simp [← ih, hxs]
      | some zs => cases ys <;> simp [← ih, hxs, hx]

theorem mapM_congr {α' : Type} {g : α' → Except ε β} {xs' : List α'}
    (h : List.Forall₂ (fun x x' => f x = g x') xs xs') : xs.mapM f = xs'.mapM g := by
  induction h with
  | nil => rfl
  | cons hx _ ih => rw [List.mapM_cons, List.mapM_cons, hx, ih]

/-- Each result comes from an item. -/
theorem exists_of_mapM (h : xs.mapM f = .ok ys) {y : β} (hy : y ∈ ys) : ∃ x ∈ xs, f x = .ok y :=
  exists_of_forall₂ (List.Forall₂.flip (mapM_eq_ok.mp h)) hy

end

/-! ## Attempts -/

namespace Attempt

variable {ε ε' α β : Type}

@[simp] theorem outcome_pure (a : α) : outcome (pure a : Attempt ε α) = .ok a := rfl

@[simp] theorem outcome_throw (e : ε) : outcome (throw e : Attempt ε α) = .error e := rfl

@[simp] theorem outcome_note (n : Notice) : outcome (note n : Attempt ε Unit) = .ok () := rfl

@[simp] theorem outcome_ofLogged (x : Logged α) :
    outcome (ofLogged x : Attempt ε α) = .ok x.value := rfl

@[simp] theorem outcome_ofExcept (x : Except ε α) : outcome (ofExcept x) = x := rfl

@[simp] theorem outcome_bind (x : Attempt ε α) (f : α → Attempt ε β) :
    outcome (x >>= f) = x.outcome >>= fun a => (f a).outcome := by
  show (ExceptT.bindCont f (ExceptT.run x).value).value = _
  unfold outcome
  cases (ExceptT.run x).value <;> rfl

@[simp] theorem outcome_adapt (f : ε → ε') (x : Attempt ε α) :
    outcome (ExceptT.adapt f x) = x.outcome.mapError f := rfl

@[simp] theorem notices_pure (a : α) : notices (pure a : Attempt ε α) = [] := rfl

@[simp] theorem notices_note (n : Notice) : notices (note n : Attempt ε Unit) = [n] := rfl

@[simp] theorem notices_ofLogged (x : Logged α) :
    notices (ofLogged x : Attempt ε α) = x.notices :=
  List.append_nil x.notices

@[simp] theorem notices_ofExcept (x : Except ε α) : notices (ofExcept x) = [] := rfl

@[simp] theorem notices_adapt (f : ε → ε') (x : Attempt ε α) :
    notices (ExceptT.adapt f x) = x.notices :=
  List.append_nil x.notices

/-- An attempt in two steps that succeeds: both do, and its notices are theirs. -/
theorem exists_of_bind {x : Attempt ε α} {f : α → Attempt ε β} {b : β}
    (h : outcome (x >>= f) = .ok b) :
    ∃ a, x.outcome = .ok a ∧ (f a).outcome = .ok b ∧ notices (x >>= f) = x.notices ++ (f a).notices := by
  rw [outcome_bind] at h
  cases hx : x.outcome with
  | error e =>
    rw [hx] at h
    cases h
  | ok a =>
    rw [hx] at h
    refine ⟨a, rfl, h, ?_⟩
    show (ExceptT.run x).notices ++ (ExceptT.bindCont f (ExceptT.run x).value).notices = _
    have hvalue : (ExceptT.run x).value = .ok a := hx
    rw [hvalue]
    rfl

/-- What holds of the notices of each step holds of all. -/
theorem forall_notices_bind {p : Notice → Prop} {x : Attempt ε α} {f : α → Attempt ε β}
    (hx : ∀ n ∈ x.notices, p n) (hf : ∀ a, ∀ n ∈ (f a).notices, p n) :
    ∀ n ∈ notices (x >>= f), p n := by
  show ∀ n ∈ (ExceptT.run x).notices ++ (ExceptT.bindCont f (ExceptT.run x).value).notices, p n
  refine List.forall_mem_append.mpr ⟨hx, ?_⟩
  cases (ExceptT.run x).value with
  | error e => exact fun n hn => absurd hn List.not_mem_nil
  | ok a => exact hf a

theorem ok_of_toOption {r : Except ε α} {a : α} (h : r.toOption = some a) : r = .ok a := by
  cases r with
  | error e => cases h
  | ok b => rw [Option.some.inj h]

/-- Two attempts that succeed one after the other, as evaluation shows it. -/
theorem exists_of_eval {γ : Type} {x : Attempt ε α} {f : α → Attempt ε' β} {g : β → γ} {b : γ}
    (h : (x.outcome.toOption.bind fun a => (f a).outcome.toOption.map g) = some b) :
    ∃ a c, x.outcome = .ok a ∧ (f a).outcome = .ok c ∧ g c = b := by
  obtain ⟨a, ha, hf⟩ := Option.bind_eq_some_iff.mp h
  obtain ⟨c, hc, hg⟩ := Option.map_eq_some_iff.mp hf
  exact ⟨a, c, ok_of_toOption ha, ok_of_toOption hc, hg⟩

end Attempt

end TableScaffold
