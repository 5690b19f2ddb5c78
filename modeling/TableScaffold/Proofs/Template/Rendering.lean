import TableScaffold.Proofs.Template.Source

/-!
# Rendering without a fault

An expression gives a value, and a template renders to a text and leaves the names as they are. There
is one rule for each part of which the bundled templates consist; a loop renders to the texts of its
items in their order. Most texts are lines, so the rules for loops come in forms for lines as well.
-/

namespace TableScaffold.Template

/-- An expression gives a value. -/
def Gives (scope : Scope) (e : Expr) (v : Value) : Prop := e.eval scope = .ok (.value v)

/-- A template renders to a text and leaves the names as they are. -/
def Renders (embedding : Embedding) (scope : Scope) (b : Body) (t : String) : Prop :=
  b.render embedding scope = .ok (t, scope)

theorem Scope.find_head (n : String) (x : Operand) (scope : Scope) :
    Scope.find ((n, x) :: scope) n = x := by
  simp [Scope.find]

theorem Scope.find_tail {n m : String} (h : n ≠ m) (x : Operand) (scope : Scope) :
    Scope.find ((m, x) :: scope) n = Scope.find scope n := by
  have hb : (n == m) = false := by simpa using h
  simp [Scope.find, List.lookup_cons, hb]

/-- Each of some names with a value of its own. -/
theorem Scope.find_map (value : String → Operand) {ns : List String} {n : String} (h : n ∈ ns) :
    Scope.find (ns.map fun n => (n, value n)) n = value n := by
  induction ns with
  | nil => exact nomatch h
  | cons m ns ih =>
    by_cases hm : n = m
    · subst hm
      exact Scope.find_head _ _ _
    · rw [List.map_cons, Scope.find_tail hm]
      exact ih ((List.mem_cons.mp h).resolve_left hm)

/-! ## Expressions -/

section

variable {scope : Scope}

theorem Gives.name {n : String} {v : Value} (h : scope.find n = .value v) :
    Gives scope (.name n) v :=
  congrArg Except.ok h

theorem Gives.text (s : String) : Gives scope (.text s) (.str s) := rfl

theorem Gives.entry {e : Expr} {key : String} {v w : Value} (he : Gives scope e v)
    (hw : Template.entry v key = .value w) : Gives scope (.entry e key) w := by
  unfold Gives Expr.eval
  rw [he]
  exact congrArg Except.ok hw

/-- The entry of a mapping. -/
theorem Gives.field {n key : String} {es : List (String × Value)} {w : Value}
    (h : scope.find n = .value (.map es)) (hw : es.lookup key = some w) :
    Gives scope (.entry (.name n) key) w := by
  refine Gives.entry (Gives.name h) ?_
  unfold Template.entry
  rw [show ((Value.map es).entries?.getD []).lookup key = some w from hw]

theorem Gives.camelCase {e : Expr} {s : String} (he : Gives scope e (.str s)) :
    Gives scope (.filter e "camel_case") (.str (Naming.camelCase s)) := by
  unfold Gives Expr.eval
  rw [he]
  rfl

/-- A text is joined with a value that has one. -/
theorem Gives.join {l r : Expr} {s : String} {v : Value} (hl : Gives scope l (.str s))
    (hr : Gives scope r v) (hv : v.isWritable = true) :
    Gives scope (.operation .join l r) (.str (s ++ v.text)) := by
  have htext : (Operand.value v).text = .ok v.text := if_pos hv
  unfold Gives Expr.eval
  rw [hl, hr]
  show (do return Operand.value (.str (s ++ (← (Operand.value v).text)))) = _
  rw [htext]
  rfl

theorem Gives.equal {l r : Expr} {v w : Value} (hl : Gives scope l v) (hr : Gives scope r w) :
    Gives scope (.comparison .equal l r) (.bool (same v w)) := by
  unfold Gives Expr.eval
  rw [hl, hr]
  rfl

theorem Gives.not {e : Expr} {v : Value} (he : Gives scope e v) :
    Gives scope (.not e) (.bool !v.truthy) := by
  unfold Gives Expr.eval
  rw [he]
  rfl

theorem Gives.choose {test yes no : Expr} {v w x : Value} (ht : Gives scope test v)
    (hy : Gives scope yes w) (hn : Gives scope no x) :
    Gives scope (.choose test yes no) (if v.truthy then w else x) := by
  unfold Gives Expr.eval
  rw [ht, hy, hn]
  show (if v.truthy then Except.ok (Operand.value w) else Except.ok (Operand.value x)) = _
  cases v.truthy <;> rfl

end

/-! ## Templates -/

section

variable {embedding : Embedding} {scope : Scope}

theorem Renders.of_eq {b : Body} {t t' : String} (h : Renders embedding scope b t)
    (heq : t = t') : Renders embedding scope b t' :=
  heq ▸ h

theorem Renders.done : Renders embedding scope .done "" := rfl

theorem Renders.text {s t : String} {rest : Body} (h : Renders embedding scope rest t) :
    Renders embedding scope (.text s rest) (s ++ t) := by
  unfold Renders Body.render
  rw [h]
  rfl

theorem Renders.slot {e : Expr} {s t : String} {rest : Body} (he : Gives scope e (.str s))
    (h : Renders embedding scope rest t) : Renders embedding scope (.output e rest) (s ++ t) := by
  unfold Renders Body.render
  rw [he, h]
  rfl

theorem Renders.mark {n key : String} {v : Value} {shown : Expr} {s t : String} {rest : Body}
    (hv : Gives scope (.entry (.name n) key) v) (hs : Gives scope shown (.str s))
    (h : Renders embedding scope rest t) :
    Renders embedding scope (Bundled.mark n key shown rest)
      ((if v.truthy then s else "") ++ t) := by
  have hchosen := Gives.choose hv hs (Gives.text "")
  cases hb : v.truthy <;> rw [hb] at hchosen <;> exact Renders.slot hchosen h

theorem Renders.branch {test : Expr} {v : Value} {yes no rest : Body} {s s' t : String}
    (ht : Gives scope test v) (hy : Renders embedding scope yes s)
    (hn : Renders embedding scope no s') (h : Renders embedding scope rest t) :
    Renders embedding scope (.branch test yes no rest) ((if v.truthy then s else s') ++ t) := by
  unfold Renders Body.render
  rw [ht, hy, hn]
  show (do
    let r ← if v.truthy then Except.ok (s, scope) else Except.ok (s', scope)
    let u ← rest.render embedding r.2
    return (r.1 ++ u.1, u.2)) = _
  cases v.truthy <;> exact congrArg (fun r => r >>= fun u => pure (_ ++ u.1, u.2)) h

/-- What a loop gives at each item, it gives in the order of the items. -/
theorem mapM_mapIdx {ε α β γ δ : Type} {f : β → Except ε γ} {xs : List α} {field : α → δ}
    {g : Nat → δ → β} {line : Nat → α → γ}
    (h : ∀ i x, xs[i]? = some x → f (g i (field x)) = .ok (line i x)) :
    ((xs.map field).mapIdx g).mapM f = .ok (xs.mapIdx line) := by
  induction xs generalizing g line with
  | nil => rfl
  | cons x xs ih =>
    rw [List.map_cons, List.mapIdx_cons, List.mapIdx_cons, List.mapM_cons, h 0 x rfl,
      ih fun i y hy => h (i + 1) y hy]
    rfl

theorem Renders.each {α : Type} {var : String} {e : Expr} {body rest : Body} {xs : List α}
    {field : α → Value} {line : Nat → α → String} {t : String}
    (he : Gives scope e (.list (xs.map field)))
    (hbody : ∀ i x, xs[i]? = some x → Renders embedding
      ((var, .value (field x)) :: ("loop", .value (loopState i xs.length)) :: scope) body
      (line i x))
    (h : Renders embedding scope rest t) :
    Renders embedding scope (.each var e body .done rest)
      (String.join (xs.mapIdx line) ++ t) := by
  have loop : ((loopScopes var (xs.map field) scope).mapM fun inner =>
      (body.render embedding inner).map (·.1)) = .ok (xs.mapIdx line) := by
    unfold loopScopes
    refine mapM_mapIdx fun i x hx => ?_
    rw [List.length_map, hbody i x hx]
    rfl
  unfold Renders Body.render
  rw [he]
  simp only [items, bind, Except.bind]
  rw [loop, h]
  cases xs <;> rfl

/-! ## Lines -/

theorem textOf_nil : textOf [] = "" := rfl

theorem textOf_cons (line : String) (lines : List String) :
    textOf (line :: lines) = line ++ "\n" ++ textOf lines :=
  String.join_cons

theorem textOf_append (lines lines' : List String) :
    textOf (lines ++ lines') = textOf lines ++ textOf lines' := by
  unfold textOf
  rw [List.map_append, String.join_append]

/-- A line end that stands in one text with the end of its line. -/
theorem append_lineEnd {s u : String} (h : s ++ "\n" = u) (t : String) :
    s ++ ("\n" ++ t) = u ++ t := by
  rw [← h, String.append_assoc]

theorem join_mapIdx_line {α : Type} (line : α → String) (xs : List α) :
    String.join (xs.mapIdx fun _ x => line x ++ "\n") = textOf (xs.map line) := by
  induction xs with
  | nil => rfl
  | cons x xs ih => rw [List.mapIdx_cons, String.join_cons, ih, List.map_cons, textOf_cons]

/-- A loop that has passed `k` of `n` items and gives some lines at each of the others, with an
empty line after each but the last. -/
theorem join_mapIdx_lines {α : Type} (lines : α → List String) (xs : List α) (k n : Nat)
    (hn : n = k + xs.length) :
    String.join (xs.mapIdx fun i x => textOf (lines x) ++ if k + i + 1 = n then "" else "\n") =
      textOf ([""].intercalate (xs.map lines)) := by
  induction xs generalizing k with
  | nil => rfl
  | cons x xs ih =>
    rw [List.mapIdx_cons, String.join_cons]
    cases xs with
    | nil =>
      have last : k + 0 + 1 = n := hn.symm
      rw [if_pos last]
      simp [List.intercalate]
    | cons y ys =>
      simp only [List.length_cons] at hn ih
      have inner : ¬ k + 0 + 1 = n := by omega
      have tail := ih (k + 1) (by omega)
      simp only [show ∀ i, k + 1 + i + 1 = k + (i + 1) + 1 by omega] at tail
      rw [tail, if_neg inner]
      simp [List.intercalate, textOf_append, textOf_cons, String.append_assoc]

/-- A loop with one line for each item. -/
theorem Renders.eachLine {α : Type} {var : String} {e : Expr} {body rest : Body} {xs : List α}
    {field : α → Value} {line : α → String} {t : String}
    (he : Gives scope e (.list (xs.map field)))
    (hbody : ∀ x inner, Scope.find inner var = .value (field x) →
      Renders embedding inner body (line x ++ "\n"))
    (h : Renders embedding scope rest t) :
    Renders embedding scope (.each var e body .done rest) (textOf (xs.map line) ++ t) := by
  rw [← join_mapIdx_line]
  exact Renders.each he (fun _ x _ => hbody x _ (Scope.find_head _ _ _)) h

/-- A loop with some lines for each item and an empty line between two items. -/
theorem Renders.eachLines {α : Type} {var : String} {e : Expr} {body rest : Body} {xs : List α}
    {field : α → Value} {lines : α → List String} {t : String} (hvar : "loop" ≠ var)
    (he : Gives scope e (.list (xs.map field)))
    (hbody : ∀ i x inner, Scope.find inner var = .value (field x) →
      Scope.find inner "loop" = .value (loopState i xs.length) →
      Renders embedding inner body
        (textOf (lines x) ++ if i + 1 = xs.length then "" else "\n"))
    (h : Renders embedding scope rest t) :
    Renders embedding scope (.each var e body .done rest)
      (textOf ([""].intercalate (xs.map lines)) ++ t) := by
  rw [← join_mapIdx_lines lines xs 0 xs.length (Nat.zero_add _).symm]
  simp only [Nat.zero_add]
  refine Renders.each he (fun i x _ => hbody i x _ (Scope.find_head _ _ _) ?_) h
  rw [Scope.find_tail hvar, Scope.find_head]

end

end TableScaffold.Template
