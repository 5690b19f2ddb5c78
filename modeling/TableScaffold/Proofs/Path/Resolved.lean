import TableScaffold.Proofs.Disk.Parts

/-!
# Resolved paths

A path is resolved by taking a name back for each `..` behind it. What is left of a path that does not
lead from the root may start with `..`: then the path leads out of where it starts.

1. `depth?` follows names down and up and fails where they lead above the start.
2. A path whose names never do that stays below every path that it is joined to (`below_join`); one
   whose names do leads out of the current directory (`not_below_join`).
-/

namespace TableScaffold.Path

variable {fromRoot : Bool} {names way : List String} {n : String} {h k : Nat}

/-- One more part of a way, whose last part comes first. `..` takes the last part back, unless that is
`..` too. Nothing is above the root. -/
def turn (fromRoot : Bool) (way : List String) (part : String) : List String :=
  if part = ".." then
    match way with
    | [] => if fromRoot then [] else [".."]
    | last :: rest => if last = ".." then ".." :: last :: rest else rest
  else part :: way

/-- A path without the names that a `..` takes back. -/
def resolved (p : Path) : Path := ⟨p.root, (p.names.foldl (turn (p.root != "")) []).reverse⟩

/-- Whether a path leads to a place strictly below that of another one. -/
def Below (p base : Path) : Prop :=
  p.root = base.root ∧ ∃ way, way ≠ [] ∧ way.head? ≠ some ".." ∧
    p.resolved.names = base.resolved.names ++ way

example : (ofText "a/../../b/../c").resolved.names = ["..", "c"] ∧
    (ofText "/a/../../b//./c").resolved.names = ["b", "c"] := by
  decide +kernel

@[simp] theorem turn_name (hn : n ≠ "..") : turn fromRoot way n = n :: way := by
  simp [turn, hn]

theorem turn_back (hn : n ≠ "..") : turn fromRoot (n :: way) ".." = way := by
  simp [turn, hn]

@[simp] theorem turn_up_up : turn fromRoot (".." :: way) ".." = ".." :: ".." :: way := by
  simp [turn]

/-- The last name of a path that is no `..` stays the last one. -/
theorem getLast?_resolved {p : Path} (hlast : p.names.getLast? = some n) (hn : n ≠ "..") :
    p.resolved.names.getLast? = some n := by
  obtain ⟨front, hfront⟩ := List.getLast?_eq_some_iff.mp hlast
  simp [resolved, hfront, hn]

/-! ## Down and up -/

/-- How far below the start names lead, if they start `depth` below it and never lead above it. -/
def depth? (depth : Nat) : List String → Option Nat
  | [] => some depth
  | part :: rest =>
    if part = ".." then
      match depth with
      | 0 => none
      | above + 1 => depth? above rest
    else depth? (depth + 1) rest

@[simp] theorem depth?_down (hn : n ≠ "..") : depth? h (n :: names) = depth? (h + 1) names := by
  simp [depth?, hn]

@[simp] theorem depth?_back : depth? (h + 1) (".." :: names) = depth? h names := by
  simp [depth?]

@[simp] theorem depth?_above : depth? 0 (".." :: names) = none := by
  simp [depth?]

theorem depth?_append (names others : List String) :
    depth? h (names ++ others) = (depth? h names).bind fun k => depth? k others := by
  induction names generalizing h with
  | nil => rfl
  | cons part rest ih =>
    rw [List.cons_append]
    by_cases hpart : part = ".."
    · subst hpart
      cases h with
      | zero => rw [depth?_above, depth?_above, Option.bind_none]
      | succ h => rw [depth?_back, depth?_back, ih]
    · rw [depth?_down hpart, depth?_down hpart, ih]

/-- From further down the same names are harmless too. -/
theorem depth?_succ (hk : depth? h names = some k) : depth? (h + 1) names = some (k + 1) := by
  induction names generalizing h with
  | nil => exact congrArg (fun o => o.map (· + 1)) hk
  | cons part rest ih =>
    by_cases hpart : part = ".."
    · subst hpart
      cases h with
      | zero => cases hk.symm.trans depth?_above
      | succ h => exact depth?_back.trans (ih (depth?_back.symm.trans hk))
    · rw [depth?_down hpart] at hk ⊢
      exact ih hk

theorem isSome_depth?_add (hsome : (depth? 0 names).isSome) (h : Nat) : (depth? h names).isSome := by
  induction h with
  | zero => exact hsome
  | succ h ih =>
    obtain ⟨k, hk⟩ := Option.isSome_iff_exists.mp ih
    rw [depth?_succ hk]
    rfl

/-! ## Staying below -/

/-- Names that never lead above the start leave alone what stands in front of it. -/
theorem foldl_turn_of_depth? (fromRoot : Bool) (base way : List String) (hway : ".." ∉ way)
    (hk : depth? way.length names = some k) :
    ∃ way', names.foldl (turn fromRoot) (way ++ base) = way' ++ base ∧ way'.length = k ∧
      ".." ∉ way' := by
  induction names generalizing way with
  | nil => exact ⟨way, rfl, Option.some.inj hk, hway⟩
  | cons part rest ih =>
    rw [List.foldl_cons]
    by_cases hpart : part = ".."
    · subst hpart
      cases way with
      | nil => cases hk.symm.trans depth?_above
      | cons last way =>
        rw [List.mem_cons, not_or] at hway
        rw [List.cons_append, turn_back (Ne.symm hway.1)]
        exact ih way hway.2 (depth?_back.symm.trans hk)
    · rw [turn_name hpart]
      rw [depth?_down hpart] at hk
      exact ih (part :: way) (by simp [hway, Ne.symm hpart]) hk

/-- Once a way starts with `..` it always does. -/
theorem getLast?_foldl_turn (hway : way.getLast? = some "..") :
    (names.foldl (turn false) way).getLast? = some ".." := by
  induction names generalizing way with
  | nil => exact hway
  | cons part rest ih =>
    refine ih ?_
    cases way with
    | nil => cases hway
    | cons last others =>
      by_cases hpart : part = ".."
      · subst hpart
        by_cases hlast : last = ".."
        · subst hlast
          rw [turn_up_up, List.getLast?_cons_cons, hway]
        · rw [turn_back hlast]
          cases others with
          | nil => exact absurd (Option.some.inj hway) hlast
          | cons other others => rwa [List.getLast?_cons_cons] at hway
      · rw [turn_name hpart, List.getLast?_cons_cons, hway]

/-- Names that lead above the start give a way that starts with `..`. -/
theorem foldl_turn_of_none (way : List String) (hway : ".." ∉ way) (hnone : depth? way.length names = none) :
    (names.foldl (turn false) way).getLast? = some ".." := by
  induction names generalizing way with
  | nil => cases hnone
  | cons part rest ih =>
    rw [List.foldl_cons]
    by_cases hpart : part = ".."
    · subst hpart
      cases way with
      | nil => exact getLast?_foldl_turn (by simp [turn])
      | cons last way =>
        rw [List.mem_cons, not_or] at hway
        rw [turn_back (Ne.symm hway.1)]
        exact ih way hway.2 (depth?_back.symm.trans hnone)
    · rw [turn_name hpart]
      rw [depth?_down hpart] at hnone
      exact ih (part :: way) (by simp [hway, Ne.symm hpart]) hnone

/-- A relative path that never leads above its start stays below whatever it is joined to. -/
theorem below_join {q : Path} (hroot : q.root = "") (hlast : q.names.getLast? = some n) (hn : n ≠ "..")
    (hdepth : (depth? 0 q.names).isSome) (base : Path) : (base.join q).Below base := by
  obtain ⟨k, hk⟩ := Option.isSome_iff_exists.mp hdepth
  obtain ⟨way, hway, -, hup⟩ := foldl_turn_of_depth? (base.root != "")
    (base.names.foldl (turn (base.root != "")) []) [] List.not_mem_nil hk
  have hnames : (base.join q).resolved.names = base.resolved.names ++ way.reverse := by
    rw [join, if_pos hroot]
    unfold resolved
    dsimp only
    rw [List.foldl_append, ← List.reverse_append]
    exact congrArg List.reverse hway
  -- the last name is still there, so that the way is not empty
  have hne : way ≠ [] := by
    rintro rfl
    obtain ⟨front, hfront⟩ := List.getLast?_eq_some_iff.mp hlast
    rw [hfront, List.foldl_append, List.foldl_cons, turn_name hn, List.nil_append] at hway
    have hlength := congrArg List.length hway
    obtain ⟨j, hj⟩ : ∃ j, depth? 0 front = some j := by
      rw [hfront, depth?_append] at hk
      exact (Option.bind_eq_some_iff.mp hk).imp fun _ h => h.1
    obtain ⟨way', hway', -, -⟩ := foldl_turn_of_depth? (base.root != "")
      (base.names.foldl (turn (base.root != "")) []) [] List.not_mem_nil hj
    rw [List.nil_append] at hway'
    rw [hway', List.foldl_nil, List.length_cons, List.length_append] at hlength
    omega
  refine ⟨by rw [join, if_pos hroot], way.reverse, by simpa using hne, fun hhead => hup ?_, hnames⟩
  exact List.mem_reverse.mp (List.mem_of_head? hhead)

/-- A path from the root, and one that leads above its start, lead out of the current directory. -/
theorem not_below_join {q : Path} (h : q.root ≠ "" ∨ depth? 0 q.names = none) :
    ¬ ((ofText ".").join q).Below (ofText ".") := by
  have hdot : ofText "." = ⟨"", []⟩ := by decide +kernel
  rw [hdot]
  rintro ⟨hroot, way, -, hhead, hnames⟩
  by_cases hq : q.root = ""
  · rw [join, if_pos hq] at hnames
    have hup := foldl_turn_of_none [] List.not_mem_nil (h.resolve_left fun hne => hne hq)
    refine hhead ?_
    rw [← List.nil_append way]
    refine (congrArg List.head? hnames).symm.trans ?_
    show ((q.names.foldl (turn false) []).reverse).head? = some ".."
    rw [List.head?_reverse, hup]
  · rw [join, if_neg hq] at hroot
    exact hq hroot

end TableScaffold.Path
