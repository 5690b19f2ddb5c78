import Mathlib.Data.List.Forall2
import TableScaffold.Naming
import TableScaffold.Proofs.Path.Resolved
import TableScaffold.Proofs.Text.CaseMap

/-!
# Texts of one shape

A text keeps its slashes and its dots, and so the directories that it leads through, when every other
character becomes some other characters. Nothing else happens to a name that becomes a file name, but
that its underscores are left out.
-/

namespace TableScaffold

open TableScaffold.Path Text

variable {cs ds w : List Char} {c : Char}

/-- The characters that tell the parts of a path apart, and `.` and `..` from names. -/
def pathMarks : List Char := ['/', '.']

/-- A text that has become another one of the same shape. -/
inductive Reshaped : List Char → List Char → Prop where
  | nil : Reshaped [] []
  | mark {c : Char} {cs ds : List Char} (hc : c ∈ pathMarks) (rest : Reshaped cs ds) :
      Reshaped (c :: cs) (c :: ds)
  | other {c : Char} {w cs ds : List Char} (hc : c ∉ pathMarks) (hne : w ≠ [])
      (hw : ∀ d ∈ w, d ∉ pathMarks) (rest : Reshaped cs ds) : Reshaped (c :: cs) (w ++ ds)

theorem mem_pathMarks : c ∈ pathMarks ↔ c = '/' ∨ c = '.' := by
  simp [pathMarks]

theorem toNat_le_of_mem_pathMarks (hc : c ∈ pathMarks) : c.toNat ≤ 64 := by
  rcases mem_pathMarks.mp hc with rfl | rfl <;> decide

namespace Reshaped

/-! ## Letter case and dashes -/

theorem mapped (hw : Mapped c w) (rest : Reshaped cs ds) : Reshaped (c :: cs) (w ++ ds) := by
  by_cases hc : c ∈ pathMarks
  · rw [hw.eq (toNat_le_of_mem_pathMarks hc)]
    exact mark hc rest
  · refine other hc hw.ne_nil (fun d hd hmark => hc ?_) rest
    rwa [← (hw.mem_iff (toNat_le_of_mem_pathMarks hmark)).mp hd]

theorem lowerFrom (before cs : List Char) : Reshaped cs (lowerFrom before cs) := by
  induction cs generalizing before with
  | nil => exact nil
  | cons c cs ih =>
    rw [Text.lowerFrom]
    split
    · next hc =>
      subst hc
      refine other (by decide) ?_ ?_ (ih _) <;> split <;> simp [mem_pathMarks]
    · exact mapped (mapped_lowerChar c) (ih _)

theorem keep (c : Char) (rest : Reshaped cs ds) : Reshaped (c :: cs) (c :: ds) :=
  mapped (.inl rfl) rest

theorem dash (c : Char) (rest : Reshaped cs ds) :
    Reshaped (c :: cs) ((if c = '_' then '-' else c) :: ds) := by
  split
  · next hc =>
    subst hc
    exact other (w := ['-']) (by decide) (by decide) (by simp [mem_pathMarks]) rest
  · exact keep c rest

theorem dashes (cs : List Char) : Reshaped cs (Naming.dashes cs) := by
  fun_induction Naming.dashes cs with
  | case1 => exact nil
  | case2 c => exact dash c nil
  | case3 c d rest hcase ih =>
    have hc : c ∉ pathMarks := by
      intro hc
      rcases mem_pathMarks.mp hc with rfl | rfl <;> simp at hcase
    refine other (w := [c, '-']) hc (List.cons_ne_nil _ _) ?_ ih
    simpa [hc] using (by decide : '-' ∉ pathMarks)
  | case4 c d rest hcase ih => exact dash c ih

theorem upper (cs : List Char) : Reshaped cs (cs.flatMap upperChar) := by
  induction cs with
  | nil => exact nil
  | cons c cs ih => exact mapped (mapped_upperChar c) ih

/-- Underscores are left out of a class name. -/
theorem pascalFrom (start : Bool) (cs : List Char) :
    Reshaped (cs.filter (· != '_')) (Naming.pascalFrom start cs) := by
  induction cs generalizing start with
  | nil => exact nil
  | cons c cs ih =>
    rw [Naming.pascalFrom]
    split
    · next hc =>
      rw [List.filter_cons_of_neg (by simp [hc])]
      exact ih true
    · next hc =>
      rw [List.filter_cons_of_pos (by simp [hc])]
      cases start with
      | true => exact mapped (mapped_upperChar c) (ih false)
      | false => exact keep c (ih false)

/-- Every mark of the new text comes from the old one. -/
theorem mem_of_mark (h : Reshaped cs ds) {mark : Char} (hmark : mark ∈ pathMarks)
    (hd : mark ∈ ds) : mark ∈ cs := by
  induction h with
  | nil => exact hd
  | mark _ _ ih =>
    rcases List.mem_cons.mp hd with rfl | hd
    · exact List.mem_cons_self
    · exact List.mem_cons_of_mem _ (ih hd)
  | other _ _ hw _ ih =>
    rcases List.mem_append.mp hd with hd | hd
    · exact absurd hmark (hw _ hd)
    · exact List.mem_cons_of_mem _ (ih hd)

/-! ## Parts -/

theorem splitOn_append_of_notMem (hw : '/' ∉ w) (ds : List Char) :
    (w ++ ds).splitOn '/' = (ds.splitOn '/').modifyHead (w ++ ·) := by
  induction w with
  | nil =>
    show _ = (ds.splitOn '/').modifyHead id
    rw [List.modifyHead_id]
    rfl
  | cons c w ih =>
    rw [List.mem_cons, not_or] at hw
    rw [List.cons_append, List.splitOn_cons_eq_if_modifyHead, if_neg (by simp [Ne.symm hw.1]),
      ih hw.2, List.modifyHead_modifyHead]
    rfl

theorem modifyHead {ps qs : List (List Char)} {f g : List Char → List Char}
    (hhead : ∀ p q, Reshaped p q → Reshaped (f p) (g q)) (h : List.Forall₂ Reshaped ps qs) :
    List.Forall₂ Reshaped (ps.modifyHead f) (qs.modifyHead g) := by
  cases h with
  | nil => exact .nil
  | cons head tail => exact .cons (hhead _ _ head) tail

/-- The parts of texts of one shape have one shape. -/
theorem splitOn (h : Reshaped cs ds) :
    List.Forall₂ Reshaped (cs.splitOn '/') (ds.splitOn '/') := by
  induction h with
  | nil => exact .cons nil .nil
  | @mark c cs ds hc rest ih =>
    rw [List.splitOn_cons_eq_if_modifyHead, List.splitOn_cons_eq_if_modifyHead]
    split
    · exact .cons nil ih
    · exact modifyHead (fun _ _ head => mark hc head) ih
  | @other c w cs ds hc hne hw rest ih =>
    have hslash : c ≠ '/' := fun heq => hc (heq ▸ by decide)
    rw [List.splitOn_cons_eq_if_modifyHead, if_neg (by simpa using hslash),
      splitOn_append_of_notMem fun hmem => hw '/' hmem (by decide)]
    exact modifyHead (fun _ _ head => other hc hne hw head) ih

theorem eq_of_marks (h : Reshaped cs ds) (hcs : ∀ c ∈ cs, c ∈ pathMarks) : ds = cs := by
  induction h with
  | nil => rfl
  | mark hc rest ih => rw [ih fun c hc => hcs c (List.mem_cons_of_mem _ hc)]
  | other hc hne hw rest ih => exact absurd (hcs _ List.mem_cons_self) hc

theorem eq_of_marks_right (h : Reshaped cs ds) (hds : ∀ d ∈ ds, d ∈ pathMarks) : ds = cs := by
  induction h with
  | nil => rfl
  | mark hc rest ih => rw [ih fun d hd => hds d (List.mem_cons_of_mem _ hd)]
  | @other c w cs ds hc hne hw rest ih =>
    obtain ⟨d, hd⟩ := List.exists_mem_of_ne_nil w hne
    exact absurd (hds d (List.mem_append_left _ hd)) (hw d hd)

/-- A part is `.`, `..` or empty exactly if it was. -/
theorem eq_iff (h : Reshaped cs ds) {short : List Char} (hshort : ∀ c ∈ short, c ∈ pathMarks) :
    ds = short ↔ cs = short := by
  constructor
  · rintro rfl
    exact (h.eq_of_marks_right hshort).symm
  · rintro rfl
    exact h.eq_of_marks hshort

theorem head?_eq_slash (h : Reshaped cs ds) : ds.head? = some '/' ↔ cs.head? = some '/' := by
  cases h with
  | nil => rfl
  | mark => rfl
  | @other c w cs ds hc hne hw rest =>
    obtain ⟨d, w, rfl⟩ := List.exists_cons_of_ne_nil hne
    have hd : d ≠ '/' := fun heq => hw d List.mem_cons_self (heq ▸ by decide)
    have hc' : c ≠ '/' := fun heq => hc (heq ▸ by decide)
    simp [hd, hc']

end Reshaped

/-! ## Derived names -/

namespace Naming

variable {mark : Char} {name : String}

theorem mark_mem_of_lower (hmark : mark ∈ pathMarks) (h : mark ∈ (Text.lower name).toList) :
    mark ∈ name.toList := by
  rw [Text.lower, String.toList_ofList] at h
  exact (Reshaped.lowerFrom [] _).mem_of_mark hmark h

theorem mark_mem_of_upper (hmark : mark ∈ pathMarks) (h : mark ∈ (Text.upper name).toList) :
    mark ∈ name.toList := by
  rw [Text.upper, String.toList_ofList] at h
  exact (Reshaped.upper _).mem_of_mark hmark h

theorem mark_mem_of_className (hmark : mark ∈ pathMarks) (h : mark ∈ (className name).toList) :
    mark ∈ name.toList := by
  rw [className, String.toList_ofList] at h
  exact List.mem_of_mem_filter ((Reshaped.pascalFrom true _).mem_of_mark hmark h)

theorem mark_mem_of_fileName (hmark : mark ∈ pathMarks) (h : mark ∈ (fileName name).toList) :
    mark ∈ name.toList := by
  have hdashes := mark_mem_of_lower hmark h
  rw [String.toList_ofList] at hdashes
  exact (Reshaped.dashes _).mem_of_mark hmark hdashes

theorem mem_of_mem_singular {c : Char} (h : c ∈ (singular name).toList) : c ∈ name.toList := by
  unfold singular at h
  split at h
  · rw [String.toList_ofList] at h
    exact List.dropLast_subset _ h
  · exact h

end Naming

/-! ## Directories -/

namespace Path

/-- The names of the directories that a path leads through. -/
def dirs (text : String) : List String := (parts text).dropLast.filter isName

/-- A text that goes on without slashes leads through the same directories. -/
theorem parts_append {suffix : String} (h : '/' ∉ suffix.toList) (text : String) :
    parts (text ++ suffix) =
      (parts text).dropLast ++ [String.ofList (lastPart text.toList ++ suffix.toList)] := by
  have hsingle : (lastPart text.toList ++ suffix.toList).splitOn '/' =
      [lastPart text.toList ++ suffix.toList] := by
    refine List.splitOn_eq_singleton fun hmem => ?_
    exact (List.mem_append.mp hmem).elim (slash_not_mem_lastPart _) h
  have hlast := List.splitOn_eq_singleton (slash_not_mem_lastPart text.toList)
  unfold parts
  rw [String.toList_append, ← List.map_dropLast]
  rcases eq_lastPart_or text.toList with heq | ⟨front, heq⟩
  · rw [← heq] at hsingle hlast ⊢
    rw [hsingle, hlast]
    rfl
  · generalize lastPart text.toList = last at *
    rw [heq, List.append_assoc, List.cons_append, List.splitOn_append_cons_self,
      List.splitOn_append_cons_self, hsingle, hlast, List.dropLast_concat, List.map_append]
    rfl

theorem dirs_append {suffix : String} (h : '/' ∉ suffix.toList) (text : String) :
    dirs (text ++ suffix) = dirs text := by
  rw [dirs, parts_append h, List.dropLast_concat, dirs]

theorem parts_slash (front text : String) :
    parts (front ++ "/" ++ text) = parts front ++ parts text := by
  unfold parts
  rw [String.toList_append, String.toList_append, List.append_assoc]
  show ((front.toList ++ '/' :: text.toList).splitOn '/').map String.ofList = _
  rw [List.splitOn_append_cons_self, List.map_append]

theorem dirs_slash (front text : String) :
    dirs (front ++ "/" ++ text) = (parts front).filter isName ++ dirs text := by
  rw [dirs, parts_slash, List.dropLast_append_of_ne_nil (parts_ne_nil text), List.filter_append, dirs]

/-- A path leads through its directories to its last part. -/
theorem names_ofText {text : String} (h : isName (String.ofList (lastPart text.toList)) = true) :
    (ofText text).names = dirs text ++ [String.ofList (lastPart text.toList)] := by
  obtain ⟨front, hfront⟩ := List.getLast?_eq_some_iff.mp (getLast?_parts text)
  rw [dirs, ofText, hfront, List.dropLast_concat, List.filter_append, List.filter_cons_of_pos h]
  rfl

theorem root_ofText_iff (text : String) : (ofText text).root = "" ↔ text.toList.head? ≠ some '/' := by
  unfold ofText rootOf
  generalize text.toList = cs
  split <;> simp
  next h => exact fun heq => h _ (List.head?_eq_some_iff.mp heq).choose_spec

/-- Names that are `.`, `..` and empty at the same places lead as far down and up. -/
theorem depth?_congr {ps qs : List String} (depth : Nat)
    (h : List.Forall₂ (fun p q => ∀ short ∈ ["", ".", ".."], q = short ↔ p = short) ps qs) :
    depth? depth (qs.filter isName) = depth? depth (ps.filter isName) := by
  induction h generalizing depth with
  | nil => rfl
  | @cons p q ps qs hpart rest ih =>
    have hname : isName q = isName p := by
      simp [isName, hpart "" (by simp), hpart "." (by simp), bne, BEq.beq]
    cases hp : isName p with
    | false =>
      rw [List.filter_cons_of_neg (by simp [hname, hp]), List.filter_cons_of_neg (by simp [hp])]
      exact ih depth
    | true =>
      rw [List.filter_cons_of_pos (hname.trans hp), List.filter_cons_of_pos hp]
      by_cases hup : p = ".."
      · have hq := (hpart ".." (by simp)).mpr hup
        subst hup hq
        cases depth with
        | zero => rw [depth?_above, depth?_above]
        | succ depth => rw [depth?_back, depth?_back, ih]
      · rw [depth?_down hup, depth?_down fun hq => hup ((hpart ".." (by simp)).mp hq), ih]

end Path

/-- The directories of texts of one shape lead as far down and up. -/
theorem Reshaped.depth?_dirs (h : Reshaped cs ds) (depth : Nat) :
    depth? depth (dirs (String.ofList ds)) = depth? depth (dirs (String.ofList cs)) := by
  have hparts : List.Forall₂ (fun p q => ∀ short ∈ ["", ".", ".."], q = short ↔ p = short)
      (parts (String.ofList cs)) (parts (String.ofList ds)) := by
    unfold parts
    rw [String.toList_ofList, String.toList_ofList, List.forall₂_map_left_iff,
      List.forall₂_map_right_iff]
    refine h.splitOn.imp fun p q hpart short hshort => ?_
    have hmarks : ∀ short ∈ ["", ".", ".."], short.toList.all (pathMarks.contains ·) = true := by
      decide
    have heq := hpart.eq_iff (by simpa using hmarks short hshort)
    rwa [← String.toList_inj, ← String.toList_inj, String.toList_ofList, String.toList_ofList]
  have hlength := hparts.length_eq
  have hfront := List.forall₂_take ((parts (String.ofList cs)).length - 1) hparts
  refine depth?_congr depth ?_
  rw [List.dropLast_eq_take, List.dropLast_eq_take, ← hlength]
  exact hfront

end TableScaffold
