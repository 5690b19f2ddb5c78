import TableScaffold.Naming
import TableScaffold.Proofs.Naming.CamelCase
import TableScaffold.Proofs.Text.LowerCase

/-!
# Dashed file names

A scan that uses up both letters of each place that it separates (`separated`) misses none: the second
letter is a capital, so no place begins with it. What stands at a place of the name therefore depends on
the character there and the next one only (`placed`).
-/

namespace TableScaffold.Naming

variable {c d : Char} {cs : List Char}

/-- Puts a dash between a small letter and a capital behind it. The scan goes on behind both. -/
def separated : List Char → List Char
  | c :: d :: rest =>
    if c.isLower && d.isUpper then c :: '-' :: d :: separated rest else c :: separated (d :: rest)
  | cs => cs

/-- A dash for an underscore. -/
def dash (c : Char) : Char := if c = '_' then '-' else c

/-- What the dashed text has for one place: the character there, and a dash behind a small letter that a
capital follows. -/
def placed (cs : List Char) (i : Nat) : List Char :=
  cs[i]?.elim [] fun c =>
    dash c :: if c.isLower && cs[i + 1]?.any Char.isUpper then ['-'] else []

/-! ## Places -/

theorem dash_of_isLower (hc : c.isLower = true) : dash c = c := by
  refine if_neg fun h => ?_
  rw [h] at hc
  cases hc

theorem dash_ne_underscore (c : Char) : dash c ≠ '_' := by
  unfold dash
  split
  · decide
  · assumption

theorem dashes_cons (c : Char) (cs : List Char) :
    dashes (c :: cs) = placed (c :: cs) 0 ++ dashes cs := by
  cases cs with
  | nil => simp [dashes, placed, dash]
  | cons d rest =>
    have hplaced : placed (c :: d :: rest) 0 =
        dash c :: if c.isLower && d.isUpper then ['-'] else [] := rfl
    rw [hplaced]
    cases hplace : c.isLower && d.isUpper with
    | false => simp [dashes, hplace, dash]
    | true =>
      rw [dash_of_isLower (Bool.and_eq_true_iff.mp hplace).1]
      simp [dashes, hplace]

/-- The dashed text place by place. -/
theorem dashes_eq_flatMap (cs : List Char) :
    dashes cs = (List.range cs.length).flatMap (placed cs) := by
  induction cs with
  | nil => rfl
  | cons c cs ih =>
    rw [dashes_cons, ih, List.length_cons, List.range_succ_eq_map, List.flatMap_cons,
      List.flatMap_map]
    rfl

/-- Nothing is separated from a character that is no small letter. -/
theorem dashes_cons_of_not_isLower (hc : c.isLower = false) (cs : List Char) :
    dashes (c :: cs) = dash c :: dashes cs := by
  have hplaced : placed (c :: cs) 0 = [dash c] := by simp [placed, hc]
  rw [dashes_cons, hplaced]
  rfl

/-- The scan that uses up both letters misses no place. -/
theorem dashes_eq_separated (cs : List Char) : dashes cs = (separated cs).map dash := by
  fun_induction separated cs with
  | case1 c d rest hplace ih =>
    obtain ⟨hc, hd⟩ := Bool.and_eq_true_iff.mp hplace
    have hrest := dashes_cons_of_not_isLower (kind_of_isUpper hd).isLower rest
    have hmark : dash '-' = '-' := rfl
    simp only [dashes, hplace, if_true, hrest, ih, List.map_cons, dash_of_isLower hc, hmark]
  | case2 c d rest hplace ih =>
    have hstep : dashes (c :: d :: rest) = dash c :: dashes (d :: rest) := if_neg hplace
    rw [hstep, ih, List.map_cons]
  | case3 cs hshort =>
    match cs, hshort with
    | [], _ => rfl
    | [c], _ => rfl
    | c :: d :: rest, hshort => exact (hshort c d rest rfl).elim

/-! ## No underscore, no capital -/

theorem underscore_notMem_dashes (cs : List Char) : '_' ∉ dashes cs := by
  rw [dashes_eq_separated, List.mem_map]
  rintro ⟨c, -, hc⟩
  exact dash_ne_underscore c hc

/-- A text without underscores and capitals stays as it is. -/
theorem dashes_of_forall (h : ∀ c ∈ cs, c ≠ '_' ∧ c.isUpper = false) : dashes cs = cs := by
  induction cs with
  | nil => rfl
  | cons c cs ih =>
    obtain ⟨⟨hmark, -⟩, hcs⟩ := List.forall_mem_cons.mp h
    have hnext : cs[0]?.any Char.isUpper = false := by
      cases cs with
      | nil => rfl
      | cons d rest => exact (hcs d List.mem_cons_self).2
    have hplaced : placed (c :: cs) 0 = [c] := by
      simp [placed, dash, hmark, hnext]
    rw [dashes_cons, hplaced, ih hcs]
    rfl

theorem of_mem_fileName {name : String} (h : c ∈ (fileName name).toList) :
    c ≠ '_' ∧ c.isUpper = false := by
  constructor
  · rintro rfl
    refine Text.underscore_notMem_lower ?_ h
    rw [String.toList_ofList]
    exact underscore_notMem_dashes name.toList
  · refine Bool.eq_false_iff.mpr fun hupper => ?_
    have hascii := Text.toNat_lt_of_isAlphanum (isAlphanum_of_isUpper hupper)
    have hlower := Text.toLower_of_mem_lower hascii h
    cases (kind_of_isUpper hupper).toLower.mp hlower

/-- A file name stays as it is. -/
theorem fileName_fileName (name : String) : fileName (fileName name) = fileName name := by
  have hdashes : dashes (fileName name).toList = (fileName name).toList :=
    dashes_of_forall fun _ => of_mem_fileName
  calc fileName (fileName name) = Text.lower (fileName name) := by
        rw [fileName.eq_def (fileName name), hdashes, String.ofList_toList]
    _ = fileName name := Text.lower_lower _

/-- A file name is the name in small letters, with a dash for every underscore and one dash more at
exactly the places between a small letter and a capital of the ASCII letters. It has no underscore and no
capital of these letters, and is its own file name. -/
theorem fileName_by_place (name : String) :
    fileName name = Text.lower (String.ofList
      ((List.range name.toList.length).flatMap (placed name.toList))) ∧
    fileName name = Text.lower (String.ofList ((separated name.toList).map dash)) ∧
    (∀ c ∈ (fileName name).toList, c ≠ '_' ∧ c.isUpper = false) ∧
    fileName (fileName name) = fileName name := by
  refine ⟨?_, ?_, fun _ => of_mem_fileName, fileName_fileName name⟩
  · rw [← dashes_eq_flatMap]
    rfl
  · rw [← dashes_eq_separated]
    rfl

end TableScaffold.Naming
