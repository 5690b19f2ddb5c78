/-!
# Words of an identifier

An identifier is cut into words of ASCII letters and digits. A run of digits is a word. A lower-case
run is a word, together with one upper-case letter before it. A run of upper-case letters is a word,
except that its last letter goes with lower-case letters that follow.
-/

namespace TableScaffold.Naming

/-- A run of upper-case letters, cut so that its last letter stays with what follows if that starts
with a lower-case letter. The word and the rest. -/
def capitals (cs : List Char) : List Char × List Char :=
  let run := cs.takeWhile Char.isUpper
  let rest := cs.dropWhile Char.isUpper
  match rest with
  | [] => (run, rest)
  | c :: _ =>
    if !c.isLower then (run, rest)
    else if run.length ≤ 1 then
      (run ++ rest.takeWhile Char.isLower, rest.dropWhile Char.isLower)
    else (run.dropLast, run.drop (run.length - 1) ++ rest)

/-- The first word and what follows it, or nothing if the first character is in no word. -/
def firstWord : List Char → List Char × List Char
  | [] => ([], [])
  | c :: cs =>
    if c.isUpper then capitals (c :: cs)
    else if c.isLower then ((c :: cs).takeWhile Char.isLower, cs.dropWhile Char.isLower)
    else if c.isDigit then ((c :: cs).takeWhile Char.isDigit, cs.dropWhile Char.isDigit)
    else ([], cs)

theorem length_dropWhile_le {α : Type} (p : α → Bool) (l : List α) :
    (l.dropWhile p).length ≤ l.length := (List.dropWhile_sublist p).length_le

theorem length_capitals_lt {c : Char} {cs : List Char} (h : c.isUpper = true) :
    (capitals (c :: cs)).2.length < (c :: cs).length := by
  have hw : (c :: cs).takeWhile Char.isUpper = c :: cs.takeWhile Char.isUpper := by
    simp [h]
  have hd : (c :: cs).dropWhile Char.isUpper = cs.dropWhile Char.isUpper := by
    simp [h]
  have hlen : (cs.takeWhile Char.isUpper).length + (cs.dropWhile Char.isUpper).length
      = cs.length := by
    rw [← List.length_append, List.takeWhile_append_dropWhile]
  simp only [capitals, hw, hd]
  split
  · simp only [List.length_cons]; omega
  · next d ds hrest =>
    have := congrArg List.length hrest
    have := length_dropWhile_le Char.isLower (cs.dropWhile Char.isUpper)
    split
    · simp only [hrest, List.length_cons] at *; omega
    · split
      · simp only [hrest, List.length_cons] at *; omega
      · simp only [List.length_append, List.length_drop, List.length_cons, hrest] at *
        omega

theorem length_firstWord_lt (c : Char) (cs : List Char) :
    (firstWord (c :: cs)).2.length < (c :: cs).length := by
  simp only [firstWord]
  split
  · next h => exact length_capitals_lt h
  · split
    · have := length_dropWhile_le Char.isLower cs
      simp only [List.length_cons]; omega
    · split
      · have := length_dropWhile_le Char.isDigit cs
        simp only [List.length_cons]; omega
      · simp

/-- The words of an identifier, in order. -/
def words : List Char → List (List Char)
  | [] => []
  | c :: cs =>
    let word := (firstWord (c :: cs)).1
    let others := words (firstWord (c :: cs)).2
    if word.isEmpty then others else word :: others
termination_by cs => cs.length
decreasing_by exact length_firstWord_lt c cs

/-- A word with its first letter in upper case and the others in lower case. -/
def capitalized : List Char → List Char
  | [] => []
  | c :: cs => c.toUpper :: cs.map Char.toLower

/-- Words joined in camel case. -/
def joinCamel : List (List Char) → List Char
  | [] => []
  | head :: tail => head.map Char.toLower ++ tail.flatMap capitalized

/-- An identifier in camel case. -/
def camelCase (s : String) : String := String.ofList (joinCamel (words s.toList))

end TableScaffold.Naming
