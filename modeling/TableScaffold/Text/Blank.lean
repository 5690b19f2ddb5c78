import TableScaffold.Text.Span

/-!
# Blank characters

Two classes of blanks are in use. White space proper is what separates words in running text. The
wider class also takes the four information separators.
-/

namespace TableScaffold.Text

/-- White space. -/
def whiteSpaceSpans : List Span :=
  [⟨0x9, 0xD, 1⟩, ⟨0x20, 0x20, 1⟩, ⟨0x85, 0x85, 1⟩, ⟨0xA0, 0xA0, 1⟩, ⟨0x1680, 0x1680, 1⟩,
   ⟨0x2000, 0x200A, 1⟩, ⟨0x2028, 0x2029, 1⟩, ⟨0x202F, 0x202F, 1⟩, ⟨0x205F, 0x205F, 1⟩,
   ⟨0x3000, 0x3000, 1⟩]

/-- A white space character. -/
def isWhiteSpace (c : Char) : Bool := inSpans whiteSpaceSpans c

/-- White space or one of the information separators. -/
def isBlank (c : Char) : Bool := isWhiteSpace c || (0x1C ≤ c.toNat && c.toNat ≤ 0x1F)

theorem isBlank_of_isWhiteSpace {c : Char} (h : isWhiteSpace c = true) : isBlank c = true := by
  simp [isBlank, h]

/-- The characters without those of a class at either end. -/
def trimBy (p : Char → Bool) (cs : List Char) : List Char :=
  ((cs.dropWhile p).reverse.dropWhile p).reverse

/-- The characters without those of a class at the end. -/
def trimEndBy (p : Char → Bool) (cs : List Char) : List Char := (cs.reverse.dropWhile p).reverse

example : isBlank ' ' ∧ isBlank '\n' ∧ isBlank '\x1c' ∧ ¬ isWhiteSpace '\x1c' := by decide

end TableScaffold.Text
