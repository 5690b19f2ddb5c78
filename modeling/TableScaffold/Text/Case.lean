import TableScaffold.Text.CaseTable

/-!
# Letter case

Full case mapping of text: a letter may become several, and a capital sigma at the end of a word
becomes a final sigma.
-/

namespace TableScaffold.Text

/-- The image of a code point under the first shift whose span holds it. -/
def shifted (shifts : List Shift) (n : Nat) : Option Nat :=
  (shifts.find? (·.span.holds n)).map fun s => (Int.ofNat n + s.distance).toNat

/-- The image of a character: its expansion, or its shift, or itself. -/
def mapCase (shifts : List Shift) (expansions : List (Nat × List Nat)) (c : Char) : List Char :=
  match shifted shifts c.toNat with
  | some m => [Char.ofNat m]
  | none =>
    match expansions.lookup c.toNat with
    | some ms => ms.map Char.ofNat
    | none => [c]

/-- The upper-case form of a character. -/
def upperChar (c : Char) : List Char := mapCase upperShifts upperExpansions c

/-- The lower-case form of a character away from the end of a word. -/
def lowerChar (c : Char) : List Char := mapCase lowerShifts lowerExpansions c

/-- The text in upper case. -/
def upper (s : String) : String := String.ofList (s.toList.flatMap upperChar)

/-- Whether the first character that is not passed over has a case. -/
def meetsCased : List Char → Bool
  | [] => false
  | c :: rest =>
    if inSpans caseIgnorableSpans c then meetsCased rest else inSpans casedSpans c

/-- Lower-cases what is left; `before` holds the characters already read, the nearest first. -/
def lowerFrom (before : List Char) : List Char → List Char
  | [] => []
  | c :: rest =>
    (if c = 'Σ' then (if meetsCased before && !meetsCased rest then ['ς'] else ['σ'])
      else lowerChar c) ++ lowerFrom (c :: before) rest

/-- The text in lower case. -/
def lower (s : String) : String := String.ofList (lowerFrom [] s.toList)

/-- Whether some letter is upper case and none is lower or title case. -/
def isAllUpper (s : String) : Bool :=
  s.toList.any (inSpans upperSpans ·) &&
    !s.toList.any (fun c => inSpans lowerSpans c || inSpans titleSpans c)

example : upper "straße" = "STRASSE" ∧ lower "ΟΔΟΣ" = "οδος" ∧ isAllUpper "A_1" := by
  decide +kernel

end TableScaffold.Text
