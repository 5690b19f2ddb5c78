import TableScaffold.Text.Blank
import TableScaffold.Text.Digit

/-!
# Whole numbers in text

A whole number is written with decimal digits of any script, an optional sign, white space around it
and single underscores between digits. Texts of more than 4300 digits are refused, and a whole number
that has more of them is not written either.
-/

namespace TableScaffold.Decimal

open Text

/-- The most digits that a text may have to be read as a number, or a number to be written. -/
def digitLimit : Nat := 4300

/-- Whether a whole number can be written. -/
def isWritable (n : Int) : Bool := n.natAbs < Nat.pow 10 digitLimit

/-- The number that a list of digits stands for, after the digits read so far. -/
def digitsValue (sofar : Nat) (ds : List Nat) : Nat := ds.foldl (fun n d => 10 * n + d) sofar

/-- The digits of a run in which an underscore may stand between two digits. -/
def digitRun? (value? : Char → Option Nat) : List Char → Option (List Nat)
  | [] => none
  | [c] => (value? c).map ([·])
  | c :: d :: rest =>
    match value? c with
    | none => none
    | some n =>
      if d = '_' then (digitRun? value? rest).map (n :: ·)
      else (digitRun? value? (d :: rest)).map (n :: ·)

/-- A sign, if there is one, and what follows it. -/
def splitSign : List Char → Bool × List Char
  | '-' :: rest => (true, rest)
  | '+' :: rest => (false, rest)
  | cs => (false, cs)

/-- The number with a sign. -/
def signed (negative : Bool) (n : Nat) : Int := if negative then -(n : Int) else n

/-- The whole number that a text stands for. -/
def whole? (s : String) : Option Int :=
  let (negative, cs) := splitSign (trimBy isWhiteSpace s.toList)
  match digitRun? decimalValue? cs with
  | none => none
  | some ds => if digitLimit < ds.length then none else some (signed negative (digitsValue 0 ds))

example : whole? " 12 " = some 12 ∧ whole? "+7" = some 7 ∧ whole? "-1_0" = some (-10) := by
  decide

example : whole? "1__0" = none ∧ whole? "" = none ∧ whole? "1.5" = none := by decide

end TableScaffold.Decimal
