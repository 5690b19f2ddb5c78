/-!
# Base 64

Four characters stand for three bytes. Characters that are no digits do not count, and the digits
of the last group are filled up with equals signs; what follows these does not count either.
-/

namespace TableScaffold.Text

/-- The value of a digit in base 64. -/
def base64Value? (c : Char) : Option Nat :=
  if 'A' ≤ c && c ≤ 'Z' then some (c.toNat - 'A'.toNat)
  else if 'a' ≤ c && c ≤ 'z' then some (c.toNat - 'a'.toNat + 26)
  else if c.isDigit then some (c.toNat - '0'.toNat + 52)
  else if c = '+' then some 62
  else if c = '/' then some 63
  else none

/-- The bytes of a group of digits; of one that is not full, what its digits tell. -/
def base64Group : List Nat → List UInt8
  | [a, b] => [(4 * a + b / 16).toUInt8]
  | [a, b, c] => [(4 * a + b / 16).toUInt8, (16 * b + c / 4).toUInt8]
  | [a, b, c, d] => [(4 * a + b / 16).toUInt8, (16 * b + c / 4).toUInt8, (64 * c + d).toUInt8]
  | _ => []

/-- The bytes that stand for the rest of a text, the digits of the group at hand and the equals signs
behind them being known. A group that is filled up is the last one. -/
def base64Rest? (group : List Nat) (signs : Nat) : List Char → Option (List UInt8)
  | [] => if group.isEmpty then some [] else none
  | c :: rest =>
    if c = '=' then
      if group.length < 2 then base64Rest? group signs rest
      else if 4 ≤ group.length + signs + 1 then some (base64Group group)
      else base64Rest? group (signs + 1) rest
    else
      match base64Value? c with
      | none => base64Rest? group signs rest
      | some v =>
        if group.length < 3 then base64Rest? (group ++ [v]) 0 rest
        else (base64Rest? [] 0 rest).map (base64Group (group ++ [v]) ++ ·)

/-- The bytes that a text in base 64 stands for. -/
def base64? (cs : List Char) : Option (List UInt8) := base64Rest? [] 0 cs

example : base64? "aGk=aGk".toList = some [104, 105] ∧ base64? "aGk".toList = none := by
  decide +kernel

end TableScaffold.Text
