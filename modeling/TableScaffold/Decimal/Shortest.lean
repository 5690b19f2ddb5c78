/-!
# Shortest decimals

A double is written with the fewest decimal digits that read back to it, the nearest ones of these.
All comparisons are exact, over natural numbers.
-/

namespace TableScaffold.Decimal

/-- A positive double `mantissa * 2 ^ exponent`. -/
structure Binary where
  mantissa : Nat
  exponent : Int
  /-- Whether the next smaller double is only half as far away as the next larger one. -/
  narrowBelow : Bool
  deriving Repr

/-- The magnitude that the bits of a finite double stand for. -/
def Binary.ofBits (bits : Nat) : Binary :=
  let field : Nat := bits / Nat.pow 2 52 % Nat.pow 2 11
  let fraction : Nat := bits % Nat.pow 2 52
  if field = 0 then ⟨fraction, -1074, false⟩
  else ⟨fraction + Nat.pow 2 52, field - 1075, fraction == 0 && 1 < field⟩

/-- A power as a quotient of natural numbers. -/
def power (base : Nat) (k : Int) : Nat × Nat :=
  if 0 ≤ k then (base.pow k.toNat, 1) else (1, base.pow (-k).toNat)

/-- The order of `d * 10 ^ k` and `quarters * 2 ^ (b.exponent - 2)`. -/
def Binary.compareTo (b : Binary) (d : Nat) (k : Int) (quarters : Nat) : Ordering :=
  let ten := power 10 k
  let two := power 2 (b.exponent - 2)
  compare (d * ten.1 * two.2) (quarters * two.1 * ten.2)

/-- Whether `d * 10 ^ k` is rounded to the double when it is read. -/
def Binary.readsBack (b : Binary) (d : Nat) (k : Int) : Bool :=
  let low := b.compareTo d k (4 * b.mantissa - (if b.narrowBelow then 1 else 2))
  let high := b.compareTo d k (4 * b.mantissa + 2)
  if b.mantissa % 2 = 0 then low != .lt && high != .gt else low == .gt && high == .lt

/-- The least `k` with `b < 10 ^ k`. -/
def Binary.scale (b : Binary) : Int :=
  let guess := (b.exponent + b.mantissa.log2) * 30103 / 100000 - 1
  let below (k : Int) : Bool := b.compareTo 1 k (4 * b.mantissa) == .gt
  if below guess then guess
  else if below (guess + 1) then guess + 1
  else if below (guess + 2) then guess + 2
  else guess + 3

/-- A decimal `0.d₁d₂… * 10 ^ point`. -/
structure Digits where
  digits : Nat
  point : Int
  deriving Repr

/-- The better of the two decimals with `n` digits next to the double, if one reads back. -/
def Binary.withDigits (b : Binary) (n : Nat) : Option Digits :=
  let point := b.scale
  let k := point - n
  let ten := power 10 k
  let two := power 2 (b.exponent - 2)
  let d := 4 * b.mantissa * two.1 * ten.2 / (two.2 * ten.1)
  let lower := b.readsBack d k
  let upper := b.readsBack (d + 1) k
  let chosen :=
    if lower && upper then
      match b.compareTo (2 * d + 1) k (8 * b.mantissa) with
      | .gt => some d
      | .lt => some (d + 1)
      | .eq => some (if d % 2 = 0 then d else d + 1)
    else if lower then some d
    else if upper then some (d + 1)
    else none
  chosen.map fun e => if e = Nat.pow 10 n then ⟨1, point + 1⟩ else ⟨e, point⟩

/-- The shortest digits that read back; seventeen always do. -/
def Binary.shortest (b : Binary) : Digits :=
  ((List.range 17).findSome? fun i => b.withDigits (i + 1)).getD ⟨0, 0⟩

/-- The decimal digits of a number. -/
def digitChars (n : Nat) : List Char := Nat.toDigits 10 n

/-- Without the zeros at the end. -/
def dropZeros (cs : List Char) : List Char := (cs.reverse.dropWhile (· == '0')).reverse

/-- Digits laid out: with a point from 0.0001 up to sixteen places, else with a signed exponent of
at least two digits. -/
def Digits.layout (d : Digits) : String :=
  let cs := dropZeros (digitChars d.digits)
  let size : Int := cs.length
  String.ofList <|
    if -4 < d.point && d.point ≤ 16 then
      if d.point ≤ 0 then
        '0' :: '.' :: List.replicate (-d.point).toNat '0' ++ cs
      else if size ≤ d.point then
        cs ++ List.replicate (d.point - size).toNat '0' ++ ['.', '0']
      else
        cs.take d.point.toNat ++ '.' :: cs.drop d.point.toNat
    else
      let e := d.point - 1
      let magnitude := digitChars e.natAbs
      cs.take 1 ++ (if cs.length ≤ 1 then [] else '.' :: cs.drop 1) ++
        ['e', if e < 0 then '-' else '+'] ++
        (if magnitude.length < 2 then '0' :: magnitude else magnitude)

/-- The text of a double. -/
def ofFloat (x : Float) : String :=
  let bits := x.toBits.toNat
  let negative := bits / Nat.pow 2 63 == 1
  if x.isNaN then "nan"
  else
    let magnitude :=
      if x.isInf then "inf"
      else if bits % Nat.pow 2 63 = 0 then "0.0"
      else (Binary.ofBits (bits % Nat.pow 2 63)).shortest.layout
    if negative then "-" ++ magnitude else magnitude

/-- The whole part of a finite double; nothing for an infinity or a text that is no number. -/
def truncate? (x : Float) : Option Int :=
  if x.isNaN || x.isInf then none
  else
    let bits := x.toBits.toNat
    let b := Binary.ofBits (bits % Nat.pow 2 63)
    let n := b.mantissa * (power 2 b.exponent).1 / (power 2 b.exponent).2
    some (if bits / Nat.pow 2 63 == 1 then -(n : Int) else n)

/-- Whether a finite double has no fractional part. -/
def isWhole (x : Float) : Bool :=
  let b := Binary.ofBits (x.toBits.toNat % Nat.pow 2 63)
  b.mantissa * (power 2 b.exponent).1 % (power 2 b.exponent).2 == 0

end TableScaffold.Decimal
