import TableScaffold.Value
import TableScaffold.Decimal.Whole

/-!
# Values as JSON text

Reading keeps the order of entries and tells whole numbers from fractional ones. A repeated key
keeps its first place and its last value.
-/

namespace TableScaffold.Value.Json

/-- Sets an entry: a known key keeps its place, a new one goes to the end. -/
def put (key : String) (v : Value) : List (String × Value) → List (String × Value)
  | [] => [(key, v)]
  | (k, w) :: rest => if k = key then (k, v) :: rest else (k, w) :: put key v rest

/-- Without the white space in front. -/
def skipSpace (cs : List Char) : List Char :=
  cs.dropWhile fun c => c = ' ' || c = '\t' || c = '\n' || c = '\r'

/-- The value of a hexadecimal digit. -/
def hexValue? (c : Char) : Option Nat :=
  if '0' ≤ c && c ≤ '9' then some (c.toNat - 48)
  else if 'a' ≤ c && c ≤ 'f' then some (c.toNat - 87)
  else if 'A' ≤ c && c ≤ 'F' then some (c.toNat - 55)
  else none

/-- The number of four hexadecimal digits. -/
def hex4? : List Char → Option (Nat × List Char)
  | a :: b :: c :: d :: rest => do
    let a ← hexValue? a
    let b ← hexValue? b
    let c ← hexValue? c
    let d ← hexValue? d
    some (((a * 16 + b) * 16 + c) * 16 + d, rest)
  | _ => none

/-- A high and a low surrogate together stand for one code point. -/
def pair (high low : Nat) : Nat := 0x10000 + (high - 0xD800) * 0x400 + (low - 0xDC00)

/-- The character of an escape by number, and what follows it. Half a pair alone has no character
and reads as the replacement character. -/
def numbered? (cs : List Char) : Option (Char × List Char) := do
  let (n, rest) ← hex4? cs
  if 0xD800 ≤ n && n < 0xDC00 then
    match rest with
    | '\\' :: 'u' :: more =>
      match hex4? more with
      | some (m, after) =>
        if 0xDC00 ≤ m && m < 0xE000 then some (Char.ofNat (pair n m), after)
        else some ('\uFFFD', rest)
      | none => none
    | _ => some ('\uFFFD', rest)
  else if 0xDC00 ≤ n && n < 0xE000 then some ('\uFFFD', rest)
  else some (Char.ofNat n, rest)

/-- The rest of a string up to its closing quote; `read` holds what has been read, last first. -/
def stringRest? : Nat → List Char → List Char → Option (String × List Char)
  | 0, _, _ => none
  | _, _, [] => none
  | _, read, '"' :: rest => some (String.ofList read.reverse, rest)
  | fuel + 1, read, '\\' :: 'u' :: rest => do
    let (c, rest) ← numbered? rest
    stringRest? fuel (c :: read) rest
  | fuel + 1, read, '\\' :: e :: rest =>
    match e with
    | 'n' => stringRest? fuel ('\n' :: read) rest
    | 't' => stringRest? fuel ('\t' :: read) rest
    | 'r' => stringRest? fuel ('\r' :: read) rest
    | 'b' => stringRest? fuel ('\x08' :: read) rest
    | 'f' => stringRest? fuel ('\x0c' :: read) rest
    | '"' | '\\' | '/' => stringRest? fuel (e :: read) rest
    | _ => none
  | fuel + 1, read, c :: rest => stringRest? fuel (c :: read) rest

/-- The value of decimal digits. -/
def digits (cs : List Char) : Nat :=
  Decimal.digitsValue 0 (cs.filterMap fun c => hexValue? c)

/-- A number: whole without a fraction and an exponent, else a double. -/
def number? (cs : List Char) : Option (Value × List Char) :=
  let (negative, cs) := Decimal.splitSign cs
  let whole := cs.takeWhile Char.isDigit
  let cs := cs.dropWhile Char.isDigit
  if whole.isEmpty then none
  else
    let (fraction, cs, hasFraction) : List Char × List Char × Bool :=
      match cs with
      | '.' :: rest => (rest.takeWhile Char.isDigit, rest.dropWhile Char.isDigit, true)
      | _ => ([], cs, false)
    let (exponent, cs, hasExponent) : Int × List Char × Bool :=
      match cs with
      | e :: rest =>
        if e = 'e' || e = 'E' then
          let (negativeExponent, rest) := Decimal.splitSign rest
          (Decimal.signed negativeExponent (digits (rest.takeWhile Char.isDigit)),
            rest.dropWhile Char.isDigit, true)
        else (0, cs, false)
      | [] => (0, cs, false)
    if hasFraction || hasExponent then
      let shift := exponent - fraction.length
      let x := Float.ofScientific (digits (whole ++ fraction)) (shift < 0) shift.natAbs
      some (.float (if negative then -x else x), cs)
    else some (.int (Decimal.signed negative (digits whole)), cs)

/-- The rest after a fixed word. -/
def word? : List Char → List Char → Option (List Char)
  | [], cs => some cs
  | _ :: _, [] => none
  | w :: ws, c :: cs => if w = c then word? ws cs else none

mutual

/-- A value, and what follows it. -/
def value? : Nat → List Char → Option (Value × List Char)
  | 0, _ => none
  | fuel + 1, cs =>
    match skipSpace cs with
    | '"' :: rest => (stringRest? (fuel + 1) [] rest).map fun (s, rest) => (.str s, rest)
    | '[' :: rest =>
      match skipSpace rest with
      | ']' :: rest => some (.list [], rest)
      | rest => (items? fuel rest).map fun (vs, rest) => (.list vs, rest)
    | '\x7b' :: rest =>
      match skipSpace rest with
      | '\x7d' :: rest => some (.map [], rest)
      | rest => (entries? fuel [] rest).map fun (es, rest) => (.map es, rest)
    | 'n' :: rest => (word? "ull".toList rest).map (.null, ·)
    | 't' :: rest => (word? "rue".toList rest).map (.bool true, ·)
    | 'f' :: rest => (word? "alse".toList rest).map (.bool false, ·)
    | rest => number? rest

/-- The items of a list up to its closing bracket. -/
def items? : Nat → List Char → Option (List Value × List Char)
  | 0, _ => none
  | fuel + 1, cs =>
    match value? fuel cs with
    | none => none
    | some (v, rest) =>
      match skipSpace rest with
      | ',' :: rest => (items? fuel rest).map fun (vs, rest) => (v :: vs, rest)
      | ']' :: rest => some ([v], rest)
      | _ => none

/-- The entries of a mapping up to its closing brace, after those read so far. -/
def entries? : Nat → List (String × Value) → List Char →
    Option (List (String × Value) × List Char)
  | 0, _, _ => none
  | fuel + 1, sofar, cs =>
    match skipSpace cs with
    | '"' :: rest =>
      match stringRest? (fuel + 1) [] rest with
      | none => none
      | some (key, rest) =>
        match skipSpace rest with
        | ':' :: rest =>
          match value? fuel rest with
          | none => none
          | some (v, rest) =>
            match skipSpace rest with
            | ',' :: rest => entries? fuel (put key v sofar) rest
            | '\x7d' :: rest => some (put key v sofar, rest)
            | _ => none
        | _ => none
    | _ => none

end

/-- The value that a JSON text stands for. -/
def read? (s : String) : Option Value :=
  let cs := s.toList
  match value? (2 * cs.length + 2) cs with
  | some (v, rest) => if (skipSpace rest).isEmpty then some v else none
  | none => none

/-- A character inside a JSON string. -/
def escaped (c : Char) : List Char :=
  if c = '"' || c = '\\' then ['\\', c]
  else if c = '\n' then ['\\', 'n']
  else if c.toNat < 0x20 || c.toNat = 0x7F then '\\' :: 'u' :: Text.hexDigits 4 c.toNat
  else [c]

/-- A JSON string. -/
def writeString (s : String) : String :=
  String.ofList ('"' :: s.toList.flatMap escaped ++ ['"'])

mutual

/-- The JSON text of a value. -/
def write : Value → String
  | .null => "null"
  | .bool b => if b then "true" else "false"
  | .int n => toString n
  | .float x => Decimal.ofFloat x
  | .str s => writeString s
  | .list items => "[" ++ writeItems items ++ "]"
  | .map es | .record es => "\x7b" ++ writeEntries es ++ "\x7d"

/-- The items of a list. -/
def writeItems : List Value → String
  | [] => ""
  | [v] => write v
  | v :: rest => write v ++ "," ++ writeItems rest

/-- The entries of a mapping. -/
def writeEntries : List (String × Value) → String
  | [] => ""
  | [(k, v)] => writeString k ++ ":" ++ write v
  | (k, v) :: rest => writeString k ++ ":" ++ write v ++ "," ++ writeEntries rest

end

end TableScaffold.Value.Json
