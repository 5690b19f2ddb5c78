import TableScaffold.Decimal.Whole
import TableScaffold.Text.Base64
import TableScaffold.Yaml.Token.Scalar

/-!
# What plain scalars stand for

A plain scalar is null, a truth value, a number, a date or a text, as its characters tell. The `<<` of
a merge and a lone `=` are neither.
-/

namespace TableScaffold.Yaml

/-- What a node is. -/
inductive Tag where
  | null
  | truth
  | whole
  | decimal
  | date
  | text
  | binary
  | list
  | mapping
  | set
  /-- A list of mappings with one entry each. -/
  | pairs
  /-- The key under which other mappings are merged in. -/
  | merge
  /-- The key of the value that stands for a whole mapping. -/
  | standFor
  | unknown
  deriving DecidableEq, Repr

namespace Tag

/-- What the name of a tag stands for. -/
def names : List (String × Tag) :=
  [("null", null), ("bool", truth), ("int", whole), ("float", decimal), ("timestamp", date),
   ("str", text), ("binary", binary), ("seq", list), ("map", mapping), ("set", set),
   ("omap", pairs), ("pairs", pairs), ("merge", merge), ("value", standFor)]

/-- What the tags of this language start with. -/
def namesStart : String := "tag:yaml.org,2002:"

/-- The tag with a full name. -/
def ofName (name : String) : Tag :=
  ((names.find? fun e => namesStart ++ e.1 == name).map (·.2)).getD unknown

end Tag

/-! ## Forms of numbers and dates -/

/-- Whether a list has at least one character, all of a class. -/
def isRunOf (p : Char → Bool) (cs : List Char) : Bool := !cs.isEmpty && cs.all p

/-- A digit or an underscore. -/
def inDigits (c : Char) : Bool := c.isDigit || c = '_'

/-- Digits and underscores that start with a digit of a class. -/
def startsWithDigit (first : Char → Bool) : List Char → Bool
  | [] => false
  | c :: rest => first c && rest.all inDigits

/-- A digit other than zero. -/
def isPositiveDigit (c : Char) : Bool := c.isDigit && c != '0'

/-- A number below sixty, in one or two digits. -/
def isSixtieth : List Char → Bool
  | [d] => d.isDigit
  | [t, d] => '0' ≤ t && t ≤ '5' && d.isDigit
  | _ => false

/-- A number in base sixty: parts between colons. -/
def isSexagesimal (first : Char → Bool) (cs : List Char) : Bool :=
  match cs.splitOn ':' with
  | n :: parts => startsWithDigit first n && !parts.isEmpty && parts.all isSixtieth
  | [] => false

/-- The characters behind a sign, if there is one. -/
def unsigned (cs : List Char) : List Char := (Decimal.splitSign cs).2

/-- A whole number in base two, eight, ten, sixteen or sixty. -/
def isWholeForm (cs : List Char) : Bool :=
  match unsigned cs with
  | '0' :: 'b' :: ds => isRunOf (fun c => c = '0' || c = '1' || c = '_') ds
  | '0' :: 'x' :: ds => isRunOf (fun c => (hexValue? c).isSome || c = '_') ds
  | ['0'] => true
  | '0' :: ds => isRunOf (fun c => ('0' ≤ c && c ≤ '7') || c = '_') ds
  | ds => startsWithDigit isPositiveDigit ds || isSexagesimal isPositiveDigit ds

/-- An exponent with its sign, or nothing. -/
def isExponent : List Char → Bool
  | [] => true
  | e :: s :: ds => (e = 'e' || e = 'E') && (s = '+' || s = '-') && isRunOf Char.isDigit ds
  | _ => false

/-- The fraction of a number behind its point. -/
def isFraction (cs : List Char) : Bool := isExponent (cs.dropWhile inDigits)

/-- A number with a point, an infinity, or no number. -/
def isDecimalForm (cs : List Char) : Bool :=
  let names (words : List String) (cs : List Char) : Bool := words.contains (String.ofList cs)
  let body := unsigned cs
  let front := body.takeWhile (· != '.')
  match body.dropWhile (· != '.') with
  | [] => false
  | _ :: fraction =>
    if front.isEmpty then
      names [".inf", ".Inf", ".INF"] body || names [".nan", ".NaN", ".NAN"] cs ||
        (body.length = cs.length && startsWithDigit Char.isDigit (fraction.takeWhile inDigits) &&
          isFraction fraction)
    else (startsWithDigit Char.isDigit front && isFraction fraction) ||
      (isSexagesimal Char.isDigit front && fraction.all inDigits)

/-- A day or a day and a time: year, month, day, hour, minute, second, offset in minutes. -/
structure DateForm where
  year : Nat
  month : Nat
  day : Nat
  time : Nat × Nat × Nat := (0, 0, 0)
  offset : Nat := 0
  deriving DecidableEq, Repr

/-- So many digits at the front, as few or as many as given, and what follows them. -/
def digits? (least most : Nat) (cs : List Char) : Option (Nat × List Char) :=
  let ds := (cs.take most).takeWhile Char.isDigit
  if ds.length < least then none
  else some (Decimal.digitsValue 0 (ds.map fun d => d.toNat - '0'.toNat), cs.drop ds.length)

/-- What follows a character. -/
def behind? (c : Char) : List Char → Option (List Char)
  | d :: rest => if c = d then some rest else none
  | [] => none

/-- The offset of a time zone in minutes. -/
def offset? (cs : List Char) : Option Nat :=
  match cs.dropWhile isTabOrSpace with
  | [] => if cs.isEmpty then some 0 else none
  | ['Z'] => some 0
  | s :: rest =>
    if s = '+' || s = '-' then do
      let (h, rest) ← digits? 1 2 rest
      match rest with
      | [] => some (60 * h)
      | _ => do
        let (m, rest) ← digits? 2 2 (← behind? ':' rest)
        if rest.isEmpty then some (60 * h + m) else none
    else none

/-- The time behind a day. -/
def time? (cs : List Char) : Option ((Nat × Nat × Nat) × Nat) := do
  let (h, cs) ← digits? 1 2 cs
  let (m, cs) ← digits? 2 2 (← behind? ':' cs)
  let (s, cs) ← digits? 2 2 (← behind? ':' cs)
  let cs := match cs with
    | '.' :: rest => rest.dropWhile Char.isDigit
    | cs => cs
  return ((h, m, s), ← offset? cs)

/-- A date as it is written: a day, or a day and a time. -/
def dateForm? (cs : List Char) : Option DateForm := do
  let (year, cs) ← digits? 4 4 cs
  let (month, cs) ← digits? 1 2 (← behind? '-' cs)
  let (day, cs) ← digits? 1 2 (← behind? '-' cs)
  match cs with
  | [] => return { year, month, day }
  | c :: rest =>
    let start ← if c = 'T' || c = 't' then some rest
      else if isTabOrSpace c then some (rest.dropWhile isTabOrSpace) else none
    let (time, offset) ← time? start
    return { year, month, day, time, offset }

/-- Whether a plain scalar is a date. One without a time has two digits for its month and its day. -/
def isDateForm (cs : List Char) : Bool :=
  (dateForm? cs).isSome && (cs.length = 10 || !cs.all fun c => c.isDigit || c = '-')

/-- Whether a year has a leap day. -/
def isLeapYear (year : Nat) : Bool := year % 4 = 0 && (year % 100 != 0 || year % 400 = 0)

/-- How many days a month has. -/
def daysIn (year month : Nat) : Nat :=
  if month = 2 then if isLeapYear year then 29 else 28
  else if [4, 6, 9, 11].contains month then 30 else 31

/-- Whether a date and a time are in the calendar, with an offset of less than a day. -/
def DateForm.isReal (d : DateForm) : Bool :=
  1 ≤ d.year && 1 ≤ d.month && d.month ≤ 12 && 1 ≤ d.day && d.day ≤ daysIn d.year d.month &&
    d.time.1 < 24 && d.time.2.1 < 60 && d.time.2.2 < 60 && d.offset < 24 * 60

/-! ## The meaning of plain scalars -/

/-- The words for truth values, as they are in plain scalars; tags take them in any letter case. -/
def truthWords : List String := ["yes", "no", "true", "false", "on", "off"]

/-- A word in small letters, in capitals, or with one capital in front. -/
def casings (word : String) : List String :=
  match word.toList with
  | [] => [""]
  | c :: rest =>
    [word, String.ofList (c.toUpper :: rest), String.ofList (c.toUpper :: rest.map Char.toUpper)]

/-- What a plain scalar is. -/
def Tag.ofPlain (s : String) : Tag :=
  let cs := s.toList
  if s = "" || s = "~" || (casings "null").contains s then null
  else if truthWords.any fun w => (casings w).contains s then truth
  else if isDecimalForm cs then decimal
  else if isWholeForm cs then whole
  else if s = "<<" then merge
  else if isDateForm cs then date
  else if s = "=" then standFor
  else text

example : Tag.ofPlain "1_000" = .whole ∧ Tag.ofPlain "1:30" = .whole ∧ Tag.ofPlain "0o10" = .text ∧
    Tag.ofPlain "1.0e+3" = .decimal ∧ Tag.ofPlain "1e3" = .text ∧ Tag.ofPlain "y" = .text ∧
    Tag.ofPlain "2024-1-5" = .text ∧ Tag.ofPlain "2024-1-5 0:00:00" = .date := by
  decide +kernel

/-! ## Scalars with a tag -/

/-- Whether a text is a whole number in a base: digits of any script, perhaps with a sign and a
mark of the base in front. -/
def isWholeIn (base : Nat) (marks : List Char) (cs : List Char) : Bool :=
  let body := unsigned (Text.trimBy Text.isBlank cs)
  let body := match body with
    | '0' :: m :: rest => if marks.contains m then rest else body
    | _ => body
  let value? (c : Char) : Option Nat :=
    (Text.decimalValue? c).or (if c.isAlpha then hexValue? c else none)
  isRunOf (fun c => ((value? c).map (decide <| · < base)).getD false) body &&
    (base != 10 || body.length ≤ Decimal.digitLimit)

/-- Whether a text with the tag of whole numbers is one. -/
def wholeFault? (s : String) : Option Fault :=
  let check (ok : Bool) : Option Fault := if ok then none else some .notANumber
  match s.toList.filter (· != '_') with
  | [] => some .emptyNumber
  | cs =>
    match unsigned cs with
    | [] => some .emptyNumber
    | ['0'] => none
    | '0' :: 'b' :: ds => check (isWholeIn 2 ['b', 'B'] ds)
    | '0' :: 'x' :: ds => check (isWholeIn 16 ['x', 'X'] ds)
    | '0' :: ds => check (isWholeIn 8 ['o', 'O'] ('0' :: ds))
    | ds => check ((ds.splitOn ':').all (isWholeIn 10 []))

/-- Whether a text is a number with or without a point, an infinity, or no number. -/
def isDecimalText (cs : List Char) : Bool :=
  let body := unsigned (Text.trimBy Text.isBlank cs)
  let isDigit (c : Char) : Bool := (Text.decimalValue? c).isSome
  let front := body.takeWhile isDigit
  let rest := body.dropWhile isDigit
  let (fraction, rest) := match rest with
    | '.' :: rest => (rest.takeWhile isDigit, rest.dropWhile isDigit)
    | rest => ([], rest)
  let isExponent := match rest with
    | [] => true
    | 'e' :: ds => isRunOf isDigit (unsigned ds)
    | _ => false
  ["inf", "infinity", "nan"].contains (String.ofList body) ||
    (!(front ++ fraction).isEmpty && isExponent)

/-- How many parts a number in base sixty may have if each counts with a power of sixty below the
largest binary64 number. -/
def partLimit : Nat := 174

/-- Whether a text with the tag of numbers with a point is one. -/
def decimalFault? (s : String) : Option Fault :=
  match (s.toList.filter (· != '_')).map Char.toLower with
  | [] => some .emptyNumber
  | cs =>
    let body := unsigned cs
    if body = ".inf".toList || body = ".nan".toList then none
    else
      let parts := body.splitOn ':'
      if !parts.all isDecimalText then some .notANumber
      else if partLimit < parts.length then some .tooLarge
      else none

/-- The limit is the right one: powers of sixty above it are too large. -/
example : Nat.pow 60 (partLimit - 1) < Nat.pow 2 1024 ∧ Nat.pow 2 1024 < Nat.pow 60 partLimit := by
  decide +kernel

/-- The characters of a text, a line end at its end left out. -/
def withoutLineEnd (cs : List Char) : List Char :=
  if cs.getLast? = some '\n' then cs.dropLast else cs

/-- Whether nodes with a tag are spelled by a text. -/
def Tag.isSpelled (t : Tag) : Bool := [null, truth, whole, decimal, date, text, binary].contains t

/-- What is wrong with a text that has a tag. -/
def Tag.scalarFault? : Tag → String → Option Fault
  | null, _ | text, _ => none
  | truth, s =>
    if truthWords.contains (String.ofList (s.toList.map Char.toLower)) then none
    else some .notATruthValue
  | whole, s => wholeFault? s
  | decimal, s => decimalFault? s
  | date, s =>
    match dateForm? (withoutLineEnd s.toList) with
    | none => some .notADate
    | some d => if d.isReal then none else some .noSuchDate
  | binary, s =>
    if s.toList.all (·.toNat < 128) && (Text.base64? s.toList).isSome then none
    else some .malformed
  | list, _ | mapping, _ | set, _ | pairs, _ | merge, _ | standFor, _ | unknown, _ =>
    some .malformed

end TableScaffold.Yaml
