import TableScaffold.Value
import TableScaffold.Decimal.Whole

/-!
# Checking values against a shape

A check either gives the typed value or lists everything that is wrong, in the order of the fields.
Whole numbers and truth values are also taken from other spellings of them; texts are not.
-/

namespace TableScaffold

/-- What is wrong with a value. -/
inductive ProblemKind where
  | missing
  | stringType
  | enumValue
  | intType
  | intParsing
  | intFromFloat
  | intParsingSize
  | finiteNumber
  | boolType
  | boolParsing
  | listType
  | modelType
  | valueError
  deriving DecidableEq, Repr

/-- The code of a problem. -/
def ProblemKind.code : ProblemKind → String
  | missing => "missing"
  | stringType => "string_type"
  | enumValue => "enum"
  | intType => "int_type"
  | intParsing => "int_parsing"
  | intFromFloat => "int_from_float"
  | intParsingSize => "int_parsing_size"
  | finiteNumber => "finite_number"
  | boolType => "bool_type"
  | boolParsing => "bool_parsing"
  | listType => "list_type"
  | modelType => "model_type"
  | valueError => "value_error"

/-- A problem and the path of the field that has it. -/
structure Problem where
  path : List String
  kind : ProblemKind
  deriving DecidableEq, Repr

/-- The path of a problem as one text. -/
def Problem.place (p : Problem) : String := ".".intercalate p.path

/-- A typed value, or all problems that keep it from being one. -/
abbrev Checked (α : Type) := Except (List Problem) α

namespace Checked

variable {α β : Type}

/-- A single problem with the value itself. -/
def fail (kind : ProblemKind) : Checked α := .error [⟨[], kind⟩]

/-- Applies a checked function; the problems of both sides add up. -/
def apply (f : Checked (α → β)) (x : Checked α) : Checked β :=
  match f, x with
  | .ok f, .ok a => .ok (f a)
  | .ok _, .error ps => .error ps
  | .error ps, .ok _ => .error ps
  | .error ps, .error qs => .error (ps ++ qs)

/-- Puts a step in front of the path of every problem. -/
def under (step : String) : Checked α → Checked α
  | .ok a => .ok a
  | .error ps => .error (ps.map fun p => ⟨step :: p.path, p.kind⟩)

@[simp] theorem apply_ok (f : α → β) (a : α) : apply (.ok f) (.ok a) = .ok (f a) := rfl

@[simp] theorem under_ok (step : String) (a : α) : under step (.ok a) = .ok a := rfl

end Checked

namespace Check

variable {α : Type}

/-- A text. -/
def text : Value → Checked String
  | .str s => .ok s
  | _ => .fail .stringType

/-- A text or nothing. -/
def optionalText : Value → Checked (Option String)
  | .null => .ok none
  | v => (text v).map some

/-- One of a set of words. -/
def choice (ofWord? : String → Option α) : Value → Checked α
  | .str s =>
    match ofWord? s with
    | some a => .ok a
    | none => .fail .enumValue
  | _ => .fail .enumValue

/-- Whether a double lies strictly between the bounds of 64-bit whole numbers. -/
def fitsWord (n : Int) : Bool := n.natAbs < Nat.pow 2 63

/-- Drops a fraction of zeros. -/
def dropZeroFraction (cs : List Char) : List Char :=
  let fraction := cs.dropWhile (· != '.')
  if (fraction.drop 1).all (· == '0') then cs.takeWhile (· != '.') else cs

/-- A whole number written in ASCII digits, perhaps with a fraction of zeros. -/
def wholeText (s : String) : Checked Int :=
  let cs := Text.trimBy Text.isWhiteSpace s.toList
  let (negative, cs) := Decimal.splitSign cs
  let ascii? (c : Char) : Option Nat := if c.isDigit then some (c.toNat - 48) else none
  if Decimal.digitLimit < cs.length then .fail .intParsingSize
  else
    match Decimal.digitRun? ascii? (dropZeroFraction cs) with
    | some ds => .ok (Decimal.signed negative (Decimal.digitsValue 0 ds))
    | none => .fail .intParsing

/-- A whole number. -/
def whole : Value → Checked Int
  | .int n => .ok n
  | .bool b => .ok (if b then 1 else 0)
  | .float x =>
    match Decimal.truncate? x with
    | none => .fail .finiteNumber
    | some n =>
      if !Decimal.isWhole x then .fail .intFromFloat
      else if fitsWord n then .ok n
      else .fail .intParsingSize
  | .str s => wholeText s
  | _ => .fail .intType

/-- A whole number or nothing. -/
def optionalWhole : Value → Checked (Option Int)
  | .null => .ok none
  | v => (whole v).map some

/-- The truth value of the numbers zero and one. -/
def flagOfWhole (n : Int) : Checked Bool :=
  if n = 0 then .ok false
  else if n = 1 then .ok true
  else if fitsWord n then .fail .boolParsing
  else .fail .boolType

/-- The words for true and for false. -/
def flagWords : List (String × Bool) :=
  [("0", false), ("off", false), ("f", false), ("false", false), ("n", false), ("no", false),
   ("1", true), ("on", true), ("t", true), ("true", true), ("y", true), ("yes", true)]

/-- A truth value. -/
def flag : Value → Checked Bool
  | .bool b => .ok b
  | .int n => flagOfWhole n
  | .float x =>
    match Decimal.truncate? x with
    | some n => if Decimal.isWhole x then flagOfWhole n else .fail .boolType
    | none => .fail .boolType
  | .str s =>
    match flagWords.lookup (String.ofList (s.toList.map Char.toLower)) with
    | some b => .ok b
    | none => .fail .boolParsing
  | _ => .fail .boolType

/-- The items of a list from an index on, each checked. -/
def items (check : Value → Checked α) : Nat → List Value → Checked (List α)
  | _, [] => .ok []
  | i, v :: rest =>
    Checked.apply ((Checked.under (toString i) (check v)).map List.cons) (items check (i + 1) rest)

/-- A list of checked items. -/
def list (check : Value → Checked α) : Value → Checked (List α)
  | .list vs => items check 0 vs
  | _ => .fail .listType

/-- A field that must be there. -/
def required (es : List (String × Value)) (key : String) (check : Value → Checked α) : Checked α :=
  Checked.under key <|
    match es.lookup key with
    | some v => check v
    | none => .fail .missing

/-- A field with a default. -/
def withDefault (es : List (String × Value)) (key : String) (check : Value → Checked α)
    (default : α) : Checked α :=
  match es.lookup key with
  | some v => Checked.under key (check v)
  | none => .ok default

/-- The fields of a mapping. -/
def fields (check : List (String × Value) → Checked α) : Value → Checked α
  | .map es => check es
  | _ => .fail .modelType

end Check

end TableScaffold
