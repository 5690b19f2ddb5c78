import TableScaffold.Naming
import TableScaffold.Template.Body
import TableScaffold.Value

/-!
# Values in templates

A name or an entry that is not there may be handed on, but not used: its use is an error that tells
what is missing. The value of a choice without another side is absent and stands for nothing.
-/

namespace TableScaffold.Template

/-- What an expression gives. -/
inductive Operand where
  | value (v : Value)
  /-- Nothing, where something was asked for; the text says what is missing. -/
  | missing (report : String)
  | absent

/-- Why a template cannot be rendered. -/
inductive RenderFault where
  /-- A template file is missing. -/
  | fileMissing
  /-- A template file is no text. -/
  | fileNotText
  /-- A template is malformed. -/
  | malformed
  /-- Something that is missing was used, or a filter is not known. -/
  | undefined (report : String)
  /-- An operation does not apply to its values. -/
  | mismatch
  | divisionByZero
  /-- A whole number has too many digits to be written. -/
  | tooLong
  /-- Templates include each other without end. -/
  | tooDeep
  /-- A template file is needed that has not been read yet. -/
  | unread (file : String)
  deriving DecidableEq, Repr

/-- What is reported of an absent value that is used. -/
def absentReport : String :=
  "the inline if-expression evaluated to false and no else section was defined."

namespace Operand

/-- The value, which must be there. -/
def get : Operand → Except RenderFault Value
  | value v => .ok v
  | missing report => .error (.undefined report)
  | absent => .error (.undefined absentReport)

/-- The text of a value; an absent one has none. -/
def text : Operand → Except RenderFault String
  | value v => if v.isWritable then .ok v.text else .error .tooLong
  | missing report => .error (.undefined report)
  | absent => .ok ""

/-- Whether a value counts as true. -/
def truthy : Operand → Except RenderFault Bool
  | value v => .ok v.truthy
  | missing report => .error (.undefined report)
  | absent => .ok false

end Operand

/-- What a value is called in a report. -/
def kindName : Value → String
  | .null => "None"
  | .bool _ => "bool object"
  | .int _ => "int object"
  | .float _ => "float object"
  | .str _ => "str object"
  | .list _ => "list object"
  | .map _ | .record _ => "dict object"

/-- What is reported of a missing entry with a key. -/
def missingEntry (v : Value) (key : Value) : Operand :=
  match key with
  | .str s => .missing (Text.quoted (kindName v) ++ " has no attribute " ++ Text.quoted s)
  | k => .missing (kindName v ++ " has no element " ++ k.inner)

/-- What is reported of a missing name. -/
def missingName (n : String) : Operand := .missing (Text.quoted n ++ " is undefined")

/-- The entry of a value under a name. -/
def entry (v : Value) (key : String) : Operand :=
  match (v.entries?.getD []).lookup key with
  | some w => .value w
  | none => missingEntry v (.str key)

/-- The place of an index that may count from the end. -/
def place (n : Int) (length : Nat) : Option Nat :=
  let i := if n < 0 then n + length else n
  if 0 ≤ i && i < length then some i.toNat else none

/-- A whole number, or a truth value as one. -/
def wholeOf? : Value → Option Int
  | .int n => some n
  | .bool b => some (if b then 1 else 0)
  | _ => none

/-- The item of a value under a key. -/
def item (v key : Value) : Operand :=
  let found : Option Value :=
    match v, key with
    | .list vs, k => do
      let i ← place (← wholeOf? k) vs.length
      vs[i]?
    | .str s, k => do
      let cs := s.toList
      let i ← place (← wholeOf? k) cs.length
      cs[i]?.map fun c => .str (String.singleton c)
    | .map es, .str k | .record es, .str k => es.lookup k
    | _, _ => none
  match found with
  | some w => .value w
  | none => missingEntry v key

/-- The items that a loop goes through: those of a list, the characters of a text, the keys of a
mapping. -/
def items : Operand → Except RenderFault (List Value)
  | .absent => .ok []
  | .missing report => .error (.undefined report)
  | .value v =>
    match v with
    | .list vs => .ok vs
    | .str s => .ok (s.toList.map fun c => .str (String.singleton c))
    | .map es | .record es => .ok (es.map fun e => .str e.1)
    | .null | .bool _ | .int _ | .float _ => .error .mismatch

/-! ## Numbers -/

/-- A value as a number: whole, or a double. -/
def numberOf? : Value → Option (Int ⊕ Float)
  | .int n => some (.inl n)
  | .bool b => some (.inl (if b then 1 else 0))
  | .float x => some (.inr x)
  | _ => none

/-- A number as a double. -/
def toFloat : Int ⊕ Float → Float
  | .inl n => Float.ofInt n
  | .inr x => x

/-- Whether two numbers are equal; a double equals a whole number only exactly. -/
def sameNumber : Int ⊕ Float → Int ⊕ Float → Bool
  | .inl m, .inl n => m == n
  | .inr x, .inr y => x == y
  | .inl n, .inr x | .inr x, .inl n => Decimal.isWhole x && Decimal.truncate? x == some n

/-- Whether a number is less than another. -/
def lessNumber : Int ⊕ Float → Int ⊕ Float → Bool
  | .inl m, .inl n => m < n
  | a, b => toFloat a < toFloat b

mutual

/-- Whether two values are equal. The order of entries does not matter. -/
def same : Value → Value → Bool
  | .null, .null => true
  | .str s, .str t => s == t
  | .list as, .list bs => sameItems as bs
  | .map as, .map bs | .map as, .record bs | .record as, .map bs | .record as, .record bs =>
    as.length == bs.length && sameEntries as bs
  | a, b =>
    match numberOf? a, numberOf? b with
    | some x, some y => sameNumber x y
    | _, _ => false

/-- Whether two lists have equal items. -/
def sameItems : List Value → List Value → Bool
  | [], [] => true
  | a :: as, b :: bs => same a b && sameItems as bs
  | _, _ => false

/-- Whether every entry of the first mapping is in the second. -/
def sameEntries : List (String × Value) → List (String × Value) → Bool
  | [], _ => true
  | (k, v) :: rest, es =>
    (match es.lookup k with
      | some w => same v w
      | none => false) && sameEntries rest es

end

mutual

/-- Whether a value is less than another, if the two can be compared. -/
def less : Value → Value → Except RenderFault Bool
  | .str s, .str t => .ok (s < t)
  | .list as, .list bs => lessItems as bs
  | a, b =>
    match numberOf? a, numberOf? b with
    | some x, some y => .ok (lessNumber x y)
    | _, _ => .error .mismatch

/-- Whether a list comes before another: at the first place where they differ. -/
def lessItems : List Value → List Value → Except RenderFault Bool
  | [], bs => .ok !bs.isEmpty
  | _ :: _, [] => .ok false
  | a :: as, b :: bs => if same a b then lessItems as bs else less a b

end

/-- The outcome of a comparison. -/
def compare (op : Comparison) (a b : Value) : Except RenderFault Bool :=
  match op with
  | .equal => .ok (same a b)
  | .unequal => .ok !(same a b)
  | .less => less a b
  | .greater => less b a
  | .atMost => if same a b && (less a b).isOk then .ok true else less a b
  | .atLeast => if same a b && (less a b).isOk then .ok true else less b a

/-- A text or a list repeated; nothing for a count below one. -/
def repeated {α : Type} (xs : List α) (n : Int) : List α := (List.replicate n.toNat xs).flatten

/-- The outcome of an operation on two values. -/
def operate (op : Operation) (a b : Value) : Except RenderFault Value :=
  match op, a, b with
  | .add, .str s, .str t => .ok (.str (s ++ t))
  | .add, .list as, .list bs => .ok (.list (as ++ bs))
  | .join, a, b => do return .str ((← (Operand.value a).text) ++ (← (Operand.value b).text))
  | op, a, b =>
    match numberOf? a, numberOf? b with
    | some x, some y =>
      match op, x, y with
      | .add, .inl m, .inl n => .ok (.int (m + n))
      | .subtract, .inl m, .inl n => .ok (.int (m - n))
      | .multiply, .inl m, .inl n => .ok (.int (m * n))
      | .add, x, y => .ok (.float (toFloat x + toFloat y))
      | .subtract, x, y => .ok (.float (toFloat x - toFloat y))
      | .multiply, x, y => .ok (.float (toFloat x * toFloat y))
      | _, x, y =>
        if sameNumber y (.inl 0) then .error .divisionByZero
        else .ok (.float (toFloat x / toFloat y))
    | _, _ =>
      match op, a, wholeOf? b with
      | .multiply, .str s, some n => .ok (.str (String.ofList (repeated s.toList n)))
      | .multiply, .list vs, some n => .ok (.list (repeated vs n))
      | _, _, _ => .error .mismatch

/-- The outcome of a filter. -/
def applyFilter (f : String) (x : Operand) : Except RenderFault Value :=
  if f == "camel_case" then
    match x with
    | .value (.str s) => .ok (.str (Naming.camelCase s))
    | _ => .error .mismatch
  else if f == "upper" then x.text.map fun s => .str (Text.upper s)
  else if f == "lower" then x.text.map fun s => .str (Text.lower s)
  else if f == "length" || f == "count" then
    match x with
    | .absent => .ok (.int 0)
    | .missing report => .error (.undefined report)
    | .value (.str s) => .ok (.int s.length)
    | .value (.list vs) => .ok (.int vs.length)
    | .value (.map es) | .value (.record es) => .ok (.int es.length)
    | .value _ => .error .mismatch
  else .error (.undefined ("No filter named " ++ Text.quoted f ++ " found."))

end TableScaffold.Template
