import TableScaffold.Sql.DataType

/-!
# Expressions

Defaults, checks and computed columns hold expressions. An expression is passed over: only where it
ends matters. A value ends in front of a comparison, a condition takes comparisons and logical words.
-/

namespace TableScaffold.Sql

/-- How far an expression goes. -/
inductive Extent where
  | value
  | condition
  deriving DecidableEq, Repr

/-- The words that cannot be an operand. -/
def reservedWords : List String :=
  ["SELECT", "FROM", "WHERE", "HAVING", "JOIN", "ON", "AND", "OR", "IN", "BETWEEN", "LIKE", "ILIKE",
   "RLIKE", "REGEXP", "GLOB", "INTO", "VALUES", "UNION", "EXCEPT", "INTERSECT", "CREATE", "DROP",
   "ALTER", "INSERT", "WITH", "AS", "USING", "DISTINCT", "INNER", "OUTER", "CROSS", "LATERAL",
   "QUALIFY", "WHEN", "THEN", "ELSE", "FOR", "FETCH", "RETURNING", "XOR"]

/-- The functions whose arguments are parted by words. -/
def wordyFunctions : List String :=
  ["CAST", "TRY_CAST", "SAFE_CAST", "CONVERT", "EXTRACT", "TRIM", "SUBSTRING", "POSITION", "OVERLAY",
   "CEIL", "FLOOR", "COUNT", "GROUP_CONCAT", "STRING_AGG", "ARRAY_AGG", "JSON_OBJECT", "IF", "EXISTS",
   "ANY", "ALL", "SOME", "VALUES", "STRUCT", "ARRAY"]

/-- The marks that join two values. -/
def valueOperators : List Char := ['+', '-', '*', '/', '%', '|', '&', '^']

/-- The marks that compare two values. -/
def conditionOperators : List Char := ['=', '<', '>', '!', '~', ':', '?', '@', '#']

/-- The words that join two values. -/
def valueWords : List String := ["COLLATE", "DIV", "MOD"]

/-- The words that join two conditions. -/
def conditionWords : List String :=
  ["AND", "OR", "XOR", "IS", "IN", "LIKE", "ILIKE", "RLIKE", "REGEXP", "GLOB", "BETWEEN", "ESCAPE",
   "SIMILAR", "OVERLAPS"]

namespace Reading

/-- Whether a token is a mark out of a list. -/
def isMarkOf (cs : List Char) (t : Token) : Bool := cs.any (t.isMark ·)

/-- Takes two marks that follow each other. -/
def marks (c d : Char) : Reading Bool := do
  match ← get with
  | s :: t :: rest => if s.isMark c && t.isMark d then set rest; return true else return false
  | _ => return false

/-- The tokens after the word that ends `depth + 1` open case distinctions. -/
def afterCase : Nat → List Token → Option (List Token)
  | _, [] => none
  | depth, t :: ts =>
    if t.isWord "CASE" then afterCase (depth + 1) ts
    else if t.isWord "END" then
      match depth with
      | 0 => some ts
      | outer + 1 => afterCase outer ts
    else afterCase depth ts

/-- Takes the further marks of an operator. -/
def operatorRest (cs : List Char) : Nat → Reading Unit
  | 0 => pure ()
  | fuel + 1 => do
    if (← takeIf (isMarkOf cs)).isSome then operatorRest cs fuel

/-- Takes an operator between two operands. -/
def operator (e : Extent) : Reading Bool := do
  let cs := if e = .value then valueOperators else valueOperators ++ conditionOperators
  if ← marks '<' '<' then return true
  else if (← takeIf (isMarkOf cs)).isSome then
    operatorRest (cs.filter fun c => c != '-' && c != '+' && c != '?' && c != '@') 2
    return true
  else if (← oneOf valueWords).isSome then return true
  else if ← words ["AT", "TIME", "ZONE"] then return true
  else if e = .value then return false
  else
    let negated ← word "NOT"
    match ← oneOf conditionWords with
    | some t =>
      if t.isWord "IS" then
        let plain ← words ["DISTINCT", "FROM"]
        if !plain then
          let _ ← words ["NOT", "DISTINCT", "FROM"]
      return true
    | none => if negated then failure else return false

/-- Passes over what is attached to an operand: parts of a name, subscripts, casts. -/
def attached (d : Dialect) : Nat → Reading Unit
  | 0 => pure ()
  | fuel + 1 => do
    if ← mark '.' then
      let some _ ← takeIf (fun t => t.kind != .mark || t.isMark '*') | failure
      let _ ← skipParenthesized
      attached d fuel
    else if ← mark '[' then
      match afterBracket (← get) with
      | some rest => set rest
      | none => failure
      attached d fuel
    else if ← marks ':' ':' then
      let _ ← dataType d
      attached d fuel
    else pure ()

mutual

/-- Passes over an operand. -/
def operand (d : Dialect) : Nat → Reading Unit
  | 0 => failure
  | fuel + 1 => do
    let some t ← take | failure
    match t.kind with
    | .number => attached d fuel
    | .text =>
      if d.lexis.doubledQuotes then let _ ← takeIf fun t => t.kind == .text
      attached d fuel
    | .name => call d fuel false
    | .word =>
      if t.isWord "NOT" then operand d fuel
      else if t.isWord "CASE" then
        match afterCase 0 (← get) with
        | some rest => set rest
        | none => failure
      else if t.isWord "INTERVAL" then
        operand d fuel
        let _ ← oneOf intervalUnits
      else if reservedWords.contains t.upper then failure
      else call d fuel (wordyFunctions.contains t.upper)
    | .mark =>
      if t.isMark '(' then
        if (← oneOf ["SELECT", "WITH"]).isSome then skipToClosing
        else
          let _ ← closedList (do expression d .condition fuel; return some ())
        attached d fuel
      else if t.isMark '.' then
        let some _ ← takeIf (·.kind == .number) | failure
        attached d fuel
      else if isMarkOf ['-', '+', '~'] t then operand d fuel
      else if t.isMark '@' then
        let _ ← mark '@'
        let some _ ← takeIf (fun t => t.kind == .word || t.kind == .name) | failure
      else if isMarkOf ['*', '?'] t then pure ()
      else failure

/-- Passes over the arguments of a call, or the text of a typed literal, after a name. -/
def call (d : Dialect) : Nat → Bool → Reading Unit
  | 0, _ => failure
  | fuel + 1, wordy => do
    if ← mark '(' then
      if wordy then skipToClosing
      else if ← mark ')' then pure ()
      else
        let _ ← closedList (do
          let _ ← word "DISTINCT"
          expression d .condition fuel
          return some ())
    else
      let _ ← takeIf fun t => t.kind == .text
    attached d fuel

/-- Passes over an expression. -/
def expression (d : Dialect) (e : Extent) : Nat → Reading Unit
  | 0 => failure
  | fuel + 1 => do
    operand d fuel
    if e = .condition then
      let _ ← words ["NOT", "NULL"]
    if ← operator e then expression d e fuel

end

/-- Passes over a value. -/
def value (d : Dialect) : Reading Unit := do expression d .value (4 * (← get).length + 4)

/-- Passes over a condition. -/
def condition (d : Dialect) : Reading Unit := do expression d .condition (4 * (← get).length + 4)

end Reading

end TableScaffold.Sql
