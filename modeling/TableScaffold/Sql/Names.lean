import TableScaffold.Sql.Expression

/-!
# Names in a script

The name of a table has parts between dots. Where a name is expected almost any word will do; keywords
that structure a statement are refused only where a name could be left out.
-/

namespace TableScaffold.Sql.Reading

/-- Whether a token is a quote that the dialect does not use; it passes for a name. -/
def isStrayQuote (t : Token) : Bool := isMarkOf ['\x60', '"', '\''] t

/-- Whether a token may stand where a name must come. -/
def isAnyName (t : Token) : Bool :=
  if t.kind == .mark then isStrayQuote t else !t.isWord "SELECT"

/-- Whether a token may stand where a name may come. -/
def isPlainName (t : Token) : Bool :=
  match t.kind with
  | .name => true
  | .word => !reservedWords.contains t.upper && !t.isWord "NOT"
  | .mark => isStrayQuote t
  | .text | .number => false

/-- Takes a name that may be any word. -/
def anyName : Reading (Option Token) := do
  let _ ← mark '#'
  takeIf isAnyName

/-- Takes the rest of a name with dashes, which holds no blanks; `last` is the token before it. -/
def dashedRest (last : Token) : Nat → Reading String
  | 0 => return ""
  | fuel + 1 => do
    match ← peek with
    | none => return ""
    | some t =>
      let connected := match last.rest with
        | [] => false
        | c :: _ => !Text.isBlank c && last.rest.length == t.rest.length + t.text.length
      if connected && !isMarkOf ['.', '(', ')', ',', ';'] t then
        let _ ← take
        return t.text ++ (← dashedRest t fuel)
      else return ""

/-- One part of the name of a table. -/
def tablePart (d : Dialect) : Reading (Option String) := do
  if d == .tsql then
    let _ ← mark '#'
    let _ ← mark '#'
  match ← takeIf fun t => isPlainName t || t.kind == .text with
  | none => return none
  | some t =>
    if d == .bigquery && (← seesMark '-') then
      return some (t.text ++ (← dashedRest t (← get).length))
    else return some t.text

/-- The parts of the name of a table after the first. A part between two dots may be empty. -/
def tableParts (d : Dialect) : Nat → Reading (List String)
  | 0 => return []
  | fuel + 1 => do
    if ← mark '.' then
      let part ← tablePart d
      if part.isNone && !(← seesMark '.') then failure
      return part.getD "" :: (← tableParts d fuel)
    else return []

/-- All parts of the name of a table. Some dialects part a quoted name at its dots. -/
def allTableParts (d : Dialect) : Reading (List String) := do
  let some first ← tablePart d | failure
  let others ← tableParts d (← get).length
  let parts := first :: others
  return if d == .bigquery then
      ((".".intercalate parts).toList.splitOn '.').map String.ofList
    else parts

/-- The table that the parts of a name name: the container is the second part of three or more, the
first of two. -/
def tableOfParts (parts : List String) : TableName :=
  let container := match parts with
    | _ :: c :: _ :: _ => some c
    | [c, _] => some c
    | _ => none
  ⟨container.filter (!·.isEmpty), parts.getLast?.getD ""⟩

/-- The name of a table. -/
def tableName (d : Dialect) : Reading TableName := return tableOfParts (← allTableParts d)

/-- The name of a schema, as the container of a table without a name. -/
def schemaName (d : Dialect) : Reading TableName := do
  let last := (← allTableParts d).getLast?
  return ⟨last.filter (!·.isEmpty), ""⟩

/-- The column that an expression over some tokens names: a name alone, the last part of a dotted
name, or a name with the length of its indexed part. -/
def columnOf (ts : List Token) : String :=
  match ts with
  | [t] => t.text
  | [t, o, n, c] =>
    if t.kind != .mark && o.isMark '(' && n.kind == .number && c.isMark ')' then t.text else dotted ts
  | _ => dotted ts
where
  /-- The last part of a dotted name. -/
  dotted : List Token → String
    | [s, d, t] => if s.kind != .mark && d.isMark '.' then t.text else ""
    | _ :: d :: rest => if d.isMark '.' then dotted rest else ""
    | _ => ""

/-- A column with its order. -/
def orderedColumn (d : Dialect) : Reading (Option String) := do
  if (← seesMark ')') || (← seesMark ',') then return none
  let before ← get
  condition d
  let after ← get
  let _ ← oneOf ["ASC", "DESC"]
  if ← word "NULLS" then
    let _ ← oneOf ["FIRST", "LAST"]
  return some (columnOf (before.take (before.length - after.length)))

end TableScaffold.Sql.Reading
