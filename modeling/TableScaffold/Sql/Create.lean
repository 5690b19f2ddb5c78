import TableScaffold.Sql.Body

/-!
# CREATE statements

A CREATE statement names what it makes, lists the entries of a table or a view, and ends with options
and perhaps a query. One that is not understood up to its end counts as a mere command.
-/

namespace TableScaffold.Sql

/-- The statement that nothing is known of. -/
def command : Statement := .other "Command"

/-- What a CREATE statement can make. -/
def creatables : List String := ["TABLE", "VIEW", "INDEX", "DATABASE", "SCHEMA"]

namespace Reading

/-- The words in front of what is made that stand alone. -/
def kindWords : List String :=
  ["TEMPORARY", "TEMP", "TRANSIENT", "UNLOGGED", "GLOBAL", "LOCAL", "EXTERNAL", "MATERIALIZED",
   "VOLATILE", "SECURE", "ICEBERG", "DYNAMIC", "HYBRID"]

/-- The options that are a word alone. -/
def flagOptions : List String := "STRICT" :: kindWords

/-- The options with one value. -/
def valueOptions : List String :=
  ["ENGINE", "AUTO_INCREMENT", "COLLATE", "COMMENT", "CHARSET", "ALGORITHM", "DEFINER", "LOCATION",
   "FORMAT", "LANGUAGE", "TABLESPACE"]

/-- A value of an option. -/
def optionValue : Reading Unit := do
  let _ ← mark '='
  let some _ ← takeIf (fun t => t.kind != .mark) | failure

/-- The columns or expressions by which a table is grouped. -/
def grouping (d : Dialect) : Reading Unit := do
  let _ ← mark '='
  if ← skipParenthesized then pure ()
  else
    let _ ← commaList (do value d; return some ()) ((← get).length + 1)

/-- An option with a name of its own, as `name = value`. -/
def namedOption (d : Dialect) : Reading Bool := do
  let before ← get
  match before with
  | [] => return false
  | t :: _ =>
    if (t.kind == .word && (reservedWords.contains t.upper || t.isWord "NOT")) || t.kind == .mark
        || t.kind == .text || t.kind == .number then
      return false
    else
      operand d (4 * before.length + 4)
      if ← mark '=' then
        value d
        return true
      else
        set before
        return false

/-- One option of a table, if one follows. -/
def tableOption (d : Dialect) : Reading Bool := do
  let before ← get
  let defaulted ← word "DEFAULT"
  if (← oneOf flagOptions).isSome then return true
  else if (← oneOf valueOptions).isSome then
    optionValue
    return true
  else if ← words ["CHARACTER", "SET"] then
    optionValue
    return true
  else if defaulted then
    set before
    namedOption d
  else if ← word "LIKE" then
    let _ ← tableName d
    likeOptions (← get).length
    return true
  else if (← words ["CLUSTER", "BY"]) || (← words ["PARTITION", "BY"])
      || (← words ["PARTITIONED", "BY"]) then
    grouping d
    return true
  else if ← words ["ON", "COMMIT"] then
    let _ ← firstOf [["PRESERVE", "ROWS"], ["DELETE", "ROWS"]]
    return true
  else if ← word "ON" then
    let some _ ← anyName | failure
    let _ ← skipParenthesized
    return true
  else if (← oneOf ["OPTIONS", "INHERITS"]).isSome then
    unless ← skipParenthesized do failure
    return true
  else if ← sees ["WITH"] then
    match before.drop 1 with
    | t :: _ =>
      if t.isMark '(' then
        let _ ← take
        skipParenthesized
      else return false
    | [] => return false
  else namedOption d

/-- The options of a table; whether there was any. -/
def tableOptions (d : Dialect) : Nat → Reading Bool
  | 0 => return false
  | fuel + 1 => do
    if ← tableOption d then
      let _ ← tableOptions d fuel
      return true
    else return false

/-- Whether the tokens after open parentheses start a query. -/
def startsQuery (ts : List Token) : Bool :=
  match ts.dropWhile (·.isMark '(') with
  | t :: _ => t.isOneOf ["SELECT", "WITH", "VALUES", "FROM"]
  | [] => false

/-- Passes over a query, if one follows. A parenthesis must hold a query. -/
def query : Reading Unit := do
  if startsQuery (← get) then skipRest
  else if ← seesMark '(' then failure

/-- What follows the entries of a table. -/
def tableEnd (d : Dialect) : Reading Unit := do
  let _ ← tableOptions d (← get).length
  let hasAlias ← word "AS"
  unless (← sees ["SELECT"]) || (← sees ["WITH"]) || (← seesMark '(') do
    let _ ← tableOptions d (← get).length
  query
  if hasAlias then
    let _ ← attempt (tableName d)
  let _ ← tableOptions d (← get).length
  let _ ← word "SHALLOW"
  if (← oneOf ["CLONE", "COPY"]).isSome then
    let _ ← tableName d
    let _ ← body d

/-- An index on a table. -/
def indexTarget (d : Dialect) : Reading Unit := do
  unless ← sees ["ON"] do
    let _ ← anyName
  let _ ← word "ON"
  let _ ← word "TABLE"
  let _ ← tableName d
  if ← word "USING" then
    let _ ← take
  let _ ← skipParenthesized
  indexTail d (← get).length

/-- Gives up on the rest of a statement. -/
def giveUp : Reading Statement := do
  set ([] : List Token)
  return command

/-- The statement, unless something is left over: a mark that closes or parts makes the script
unreadable, anything else makes the statement a command. -/
def finish (s : Statement) : Reading Statement := do
  match ← peek with
  | none => return s
  | some t =>
    if t.isMark ')' || t.isMark ',' then failure else giveUp

/-- A CREATE statement from the word for what it makes. The words in front of a name are found even
between quotes. -/
def creation (d : Dialect) (kind : String) : Reading Statement := do
  let _ ← said ["CONCURRENTLY"]
  if ← said ["IF"] then
    if ← word "NOT" then
      let _ ← word "EXISTS"
  let keyword := Text.lower kind
  if kind == "INDEX" then
    indexTarget d
    finish (.create keyword none [])
  else
    let table ← if kind == "SCHEMA" then schemaName d else tableName d
    let _ ← mark ','
    let entries ← body d
    tableEnd d
    finish (.create keyword (some table) entries)

/-- A statement after the word `CREATE`. -/
def create (d : Dialect) : Reading Statement := do
  let _ ← firstOf [["OR", "REPLACE"], ["OR", "ALTER"], ["OR", "REFRESH"]]
  let _ ← word "UNIQUE"
  match ← oneOf creatables with
  | some t => creation d t.upper
  | none =>
    if ← tableOptions d (← get).length then
      match ← oneOf creatables with
      | some t => creation d t.upper
      | none => giveUp
    else giveUp

end Reading

end TableScaffold.Sql
