import TableScaffold.Sql.Names

/-!
# Clauses

A clause constrains a column or a whole table. Standing on its own in a table it is an entry; behind
a column only its say on nullability matters.
-/

namespace TableScaffold.Sql

/-- A clause: the entry that it makes, and whether it allows null if it says so. -/
structure Clause where
  entry : Entry
  nullable : Option Bool := none
  deriving DecidableEq, Repr

/-- A clause that is known by its label only. -/
def Clause.plain (label : String) : Clause := ⟨.other label, none⟩

/-- The last word on nullability. -/
def Clause.lastNullable (cs : List Clause) : Option Bool :=
  cs.foldl (fun n c => c.nullable <|> n) none

/-- The words that start an index. -/
def indexWords : List String := ["FULLTEXT", "SPATIAL", "INDEX", "KEY"]

/-- The words that start a clause. -/
def clauseWords : List String :=
  ["AUTOINCREMENT", "AUTO_INCREMENT", "CHECK", "COLLATE", "COMMENT", "CLUSTERED", "NONCLUSTERED",
   "DEFAULT", "GENERATED", "IDENTITY", "LIKE", "NOT", "NULL", "ON", "REFERENCES", "UNIQUE", "WITH",
   "ZEROFILL", "OPTIONS", "CONSTRAINT"] ++ indexWords

namespace Reading

/-- The actions of a foreign key. -/
def actions : List (List String) :=
  [["NO", "ACTION"], ["CASCADE"], ["RESTRICT"], ["SET", "NULL"], ["SET", "DEFAULT"]]

/-- The first of several word sequences that follows. -/
def firstOf : List (List String) → Reading (Option String)
  | [] => return none
  | ws :: rest => do
    if ← words ws then return some (" ".intercalate ws) else firstOf rest

/-- The options of a key that say nothing of actions. -/
def keyOption : Reading Bool := do
  let options := [["NOT", "ENFORCED"], ["MATCH", "FULL"], ["MATCH", "PARTIAL"], ["MATCH", "SIMPLE"],
    ["INITIALLY", "DEFERRED"], ["INITIALLY", "IMMEDIATE"], ["USING", "BTREE"], ["USING", "HASH"],
    ["DEFERRABLE"], ["NORELY"], ["RELY"]]
  return (← firstOf options).isSome

/-- The options of a key; of them, each event with its action. -/
def keyOptions : Nat → Reading (List (String × String))
  | 0 => return []
  | fuel + 1 => do
    if ← word "ON" then
      let some event ← takeIf (fun t => t.kind != .mark) | failure
      let some action ← firstOf actions | failure
      return (event.upper, action) :: (← keyOptions fuel)
    else if ← keyOption then keyOptions fuel
    else return []

/-- The actions of a foreign key that has no reference; any word will do. -/
def looseActions : Nat → Reading (List (String × String))
  | 0 => return []
  | fuel + 1 => do
    if ← word "ON" then
      let some event ← oneOf ["DELETE", "UPDATE"] | failure
      let action ← match ← firstOf actions with
        | some a => pure a
        | none => pure (((← take).map (·.upper)).getD "")
      return (event.upper, action) :: (← looseActions fuel)
    else return []

/-- What follows the columns of a key: its method, further columns, storage. -/
def indexTail (d : Dialect) : Nat → Reading Unit
  | 0 => pure ()
  | fuel + 1 => do
    if ← word "USING" then
      let _ ← take
      indexTail d fuel
    else if ← word "INCLUDE" then
      let _ ← skipParenthesized
      indexTail d fuel
    else if ← sees ["WITH"] then
      match (← get).drop 1 with
      | t :: rest =>
        if t.isMark '(' then
          set rest
          skipToClosing
          indexTail d fuel
      | [] => pure ()
    else if ← word "WHERE" then condition d
    else pure ()

/-- A name in front of a parenthesized list, if there is one. -/
def nameOfList : Reading (Option String) := do
  match ← get with
  | t :: o :: rest =>
    if isPlainName t && o.isMark '(' && !t.isOneOf clauseWords then
      set (o :: rest)
      return some t.text
    else return none
  | _ => return none

/-- A name from any token, or nothing. -/
def nameItem : Reading (Option String) := return (← anyName).map (·.text)

/-- A column that refers to another one: its name, with an order or a length. -/
def listedColumn (d : Dialect) : Reading (Option String) := do
  match ← takeIf fun t => isAnyName t with
  | none => return none
  | some t =>
    let _ ← skipParenthesized
    let _ ← dataType? d
    let _ ← oneOf ["ASC", "DESC"]
    return some t.text

/-- Passes over a stream of the changes of a table. -/
def changeStream (d : Dialect) : Reading Unit := do
  unless ← said ["STREAM"] do failure
  if ← mark '(' then
    let _ ← tableName d
    expect ')'
  else
    let _ ← tableName d
    let _ ← skipParenthesized

/-- Passes over a row of a list of values. -/
def valueRow (d : Dialect) : Reading (Option Unit) := do
  if ← mark '(' then
    let _ ← closedList (do condition d; return some ())
    return some ()
  else attempt (condition d)

/-- The table that a key refers to with its columns. Behind a name that says `STREAM` or `VALUES`, even
between quotes, no table is found. -/
def target (d : Dialect) : Reading (Option TableName × List String) := do
  if (← attempt (changeStream d)).isSome then return (none, [])
  else if ← said ["VALUES"] then
    let _ ← commaList (valueRow d) ((← get).length + 1)
    return (none, [])
  else
    let table ← tableName d
    let columns ← if ← mark '(' then closedList (listedColumn d) else pure []
    return (some table, columns)

/-- The table that a key refers to, its columns, and the options of the key. -/
def reference (d : Dialect) :
    Reading (Option TableName × List String × List (String × String)) := do
  let (table, columns) ← target d
  return (table, columns, ← keyOptions (← get).length)

/-- A foreign key after its first words. The first action for each event counts. -/
def foreignKey (d : Dialect) : Reading ForeignKeyEntry := do
  let _ ← nameOfList
  let columns ← if ← sees ["REFERENCES"] then pure [] else parenthesized nameItem
  let (table, remoteColumns, options) ←
    if ← word "REFERENCES" then reference d else pure (none, [], [])
  let loose := (← looseActions (← get).length).reverse
  let options := loose ++ (← keyOptions (← get).length) ++ options
  return { columns, table, remoteColumns
           onDelete := options.lookup "DELETE", onUpdate := options.lookup "UPDATE" }

/-- A primary key after its first words. -/
def primaryKey (d : Dialect) : Reading Clause := do
  let _ ← oneOf ["ASC", "DESC"]
  if d == .mysql then
    let _ ← nameOfList
  if ← mark '(' then
    let _ ← closedList (listedColumn d)
    indexTail d (← get).length
    if ← word "ON" then
      let _ ← take
    let _ ← keyOptions (← get).length
    return .plain "primary key"
  else
    let _ ← keyOptions (← get).length
    return .plain "primarykeycolumnconstraint"

/-- A uniqueness clause after its first word. -/
def unique (d : Dialect) : Reading Clause := do
  let _ ← oneOf ["KEY", "INDEX"]
  let _ ← words ["NULLS", "NOT", "DISTINCT"]
  let _ ← nameOfList
  if ← mark '(' then
    let _ ← closedList (listedColumn d)
  if ← word "USING" then
    let _ ← take
  let _ ← keyOptions (← get).length
  return .plain "unique key"

/-- The options of an index. -/
def indexOptions : Nat → Reading Unit
  | 0 => pure ()
  | fuel + 1 => do
    if (← oneOf ["KEY_BLOCK_SIZE", "ENGINE_ATTRIBUTE", "SECONDARY_ENGINE_ATTRIBUTE"]).isSome then
      let _ ← mark '='
      let _ ← take
      indexOptions fuel
    else if (← oneOf ["USING", "COMMENT"]).isSome then
      let _ ← take
      indexOptions fuel
    else if ← words ["WITH", "PARSER"] then
      let _ ← take
      indexOptions fuel
    else if (← oneOf ["VISIBLE", "INVISIBLE"]).isSome then indexOptions fuel
    else pure ()

/-- An index after its first word, or nothing but that word. -/
def index (d : Dialect) (kind : String) : Reading Clause := do
  if ["FULLTEXT", "SPATIAL"].contains kind then
    let _ ← oneOf ["INDEX", "KEY"]
  let name ← if (← seesMark '(') || (← sees ["USING"]) then pure none
    else
      match ← get with
      | t :: o :: rest =>
        if isPlainName t && (o.isMark '(' || o.isWord "USING") then
          set (o :: rest)
          pure (some t.text)
        else pure none
      | _ => pure none
  if ← word "USING" then
    let _ ← take
  if kind == "KEY" && name.isNone && !(← seesMark '(') then
    return .plain "primarykeycolumnconstraint"
  let columns ← parenthesized (orderedColumn d)
  indexOptions (← get).length
  return ⟨.index ⟨name.filter (!·.isEmpty), columns⟩, none⟩

/-- A generated column after its first word. -/
def generated (d : Dialect) : Reading Clause := do
  if ← words ["BY", "DEFAULT"] then
    let _ ← words ["ON", "NULL"]
  else
    let _ ← word "ALWAYS"
  let _ ← word "AS"
  if ← word "ROW" then
    let _ ← oneOf ["START", "END"]
    let _ ← word "HIDDEN"
    return .plain "generatedasrowcolumnconstraint"
  let identity ← word "IDENTITY"
  if ← mark '(' then
    if identity then skipToClosing
    else
      condition d
      expect ')'
  let _ ← oneOf ["STORED", "VIRTUAL"]
  return .plain "generatedasidentitycolumnconstraint"

/-- The start and step of a numbered column. -/
def numbering (d : Dialect) : Reading Clause := do
  if ← skipParenthesized then pure ()
  else if ← word "START" then
    value d
    if ← word "INCREMENT" then value d
    let _ ← oneOf ["ORDER", "NOORDER"]
  return .plain "autoincrementcolumnconstraint"

/-- The options of a table made like another one. -/
def likeOptions : Nat → Reading Unit
  | 0 => pure ()
  | fuel + 1 => do
    if (← oneOf ["INCLUDING", "EXCLUDING"]).isSome then
      let some _ ← anyName | failure
      likeOptions fuel

/-- A clause, if one follows. -/
def clause (d : Dialect) : Reading (Option Clause) := do
  if ← words ["NOT", "NULL"] then return some ⟨.other "notnullcolumnconstraint", some false⟩
  else if ← word "NULL" then return some ⟨.other "notnullcolumnconstraint", some true⟩
  else if ← words ["NOT", "FOR", "REPLICATION"] then
    return some (.plain "notforreplicationcolumnconstraint")
  else if ← word "DEFAULT" then
    value d
    return some (.plain "defaultcolumnconstraint")
  else if ← word "COMMENT" then
    let some _ ← takeIf (·.kind == .text) | failure
    return some (.plain "commentcolumnconstraint")
  else if ← words ["PRIMARY", "KEY"] then return some (← primaryKey d)
  else if ← words ["FOREIGN", "KEY"] then return some ⟨.foreignKey (← foreignKey d), none⟩
  else if ← word "UNIQUE" then return some (← unique d)
  else if ← word "REFERENCES" then
    let _ ← reference d
    return some (.plain "reference")
  else if ← word "CHECK" then
    expect '('
    condition d
    expect ')'
    let _ ← firstOf [["ENFORCED"], ["NOT", "ENFORCED"]]
    return some (.plain "checkcolumnconstraint")
  else if ← word "COLLATE" then
    let some _ ← takeIf (·.kind != .mark) | failure
    let _ ← attached d (← get).length
    return some (.plain "collatecolumnconstraint")
  else if ← words ["CHARACTER", "SET"] then
    let some _ ← takeIf (fun t => t.kind == .word || t.kind == .text) | failure
    return some (.plain "charactersetcolumnconstraint")
  else if (← oneOf ["AUTO_INCREMENT", "AUTOINCREMENT", "IDENTITY"]).isSome then
    return some (← numbering d)
  else if ← word "GENERATED" then return some (← generated d)
  else if ← words ["ON", "UPDATE"] then
    operand d (4 * (← get).length + 4)
    return some (.plain "onupdatecolumnconstraint")
  else if ← word "ON" then
    let some _ ← anyName | failure
    return some (.plain "onproperty")
  else if (← oneOf ["CLUSTERED", "NONCLUSTERED"]).isSome then
    let _ ← parenthesized (orderedColumn d)
    return some (.plain "clusteredcolumnconstraint")
  else if ← word "WITH" then
    unless ← skipParenthesized do failure
    return some (.plain "properties")
  else if ← word "LIKE" then
    let _ ← tableName d
    likeOptions (← get).length
    return some (.plain "likeproperty")
  else if ← wordWhere (d == .mysql) "ZEROFILL" then
    return some (.plain "zerofillcolumnconstraint")
  else if ← wordWhere (d == .bigquery) "OPTIONS" then
    unless ← skipParenthesized do failure
    return some (.plain "properties")
  else if d == .mysql then
    match ← oneOf indexWords with
    | some t => return some (← index d t.upper)
    | none => return none
  else return none

end Reading

end TableScaffold.Sql
