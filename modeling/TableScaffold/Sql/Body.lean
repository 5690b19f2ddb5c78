import TableScaffold.Sql.Clause

/-!
# The entries of a table

The parenthesized list of a CREATE statement holds columns, table constraints and indexes. A named
constraint may hold several clauses; each of them is an entry of its own.

A column begins with its name. A few words stand for a value there, and a column that begins with a value
has no name of its own.
-/

namespace TableScaffold.Sql

/-! ## Words that are no names -/

/-- How a word goes on that stands for a value. -/
inductive ValueForm where
  /-- Nothing else belongs to it. -/
  | constant
  /-- Arguments in parentheses may follow. -/
  | call
  /-- A value follows. -/
  | operand
  /-- Cases follow up to the word that ends them. -/
  | cases
  /-- A condition follows, with one or two values. -/
  | condition
  deriving DecidableEq, Repr

/-- A word that stands for a value, with what it is known as and the name that a column gets from it. -/
structure ValueWord where
  word : String
  label : String
  form : ValueForm
  name : String := ""
  deriving DecidableEq, Repr

namespace Dialect

/-- The functions of a dialect that go without parentheses, with what they are known as. -/
def callWords : Dialect → List (String × String)
  | .mysql =>
    [("LOCALTIME", "localtime"), ("LOCALTIMESTAMP", "localtimestamp"), ("UTC_DATE", "utcdate"),
     ("UTC_TIME", "utctime"), ("UTC_TIMESTAMP", "utctimestamp")]
  | .postgres =>
    [("CURRENT_CATALOG", "currentcatalog"), ("CURRENT_ROLE", "currentrole"),
     ("CURRENT_SCHEMA", "currentschema"), ("LOCALTIME", "localtime"),
     ("LOCALTIMESTAMP", "localtimestamp"), ("SESSION_USER", "sessionuser")]
  | .sqlite => []
  | .tsql => [("SESSION_USER", "sessionuser"), ("SYSTEM_USER", "currentuser")]
  | .snowflake => [("LOCALTIME", "localtime"), ("LOCALTIMESTAMP", "localtimestamp")]
  | .bigquery => [("CURRENT_DATETIME", "currentdatetime")]

/-- The words of a dialect that stand for a value. -/
def valueWords (d : Dialect) : List ValueWord :=
  [⟨"NULL", "null", .constant, "NULL"⟩, ⟨"TRUE", "boolean", .constant, ""⟩,
   ⟨"FALSE", "boolean", .constant, ""⟩, ⟨"ANY", "any", .operand, ""⟩,
   ⟨"CONNECT_BY_ROOT", "connectbyroot", .operand, ""⟩, ⟨"CASE", "case", .cases, ""⟩,
   ⟨"IF", "if", .condition, ""⟩] ++
  (if d = .postgres then [⟨"VARIADIC", "variadic", .operand, ""⟩] else []) ++
  ([("CURRENT_DATE", "currentdate"), ("CURRENT_TIME", "currenttime"),
    ("CURRENT_TIMESTAMP", "currenttimestamp"), ("CURRENT_USER", "currentuser")] ++ d.callWords).map
      fun (w, label) => ⟨w, label, .call, ""⟩

/-- The value that a word in capital letters stands for. -/
def valueWord? (d : Dialect) (w : String) : Option ValueWord := d.valueWords.find? (·.word == w)

end Dialect

/-- The words that start an entry which is no column. -/
def entryWords : List String :=
  ["CONSTRAINT", "CHECK", "EXCLUDE", "LIKE", "UNIQUE", "SELECT"] ++ indexWords

/-- The words that stand for a value in some dialect. -/
def allValueWords : List String := Dialect.all.flatMap fun d => d.valueWords.map (·.word)

/-- The words that the grammar of some dialect keeps for itself, so that they are no names there. -/
def specialWords : List String :=
  reservedWords ++ entryWords ++ allValueWords ++
    -- in front of the name of a table
    ["CONCURRENTLY", "STREAM", "FUNCTION", "IDENTIFIER", "ONLY", "ROWS",
     -- in front of a constraint
     "PERIOD",
     -- values of single dialects, and words in front of them
     "NOT", "NEXT", "PRIOR", "VARIADIC", "CURRENT_DATETIME", "SYSDATE",
     -- operators and clauses of single dialects
     "DECLARE", "DISTINCTROW", "DIV", "ESCAPE", "EXPORT", "GRANT", "LIMIT", "MATCH", "MATCH_CONDITION",
     "MATCH_RECOGNIZE", "MINUS", "MOD", "NOTNULL", "OFFSET", "OPERATOR", "OPTION", "OUTPUT", "REVOKE",
     "SAMPLE", "SEPARATOR", "STRAIGHT_JOIN", "TABLESAMPLE", "UNNEST"]

/-! ## Entries -/

/-- An entry under the name of its constraint; only foreign keys keep it. -/
def Entry.named (name : String) : Entry → Entry
  | .foreignKey k => .foreignKey { k with name := if name.isEmpty then none else some name }
  | e => e

namespace Reading

/-- A clause behind a column, perhaps with a name. `some none` is a name without a clause. -/
def columnClause (d : Dialect) : Reading (Option (Option Clause)) := do
  if ← word "CONSTRAINT" then
    match ← anyName with
    | none => return (← clause d).map some
    | some _ => return some (← clause d)
  else return (← clause d).map some

/-- All clauses behind a column. -/
def columnClauses (d : Dialect) : Nat → Reading (List (Option Clause))
  | 0 => return []
  | fuel + 1 => do
    match ← columnClause d with
    | none => return []
    | some c => return c :: (← columnClauses d fuel)

/-- Whether a column is computed; its expression is passed over. -/
def computed (d : Dialect) (typed : Bool) : Reading Bool := do
  if ← word "AS" then
    condition d
    if typed then
      let _ ← oneOf ["STORED", "VIRTUAL"]
    else
      let _ ← word "PERSISTED"
      let _ ← dataType? d
      let _ ← words ["NOT", "NULL"]
    return true
  else return false

/-- What a column begins with. -/
structure Head where
  /-- The name that the column gets. -/
  name : String
  /-- The script behind it, if it was written as a name. -/
  after : Option (List Char)
  /-- What it is known as if nothing follows. -/
  label : String
  /-- Whether it names a column at all. -/
  names : Bool
  deriving DecidableEq, Repr

/-- A name, or a literal in its place. -/
def Head.ofToken (t : Token) : Head :=
  if t.kind == .text || t.kind == .number then ⟨t.text, none, "literal", true⟩
  else ⟨t.text, some t.rest, "identifier", true⟩

/-- What a column begins with, when nothing follows. -/
def Head.alone (h : Head) : Entry := if h.names then .lone h.label h.name else .other h.label

/-- Passes over what belongs to a word that stands for a value. Without it the word for a condition is a
name. -/
def valueRest (d : Dialect) : ValueForm → Reading Bool
  | .constant => return true
  | .call => do
    let _ ← skipParenthesized
    return true
  | .operand => do
    value d
    return true
  | .cases => do
    match afterCase 0 (← get) with
    | some rest => set rest; return true
    | none => failure
  | .condition => do
    if (← seesMark ',') || (← seesMark ')') then return false
    else if ← mark '(' then
      let parts ← closedList (do condition d; return some ())
      if parts.length = 2 || parts.length = 3 then return true else failure
    else
      condition d
      let _ ← word "THEN"
      condition d
      if ← word "ELSE" then condition d
      let _ ← word "END"
      return true

/-- What a column begins with, after its first token. -/
def head (d : Dialect) (t : Token) : Reading Head := do
  match if t.kind == .word then d.valueWord? t.upper else none with
  | none => return .ofToken t
  | some v =>
    if ← valueRest d v.form then return ⟨v.name, none, v.label, false⟩ else return .ofToken t

/-- A column after what it begins with. -/
def column (d : Dialect) (h : Head) : Reading Entry := do
  let type ← dataType? d
  let isComputed ← computed d type.isSome
  let clauses ← columnClauses d (← get).length
  if type.isNone && clauses.isEmpty && !isComputed then return h.alone
  else
    return .column
      { name := h.name
        after := h.after
        type
        nullable := Clause.lastNullable (clauses.filterMap id)
        emptyClause := clauses.any (·.isNone) }

/-- The clauses of a named constraint. -/
def namedClauses (d : Dialect) : Nat → Reading (List Clause)
  | 0 => return []
  | fuel + 1 => do
    match ← clause d with
    | none => return []
    | some c => return c :: (← namedClauses d fuel)

/-- A constraint with a name: at least one clause. -/
def namedConstraint (d : Dialect) : Reading (List Entry) := do
  if (← sees ["PRIMARY", "KEY"]) || (← sees ["FOREIGN", "KEY"]) then failure
  let name := ((← anyName).map (·.text)).getD ""
  let clauses ← namedClauses d (← get).length
  if clauses.isEmpty then failure
  return clauses.map fun c => c.entry.named name

/-- Whether a table constraint or an index without a name follows. -/
def startsTableClause (d : Dialect) : Reading Bool := do
  match ← peek with
  | none => return false
  | some t =>
    if t.isOneOf ["CHECK", "LIKE", "UNIQUE"] then return true
    else if t.isOneOf ["PRIMARY", "FOREIGN"] then
      return (← sees ["PRIMARY", "KEY"]) || (← sees ["FOREIGN", "KEY"])
    else return d == .mysql && t.isOneOf indexWords

/-- What excludes rows of a table from one another. -/
def exclusion (d : Dialect) : Reading Entry := do
  if ← word "USING" then
    let _ ← take
  let _ ← skipParenthesized
  indexTail d (← get).length
  return .other "excludecolumnconstraint"

/-- What one place between the commas holds. -/
def entries (d : Dialect) : Reading (Option (List Entry)) := do
  if ← word "CONSTRAINT" then return some (← namedConstraint d)
  else if ← startsTableClause d then return (← clause d).map fun c => [c.entry]
  else if ← word "EXCLUDE" then return some [← exclusion d]
  else
    let _ ← if d == .tsql then mark '#' else pure false
    match ← takeIf isAnyName with
    | none => return none
    | some t => return some [← column d (← head d t)]

/-- The entries in parentheses, if such a list follows and is no query. -/
def body (d : Dialect) : Reading (List Entry) := do
  match ← get with
  | o :: t :: rest =>
    if o.isMark '(' && !(t.isMark '(' || t.isOneOf ["SELECT", "WITH"]) then
      set (t :: rest)
      return (← closedList (entries d)).flatten
    else return []
  | _ => return []

end Reading

end TableScaffold.Sql
