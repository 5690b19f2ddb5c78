import TableScaffold.Sql.Dialect
import TableScaffold.Sql.Reading
import TableScaffold.Sql.Statement

/-!
# Types

A type word stands for a type of the dialect. Parameters, signedness, time zones and array brackets
belong to the type; only the first parameter is kept. Most types have a name; an interval with a unit and
the types that a dialect keeps for its own objects have none.
-/

namespace TableScaffold.Sql

/-- The type words that name themselves. -/
def plainTypes : List String :=
  ["BIT", "BOOLEAN", "TINYINT", "SMALLINT", "MEDIUMINT", "INT", "BIGINT", "INT128", "INT256", "UINT",
   "UINT128", "UINT256", "DECIMAL", "DECIMAL32", "DECIMAL64", "DECIMAL128", "DECIMAL256", "DECFLOAT",
   "BIGDECIMAL", "BIGNUM", "FLOAT", "DOUBLE", "JSON", "JSONB", "CHAR", "NCHAR", "VARCHAR", "NVARCHAR",
   "BPCHAR", "TEXT", "LONGTEXT", "MEDIUMTEXT", "TINYTEXT", "BINARY", "VARBINARY", "LONGBLOB",
   "MEDIUMBLOB", "TINYBLOB", "TIME", "TIMETZ", "TIMESTAMP", "TIMESTAMPTZ", "TIMESTAMPLTZ",
   "TIMESTAMPNTZ", "DATE", "DATETIME", "DATETIME2", "SMALLDATETIME", "UUID", "UNIQUEIDENTIFIER",
   "ROWVERSION", "MONEY", "SMALLMONEY", "IMAGE", "XML", "SERIAL", "SMALLSERIAL", "BIGSERIAL", "YEAR",
   "GEOGRAPHY", "GEOMETRY", "POINT", "LINESTRING", "POLYGON", "MULTILINESTRING", "MULTIPOLYGON",
   "HSTORE", "HLLSKETCH", "SUPER", "VARIANT", "INET", "IPADDRESS", "IPPREFIX", "IPV4", "IPV6",
   "INT4RANGE", "INT8RANGE", "NUMRANGE", "TSRANGE", "TSTZRANGE", "DATERANGE", "ENUM", "ARRAY", "STRUCT",
   "MAP", "LIST", "OBJECT", "NULLABLE", "VECTOR", "INTERVAL", "NULL", "NAME", "UNKNOWN"]

/-- The type words that name another type. -/
def aliasTypes : List (String × String) :=
  [("BOOL", "BOOLEAN"), ("BYTE", "TINYINT"), ("SHORT", "SMALLINT"), ("INT2", "SMALLINT"),
   ("INTEGER", "INT"), ("INT4", "INT"), ("INT8", "BIGINT"), ("LONG", "BIGINT"),
   ("HUGEINT", "INT128"), ("UHUGEINT", "UINT128"), ("DEC", "DECIMAL"), ("NUMERIC", "DECIMAL"),
   ("FIXED", "DECIMAL"), ("BIGNUMERIC", "BIGDECIMAL"), ("REAL", "FLOAT"), ("FLOAT4", "FLOAT"),
   ("FLOAT8", "DOUBLE"), ("CHARACTER", "CHAR"), ("VARCHAR2", "VARCHAR"), ("NVARCHAR2", "NVARCHAR"),
   ("STR", "TEXT"), ("STRING", "TEXT"), ("CLOB", "TEXT"), ("LONGVARCHAR", "TEXT"),
   ("BLOB", "VARBINARY"), ("BYTEA", "VARBINARY"), ("TIMESTAMP_LTZ", "TIMESTAMPLTZ"),
   ("TIMESTAMP_NTZ", "TIMESTAMPNTZ")]

/-- The type words that a dialect reads in its own way. -/
def Dialect.ownTypes : Dialect → List (String × String)
  | .mysql =>
    [("TIMESTAMP", "TIMESTAMPTZ"), ("BLOB", "BLOB"), ("SET", "SET"), ("SIGNED", "BIGINT"),
     ("UNSIGNED", "UBIGINT")]
  | .postgres => [("FLOAT", "DOUBLE")]
  | .sqlite => [("FLOAT", "DOUBLE")]
  | .tsql =>
    [("TIMESTAMP", "ROWVERSION"), ("TINYINT", "UTINYINT"), ("DATETIMEOFFSET", "TIMESTAMPTZ"),
     ("NTEXT", "TEXT"), ("SQL_VARIANT", "VARIANT"), ("UNIQUEIDENTIFIER", "UUID")]
  | .snowflake =>
    [("FLOAT", "DOUBLE"), ("NUMBER", "DECIMAL"), ("BYTEINT", "INT"), ("TIMESTAMP_TZ", "TIMESTAMPTZ")]
  | .bigquery =>
    [("DATETIME", "TIMESTAMP"), ("TIMESTAMP", "TIMESTAMPTZ"), ("INT64", "BIGINT"),
     ("FLOAT64", "DOUBLE"), ("BYTES", "BINARY"), ("BYTEINT", "INT"), ("RECORD", "STRUCT")]

/-- The type that a word in capital letters names. -/
def Dialect.typeOfWord? (d : Dialect) (w : String) : Option String :=
  d.ownTypes.lookup w <|> aliasTypes.lookup w <|> plainTypes.find? (· == w)

/-- The name of a type that the dialect does not know. -/
def userType : String := "USER-DEFINED"

/-- The words that structure a statement and so name no type. -/
def structuralWords : List String :=
  ["SELECT", "FROM", "WHERE", "HAVING", "JOIN", "ON", "AND", "OR", "NOT", "IN", "BETWEEN", "LIKE",
   "ILIKE", "INTO", "VALUES", "UNION", "EXCEPT", "INTERSECT", "CREATE", "DROP", "ALTER", "INSERT",
   "WITH", "AS", "USING", "DISTINCT", "INNER", "OUTER", "CROSS", "FOR", "DEFAULT", "UNIQUE",
   "REFERENCES", "COLLATE", "COMMENT", "CONSTRAINT", "AUTO_INCREMENT", "AUTOINCREMENT", "ASC", "DESC",
   "ALL", "ANY", "CASE", "END", "INDEX", "TABLE", "VIEW", "DATABASE", "SCHEMA", "COLUMN", "FUNCTION",
   "PROCEDURE", "SET", "UPDATE", "DELETE", "IS", "TRUE", "FALSE", "EXISTS", "LIMIT", "OFFSET",
   "PARTITION", "WHEN", "THEN", "ELSE"]

/-- The words for the objects of a dialect, which are types without a name. -/
def Dialect.objectTypes : Dialect → List String
  | .postgres =>
    ["CSTRING", "OID", "REGCLASS", "REGCOLLATION", "REGCONFIG", "REGDICTIONARY", "REGNAMESPACE",
     "REGOPER", "REGOPERATOR", "REGPROC", "REGPROCEDURE", "REGROLE", "REGTYPE"]
  | _ => []

/-- The units of an interval. -/
def intervalUnits : List String :=
  ["MICROSECOND", "MILLISECOND", "SECOND", "MINUTE", "HOUR", "DAY", "WEEK", "MONTH", "QUARTER", "YEAR"]

/-- The units of the type of an interval. One dialect takes the word for years for a type. -/
def Dialect.typeUnits (d : Dialect) : List String :=
  if d = .mysql then intervalUnits.filter (· != "YEAR") else intervalUnits

/-- The types that hold other types. -/
def nestedTypes : List String := ["ARRAY", "STRUCT", "MAP", "LIST", "OBJECT", "NULLABLE"]

/-- The unsigned form of a type. -/
def unsignedTypes : List (String × String) :=
  [("TINYINT", "UTINYINT"), ("SMALLINT", "USMALLINT"), ("MEDIUMINT", "UMEDIUMINT"), ("INT", "UINT"),
   ("BIGINT", "UBIGINT"), ("DECIMAL", "UDECIMAL"), ("DOUBLE", "UDOUBLE")]

namespace Reading

/-- One parameter of a type, with a word that may follow it. -/
def typeParameter : Reading (Option String) := do
  match ← takeIf fun t => t.kind != .mark with
  | none => return none
  | some t =>
    let _ ← takeIf fun t => t.kind != .mark
    return some t.text

/-- The parameters of a type, if a list of parameters follows. -/
def typeParameters : Reading (List String) := do
  if ← mark '(' then closedList typeParameter else return []

/-- The tokens after the angle bracket that closes `depth + 1` open ones. -/
def afterAngle : Nat → List Token → Option (List Token)
  | _, [] => none
  | depth, t :: ts =>
    if t.isMark '<' then afterAngle (depth + 1) ts
    else if t.isMark '>' then
      match depth with
      | 0 => some ts
      | outer + 1 => afterAngle outer ts
    else afterAngle depth ts

/-- What a nested type holds. -/
def nestedParameters : Reading Unit := do
  if ← mark '<' then
    match afterAngle 0 (← get) with
    | some rest => set rest
    | none => failure
  else
    let _ ← skipParenthesized

/-- The tokens after a closing square bracket. -/
def afterBracket (ts : List Token) : Option (List Token) :=
  match ts.dropWhile fun t => !t.isMark ']' with
  | [] => none
  | _ :: rest => some rest

/-- Whether array brackets or the word for an array follow; they are passed over. -/
def arraySuffix : Reading Bool := do
  let isWord ← word "ARRAY"
  if ← mark '[' then
    match afterBracket (← get) with
    | some rest => set rest; return true
    | none => failure
  else return isWord

/-- The words of a type that has several. -/
def longName (w : String) : Reading String := do
  if ← wordWhere (w == "DOUBLE") "PRECISION" then return "DOUBLE"
  else if ← wordWhere (["CHAR", "CHARACTER"].contains w) "VARYING" then return "VARCHAR"
  else if ← wordWhere (w == "NCHAR") "VARYING" then return "NVARCHAR"
  else if ["SIGNED", "UNSIGNED"].contains w then
    let _ ← word "INTEGER"
    return w
  else return w

/-- The time zone of a type of times. -/
def timeZone (name : String) : Reading String := do
  if !(name.startsWith "TIME") then return name
  else if ← words ["WITH", "TIME", "ZONE"] then
    return if ["TIME", "TIMETZ"].contains name then "TIMETZ" else "TIMESTAMPTZ"
  else if ← words ["WITH", "LOCAL", "TIME", "ZONE"] then return "TIMESTAMPLTZ"
  else
    let _ ← words ["WITHOUT", "TIME", "ZONE"]
    return name

/-- The type with its sign, if it has one. -/
def signedness (name : String) : Reading String := do
  if ← word "UNSIGNED" then
    match unsignedTypes.lookup name with
    | some n => return n
    | none => failure
  else return name

/-- The name of a type, by a word or by a quoted name. -/
def typeName (d : Dialect) : Reading String := do
  match ← takeIf fun t => t.kind == .word || t.kind == .name with
  | none => failure
  | some t =>
    if t.kind == .word then
      let w ← longName t.upper
      match d.typeOfWord? w with
      | some name => return name
      | none =>
        if d.hasUserTypes && !structuralWords.contains w && !(w == "PRIMARY" && (← sees ["KEY"])) then
          return userType
        else failure
    else
      match if d == .postgres then none else d.typeOfWord? t.upper with
      | some name => return name
      | none => if d.hasUserTypes then return userType else failure

/-- The parts of a dotted name after the first. -/
def dottedRest : Nat → Reading Unit
  | 0 => pure ()
  | fuel + 1 => do
    if ← mark '.' then
      let some _ ← takeIf (fun t => t.kind == .word || t.kind == .name) | failure
      dottedRest fuel

/-- The unit of the type of an interval, or the first and the last of several units. -/
def typeUnit (d : Dialect) : Reading Bool := do
  match ← oneOf d.typeUnits with
  | none => return false
  | some _ =>
    if ← word "TO" then
      let _ ← oneOf d.typeUnits
    return true

/-- The width of a decimal number that is declared without one. -/
def Dialect.defaultSize (d : Dialect) (name : String) : Option String :=
  if d == .snowflake && name == "DECIMAL" then some "38" else none

/-- The type that a word names, from what follows the word. -/
def namedType (d : Dialect) (name : String) : Reading DataType := do
  if nestedTypes.contains name then
    nestedParameters
    let _ ← arraySuffix
    return ⟨some name, none⟩
  else
    let parameters ← typeParameters
    if name == "INTERVAL" then
      let hasUnit ← typeUnit d
      if ← arraySuffix then return ⟨some "ARRAY", none⟩
      else return ⟨if hasUnit then none else some name, none⟩
    else
      let name ← signedness (← timeZone name)
      if ← arraySuffix then return ⟨some "ARRAY", none⟩
      else return ⟨some name, parameters.head? <|> Dialect.defaultSize d name⟩

/-- A type. -/
def dataType (d : Dialect) : Reading DataType := do
  if (← oneOf d.objectTypes).isSome then return ⟨none, none⟩
  else
    let name ← typeName d
    if name == userType then dottedRest (← get).length
    namedType d name

/-- A type, if one follows that can be read. -/
def dataType? (d : Dialect) : Reading (Option DataType) := attempt (dataType d)

end Reading

end TableScaffold.Sql
