import TableScaffold.Logged
import TableScaffold.Sql.Create
import TableScaffold.Sql.Token.Lexer

/-!
# Scripts

A script is a sequence of statements parted by semicolons. A semicolon that carries a comment is a
statement of its own: a comment on the same line after it, or a comment with which the script ends.

What a script means is for its grammar to say. `parse` reads the language of this library; what is made of
the statements afterwards takes any grammar, so that it also holds for a language that is larger, and for
a reader that breaks off.
-/

namespace TableScaffold.Sql

/-- What stands between two semicolons, or a semicolon that carries a comment. -/
inductive Segment where
  | statement (ts : List Token)
  | remark
  deriving DecidableEq, Repr

/-- Whether a semicolon carries a comment of what follows it. -/
def carriesComment : List Lexeme → Bool
  | .comment sameLine :: rest =>
    sameLine || rest.all fun x => match x with
      | .comment _ => true
      | .token _ => false
  | _ => false

/-- The segments of a script. `commented` says that only comments have been met so far; `held` are the
tokens since the last semicolon, the last one first. -/
def segments (commented : Bool) (held : List Token) : List Lexeme → List Segment
  | [] => [.statement held.reverse]
  | .comment _ :: rest => segments commented held rest
  | .token t :: rest =>
    if t.isMark ';' then
      .statement held.reverse ::
        (if commented || carriesComment rest then [.remark] else []) ++ segments false [] rest
    else segments false (t :: held) rest

/-- Whether a script starts with a comment. -/
def startsWithComment : List Lexeme → Bool
  | .comment _ :: _ => true
  | _ => false

/-- The kinds of statements that a first word tells. -/
def statementKinds : List (String × String) :=
  [("INSERT", "Insert"), ("UPDATE", "Update"), ("DELETE", "Delete"), ("MERGE", "Merge"),
   ("USE", "Use"), ("SET", "Set"), ("TRUNCATE", "TruncateTable"), ("DESCRIBE", "Describe"),
   ("DESC", "Describe"), ("BEGIN", "Transaction"), ("COMMIT", "Commit"), ("ROLLBACK", "Rollback"),
   ("PRAGMA", "Pragma"), ("COMMENT", "Comment"), ("COPY", "Copy"), ("CACHE", "Cache"),
   ("UNCACHE", "Uncache"), ("GRANT", "Grant"), ("REVOKE", "Revoke"), ("ANALYZE", "Analyze"),
   ("KILL", "Kill"), ("LOAD", "LoadData"), ("REFRESH", "Refresh"), ("VALUES", "Values")]

/-- The first words of statements that nothing is known of. -/
def commandWords : List String :=
  ["CALL", "EXPLAIN", "OPTIMIZE", "PREPARE", "VACUUM", "EXECUTE", "EXEC", "FETCH", "SHOW", "RENAME"]

/-- The kind of a statement by its first word in capital letters. -/
def kindOfWord? (d : Dialect) (w : String) : Option String :=
  if w == "SHOW" && (d == .mysql || d == .snowflake) then some "Show"
  else if d == .mysql && w == "START" then some "Transaction"
  else if d == .mysql && w == "EXPLAIN" then some "Describe"
  else statementKinds.lookup w <|> (if commandWords.contains w then some "Command" else none)

/-- The words that join two queries. -/
def setWords : List (String × String) :=
  [("UNION", "Union"), ("EXCEPT", "Except"), ("INTERSECT", "Intersect")]

/-- The tokens outside parentheses; `depth` are open in front of them. -/
def topLevel : Nat → List Token → List Token
  | _, [] => []
  | depth, t :: ts =>
    if t.isMark '(' then topLevel (depth + 1) ts
    else if t.isMark ')' then topLevel (depth - 1) ts
    else if depth = 0 then t :: topLevel depth ts
    else topLevel depth ts

/-- The kind of the first word outside parentheses that is one of the given. -/
def firstKind (kinds : List (String × String)) (ts : List Token) : Option String :=
  ts.findSome? fun t => if t.kind == .word then kinds.lookup t.upper else none

/-- The kind of a query: the last word that joins two queries decides. -/
def queryKind (ts : List Token) : String :=
  let top := topLevel 0 ts
  let main := firstKind
    [("SELECT", "Select"), ("INSERT", "Insert"), ("UPDATE", "Update"), ("DELETE", "Delete"),
     ("MERGE", "Merge")] top
  match main with
  | some "Select" | none => (firstKind setWords top.reverse).getD (main.getD "Subquery")
  | some kind => kind

namespace Reading

/-- The kind of a single operand. -/
def operandKind (ts : List Token) : Option String :=
  match ts with
  | [t] =>
    match t.kind with
    | .number | .text => some "Literal"
    | .name => some "Column"
    | .word =>
      if t.isWord "NULL" then some "Null"
      else if t.isOneOf ["TRUE", "FALSE"] then some "Boolean"
      else if reservedWords.contains t.upper then none
      else some "Column"
    | .mark => none
  | t :: p :: rest => if t.kind != .mark && p.isMark '.' then operandKind rest else none
  | [] => none

/-- A statement that is an operand alone, perhaps with another name. -/
def bare : Reading Statement := do
  let ts ← get
  set ([] : List Token)
  match operandKind ts with
  | some kind => return .other kind
  | none =>
    match ts.reverse with
    | last :: rest =>
      let named := match rest with
        | w :: rest' => if w.isWord "AS" then rest' else rest
        | [] => []
      if isPlainName last && (operandKind named.reverse).isSome then return .other "Alias"
      else failure
    | [] => failure

/-- A change of something that exists. -/
def alter : Reading Statement := do
  let ts ← get
  skipRest
  let actions := ["ADD", "DROP", "ALTER", "MODIFY", "RENAME", "SET"]
  if (ts.head?.map (·.isWord "TABLE")).getD false && ts.any (·.isOneOf actions) then
    return .other "Alter"
  else return command

/-- The removal of something that exists. -/
def drop : Reading Statement := do
  let kinds := creatables ++ ["FUNCTION", "PROCEDURE", "COLUMN", "CONSTRAINT", "SEQUENCE",
    "TEMPORARY", "MATERIALIZED", "STAGE", "WAREHOUSE", "TAG", "MODEL"]
  let known := ((← peek).map (·.isOneOf kinds)).getD false
  skipRest
  return if known then .other "Drop" else command

/-- A statement. -/
def statement (d : Dialect) : Reading Statement := do
  match ← get with
  | [] => failure
  | t :: rest =>
    if t.isWord "CREATE" then
      set rest
      create d
    else if t.isWord "DROP" then
      set rest
      drop
    else if t.isWord "ALTER" then
      set rest
      alter
    else if t.isOneOf ["SELECT", "WITH", "FROM"] || (t.isMark '(' && rest.any (·.isWord "SELECT")) then
      skipRest
      return .other (queryKind (t :: rest))
    else
      match if t.kind == .word then kindOfWord? d t.upper else none with
      | some kind =>
        skipRest
        return .other kind
      | none => bare

end Reading

/-- The statement of the tokens between two semicolons; nothing may be left over. -/
def readStatement (d : Dialect) (ts : List Token) : Option Statement :=
  match Reading.statement d ts with
  | some (s, []) => some s
  | _ => none

/-- The statements of a segment: an empty one has none. -/
def Segment.statements (d : Dialect) : Segment → Option (List Statement)
  | .statement [] => some []
  | .statement ts => (readStatement d ts).map ([·])
  | .remark => some [.other "Semicolon"]

/-- The statements of a script, if it can be read. -/
def parse (d : Dialect) (script : String) : Option (List Statement) := do
  let lexemes ← lexemes? d script.toList
  let parts ← (segments (startsWithComment lexemes) [] lexemes).mapM (Segment.statements d)
  return parts.flatten

/-- Why a script cannot be read. -/
inductive ReadFault where
  /-- The text is no script of the dialect. -/
  | unreadable
  /-- The reader breaks off, as when a script nests deeper than it can follow. -/
  | broken
  deriving DecidableEq, Repr

/-- How the scripts of each dialect are read. -/
abbrev Grammar := Dialect → String → Except ReadFault (List Statement)

/-- The grammar of this library, which never breaks off. -/
def grammar : Grammar := fun d script =>
  match parse d script with
  | some ss => .ok ss
  | none => .error .unreadable

/-- Why a script gives no syntax trees. -/
inductive ScriptError where
  /-- The script cannot be read. -/
  | reading (f : ReadFault)
  /-- A statement cannot be written out. -/
  | tree (e : TreeError)
  deriving DecidableEq, Repr

/-- The trees of statements in order, with a notice for each that creates nothing. -/
def treesOf : List Statement → Attempt TreeError (List Value)
  | [] => pure []
  | s :: rest => do
    match s with
    | .other kind => Attempt.note (.otherStatement kind)
    | .create .. => pure ()
    let v ← Attempt.ofExcept s.tree
    let vs ← treesOf rest
    pure (v :: vs)

/-- The syntax trees of a script in a grammar. -/
def Grammar.trees (g : Grammar) (d : Dialect) (script : String) : Attempt ScriptError (List Value) :=
  match g d script with
  | .error f => throw (.reading f)
  | .ok ss => ExceptT.adapt ScriptError.tree (treesOf ss)

/-- The syntax trees of a script. -/
def trees (d : Dialect) (script : String) : Attempt ScriptError (List Value) := grammar.trees d script

end TableScaffold.Sql
