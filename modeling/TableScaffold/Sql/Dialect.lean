/-!
# SQL dialects

The dialects differ in their quotes, comments and escapes, in whether a type word may be unknown,
and in a few type words. The lexical rules of a dialect are one record.
-/

namespace TableScaffold.Sql

/-- A dialect of SQL. -/
inductive Dialect where
  | mysql
  | postgres
  | sqlite
  | tsql
  | snowflake
  | bigquery
  deriving DecidableEq, Repr

/-- How the characters of a script form tokens. -/
structure Lexis where
  /-- The quotes of names, opening and closing. -/
  nameQuotes : List (Char × Char)
  /-- The quotes of texts. -/
  textQuotes : List Char
  /-- What starts a comment up to the end of the line. -/
  lineComments : List (List Char)
  /-- Whether block comments nest. -/
  nestedComments : Bool
  /-- Whether a backslash escapes the character after it. -/
  backslashEscapes : Bool
  /-- Whether a quote is written twice inside a text. -/
  doubledQuotes : Bool
  /-- Whether a name may start with a digit. -/
  digitNames : Bool
  /-- The punctuation that may stand inside a word. -/
  wordMarks : List Char

namespace Dialect

/-- All dialects. -/
def all : List Dialect := [mysql, postgres, sqlite, tsql, snowflake, bigquery]

/-- The name of a dialect. -/
def name : Dialect → String
  | mysql => "mysql"
  | postgres => "postgres"
  | sqlite => "sqlite"
  | tsql => "tsql"
  | snowflake => "snowflake"
  | bigquery => "bigquery"

/-- The dialect with a name. -/
def ofName? (s : String) : Option Dialect := all.find? (·.name == s)

@[simp] theorem ofName?_name (d : Dialect) : ofName? d.name = some d := by
  cases d <;> decide

/-- The lexical rules of a dialect. -/
def lexis : Dialect → Lexis
  | mysql => ⟨[('\x60', '\x60')], ['\'', '"'], [['-', '-'], ['#']], false, true, true, true, []⟩
  | postgres => ⟨[('"', '"')], ['\''], [['-', '-']], true, false, true, false, []⟩
  | sqlite =>
    ⟨[('"', '"'), ('[', ']'), ('\x60', '\x60')], ['\''], [['-', '-']], false, false, true, false, []⟩
  | tsql => ⟨[('[', ']'), ('"', '"')], ['\''], [['-', '-']], true, false, true, false, ['@', '#']⟩
  | snowflake => ⟨[('"', '"')], ['\''], [['-', '-'], ['/', '/']], false, true, true, false, []⟩
  | bigquery =>
    ⟨[('\x60', '\x60')], ['\'', '"'], [['-', '-'], ['#']], false, true, false, false, []⟩

/-- Whether a type may have a name that is not known. -/
def hasUserTypes : Dialect → Bool
  | postgres | sqlite | tsql => true
  | mysql | snowflake | bigquery => false

end Dialect

end TableScaffold.Sql
