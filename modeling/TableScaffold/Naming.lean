import TableScaffold.Naming.Words
import TableScaffold.Text.Case

/-!
# Names derived from a table name

A table name gives a singular and a plural class name, the file names that go with them, and a
constant name. The singular form drops one final `s`; nothing else is known of English plurals.
-/

namespace TableScaffold.Naming

/-- Joins the segments between underscores, each with its first letter in upper case. `start` says
whether a segment begins here. -/
def pascalFrom (start : Bool) : List Char → List Char
  | [] => []
  | c :: rest =>
    if c = '_' then pascalFrom true rest
    else (if start then Text.upperChar c else [c]) ++ pascalFrom false rest

/-- A table name as a class name. -/
def className (name : String) : String := String.ofList (pascalFrom true name.toList)

/-- A name without one final `s`. -/
def singular (name : String) : String :=
  if name.toList.getLast? = some 's' then String.ofList name.toList.dropLast else name

/-- The class name of one row. -/
def singularClass (name : String) : String := className (singular name)

/-- The class name of the table. -/
def pluralClass (name : String) : String := className name

/-- Puts a dash where an upper-case letter follows a lower-case one, and for each underscore. -/
def dashes : List Char → List Char
  | [] => []
  | [c] => [if c = '_' then '-' else c]
  | c :: d :: rest =>
    if c.isLower && d.isUpper then c :: '-' :: dashes (d :: rest)
    else (if c = '_' then '-' else c) :: dashes (d :: rest)

/-- A class name as a file name. -/
def fileName (name : String) : String :=
  Text.lower (String.ofList (dashes name.toList))

/-- A class name as a constant. -/
def constantName (name : String) : String := Text.upper name

end TableScaffold.Naming

namespace TableScaffold

/-- Every name derived from one table name. -/
structure Names where
  singularClass : String
  pluralClass : String
  singularFile : String
  pluralFile : String
  constant : String
  deriving DecidableEq, Repr

/-- The names derived from a table name. -/
def Names.ofTable (table : String) : Names where
  singularClass := Naming.singularClass table
  pluralClass := Naming.pluralClass table
  singularFile := Naming.fileName (Naming.singularClass table)
  pluralFile := Naming.fileName (Naming.pluralClass table)
  constant := Naming.constantName (Naming.singularClass table)

end TableScaffold
