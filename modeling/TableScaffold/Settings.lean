import TableScaffold.Check
import TableScaffold.Sql.Dialect
import TableScaffold.Text.Case

/-!
# Settings

What a run needs to know beside the script. A setting that is not given has a default.
-/

namespace TableScaffold

/-- The settings of a run. -/
structure Settings where
  outputDir : String := "output"
  dialect : Sql.Dialect := .mysql
  /-- The directory of the templates; none for the bundled ones. -/
  templateDir : Option String := none
  defaultSqlFile : String := "generate-crud.sql"
  deriving DecidableEq, Repr

/-- The name of a dialect, in any letter case. -/
def Check.dialect : Value → Checked Sql.Dialect
  | .str s =>
    match Sql.Dialect.ofName? (Text.lower s) with
    | some d => .ok d
    | none => .fail .valueError
  | _ => .fail .stringType

namespace Settings

open Check

/-- Settings from named values. Unknown names do not matter. -/
def ofFields (es : List (String × Value)) : Checked Settings :=
  (withDefault es "output_dir" text "output").map Settings.mk
    |> (Checked.apply · (withDefault es "dialect" Check.dialect .mysql))
    |> (Checked.apply · (withDefault es "template_dir" optionalText none))
    |> (Checked.apply · (withDefault es "default_sql_file" text "generate-crud.sql"))

theorem ofFields_nil : ofFields [] = .ok {} := rfl

/-- Settings as a value. -/
def dump (s : Settings) : Value :=
  .map [("output_dir", .str s.outputDir), ("dialect", .str s.dialect.name),
    ("template_dir", Value.ofOption s.templateDir), ("default_sql_file", .str s.defaultSqlFile)]

end Settings

end TableScaffold
