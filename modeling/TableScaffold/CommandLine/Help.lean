import TableScaffold.CommandLine.Switch

/-!
# Help

The help of the program and of its command, and the usage that both start with.
-/

namespace TableScaffold.CommandLine

/-- Lines as one text, each ended by a line feed. -/
def unlines (ls : List String) : String := String.join (ls.map (· ++ "\n"))

namespace Part

/-- The name of a part in messages. -/
def name : Part → String
  | program => "crudgen"
  | generate => "crudgen generate"

/-- The usage of a part. -/
def usage : Part → List String
  | program =>
    ["usage: crudgen [-h] [--verbose] \x7bgenerate\x7d ..."]
  | generate =>
    ["usage: crudgen generate [-h] [--output-dir OUTPUT_DIR]",
     "                        [--dialect \x7bmysql,postgres,sqlite,tsql,snowflake,bigquery\x7d]",
     "                        [--template-dir TEMPLATE_DIR] [--config CONFIG]",
     "                        [sql_file]"]

/-- What the help of a part says behind the usage. -/
def explanation : Part → List String
  | program =>
    ["",
     "crudgen - generate CRUD sources from a SQL CREATE TABLE statement",
     "",
     "positional arguments:",
     "  \x7bgenerate\x7d",
     "    generate     Generate DTOs, handlers, controllers, services and a Prisma",
     "                 model",
     "",
     "options:",
     "  -h, --help     show this help message and exit",
     "  --verbose, -v  Enable debug logging",
     "",
     "Examples:",
     "  crudgen generate",
     "  crudgen generate schema/users.sql --output-dir src/users",
     "  crudgen generate users.sql --dialect postgres --config crudgen.yaml"]
  | generate =>
    ["",
     "Generate CRUD sources for the CREATE TABLE statement in a SQL file",
     "",
     "positional arguments:",
     "  sql_file              SQL file with one CREATE TABLE statement (default:",
     "                        generate-crud.sql)",
     "",
     "options:",
     "  -h, --help            show this help message and exit",
     "  --output-dir OUTPUT_DIR",
     "                        Output root directory (default: output)",
     "  --dialect \x7bmysql,postgres,sqlite,tsql,snowflake,bigquery\x7d",
     "                        SQL dialect used to parse the script (default: mysql)",
     "  --template-dir TEMPLATE_DIR",
     "                        Directory with custom templates (default: bundled",
     "                        templates)",
     "  --config CONFIG       Path to a YAML config file (default: ./crudgen.yaml if",
     "                        present)"]

/-- The help of a part. -/
def help (p : Part) : String := unlines (p.usage ++ p.explanation)

/-- What a part says when it is misused. -/
def misuse (p : Part) (message : String) : String :=
  unlines (p.usage ++ [p.name ++ ": error: " ++ message])

end Part

end TableScaffold.CommandLine
