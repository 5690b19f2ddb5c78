/-!
# Notices

What the program reports about its work beside its results. A notice has a level, the topic it
belongs to, and a text; a log line shows all three.
-/

namespace TableScaffold

/-- How much a notice matters. -/
inductive Level where
  | debug
  | info
  | warning
  deriving DecidableEq, Repr

/-- The name of a level in a log line. -/
def Level.label : Level → String
  | debug => "DEBUG"
  | info => "INFO"
  | warning => "WARNING"

/-- One report about the work done. -/
inductive Notice where
  /-- A column has a type that no type family knows. -/
  | unrecognizedType (column : String) (sqlType : Option String)
  /-- A column without a type is left out. -/
  | missingType (column : String)
  /-- Statements after the first are left out. -/
  | ignoredStatements (count : Nat)
  /-- A table entry that is neither a column, a foreign key nor an index is left out. -/
  | droppedDefinition (label : String)
  /-- A referential action is not known and counts as none. -/
  | unsupportedAction (action : String)
  /-- A statement other than CREATE was read. -/
  | otherStatement (kind : String)
  /-- Templates are read from a directory. -/
  | loadingTemplates (directory : String)
  /-- A file was written. -/
  | wrote (path : String)
  /-- A table was read from the script. -/
  | extracted (table : String) (columns relations indexes : Nat)
  /-- Settings were read from a file. -/
  | settingsFromFile (path : String)
  /-- Settings were read from environment variables. -/
  | settingsFromEnvironment
  deriving DecidableEq, Repr

namespace Notice

/-- The level of a notice. -/
def level : Notice → Level
  | unrecognizedType .. | missingType .. | unsupportedAction .. => .warning
  | ignoredStatements .. | droppedDefinition .. | otherStatement .. | loadingTemplates .. => .debug
  | wrote .. | extracted .. | settingsFromFile .. | settingsFromEnvironment => .info

/-- The topic of a notice. -/
def topic : Notice → String
  | unrecognizedType .. => "crudgen.core.types"
  | missingType .. | ignoredStatements .. => "crudgen.core.extractor"
  | droppedDefinition .. | unsupportedAction .. => "crudgen.sql.definitions"
  | otherStatement .. => "crudgen.sql.parser"
  | loadingTemplates .. => "crudgen.output.renderer"
  | wrote .. | extracted .. => "crudgen.core.generate"
  | settingsFromFile .. | settingsFromEnvironment => "crudgen.config.settings"

/-- The text of a notice. -/
def text : Notice → String
  | unrecognizedType column sqlType =>
    "Unrecognized SQL type for column \"" ++ column ++ "\": " ++ sqlType.getD "None" ++
      ". Defaulting to String."
  | missingType column => "Missing data type for column: " ++ column
  | ignoredStatements count => "Ignoring " ++ toString count ++ " statements after the first"
  | droppedDefinition label => "Dropping unsupported definition: " ++ label
  | unsupportedAction action =>
    "Unsupported referential action '" ++ action ++ "'. Using NoAction."
  | otherStatement kind => "Parsed non-CREATE statement: " ++ kind
  | loadingTemplates directory => "Loading templates from " ++ directory
  | wrote path => "Wrote " ++ path
  | extracted table columns relations indexes =>
    "Extracted table " ++ table ++ ": " ++ toString columns ++ " columns, " ++
      toString relations ++ " relations, " ++ toString indexes ++ " indexes"
  | settingsFromFile path => "Loaded generator config from: " ++ path
  | settingsFromEnvironment => "Loaded generator config from environment variables"

/-- The log line of a notice. -/
def line (n : Notice) : String := n.level.label ++ " " ++ n.topic ++ ": " ++ n.text

end Notice

end TableScaffold
