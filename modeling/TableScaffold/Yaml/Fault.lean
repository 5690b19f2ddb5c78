/-!
# Faults of a YAML text

Most faults make a text no YAML at all. A scalar whose tag does not fit it is a fault of its own, and
so is what keeps a reader from coming to an end.
-/

namespace TableScaffold.Yaml

/-- Why the bytes of a file have no content. -/
inductive Fault where
  /-- The bytes are no text. -/
  | notText
  /-- The text is no YAML, or holds more than one document. -/
  | malformed
  /-- A text that should be a number is none. -/
  | notANumber
  /-- A text that should be a number is empty. -/
  | emptyNumber
  /-- A number is too large for what it is needed for. -/
  | tooLarge
  /-- A text that should be a truth value is none. -/
  | notATruthValue
  /-- A text that should be a date is none. -/
  | notADate
  /-- A date is spelled by a mapping. -/
  | dateOfMapping
  /-- A date or a time is not in the calendar. -/
  | noSuchDate
  /-- An escape names a character that does not exist. -/
  | noSuchCharacter
  /-- The reader breaks off, as when a text nests deeper than it can follow. -/
  | broken
  deriving DecidableEq, Repr

end TableScaffold.Yaml
