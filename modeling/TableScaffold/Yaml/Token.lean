/-!
# Tokens of a YAML text

Blocks open and close by indentation; flow collections by brackets. The key of an entry is announced
in front of it.
-/

namespace TableScaffold.Yaml

/-- A line that directs how a document is read. -/
inductive Directive where
  | version (major : Nat)
  /-- What a handle in tags stands for. -/
  | handle (name stands : String)
  | other
  deriving DecidableEq, Repr

/-- One token. -/
inductive Token where
  | directive (d : Directive)
  | documentStart
  | documentEnd
  | blockList
  | blockMapping
  | blockEnd
  | flowListStart
  | flowListEnd
  | flowMappingStart
  | flowMappingEnd
  | blockEntry
  | flowEntry
  | key
  | value
  | alias (name : String)
  | anchor (name : String)
  | tag (handle : Option String) (suffix : String)
  /-- A text; only the meaning of a plain one depends on its characters. -/
  | scalar (text : String) (plain : Bool)
  deriving DecidableEq, Repr

end TableScaffold.Yaml
