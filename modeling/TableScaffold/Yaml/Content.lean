import TableScaffold.Text.LineEnd
import TableScaffold.Yaml.Node

/-!
# The content of a YAML text

A document has a content if every node fits its tag. Keys are spelled by a text, and the entries of
merged mappings come before those of the mapping itself: of two entries with one key the later one
counts. Of several faults the one that lies least deep is told, and the first of those.
-/

namespace TableScaffold.Yaml

/-- What a document holds. -/
inductive Content where
  | null
  | text (s : String)
  /-- Bytes, and the text that they are if they are one. -/
  | bytes (text? : Option String)
  /-- A truth value, a number, a date or a set. -/
  | scalar
  | list
  | mapping (entries : List (Content × Content))

/-- A fault and how deep it lies. -/
structure Finding where
  depth : Nat
  fault : Fault
  deriving DecidableEq, Repr

/-- The finding that lies less deep; the first of two that lie equally deep. -/
def firstFinding : Option Finding → Option Finding → Option Finding
  | none, b => b
  | a, none => a
  | some a, some b => if b.depth < a.depth then some b else some a

/-- That a node is not what its tag asks for. The parts of a collection are looked at only after all
else at its depth. -/
def Tag.misfit (depth : Nat) (t : Tag) : Finding where
  depth := if [list, mapping, set, pairs].contains t then depth + 1 else depth
  fault := .malformed

namespace Node

/-- The tag of a node. -/
def tag? : Node → Option Tag
  | scalar t _ | list t _ | mapping t _ => some t
  | cycle _ => none

mutual

/-- The text that spells a node: its own, or that of the value that stands for a mapping. -/
def spelling : Node → Except Fault String
  | scalar _ s => .ok s
  | list .. => .error .malformed
  | mapping _ entries => valueSpelling entries
  | cycle ofMapping => .error (if ofMapping then .broken else .malformed)

/-- The text that spells the first value that stands for a whole mapping. -/
def valueSpelling : List (Node × Node) → Except Fault String
  | [] => .error .malformed
  | (k, v) :: rest => if k.tag? = some .standFor then v.spelling else valueSpelling rest

end

/-- What the text that spells a node must be; nothing if no text spells nodes with its tag. -/
def spelledTag? (n : Node) : Option Tag :=
  n.tag?.bind fun t =>
    if t = .standFor then some .text else if t.isSpelled then some t else none

/-- What is wrong with the text that spells a node, if one does. -/
def spellingFault? (n : Node) : Option Fault := do
  let t ← n.spelledTag?
  match n.spelling, n with
  | .error f, _ => some f
  | .ok s, scalar .. => t.scalarFault? s
  | .ok s, _ => if t = .date then some .dateOfMapping else t.scalarFault? s

/-- What is wrong with a key: a text must spell it. -/
def keyFault? (n : Node) : Option Fault :=
  if n.spelledTag?.isSome then n.spellingFault? else some .malformed

mutual

/-- Whether a node can be merged in: a mapping or a list of mappings. -/
def canMerge : Node → Bool
  | scalar .. => false
  | list _ items => allCanMerge items
  | mapping _ entries => mergesFit entries
  | cycle ofMapping => ofMapping

/-- Whether all items are mappings that can be merged in. -/
def allCanMerge : List Node → Bool
  | [] => true
  | mapping _ entries :: rest => mergesFit entries && allCanMerge rest
  | cycle ofMapping :: rest => ofMapping && allCanMerge rest
  | scalar .. :: _ | list .. :: _ => false

/-- Whether all that is merged into entries can be. -/
def mergesFit : List (Node × Node) → Bool
  | [] => true
  | (k, v) :: rest => (k.tag? != some .merge || v.canMerge) && mergesFit rest

end

mutual

/-- The first fault of a node at a depth. -/
def finding? (depth : Nat) : Node → Option Finding
  | cycle _ => none
  | scalar t s =>
    if t.isSpelled then (scalar t s).spellingFault?.map (⟨depth, ·⟩)
    else some (t.misfit depth)
  | list t items =>
    match t with
    | .list => itemsFinding? (depth + 1) items
    | .pairs => pairsFinding? (depth + 1) items
    | t => some (t.misfit depth)
  | mapping t entries =>
    if t = .mapping || t = .set then
      if mergesFit entries then
        firstFinding (mergedFinding? (depth + 1) entries) (ownFinding? (depth + 1) entries)
      else some ⟨depth + 1, .malformed⟩
    else if t.isSpelled then (mapping t entries).spellingFault?.map (⟨depth, ·⟩)
    else some (t.misfit depth)

/-- The first fault of items. -/
def itemsFinding? (depth : Nat) : List Node → Option Finding
  | [] => none
  | n :: rest => firstFinding (n.finding? depth) (itemsFinding? depth rest)

/-- The first fault of items that must be mappings with one entry each. -/
def pairsFinding? (depth : Nat) : List Node → Option Finding
  | [] => none
  | mapping _ [(k, v)] :: rest =>
    firstFinding (firstFinding (k.finding? depth) (v.finding? depth)) (pairsFinding? depth rest)
  | _ :: _ => some ⟨depth, .malformed⟩

/-- The first fault of the entries that are a mapping's own. -/
def ownFinding? (depth : Nat) : List (Node × Node) → Option Finding
  | [] => none
  | (k, v) :: rest =>
    if k.tag? = some .merge then ownFinding? depth rest
    else
      firstFinding (firstFinding (k.keyFault?.map (⟨depth, ·⟩)) (v.finding? depth))
        (ownFinding? depth rest)

/-- The first fault of the entries that are merged in. -/
def mergedFinding? (depth : Nat) : List (Node × Node) → Option Finding
  | [] => none
  | (k, v) :: rest =>
    firstFinding (if k.tag? = some .merge then v.entriesFinding? depth else none)
      (mergedFinding? depth rest)

/-- The first fault of the entries of a node that is merged in. -/
def entriesFinding? (depth : Nat) : Node → Option Finding
  | mapping _ entries => firstFinding (mergedFinding? depth entries) (ownFinding? depth entries)
  | list _ items => itemEntriesFinding? depth items
  | scalar .. | cycle _ => none

/-- The first fault of the entries of mappings that are merged in, those of the last one first. -/
def itemEntriesFinding? (depth : Nat) : List Node → Option Finding
  | [] => none
  | n :: rest => firstFinding (itemEntriesFinding? depth rest) (n.entriesFinding? depth)

end

/-- What a text with a tag stands for. -/
def scalarContent (t : Tag) (s : String) : Content :=
  match t with
  | .null => .null
  | .text | .standFor => .text s
  | .binary =>
    .bytes ((Text.base64? s.toList).bind fun bytes => String.fromUTF8? ⟨bytes.toArray⟩)
  | _ => .scalar

mutual

/-- The content of a node without a fault. -/
def content : Node → Content
  | cycle _ => .list
  | scalar t s => scalarContent t s
  | list .. => .list
  | mapping t entries =>
    if t = .mapping then .mapping (mergedEntries entries ++ ownEntries entries)
    else
      match valueSpelling entries with
      | .ok s => scalarContent t s
      | .error _ => .scalar

/-- The entries that a mapping has from others. -/
def mergedEntries : List (Node × Node) → List (Content × Content)
  | [] => []
  | (k, v) :: rest => (if k.tag? = some .merge then v.entries else []) ++ mergedEntries rest

/-- The entries that a mapping has itself. -/
def ownEntries : List (Node × Node) → List (Content × Content)
  | [] => []
  | (k, v) :: rest =>
    if k.tag? = some .merge then ownEntries rest
    else (k.content, v.content) :: ownEntries rest

/-- The entries that are merged in with a node. -/
def entries : Node → List (Content × Content)
  | mapping _ es => mergedEntries es ++ ownEntries es
  | list _ items => itemEntries items
  | scalar .. | cycle _ => []

/-- The entries of mappings that are merged in, those of the last one first. -/
def itemEntries : List Node → List (Content × Content)
  | [] => []
  | n :: rest => itemEntries rest ++ n.entries

end

end Node

/-- The content of a text. -/
def contentOf (text : List Char) : Except Fault Content := do
  match ← documentOf text with
  | none => .ok .null
  | some root =>
    match root.finding? 0 with
    | some f => .error f.fault
    | none => .ok root.content

/-- How the bytes of a file are read. -/
abbrev Reader := ByteArray → Except Fault Content

/-- The reader of this library. It never breaks off however deep a text nests, and it looks at all
characters of a text before it reads the first token. -/
def reader : Reader := fun content =>
  match String.fromUTF8? content with
  | none => .error .notText
  | some s => contentOf (Text.unifyLines s.toList)

end TableScaffold.Yaml
