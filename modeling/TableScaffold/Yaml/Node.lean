import TableScaffold.Yaml.Scalar
import TableScaffold.Yaml.Token.Lexer

/-!
# Nodes

The tokens of a document form a tree of nodes, each with its tag. A node with an anchor may stand in
more than one place; inside itself it stands for a cycle. Tokens are asked for one by one, so of two
faults the one that comes first in the text is told.
-/

namespace TableScaffold.Yaml

/-- A node of a document. -/
inductive Node where
  | scalar (tag : Tag) (text : String)
  | list (tag : Tag) (items : List Node)
  | mapping (tag : Tag) (entries : List (Node × Node))
  /-- The list or the mapping that this place lies in. -/
  | cycle (ofMapping : Bool)

/-- The state of reading nodes. -/
structure Composer where
  lexer : Lexer
  /-- What the handles of tags stand for. -/
  handles : List (String × String) := []
  /-- The nodes with anchors; a cycle while a node is not complete. -/
  anchors : List (String × Node) := []

/-- Reading nodes. -/
abbrev Composing := StateT Composer (Except Fault)

/-- The tag of a node as it is written. -/
inductive WrittenTag where
  | none
  /-- A lone exclamation mark: the node has the tag it would have without one. -/
  | bare
  | named (name : String)
  deriving DecidableEq, Repr

namespace WrittenTag

/-- The tag of a scalar. -/
def ofScalar (text : String) (plain : Bool) : WrittenTag → Tag
  | none => if plain then Tag.ofPlain text else .text
  | bare => Tag.ofPlain text
  | named name => Tag.ofName name

/-- The tag of a collection. -/
def ofCollection (usual : Tag) : WrittenTag → Tag
  | none | bare => usual
  | named name => Tag.ofName name

end WrittenTag

namespace Composing

/-- The text is no YAML. -/
def fail {α : Type} : Composing α := throw .malformed

/-- Work of the lexer while nodes are read. -/
def lexing {α : Type} (work : Lexing α) : Composing α := do
  let (a, lexer) ← liftM (work.run (← get).lexer)
  modify fun s => { s with lexer }
  return a

/-- The next token. -/
def peek : Composing (Option Token) := lexing Lexing.next

/-- Drops the next token. -/
def drop : Composing Unit := lexing Lexing.take

/-- Drops the next token if it is the given one. -/
def eat? (t : Token) : Composing Bool := do
  if (← peek) = some t then
    drop
    return true
  else return false

/-- Whether the next token is one of some. -/
def isNext (ts : List Token) : Composing Bool := do
  match ← peek with
  | some t => return ts.contains t
  | none => return false

/-- The node of an alias. -/
def resolve (name : String) : Composing Node := do
  match (← get).anchors.lookup name with
  | some n => return n
  | none => fail

/-- Reads a node with an anchor, if it has one. Until it is complete, the anchor is that of a cycle. -/
def anchored (anchor : Option String) (cycle : Node) (read : Composing Node) : Composing Node := do
  match anchor with
  | none => read
  | some name =>
    if ((← get).anchors.lookup name).isSome then fail
    modify fun s => { s with anchors := (name, cycle) :: s.anchors }
    let n ← read
    modify fun s => { s with anchors := (name, n) :: s.anchors }
    return n

/-- The tag that a handle and a suffix stand for. -/
def writtenTag (handle : Option String) (suffix : String) : Composing WrittenTag := do
  let name ← match handle with
    | none => pure suffix
    | some h =>
      match (← get).handles.lookup h with
      | some stands => pure (stands ++ suffix)
      | none => fail
  return if name = "!" then .bare else .named name

/-- An anchor, if one is next. -/
def anchor? : Composing (Option String) := do
  match ← peek with
  | some (.anchor name) =>
    drop
    return some name
  | _ => return none

/-- A tag, if one is next, by its handle and its suffix. -/
def tag? : Composing (Option (Option String × String)) := do
  match ← peek with
  | some (.tag handle suffix) =>
    drop
    return some (handle, suffix)
  | _ => return none

/-- The anchor and the tag of a node, in either order. -/
def properties : Composing (Option String × WrittenTag) := do
  let (anchor, tag) ←
    match ← anchor? with
    | some a => pure (some a, ← tag?)
    | none =>
      let tag ← tag?
      pure (← if tag.isSome then anchor? else pure none, tag)
  match tag with
  | some (handle, suffix) => return (anchor, ← writtenTag handle suffix)
  | none => return (anchor, .none)

/-- A scalar of no characters where a node is left out. -/
def emptyNode : Node := .scalar .null ""

/-- Which nodes may stand at a place. -/
inductive Place where
  /-- Between brackets. -/
  | flow
  | block
  /-- Behind the sign of a key or a value, where the items of a list need no indentation. -/
  | entry
  deriving DecidableEq, Repr

/-- The tokens behind which the key or the value of a block mapping is left out. -/
def entryEnds : List Token := [.key, .value, .blockEnd]

mutual

/-- A node. -/
def node (place : Place) : Nat → Composing Node
  | 0 => fail
  | fuel + 1 => do
    match ← peek with
    | some (.alias name) =>
      drop
      resolve name
    | _ =>
      let (anchor, tag) ← properties
      let scalar (text : String) (plain : Bool) : Composing Node :=
        let n : Node := .scalar (tag.ofScalar text plain) text
        anchored anchor n (return n)
      let list (read : Composing (List Node)) : Composing Node :=
        anchored anchor (.cycle false) do return .list (tag.ofCollection .list) (← read)
      let mapping (read : Composing (List (Node × Node))) : Composing Node :=
        anchored anchor (.cycle true) do return .mapping (tag.ofCollection .mapping) (← read)
      let leftOut : Composing Node :=
        if anchor.isSome || tag != .none then scalar "" true else fail
      match ← peek with
      | some .blockEntry =>
        if place = .entry then list (openItems fuel) else leftOut
      | some (.scalar text plain) =>
        drop
        scalar text plain
      | some .flowListStart =>
        drop
        list (flowItems true fuel)
      | some .flowMappingStart =>
        drop
        mapping (flowEntries true fuel)
      | t =>
        if t = some .blockList && place != .flow then
          drop
          list (blockItems fuel)
        else if t = some .blockMapping && place != .flow then
          drop
          mapping (blockEntries fuel)
        else leftOut

/-- The items of an indented list, up to its end. -/
def blockItems : Nat → Composing (List Node)
  | 0 => fail
  | fuel + 1 => do
    if ← eat? .blockEntry then
      let n ← if ← isNext [.blockEntry, .blockEnd] then pure emptyNode else node .block fuel
      return n :: (← blockItems fuel)
    else if ← eat? .blockEnd then return []
    else fail

/-- The items of a list that is not indented. -/
def openItems : Nat → Composing (List Node)
  | 0 => fail
  | fuel + 1 => do
    if ← eat? .blockEntry then
      let n ← if ← isNext (.blockEntry :: entryEnds) then pure emptyNode else node .block fuel
      return n :: (← openItems fuel)
    else return []

/-- The key or the value of a block mapping behind its sign. -/
def blockPart : Nat → Composing Node
  | 0 => fail
  | fuel + 1 => do
    if ← isNext entryEnds then return emptyNode else node .entry fuel

/-- The entries of a block mapping, up to its end. -/
def blockEntries : Nat → Composing (List (Node × Node))
  | 0 => fail
  | fuel + 1 => do
    if ← eat? .key then
      let k ← blockPart fuel
      let v ← if ← eat? .value then blockPart fuel else pure emptyNode
      return (k, v) :: (← blockEntries fuel)
    else if ← eat? .blockEnd then return []
    else fail

/-- The key or the value of a flow mapping behind its sign. -/
def flowPart (ends : List Token) : Nat → Composing Node
  | 0 => fail
  | fuel + 1 => do
    if ← isNext ends then return emptyNode else node .flow fuel

/-- The items of a list in brackets, up to its end. A single entry counts as a mapping. -/
def flowItems (first : Bool) : Nat → Composing (List Node)
  | 0 => fail
  | fuel + 1 => do
    if ← eat? .flowListEnd then return []
    else
      if !first then
        if !(← eat? .flowEntry) then fail
      if ← eat? .key then
        let ends : List Token := [.flowEntry, .flowListEnd]
        let k ← flowPart (.value :: ends) fuel
        let v ← if ← eat? .value then flowPart ends fuel else pure emptyNode
        return .mapping .mapping [(k, v)] :: (← flowItems false fuel)
      else if ← eat? .flowListEnd then return []
      else
        let n ← node .flow fuel
        return n :: (← flowItems false fuel)

/-- The entries of a mapping in brackets, up to its end. -/
def flowEntries (first : Bool) : Nat → Composing (List (Node × Node))
  | 0 => fail
  | fuel + 1 => do
    if ← eat? .flowMappingEnd then return []
    else
      if !first then
        if !(← eat? .flowEntry) then fail
      if ← eat? .key then
        let ends : List Token := [.flowEntry, .flowMappingEnd]
        let k ← flowPart (.value :: ends) fuel
        let v ← if ← eat? .value then flowPart ends fuel else pure emptyNode
        return (k, v) :: (← flowEntries false fuel)
      else if ← eat? .flowMappingEnd then return []
      else
        let k ← node .flow fuel
        return (k, emptyNode) :: (← flowEntries false fuel)

end

/-- The handles that every document knows. -/
def usualHandles : List (String × String) := [("!", "!"), ("!!", Tag.namesStart)]

/-- The directives of a document: at most one version, which must be a first one, and handles. -/
def directives : Nat → Bool → List (String × String) → Composing (List (String × String))
  | 0, _, _ => fail
  | fuel + 1, versioned, handles => do
    match ← peek with
    | some (.directive d) =>
      drop
      match d with
      | .version major =>
        if versioned || major != 1 then fail
        directives fuel true handles
      | .handle name stands =>
        if (handles.lookup name).isSome then fail
        directives fuel versioned ((name, stands) :: handles)
      | .other => directives fuel versioned handles
    | _ => return handles ++ usualHandles

/-- Drops the marks that end a document. -/
def dropDocumentEnds : Nat → Composing Unit
  | 0 => fail
  | fuel + 1 => do
    if ← eat? .documentEnd then dropDocumentEnds fuel

/-- The mark that starts a document, with the directives in front of it. -/
def documentStart (fuel : Nat) : Composing Unit := do
  let handles ← directives fuel false []
  modify fun s => { s with handles }
  if !(← eat? .documentStart) then fail

/-- The only document of a text; none if there is nothing. -/
def document (fuel : Nat) : Composing (Option Node) := do
  let root ←
    match ← peek with
    | none => pure none
    | some t => do
      let isStart := match t with
        | .directive _ | .documentStart => true
        | _ => false
      if isStart then
        documentStart fuel
        let isEmpty := match ← peek with
          | none | some (.directive _) | some .documentStart | some .documentEnd => true
          | _ => false
        if isEmpty then pure (some emptyNode) else pure (some (← node .block fuel))
      else
        modify fun s => { s with handles := usualHandles }
        pure (some (← node .block fuel))
  dropDocumentEnds fuel
  if (← peek).isSome then
    documentStart fuel
    fail
  return root

end Composing

/-- The only document of a text; none if there is nothing. A character gives at most four tokens, and
a token takes at most four steps. -/
def documentOf (text : List Char) : Except Fault (Option Node) := do
  if !text.all isPrintable then throw .malformed
  let lexer : Lexer := { cursor := { rest := text } }
  let (root, _) ← (Composing.document (16 * text.length + 16)).run { lexer }
  return root

end TableScaffold.Yaml
