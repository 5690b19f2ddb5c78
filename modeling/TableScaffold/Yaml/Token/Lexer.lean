import TableScaffold.Decimal.Whole
import TableScaffold.Yaml.Token
import TableScaffold.Yaml.Token.Scalar

/-!
# From characters to tokens

Outside of brackets, indentation opens and closes blocks. A token may turn out to be a key only when
its colon is found, so the places of possible keys are kept until then: a key lies on one line and
has at most 1024 characters. The lexer reads no further than it must to tell what the next token is,
so a fault behind that token is not found before the token is taken.
-/

namespace TableScaffold.Yaml

/-- A place where a key may have started. -/
structure PossibleKey where
  /-- How many tokens stand in front of it. -/
  place : Nat
  /-- Whether there must be a key, since nothing else may stand at its indentation. -/
  required : Bool
  index : Nat
  line : Nat
  column : Nat

/-- The state of the lexer. -/
structure Lexer where
  cursor : Cursor
  tokens : Array Token := #[]
  /-- How many tokens are taken. -/
  taken : Nat := 0
  /-- Whether the text is over. -/
  ended : Bool := false
  /-- How many brackets are open. -/
  flowLevel : Nat := 0
  /-- The columns of the open blocks, the innermost first. -/
  indents : List Int := []
  /-- Whether a key may start here. -/
  keyAllowed : Bool := true
  /-- The possible keys, at most one for each number of open brackets. -/
  keys : List (Nat × PossibleKey) := []

/-- Work of the lexer. -/
abbrev Lexing := StateT Lexer (Except Fault)

namespace Lexing

/-- The text is no YAML. -/
def fail {α : Type} : Lexing α := throw .malformed

/-- The cursor. -/
def cursor : Lexing Cursor := return (← get).cursor

/-- Moves the cursor. -/
def moveTo (c : Cursor) : Lexing Unit := modify fun s => { s with cursor := c }

/-- Adds a token. -/
def emit (t : Token) : Lexing Unit := modify fun s => { s with tokens := s.tokens.push t }

/-- Puts a token in front of others. -/
def insertAt (place : Nat) (t : Token) : Lexing Unit :=
  modify fun s => { s with tokens := s.tokens.insertIdxIfInBounds place t }

/-- Says whether a key may start next. -/
def allowKey (allowed : Bool) : Lexing Unit := modify fun s => { s with keyAllowed := allowed }

/-- Whether brackets are open. -/
def inFlow : Lexing Bool := return (← get).flowLevel != 0

/-- The column of the innermost block. -/
def indent : Lexing Int := return (← get).indents.headD (-1)

/-- Closes the blocks that are indented more than a column. -/
def unwind (column : Int) : Lexing Unit := do
  unless ← inFlow do
    let s ← get
    let (closed, kept) := s.indents.span (column < ·)
    set { s with indents := kept, tokens := s.tokens ++ closed.map fun _ => Token.blockEnd }

/-- Opens a block at a column, unless the innermost one is indented as much. -/
def openBlock (column : Nat) : Lexing Bool := do
  if (← indent) < column then
    modify fun s => { s with indents := (column : Int) :: s.indents }
    return true
  else return false

/-- Forgets the possible keys that were too far back. -/
def dropStaleKeys : Lexing Unit := do
  let s ← get
  let isStale (k : PossibleKey) : Bool :=
    k.line != s.cursor.line || 1024 < s.cursor.index - k.index
  if s.keys.any fun e => isStale e.2 && e.2.required then fail
  else set { s with keys := s.keys.filter fun e => !isStale e.2 }

/-- Forgets the possible key between the innermost brackets. -/
def dropKey : Lexing Unit := do
  let s ← get
  match s.keys.lookup s.flowLevel with
  | none => return
  | some k =>
    if k.required then fail
    else set { s with keys := s.keys.filter fun e => e.1 != s.flowLevel }

/-- Notes that the next token may be a key. -/
def noteKey : Lexing Unit := do
  let s ← get
  if s.keyAllowed then
    dropKey
    let c := s.cursor
    let k : PossibleKey :=
      { place := s.tokens.size
        required := s.flowLevel == 0 && s.indents.headD (-1) == c.column
        index := c.index, line := c.line, column := c.column }
    modify fun s => { s with keys := (s.flowLevel, k) :: s.keys }

/-! ## Gaps, directives, names -/

/-- The cursor at the next token, and whether a line ends in front of it. -/
def gap : Nat → Cursor → Bool × Cursor
  | 0, c => (false, c)
  | fuel + 1, c =>
    let c := c.skipWhile (· = ' ')
    let c := if c.rest.head? = some '#' then c.skipWhile (!isBreak ·) else c
    match c.lineEnd? with
    | some (_, c) => (true, (gap fuel c).2)
    | none => (false, c)

/-- Moves to the next token. -/
def skipGap : Lexing Unit := do
  let c ← cursor
  let c := if c.index = 0 && c.rest.head? = some byteOrderMark then c.skip 1 else c
  let (lineEnded, c) := gap (c.rest.length + 1) c
  moveTo c
  if lineEnded && !(← inFlow) then allowKey true

/-- Whether a character may stand in the name of an anchor, a directive or a handle. -/
def inName (c : Char) : Bool := c.isAlphanum || c = '-' || c = '_'

/-- A name of at least one character. -/
def name : Lexing String := do
  let (cs, c) := (← cursor).span inName
  if cs.isEmpty then fail
  moveTo c
  return String.ofList cs

/-- Skips spaces. -/
def skipSpaces : Lexing Unit := do moveTo ((← cursor).skipWhile (· = ' '))

/-- Skips one given character. -/
def expect (ch : Char) : Lexing Unit := do
  let c ← cursor
  if c.rest.head? = some ch then moveTo (c.skip 1) else fail

/-- Makes sure that a space or the end of the line follows. -/
def expectSpace : Lexing Unit := do
  if !endsAtSpace (← cursor).rest then fail

/-- A number of at least one digit. -/
def number : Lexing Nat := do
  let (cs, c) := (← cursor).span Char.isDigit
  if cs.isEmpty then fail
  if Decimal.digitLimit < cs.length then throw .notANumber
  moveTo c
  return cs.foldl (fun n d => 10 * n + (d.toNat - '0'.toNat)) 0

/-- The bytes of a run of escapes, each a percent sign and two hexadecimal digits. -/
def escapedBytes : List Char → Option (List UInt8 × List Char)
  | '%' :: a :: b :: rest => do
    let n ← hexNumber? [a, b]
    let (bytes, rest) ← escapedBytes rest
    return (n.toUInt8 :: bytes, rest)
  | '%' :: _ => none
  | cs => some ([], cs)

/-- Whether a character may stand for itself in the text of a tag. -/
def inTag (c : Char) : Bool := c.isAlphanum || "-;/?:@&=+$,_.!~*'()[]".toList.contains c

/-- The text of a tag, its escapes resolved, and how many characters it takes. -/
def tagText : Nat → List Char → Option (List Char × Nat)
  | 0, _ => none
  | fuel + 1, cs =>
    match cs with
    | [] => some ([], 0)
    | c :: rest =>
      if c = '%' then do
        let (bytes, after) ← escapedBytes cs
        let s ← String.fromUTF8? ⟨bytes.toArray⟩
        let (more, n) ← tagText fuel after
        return (s.toList ++ more, cs.length - after.length + n)
      else if inTag c then do
        let (more, n) ← tagText fuel rest
        return (c :: more, n + 1)
      else some ([], 0)

/-- The text of a tag, which must not be empty. -/
def tagSuffix : Lexing String := do
  let c ← cursor
  match tagText (c.rest.length + 1) c.rest with
  | none | some (_, 0) => fail
  | some (cs, n) =>
    moveTo (c.skip n)
    return String.ofList cs

/-- The handle of a tag: a name between two exclamation marks, or one mark in front of a space. -/
def tagHandle : Lexing String := do
  expect '!'
  if (← cursor).rest.head? = some ' ' then return "!"
  let (cs, c) := (← cursor).span inName
  moveTo c
  expect '!'
  return "!" ++ String.ofList cs ++ "!"

/-- A directive. -/
def directive : Lexing Directive := do
  expect '%'
  let kind ← name
  expectSpace
  let d : Directive ←
    if kind = "YAML" then do
      skipSpaces
      let major ← number
      expect '.'
      let _ ← number
      expectSpace
      pure (.version major)
    else if kind = "TAG" then do
      skipSpaces
      let handle ← tagHandle
      if (← cursor).rest.head? != some ' ' then fail
      skipSpaces
      let stands ← tagSuffix
      expectSpace
      pure (.handle handle stands)
    else do
      moveTo ((← cursor).skipWhile (!isBreak ·))
      pure .other
  match (← cursor).skipLineRest? with
  | some c => moveTo c
  | none => fail
  return d

/-- The name of an anchor or an alias behind its sign. -/
def anchorName : Lexing String := do
  moveTo ((← cursor).skip 1)
  let n ← name
  let rest := (← cursor).rest
  if endsWord rest || (rest.head?.map ("?:,]\x7d%@\x60".toList.contains ·)).getD false then return n
  else fail

/-- A tag. -/
def tag : Lexing Token := do
  let c ← cursor
  let after := c.rest.drop 1
  let t : Token ←
    if after.head? = some '<' then do
      moveTo (c.skip 2)
      let suffix ← tagSuffix
      expect '>'
      pure (.tag none suffix)
    else if endsWord after then do
      moveTo (c.skip 1)
      pure (.tag none "!")
    else do
      let word := after.takeWhile fun d => !(d = ' ' || isBreak d)
      let handle ← if word.contains '!' then tagHandle else do
        moveTo (c.skip 1)
        pure "!"
      let suffix ← tagSuffix
      pure (.tag (some handle) suffix)
  expectSpace
  return t

/-! ## Tokens -/

/-- A token that may be a key. -/
def keyToken (read : Lexing Token) : Lexing Unit := do
  noteKey
  allowKey false
  emit (← read)

/-- The end of all blocks, in front of a line that does not belong to a document. -/
def leaveBlocks : Lexing Unit := do
  unwind (-1)
  dropKey
  allowKey false

/-- The mark that starts or ends a document. -/
def documentMark (t : Token) : Lexing Unit := do
  leaveBlocks
  moveTo ((← cursor).skip 3)
  emit t

/-- An opening bracket. -/
def flowStart (t : Token) : Lexing Unit := do
  noteKey
  modify fun s => { s with flowLevel := s.flowLevel + 1, keyAllowed := true }
  moveTo ((← cursor).skip 1)
  emit t

/-- A closing bracket. -/
def flowEnd (t : Token) : Lexing Unit := do
  dropKey
  modify fun s => { s with flowLevel := s.flowLevel - 1, keyAllowed := false }
  moveTo ((← cursor).skip 1)
  emit t

/-- The comma between two items in brackets. -/
def flowEntry : Lexing Unit := do
  allowKey true
  dropKey
  moveTo ((← cursor).skip 1)
  emit .flowEntry

/-- Opens a block for an entry that starts here. Brackets have no blocks. -/
def openEntry (t : Token) : Lexing Unit := do
  unless ← inFlow do
    if !(← get).keyAllowed then fail
    if ← openBlock (← cursor).column then emit t

/-- The dash in front of a list item. -/
def blockEntry : Lexing Unit := do
  openEntry .blockList
  allowKey true
  dropKey
  moveTo ((← cursor).skip 1)
  emit .blockEntry

/-- The question mark in front of a key. -/
def explicitKey : Lexing Unit := do
  openEntry .blockMapping
  allowKey !(← inFlow)
  dropKey
  moveTo ((← cursor).skip 1)
  emit .key

/-- The colon in front of a value. -/
def value : Lexing Unit := do
  let s ← get
  match s.keys.lookup s.flowLevel with
  | some k =>
    set { s with keys := s.keys.filter fun e => e.1 != s.flowLevel }
    insertAt k.place .key
    unless ← inFlow do
      if ← openBlock k.column then insertAt k.place .blockMapping
    allowKey false
  | none =>
    openEntry .blockMapping
    allowKey !(← inFlow)
    dropKey
  moveTo ((← cursor).skip 1)
  emit .value

/-- A block of lines. -/
def blockScalar (folded : Bool) : Lexing Unit := do
  allowKey true
  dropKey
  let (cs, c) ← liftM (block folded (← indent) ((← cursor).skip 1))
  moveTo c
  emit (.scalar (String.ofList cs) false)

/-- A quoted text. -/
def quotedScalar (double : Bool) : Lexing Token := do
  let c := (← cursor).skip 1
  let (cs, c) ← liftM (quoted double (c.rest.length + 1) c)
  moveTo c
  return .scalar (String.ofList cs) false

/-- A plain text. A key may follow it only on another line. -/
def plainScalar : Lexing Unit := do
  noteKey
  let c ← cursor
  let (cs, lineEnded, c) := plain (← inFlow) ((← indent) + 1) (c.rest.length + 1) false c
  moveTo c
  allowKey lineEnded
  emit (.scalar (String.ofList cs) true)

/-- Whether a plain text may start here. -/
def startsPlain (flow : Bool) : List Char → Bool
  | [] => false
  | c :: rest =>
    !(isTabOrSpace c || isBreak c || "-?:,[]\x7b\x7d#&*!|>'\"%@\x60".toList.contains c) ||
      (!endsWord rest && (c = '-' || (!flow && (c = '?' || c = ':'))))

/-- Reads one more token, or finds the end. -/
def step : Lexing Unit := do
  skipGap
  dropStaleKeys
  let c ← cursor
  unwind c.column
  let flow ← inFlow
  match c.rest with
  | [] =>
    leaveBlocks
    modify fun s => { s with ended := true }
  | ch :: rest =>
    let lineStart := c.column = 0
    if ch = '%' && lineStart then
      leaveBlocks
      emit (.directive (← directive))
    else if ch = '-' && lineStart && c.atDocumentMark then documentMark .documentStart
    else if ch = '.' && lineStart && c.atDocumentMark then documentMark .documentEnd
    else if ch = '[' then flowStart .flowListStart
    else if ch = '\x7b' then flowStart .flowMappingStart
    else if ch = ']' then flowEnd .flowListEnd
    else if ch = '\x7d' then flowEnd .flowMappingEnd
    else if ch = ',' then flowEntry
    else if ch = '-' && endsWord rest then blockEntry
    else if ch = '?' && (flow || endsWord rest) then explicitKey
    else if ch = ':' && (flow || endsWord rest) then value
    else if ch = '*' then keyToken (return .alias (← anchorName))
    else if ch = '&' then keyToken (return .anchor (← anchorName))
    else if ch = '!' then keyToken tag
    else if ch = '|' && !flow then blockScalar false
    else if ch = '>' && !flow then blockScalar true
    else if ch = '\'' then keyToken (quotedScalar false)
    else if ch = '"' then keyToken (quotedScalar true)
    else if startsPlain flow c.rest then plainScalar
    else fail

/-- Whether more must be read to know the next token: there is none yet, or it may still be a key. -/
def needsMore : Lexing Bool := do
  let s ← get
  if s.ended then return false
  else if s.taken = s.tokens.size then return true
  else
    dropStaleKeys
    let s ← get
    return s.keys.any fun e => e.2.place = s.taken

/-- Reads on until the next token is known. -/
def lookAhead : Nat → Lexing Unit
  | 0 => fail
  | fuel + 1 => do
    if ← needsMore then
      step
      lookAhead fuel

/-- The next token; none at the end. -/
def next : Lexing (Option Token) := do
  lookAhead ((← cursor).rest.length + 2)
  let s ← get
  return s.tokens[s.taken]?

/-- Takes the next token. -/
def take : Lexing Unit := modify fun s => { s with taken := s.taken + 1 }

end Lexing

/-- Whether a character may stand in a text. -/
def isPrintable (c : Char) : Bool :=
  let n := c.toNat
  n = 0x9 || n = 0xA || n = 0xD || (0x20 ≤ n && n ≤ 0x7E) || n = 0x85 ||
    (0xA0 ≤ n && n ≤ 0xD7FF) || (0xE000 ≤ n && n ≤ 0xFFFD) || 0x10000 ≤ n

end TableScaffold.Yaml
