import TableScaffold.Yaml.Cursor
import TableScaffold.Yaml.Fault

/-!
# The text of scalars

A scalar is quoted, plain, or a block of lines. A line end inside the first two, and inside a folded
block, counts as a space, unless empty lines follow; those count as line ends.
-/

namespace TableScaffold.Yaml

/-- The value of a hexadecimal digit. -/
def hexValue? (c : Char) : Option Nat :=
  if c.isDigit then some (c.toNat - '0'.toNat)
  else if 'a' ≤ c && c ≤ 'f' then some (c.toNat - 'a'.toNat + 10)
  else if 'A' ≤ c && c ≤ 'F' then some (c.toNat - 'A'.toNat + 10)
  else none

/-- The number that hexadecimal digits stand for. -/
def hexNumber? (cs : List Char) : Option Nat :=
  cs.foldlM (fun n c => (hexValue? c).map (16 * n + ·)) 0

/-- How line ends inside a text are joined: one alone becomes a space. -/
def joinLines (first : Char) (more : List Char) : List Char :=
  if first != '\n' then first :: more else if more.isEmpty then [' '] else more

/-! ## Quoted text -/

/-- What a backslash and a character stand for. -/
def escapes : List (Char × Char) :=
  [('0', '\x00'), ('a', '\x07'), ('b', '\x08'), ('t', '\t'), ('\t', '\t'), ('n', '\n'),
   ('v', '\x0b'), ('f', '\x0c'), ('r', '\r'), ('e', '\x1b'), (' ', ' '), ('"', '"'),
   ('\\', '\\'), ('/', '/'), ('N', '\u0085'), ('_', '\u00a0'), ('L', '\u2028'), ('P', '\u2029')]

/-- How many hexadecimal digits follow a backslash and a letter. -/
def escapeLengths : List (Char × Nat) := [('x', 2), ('u', 4), ('U', 8)]

/-- The character with a number; the numbers of surrogates name none that a text could hold. -/
def character (n : Nat) : Except Fault Char :=
  if h : n.isValidChar then .ok (Char.ofNatAux n h)
  else if n < 0x110000 then .error .malformed
  else if n < 0x80000000 then .error .noSuchCharacter
  else .error .tooLarge

/-- The empty lines at a cursor that stands at the start of a line, and the cursor behind them and
the blanks that follow. No document may end here. -/
def emptyLines : Nat → Cursor → Except Fault (List Char × Cursor)
  | 0, _ => .error .malformed
  | fuel + 1, c =>
    if c.atDocumentMark then .error .malformed
    else
      let c := c.skipWhile isTabOrSpace
      match c.lineEnd? with
      | some (b, c) => do
        let (bs, c) ← emptyLines fuel c
        return (b :: bs, c)
      | none => .ok ([], c)

/-- A quoted text behind its opening quote. -/
def quoted (double : Bool) : Nat → Cursor → Except Fault (List Char × Cursor)
  | 0, _ => .error .malformed
  | fuel + 1, c =>
    let quote := if double then '"' else '\''
    let more (cs : List Char) (c : Cursor) : Except Fault (List Char × Cursor) := do
      let (rest, c) ← quoted double fuel c
      return (cs ++ rest, c)
    match c.rest with
    | [] => .error .malformed
    | d :: after =>
      if d = quote then
        if !double && after.head? = some quote then more [quote] (c.skip 2) else .ok ([], c.skip 1)
      else if double && d = '\\' then
        match after with
        | [] => .error .malformed
        | e :: _ =>
          match escapes.lookup e, escapeLengths.lookup e, (c.skip 1).lineEnd? with
          | some x, _, _ => more [x] (c.skip 2)
          | none, some n, _ => do
            match if n ≤ (after.drop 1).length then hexNumber? ((after.drop 1).take n) else none with
            | none => .error .malformed
            | some k => more [← character k] (c.skip (n + 2))
          | none, none, some (_, c) => do
            let (bs, c) ← emptyLines fuel c
            more bs c
          | none, none, none => .error .malformed
      else if isTabOrSpace d || isBreak d then
        let (blanks, c) := c.span isTabOrSpace
        match c.lineEnd? with
        | some (b, c) => do
          let (bs, c) ← emptyLines fuel c
          more (joinLines b bs) c
        | none => more blanks c
      else more [d] (c.skip 1)

/-! ## Plain text -/

/-- The signs that part the items of a collection in brackets. -/
def flowSigns : List Char := [',', '[', ']', '\x7b', '\x7d']

/-- The characters of a plain text up to a blank, or to a sign that ends it. -/
def plainRun (flow : Bool) : List Char → List Char
  | [] => []
  | c :: rest =>
    if isTabOrSpace c || isBreak c then []
    else if c = ':' && (endsWord rest || flow && (rest.head?.map flowSigns.contains).getD false)
    then []
    else if flow && (c = '?' || flowSigns.contains c) then []
    else c :: plainRun flow rest

/-- The empty lines inside a plain text, and the cursor behind them and the spaces that follow; no
lines if a document ends there. -/
def plainLines : Nat → Cursor → Option (List Char) × Cursor
  | 0, c => (none, c)
  | fuel + 1, c =>
    if c.atDocumentMark then (none, c)
    else
      let inner := c.skipWhile (· = ' ')
      match inner.lineEnd? with
      | some (b, c) =>
        let (bs, c) := plainLines fuel c
        (bs.map (b :: ·), c)
      | none => (some [], inner)

/-- What stands between two runs of a plain text, whether a line ends there, and the cursor behind
it; nothing if the text is over. -/
def plainGap (c : Cursor) : Option (List Char) × Bool × Cursor :=
  let (blanks, c) := c.span (· = ' ')
  match c.lineEnd? with
  | some (b, c) =>
    let (bs, c) := plainLines (c.rest.length + 1) c
    (bs.map (joinLines b), true, c)
  | none => (if blanks.isEmpty then none else some blanks, false, c)

/-- A plain text, whether a line ends behind it, and the cursor there. Outside of brackets its lines
must be indented. -/
def plain (flow : Bool) (indent : Int) : Nat → Bool → Cursor → List Char × Bool × Cursor
  | 0, lineEnded, c => ([], lineEnded, c)
  | fuel + 1, lineEnded, c =>
    let run := if c.rest.head? = some '#' then [] else plainRun flow c.rest
    if run.isEmpty then ([], lineEnded, c)
    else
      match plainGap (c.skip run.length) with
      | (none, lineEnded, c) => (run, lineEnded, c)
      | (some gap, lineEnded, c) =>
        if c.rest.head? = some '#' || (!flow && c.column < indent) then (run, lineEnded, c)
        else
          match plain flow indent fuel lineEnded c with
          | ([], lineEnded, c) => (run, lineEnded, c)
          | (more, lineEnded, c) => (run ++ gap ++ more, lineEnded, c)

/-! ## Blocks of lines -/

/-- What becomes of the line ends at the end of a block. -/
inductive Chomping where
  | strip
  | clip
  | keep
  deriving DecidableEq, Repr

/-- The sign for the end of a block. -/
def chomping? : Char → Option Chomping
  | '+' => some .keep
  | '-' => some .strip
  | _ => none

/-- The signs at the head of a block, its indentation being none or a digit. -/
def blockSigns (c : Cursor) : Except Fault (Chomping × Option Nat × Cursor) :=
  let digit? (c : Cursor) : Option Nat :=
    (c.rest.head?.filter Char.isDigit).map fun d => d.toNat - '0'.toNat
  let (chomping, indent, c) :=
    match c.rest.head?.bind chomping? with
    | some s =>
      match digit? (c.skip 1) with
      | some n => (s, some n, c.skip 2)
      | none => (s, none, c.skip 1)
    | none =>
      match digit? c with
      | some n =>
        match (c.skip 1).rest.head?.bind chomping? with
        | some s => (s, some n, c.skip 2)
        | none => (.clip, some n, c.skip 1)
      | none => (.clip, none, c)
  if indent = some 0 || !endsAtSpace c.rest then .error .malformed else .ok (chomping, indent, c)

/-- The empty lines in front of a block, its widest indentation so far, and the cursor behind. -/
def blockIndentation : Nat → Nat → Cursor → List Char × Nat × Cursor
  | 0, widest, c => ([], widest, c)
  | fuel + 1, widest, c =>
    let inner := c.skipWhile (· = ' ')
    let widest := if inner.index = c.index then widest else max widest inner.column
    match inner.lineEnd? with
    | some (b, c) =>
      let (bs, widest, c) := blockIndentation fuel widest c
      (b :: bs, widest, c)
    | none => ([], widest, inner)

/-- The cursor behind at most so many spaces that its column is the indentation. -/
def skipIndent (indent : Nat) (c : Cursor) : Cursor :=
  c.skip (min (indent - c.column) (c.rest.takeWhile (· = ' ')).length)

/-- The empty lines inside a block, and the cursor behind them and the indentation that follows. -/
def blockBreaks (indent : Nat) : Nat → Cursor → List Char × Cursor
  | 0, c => ([], c)
  | fuel + 1, c =>
    let c := skipIndent indent c
    match c.lineEnd? with
    | some (b, c) =>
      let (bs, c) := blockBreaks indent fuel c
      (b :: bs, c)
    | none => ([], c)

/-- The text of a block's lines without its end, the line end and the empty lines behind it, and the
cursor there. `breaks` are the empty lines in front. -/
def blockLines (folded : Bool) (indent : Nat) :
    Nat → List Char → Cursor → List Char × List Char × List Char × Cursor
  | 0, breaks, c => ([], [], breaks, c)
  | fuel + 1, breaks, c =>
    if c.column != indent || c.rest.isEmpty then ([], [], breaks, c)
    else
      let text := (c.span (!isBreak ·)).1
      let c := c.skip text.length
      match c.lineEnd? with
      | none => (breaks ++ text, [], [], c)
      | some (b, c) =>
        let (bs, c) := blockBreaks indent fuel c
        if c.column != indent || c.rest.isEmpty then (breaks ++ text, [b], bs, c)
        else
          let isTight (cs : List Char) : Bool := !(cs.head?.map isTabOrSpace).getD false
          let gap :=
            if folded && b = '\n' && isTight text && isTight c.rest then
              if bs.isEmpty then [' '] else []
            else [b]
          let (more, last, bs, c) := blockLines folded indent fuel bs c
          (breaks ++ text ++ gap ++ more, last, bs, c)

/-- The text of a block behind its opening sign, and the cursor behind it. -/
def block (folded : Bool) (outer : Int) (c : Cursor) : Except Fault (List Char × Cursor) := do
  let (chomping, signed, c) ← blockSigns c
  match c.skipLineRest? with
  | none => .error .malformed
  | some c =>
    let fuel := c.rest.length + 1
    let least := (max (outer + 1) 1).toNat
    let (breaks, indent, c) :=
      match signed with
      | none =>
        let (breaks, widest, c) := blockIndentation fuel 0 c
        (breaks, max least widest, c)
      | some n =>
        let indent := least + n - 1
        let (breaks, c) := blockBreaks indent fuel c
        (breaks, indent, c)
    let (text, last, bs, c) := blockLines folded indent fuel breaks c
    match chomping with
    | .strip => .ok (text, c)
    | .clip => .ok (text ++ last, c)
    | .keep => .ok (text ++ last ++ bs, c)

end TableScaffold.Yaml
