/-!
# Cursors

A cursor is a place in a text: what is left of it, and where that starts. Columns matter, because
indentation carries structure. A byte order mark takes no column.
-/

namespace TableScaffold.Yaml

/-- The mark that a text may start with. -/
def byteOrderMark : Char := '\uFEFF'

/-- Whether a character ends a line. -/
def isBreak (c : Char) : Bool := c = '\n' || c = '\u0085' || c = '\u2028' || c = '\u2029'

/-- Whether a character is a blank on its line. -/
def isTabOrSpace (c : Char) : Bool := c = ' ' || c = '\t'

/-- Whether a text is at its end or goes on with a space or a line end. -/
def endsAtSpace : List Char → Bool
  | [] => true
  | c :: _ => c = ' ' || isBreak c

/-- Whether a text is at its end or goes on with a blank or a line end. -/
def endsWord : List Char → Bool
  | [] => true
  | c :: _ => isTabOrSpace c || isBreak c

/-- A place in a text. -/
structure Cursor where
  rest : List Char
  index : Nat := 0
  line : Nat := 0
  column : Nat := 0

namespace Cursor

/-- The cursor behind some characters of its line. -/
def skip (n : Nat) (c : Cursor) : Cursor where
  rest := c.rest.drop n
  index := c.index + n
  line := c.line
  column := c.column + (c.rest.take n).countP (· != byteOrderMark)

/-- The characters of the line that belong to a class, and the cursor behind them. -/
def span (p : Char → Bool) (c : Cursor) : List Char × Cursor :=
  let cs := c.rest.takeWhile p
  (cs, c.skip cs.length)

/-- The cursor behind the characters of the line that belong to a class. -/
def skipWhile (p : Char → Bool) (c : Cursor) : Cursor := (c.span p).2

/-- A line end, as it counts inside a text, and the cursor behind it. -/
def lineEnd? (c : Cursor) : Option (Char × Cursor) :=
  match c.rest with
  | [] => none
  | b :: rest =>
    if isBreak b then
      some (if b = '\u0085' then '\n' else b, ⟨rest, c.index + 1, c.line + 1, 0⟩)
    else none

/-- The cursor behind the comment and the blanks at the end of a line, if there is nothing else. -/
def skipLineRest? (c : Cursor) : Option Cursor :=
  let c := c.skipWhile (· = ' ')
  let c := if c.rest.head? = some '#' then c.skipWhile (!isBreak ·) else c
  match c.rest with
  | [] => some c
  | _ => c.lineEnd?.map (·.2)

/-- Whether a document ends or starts at the cursor. -/
def atDocumentMark (c : Cursor) : Bool :=
  (c.rest.take 3 = ['-', '-', '-'] || c.rest.take 3 = ['.', '.', '.']) && endsWord (c.rest.drop 3)

end Cursor

end TableScaffold.Yaml
