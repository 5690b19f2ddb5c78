import TableScaffold.Decimal.Whole
import TableScaffold.Text.LineEnd

/-!
# Pieces of a template

A template is cut into text, slots and tags. A tag takes the blanks in front of it on its line and one
line end after it; a minus sign at either end takes all blanks there, a plus sign none.
-/

namespace TableScaffold.Template

open Text

/-- A word, number or sign inside a slot or a tag. -/
inductive Atom where
  | name (s : String)
  | whole (n : Nat)
  | decimal (digits : Nat) (exponent : Int)
  | text (s : String)
  | sign (s : String)
  deriving DecidableEq, Repr

/-- A piece of a template. -/
inductive Piece where
  | text (s : String)
  | slot (atoms : List Atom)
  | tag (atoms : List Atom)
  deriving DecidableEq, Repr

/-- What the opening of a slot or a tag says. -/
inductive Opening where
  | slot
  | tag
  | comment
  deriving DecidableEq, Repr

/-- The opening at the front of a text. -/
def opening? : List Char → Option (Opening × List Char)
  | '\x7b' :: '\x7b' :: rest => some (.slot, rest)
  | '\x7b' :: '%' :: rest => some (.tag, rest)
  | '\x7b' :: '#' :: rest => some (.comment, rest)
  | _ => none

/-- The text in front of the first opening, and the opening with what follows it. -/
def untilOpening : List Char → List Char × Option (Opening × List Char)
  | [] => ([], none)
  | c :: rest =>
    match opening? (c :: rest) with
    | some o => ([], some o)
    | none =>
      let (text, o) := untilOpening rest
      (c :: text, o)

/-- A sign at an end of a tag that says what happens to blanks. -/
inductive Control where
  | default
  | strip
  | keep
  deriving DecidableEq, Repr

/-- The sign after an opening. -/
def control : List Char → Control × List Char
  | '-' :: rest => (.strip, rest)
  | '+' :: rest => (.keep, rest)
  | cs => (.default, cs)

/-- Drops the blanks after the last line end if nothing else stands there. `lineStart` says that the
text starts a line. -/
def dropIndent (lineStart : Bool) (text : List Char) : List Char :=
  let tail := (text.reverse.takeWhile (· != '\n')).reverse
  let started := lineStart || tail.length < text.length
  if started && tail.all isBlank then text.take (text.length - tail.length) else text

/-- The text in front of an opening as its sign leaves it. -/
def beforeOpening (o : Opening) (c : Control) (lineStart : Bool) (text : List Char) : List Char :=
  match c with
  | .strip => trimEndBy isBlank text
  | .keep => text
  | .default => if o = .slot then text else dropIndent lineStart text

/-- What follows a closing that takes all blanks, and whether a line starts there. -/
def afterBlanks (cs : List Char) : Bool × List Char :=
  let blanks := cs.takeWhile isBlank
  (blanks.getLast? == some '\n', cs.drop blanks.length)

/-- What follows a closing that takes one line end, and whether a line starts there. -/
def afterLineEnd : List Char → Bool × List Char
  | '\n' :: rest => (true, rest)
  | cs => (false, cs)

/-- The closing of a tag at the front of a text: whether a line starts after it, and what follows. -/
def tagClosing? : List Char → Option (Bool × List Char)
  | '+' :: '%' :: '\x7d' :: rest => some (false, rest)
  | '-' :: '%' :: '\x7d' :: rest => some (afterBlanks rest)
  | '%' :: '\x7d' :: rest => some (afterLineEnd rest)
  | _ => none

/-- The closing of a slot at the front of a text. -/
def slotClosing? : List Char → Option (Bool × List Char)
  | '-' :: '\x7d' :: '\x7d' :: rest => some (afterBlanks rest)
  | '\x7d' :: '\x7d' :: rest => some (false, rest)
  | _ => none

/-- The closing of a comment at the front of a text. -/
def commentClosing? : List Char → Option (Bool × List Char)
  | '+' :: '#' :: '\x7d' :: rest => some (false, rest)
  | '-' :: '#' :: '\x7d' :: rest => some (afterBlanks rest)
  | '#' :: '\x7d' :: rest => some (afterLineEnd rest)
  | _ => none

/-- What follows a comment. -/
def afterComment : List Char → Option (Bool × List Char)
  | [] => none
  | c :: rest =>
    match commentClosing? (c :: rest) with
    | some r => some r
    | none => afterComment rest

/-- The tag at the front of a text that consists of one word, with its signs and what follows it. -/
def wordTag? (word : List Char) (cs : List Char) : Option (Control × List Char) :=
  match cs with
  | '\x7b' :: '%' :: rest =>
    let (c, rest) := control rest
    let rest := rest.dropWhile isBlank
    if word.isPrefixOf rest then some (c, (rest.drop word.length).dropWhile isBlank) else none
  | _ => none

/-- What follows the tag that opens a verbatim part. -/
def verbatimOpening? (cs : List Char) : Option (Bool × List Char) := do
  let (_, rest) ← wordTag? "raw".toList cs
  match rest with
  | '-' :: '%' :: '\x7d' :: rest => some (afterBlanks rest)
  | '%' :: '\x7d' :: rest => some (false, rest)
  | _ => none

/-- A verbatim part: its text, the sign of the tag that closes it, and what follows. -/
def verbatim : List Char → Option (List Char × Control × Bool × List Char)
  | [] => none
  | c :: rest =>
    match (wordTag? "endraw".toList (c :: rest)).bind fun (s, r) => (tagClosing? r).map (s, ·) with
    | some (s, start, r) => some ([], s, start, r)
    | none => (verbatim rest).map fun (text, s, start, r) => (c :: text, s, start, r)

/-! ## Atoms -/

/-- Whether a character may stand in a name. -/
def inName (c : Char) : Bool := c.isAlphanum || c = '_' || (c.toNat ≥ 0x80 && !isBlank c)

/-- A run of digits in which an underscore may stand between two digits; `follows` says that a digit
stands in front. -/
def digitRun (follows : Bool) : List Char → List Char × List Char
  | [] => ([], [])
  | c :: rest =>
    if c.isDigit then
      let (ds, r) := digitRun true rest
      (c :: ds, r)
    else if c = '_' && follows && (rest.headD ' ').isDigit then digitRun false rest
    else ([], c :: rest)

/-- The number that ASCII digits stand for. -/
def digitsNumber (ds : List Char) : Nat := Decimal.digitsValue 0 (ds.map fun c => c.toNat - 48)

/-- An exponent at the front of a text. -/
def exponent? : List Char → Option (Int × List Char)
  | e :: rest =>
    if e = 'e' || e = 'E' then
      let (negative, rest) := Decimal.splitSign rest
      let (ds, r) := digitRun false rest
      if ds.isEmpty then none else some (Decimal.signed negative (digitsNumber ds), r)
    else none
  | [] => none

/-- A number at the front of a text that starts with a digit. -/
def number (cs : List Char) : Atom × List Char :=
  let (whole, rest) := digitRun false cs
  let (fraction, afterPoint) := match rest with
    | '.' :: more => digitRun false more
    | _ => ([], rest)
  let (fraction, afterPoint) := if fraction.isEmpty then ([], rest) else (fraction, afterPoint)
  match exponent? afterPoint with
  | some (e, r) => (.decimal (digitsNumber (whole ++ fraction)) (e - fraction.length), r)
  | none =>
    if fraction.isEmpty then
      match whole with
      | '0' :: _ =>
        let zeros := whole.takeWhile (· == '0')
        (.whole 0, cs.drop zeros.length)
      | _ => (.whole (digitsNumber whole), rest)
    else (.decimal (digitsNumber (whole ++ fraction)) (-(fraction.length : Int)), afterPoint)

/-- What a backslash and a character stand for inside a text. -/
def escaped (c : Char) : List Char :=
  match [('n', '\n'), ('t', '\t'), ('r', '\r'), ('a', '\x07'), ('b', '\x08'), ('f', '\x0c'),
    ('v', '\x0b'), ('\\', '\\'), ('\'', '\''), ('"', '"')].lookup c with
  | some d => [d]
  | none => if c = '\n' then [] else ['\\', c]

/-- A text after its opening quote. -/
def quotedText (quote : Char) : List Char → Option (List Char × List Char)
  | [] => none
  | '\\' :: c :: rest => (quotedText quote rest).map fun (cs, r) => (escaped c ++ cs, r)
  | c :: rest =>
    if c = quote then some ([], rest)
    else (quotedText quote rest).map fun (cs, r) => (c :: cs, r)

/-- The signs of two characters. -/
def longSigns : List String := ["//", "**", "==", "!=", ">=", "<="]

/-- The signs of one character. -/
def shortSigns : List Char :=
  ['+', '-', '/', '*', '%', '~', '[', ']', '(', ')', '\x7b', '\x7d', '>', '<', '=', '.', ':', '|', ',',
   ';']

/-- A sign at the front of a text. -/
def sign? : List Char → Option (String × List Char)
  | c :: d :: rest =>
    if longSigns.contains (String.ofList [c, d]) then some (String.ofList [c, d], rest)
    else if shortSigns.contains c then some (String.singleton c, d :: rest)
    else none
  | [c] => if shortSigns.contains c then some (String.singleton c, []) else none
  | [] => none

/-- The brackets that are open after a sign, or nothing if it closes the wrong one. -/
def brackets (s : String) (stack : List String) : Option (List String) :=
  if s == "(" then some (")" :: stack)
  else if s == "[" then some ("]" :: stack)
  else if s == "\x7b" then some ("\x7d" :: stack)
  else if s == ")" || s == "]" || s == "\x7d" then
    match stack with
    | t :: rest => if s == t then some rest else none
    | [] => none
  else some stack

/-- The atoms up to a closing outside all brackets; whether a line starts after it, and what follows. -/
def atoms (closing? : List Char → Option (Bool × List Char)) :
    Nat → List String → List Char → Option (List Atom × Bool × List Char)
  | 0, _, _ => none
  | _, _, [] => none
  | fuel + 1, stack, c :: cs =>
    match if stack.isEmpty then closing? (c :: cs) else none with
    | some (start, rest) => some ([], start, rest)
    | none =>
      if isBlank c then atoms closing? fuel stack cs
      else if c.isDigit then
        let (a, rest) := number (c :: cs)
        (atoms closing? fuel stack rest).map fun (as, r) => (a :: as, r)
      else if inName c then
        let word := c :: cs.takeWhile inName
        (atoms closing? fuel stack (cs.dropWhile inName)).map fun (as, r) =>
          (.name (String.ofList word) :: as, r)
      else if c = '\'' || c = '"' then
        match quotedText c cs with
        | none => none
        | some (s, rest) =>
          (atoms closing? fuel stack rest).map fun (as, r) => (.text (String.ofList s) :: as, r)
      else
        match sign? (c :: cs) with
        | none => none
        | some (s, rest) =>
          match brackets s stack with
          | none => none
          | some stack => (atoms closing? fuel stack rest).map fun (as, r) => (.sign s :: as, r)

/-! ## Pieces -/

/-- A text piece, unless it is empty. -/
def textPiece (cs : List Char) : List Piece :=
  if cs.isEmpty then [] else [.text (String.ofList cs)]

/-- The pieces of a text. `lineStart` says that the text starts a line. -/
def pieces : Nat → Bool → List Char → Option (List Piece)
  | 0, _, _ => none
  | fuel + 1, lineStart, cs =>
    match untilOpening cs with
    | (text, none) => some (textPiece text)
    | (text, some (o, rest)) =>
      let (c, inside) := control rest
      let front := textPiece (beforeOpening o c lineStart text)
      match o with
      | .comment => do
        let (start, rest) ← afterComment inside
        return front ++ (← pieces fuel start rest)
      | .slot => do
        let (as, start, rest) ← atoms slotClosing? (inside.length + 1) [] inside
        return front ++ .slot as :: (← pieces fuel start rest)
      | .tag =>
        match verbatimOpening? (cs.drop text.length) with
        | some (start, rest) => do
          let (raw, c, after, rest) ← verbatim rest
          return front ++ textPiece (beforeOpening .tag c start raw) ++ (← pieces fuel after rest)
        | none => do
          let (as, start, rest) ← atoms tagClosing? (inside.length + 1) [] inside
          return front ++ .tag as :: (← pieces fuel start rest)

/-- The pieces of a template. -/
def pieces? (source : List Char) : Option (List Piece) :=
  let cs := unifyLines source
  pieces (cs.length + 1) true cs

end TableScaffold.Template
