import TableScaffold.Sql.Dialect
import TableScaffold.Sql.Token
import TableScaffold.Text.Blank
import TableScaffold.Text.Digit

/-!
# Splitting a script into tokens

Blanks and comments part tokens. A text, a name or a block comment that does not end makes the script
unreadable.
-/

namespace TableScaffold.Sql

open Text

/-- The punctuation marks. -/
def marks : List Char :=
  ['(', ')', '[', ']', '\x7b', '\x7d', '&', '^', ':', ',', '-', '.', '+', ';', '/', '\\', '*', '%',
   '!', '=', '<', '>', '|', '~', '?', '@', '#', '\'', '"', '\x60']

/-- Whether a character ends a line. -/
def isBreak (c : Char) : Bool := c == '\n' || c == '\r'

namespace Lexis

variable (l : Lexis)

/-- Whether a character may stand inside a word. -/
def inWord (c : Char) : Bool := !isBlank c && (l.wordMarks.contains c || !marks.contains c)

/-- What a backslash and a letter stand for. -/
def escaped (c : Char) : Option Char :=
  [('a', '\x07'), ('b', '\x08'), ('f', '\x0c'), ('n', '\n'), ('r', '\r'), ('t', '\t'),
   ('v', '\x0b'), ('\\', '\\')].lookup c

/-- The content up to the closing quote, and what follows it. `doubled` says whether the quote may be
written twice, `masked` whether a backslash may stand in front of it. -/
def quotedBody (doubled masked : Bool) (close : Char) : List Char → Option (List Char × List Char)
  | [] => none
  | [c] => if c = close then some ([], []) else none
  | c :: d :: rest =>
    if l.backslashEscapes && c = '\\' && (escaped d).isSome then
      (quotedBody doubled masked close rest).map fun (cs, r) => ((escaped d).getD d :: cs, r)
    else if masked && c = '\\' && d = close then
      (quotedBody doubled masked close rest).map fun (cs, r) => (d :: cs, r)
    else if c = close then
      if doubled && d = close then
        (quotedBody doubled masked close rest).map fun (cs, r) => (c :: cs, r)
      else some ([], d :: rest)
    else (quotedBody doubled masked close (d :: rest)).map fun (cs, r) => (c :: cs, r)

/-- A name after its opening quote. -/
def nameBody (close : Char) (cs : List Char) : Option (List Char × List Char) :=
  l.quotedBody true (l.backslashEscapes && !l.doubledQuotes) close cs

/-- A text after its opening quote. -/
def textBody (close : Char) (cs : List Char) : Option (List Char × List Char) :=
  l.quotedBody l.doubledQuotes l.backslashEscapes close cs

/-- The length of a number at the front. `point` and `exponent` say what was met before, `signable`
whether a sign may follow. -/
def numberLength (point exponent signable : Bool) : List Char → Nat
  | [] => 0
  | c :: rest =>
    if isDigit c then numberLength point exponent false rest + 1
    else if c = '.' && !point then numberLength true exponent false rest + 1
    else if (c = 'e' || c = 'E') && !exponent then numberLength point true true rest + 1
    else if (c = '-' || c = '+') && signable && isDigit (rest.headD ' ') then
      numberLength point exponent false rest + 1
    else 0

/-- Whether a character may start a name. -/
def startsName (c : Char) : Bool := c.isAlpha || c = '_' || (c.toNat ≥ 0x80 && !isBlank c)

/-- Whether a character is a hexadecimal digit. -/
def isHexDigit (c : Char) : Bool := c.isDigit || ('a' ≤ c.toLower && c.toLower ≤ 'f')

/-- Whether a hexadecimal number starts at the front. -/
def startsHex : List Char → Bool
  | '0' :: 'x' :: _ | '0' :: 'X' :: _ => true
  | _ => false

/-- A hexadecimal number at the front; with other digits it is a name. -/
def hexNumber (cs : List Char) : Token :=
  let word := cs.takeWhile fun c => !isBlank c && !marks.contains c
  let digits := word.drop 2
  let rest := cs.drop word.length
  if !digits.isEmpty && digits.all isHexDigit then ⟨.number, String.ofList digits, rest⟩
  else ⟨.name, String.ofList word, rest⟩

/-- A number at the front, or a name that starts with digits. -/
def decimalNumber (cs : List Char) : Token :=
  let n := numberLength false false false cs
  let rest := cs.drop n
  match rest with
  | c :: _ =>
    if l.digitNames && startsName c then
      let tail := rest.takeWhile fun c => !isBlank c && !marks.contains c
      ⟨.word, String.ofList (cs.take n ++ tail), rest.drop tail.length⟩
    else ⟨.number, String.ofList (cs.take n), rest⟩
  | [] => ⟨.number, String.ofList (cs.take n), rest⟩

/-- The token at the front of a script that starts with a digit. -/
def number (cs : List Char) : Token := if startsHex cs then hexNumber cs else l.decimalNumber cs

/-- What follows a block comment; `depth` comments are open around the next character. -/
def blockEnd (depth : Nat) : List Char → Option (List Char)
  | [] => none
  | [_] => none
  | c :: d :: rest =>
    if c = '*' && d = '/' then
      if depth ≤ 1 then some rest else blockEnd (depth - 1) rest
    else if l.nestedComments && c = '/' && d = '*' then blockEnd (depth + 1) rest
    else blockEnd depth (d :: rest)

/-- What follows a comment at the front; an inner `none` if the comment does not end. -/
def comment? (cs : List Char) : Option (Option (List Char)) :=
  if l.lineComments.any (·.isPrefixOf cs) then some (some (cs.dropWhile (!isBreak ·)))
  else if ['/', '*'].isPrefixOf cs then some (l.blockEnd 1 (cs.drop 2))
  else none

/-- Whether a letter in front of a quote belongs to the text. -/
def isTextLetter (c : Char) : Bool := ['n', 'b', 'x', 'e', 'r'].contains c.toLower

/-- The token at the front of a script that starts with no blank and no comment. -/
def token? (c : Char) (cs : List Char) : Option Token :=
  if isDigit c then some (l.number (c :: cs))
  else
    match l.nameQuotes.lookup c with
    | some close => (l.nameBody close cs).map fun (s, rest) => ⟨.name, String.ofList s, rest⟩
    | none =>
      if l.textQuotes.contains c then
        (l.textBody c cs).map fun (s, rest) => ⟨.text, String.ofList s, rest⟩
      else if isTextLetter c && l.textQuotes.contains (cs.headD ' ') then
        (l.textBody (cs.headD ' ') (cs.drop 1)).map fun (s, rest) => ⟨.text, String.ofList s, rest⟩
      else if marks.contains c then some ⟨.mark, String.singleton c, cs⟩
      else
        let tail := cs.takeWhile l.inWord
        some ⟨.word, String.ofList (c :: tail), cs.drop tail.length⟩

/-- Whether a line ends between two points of a script, the second of them given by what follows. -/
def breaksBefore (cs rest : List Char) : Bool := (cs.take (cs.length - rest.length)).any isBreak

/-- The parts of a script. `sameLine` says that no line has ended since the last token. -/
def lexemes : Nat → Bool → List Char → Option (List Lexeme)
  | _, _, [] => some []
  | 0, _, _ :: _ => none
  | fuel + 1, sameLine, c :: cs =>
    if isBlank c then lexemes fuel (sameLine && !isBreak c) cs
    else
      match l.comment? (c :: cs) with
      | some none => none
      | some (some rest) =>
        (lexemes fuel (sameLine && !breaksBefore cs rest) rest).map (.comment sameLine :: ·)
      | none =>
        match l.token? c cs with
        | none => none
        | some t => (lexemes fuel true t.rest).map (.token t :: ·)

end Lexis

/-- The tokens and comments of a script. -/
def lexemes? (d : Dialect) (script : List Char) : Option (List Lexeme) :=
  d.lexis.lexemes script.length false script

end TableScaffold.Sql
