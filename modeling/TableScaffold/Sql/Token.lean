import TableScaffold.Text.Case

/-!
# Tokens of a script

A token knows its text and what follows it in the script, because the type of a column is read again
from the script as it is written there.
-/

namespace TableScaffold.Sql

/-- What a token is. -/
inductive TokenKind where
  /-- An unquoted word: a keyword or a name. -/
  | word
  /-- A name between quotes. -/
  | name
  /-- A text between quotes. -/
  | text
  | number
  /-- A single character of punctuation. -/
  | mark
  deriving DecidableEq, Repr

/-- A token: its text without quotes, and the script after it. -/
structure Token where
  kind : TokenKind
  text : String
  rest : List Char
  deriving DecidableEq, Repr

/-- A part of a script: a token, or a comment. -/
inductive Lexeme where
  | token (t : Token)
  /-- A comment; `sameLine` if it starts on the line on which the token before it ends. -/
  | comment (sameLine : Bool)
  deriving DecidableEq, Repr

namespace Token

/-- The text in capital ASCII letters. -/
def upper (t : Token) : String := String.ofList (t.text.toList.map Char.toUpper)

/-- Whether a token is the given word, in any letter case. -/
def isWord (w : String) (t : Token) : Bool := t.kind == .word && t.upper == w

/-- Whether a token is one of the given words, in any letter case. -/
def isOneOf (ws : List String) (t : Token) : Bool := t.kind == .word && ws.contains t.upper

/-- Whether the text of a token is one of the given words. It may be a name between quotes, and any
letter case of any script will do. -/
def hasText (ws : List String) (t : Token) : Bool := t.kind != .text && ws.contains (Text.upper t.text)

/-- Whether a token is the given punctuation. -/
def isMark (c : Char) (t : Token) : Bool := t.kind == .mark && t.text == String.singleton c

end Token

end TableScaffold.Sql
