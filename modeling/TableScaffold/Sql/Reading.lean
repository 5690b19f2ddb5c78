import TableScaffold.Sql.Token

/-!
# Reading tokens

A reading takes tokens from the front of a list. It fails when the list cannot be read at all; a part
that is merely absent leaves the list as it is.
-/

namespace TableScaffold.Sql

/-- Takes tokens from the front of a list, or fails. -/
abbrev Reading := StateT (List Token) Option

namespace Reading

variable {α : Type}

/-- The next token, which stays. -/
def peek : Reading (Option Token) := return (← get).head?

/-- Takes the next token if it satisfies a test. -/
def takeIf (p : Token → Bool) : Reading (Option Token) := do
  match ← get with
  | t :: rest => if p t then set rest; return some t else return none
  | [] => return none

/-- Takes the next token if there is one. -/
def take : Reading (Option Token) := takeIf fun _ => true

/-- Takes the next token if it is the given word. -/
def word (w : String) : Reading Bool := return (← takeIf (·.isWord w)).isSome

/-- Takes the next token if it is the given word, where that word is known. -/
def wordWhere (known : Bool) (w : String) : Reading Bool :=
  if known then word w else return false

/-- Takes the next token if it is one of the given words. -/
def oneOf (ws : List String) : Reading (Option Token) := takeIf (·.isOneOf ws)

/-- Takes the next token if it says one of the given words, even between quotes. -/
def said (ws : List String) : Reading Bool := return (← takeIf (·.hasText ws)).isSome

/-- Takes the next token if it is the given mark. -/
def mark (c : Char) : Reading Bool := return (← takeIf (·.isMark c)).isSome

/-- The tokens after the given words. -/
def afterWords : List String → List Token → Option (List Token)
  | [], ts => some ts
  | _ :: _, [] => none
  | w :: ws, t :: ts => if t.isWord w then afterWords ws ts else none

/-- Takes the given words if all of them follow. -/
def words (ws : List String) : Reading Bool := do
  match afterWords ws (← get) with
  | some rest => set rest; return true
  | none => return false

/-- Whether the given words follow. -/
def sees (ws : List String) : Reading Bool := return (afterWords ws (← get)).isSome

/-- Whether the given mark follows. -/
def seesMark (c : Char) : Reading Bool := return ((← peek).map (·.isMark c)).getD false

/-- Takes a mark that must follow. -/
def expect (c : Char) : Reading Unit := do
  unless ← mark c do failure

/-- Takes a part that may be unreadable; then the list stays as it is. -/
def attempt (x : Reading α) : Reading (Option α) := fun ts =>
  match x ts with
  | some (a, rest) => some (some a, rest)
  | none => some (none, ts)

/-- The parts between commas. An absent part is passed over. -/
def commaList (item : Reading (Option α)) : Nat → Reading (List α)
  | 0 => failure
  | fuel + 1 => do
    let first ← item
    let others ← if ← mark ',' then commaList item fuel else pure []
    return first.toList ++ others

/-- The parts between commas up to the closing parenthesis. -/
def closedList (item : Reading (Option α)) : Reading (List α) := do
  let items ← commaList item ((← get).length + 1)
  expect ')'
  return items

/-- The parts of a parenthesized list. -/
def parenthesized (item : Reading (Option α)) : Reading (List α) := do
  expect '('
  closedList item

/-- The tokens after the parenthesis that closes `depth + 1` open ones. -/
def afterClosing : Nat → List Token → Option (List Token)
  | _, [] => none
  | depth, t :: ts =>
    if t.isMark '(' then afterClosing (depth + 1) ts
    else if t.isMark ')' then
      match depth with
      | 0 => some ts
      | outer + 1 => afterClosing outer ts
    else afterClosing depth ts

/-- Passes over everything up to the closing parenthesis. -/
def skipToClosing : Reading Unit := do
  match afterClosing 0 (← get) with
  | some rest => set rest
  | none => failure

/-- Passes over a parenthesized part if one follows. -/
def skipParenthesized : Reading Bool := do
  if ← mark '(' then skipToClosing; return true else return false

/-- Whether every parenthesis in a list of tokens is closed; `depth` are open in front of it. -/
def closesAll : Nat → List Token → Bool
  | depth, [] => depth == 0
  | depth, t :: ts =>
    if t.isMark '(' then closesAll (depth + 1) ts
    else if t.isMark ')' then depth != 0 && closesAll (depth - 1) ts
    else closesAll depth ts

/-- Passes over all that is left, in which parentheses must match. -/
def skipRest : Reading Unit := do
  unless closesAll 0 (← get) do failure
  set ([] : List Token)

end Reading

end TableScaffold.Sql
