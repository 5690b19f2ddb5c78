/-!
# Paths

A path leads through names. Empty names and `.` do not count, but `..` does: where it leads is known
only to the disk. A path that starts with a slash leads from the root.
-/

namespace TableScaffold

/-- A path. -/
structure Path where
  /-- The slashes that a path from the root starts with: none, one, or exactly two. -/
  root : String
  names : List String
  deriving DecidableEq, Repr

namespace Path

/-- The parts between the slashes of a text. -/
def parts (text : String) : List String := (text.toList.splitOn '/').map String.ofList

/-- Whether a part of a path counts as a name. -/
def isName (part : String) : Bool := part != "" && part != "."

/-- The slashes that a text starts with, if it leads from the root. Three and more are as one. -/
def rootOf : List Char → String
  | '/' :: '/' :: '/' :: _ => "/"
  | '/' :: '/' :: _ => "//"
  | '/' :: _ => "/"
  | _ => ""

/-- The path that a text stands for. -/
def ofText (text : String) : Path := ⟨rootOf text.toList, (parts text).filter isName⟩

/-- The text of a path. -/
def text (p : Path) : String :=
  if p.root = "" && p.names.isEmpty then "." else p.root ++ "/".intercalate p.names

example : (ofText "./a//b/./../c/").text = "a/b/../c" := by decide

/-- The path that leads on along another one; a path from the root starts anew. -/
def join (p q : Path) : Path := if q.root = "" then ⟨p.root, p.names ++ q.names⟩ else q

/-- The path without its last name. -/
def parent (p : Path) : Path := ⟨p.root, p.names.dropLast⟩

@[simp] theorem text_dot : (ofText ".").text = "." := by decide

@[simp] theorem text_empty : (ofText "").text = "." := by decide

theorem join_root (p q : Path) (h : q.root ≠ "") : p.join q = q := by simp [join, h]

theorem names_join (p q : Path) (h : q.root = "") : (p.join q).names = p.names ++ q.names := by
  simp [join, h]

end Path

end TableScaffold
