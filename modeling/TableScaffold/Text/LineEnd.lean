/-!
# Line ends

A line ends in a line feed, a carriage return, or both.
-/

namespace TableScaffold.Text

/-- The text with every line end written as a line feed. -/
def unifyLines : List Char → List Char
  | [] => []
  | '\r' :: '\n' :: rest => '\n' :: unifyLines rest
  | '\r' :: rest => '\n' :: unifyLines rest
  | c :: rest => c :: unifyLines rest

theorem return_not_mem_unifyLines (cs : List Char) : '\r' ∉ unifyLines cs := by
  fun_induction unifyLines cs with
  | case1 => simp
  | case2 rest ih => simp [ih]
  | case3 rest _ ih => simp [ih]
  | case4 c rest _ h ih =>
    intro hmem
    rcases List.mem_cons.1 hmem with hc | hmem
    · exact h hc.symm
    · exact ih hmem

end TableScaffold.Text
