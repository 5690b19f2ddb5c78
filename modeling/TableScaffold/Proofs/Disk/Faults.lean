import TableScaffold.Proofs.Disk.Growth

/-!
# Why file operations fail

A path that holds the NUL character is no path at all. Every operation on it fails, and with a fault
that no other path has.
-/

namespace TableScaffold

/-- The character that no path may hold. -/
abbrev nul : Char := '\x00'

namespace Path

theorem nul_mem_intercalate (names : List String) :
    nul ∈ ("/".intercalate names).toList ↔ ∃ n ∈ names, nul ∈ n.toList := by
  induction names with
  | nil => simp
  | cons n names ih =>
    cases names with
    | nil => simp
    | cons n' names =>
      rw [String.intercalate_cons_cons, String.toList_append, String.toList_append,
        List.mem_append, List.mem_append, ih]
      simp [nul]

/-- Where the NUL character is in a path. -/
theorem nul_mem_text (p : Path) :
    nul ∈ p.text.toList ↔ nul ∈ p.root.toList ∨ ∃ n ∈ p.names, nul ∈ n.toList := by
  unfold text
  split
  · next hdot =>
    obtain ⟨hroot, hnames⟩ : p.root = "" ∧ p.names = [] := by simpa using hdot
    simp [hroot, hnames, nul]
  · rw [String.toList_append, List.mem_append, nul_mem_intercalate]

/-- A path without NUL that leads on from another one. -/
theorem nul_mem_join {p q : Path} (hroot : q.root = "") (hplain : ∀ n ∈ q.names, nul ∉ n.toList) :
    nul ∈ (p.join q).text.toList ↔ nul ∈ p.text.toList := by
  have hjoin : p.join q = ⟨p.root, p.names ++ q.names⟩ := if_pos hroot
  rw [nul_mem_text, nul_mem_text, hjoin]
  simp only [List.mem_append]
  grind

theorem nul_mem_parent {p : Path} (h : nul ∈ p.parent.text.toList) : nul ∈ p.text.toList := by
  rw [nul_mem_text] at h ⊢
  rcases h with h | ⟨n, hn, h⟩
  · exact Or.inl h
  · exact Or.inr ⟨n, (List.dropLast_subset _) hn, h⟩

end Path

namespace Disk

variable {d : Disk}

theorem follow_ne_nulInPath (loc : Location) (ps : List String) :
    d.follow loc ps ≠ .error .nulInPath := by
  induction ps generalizing loc with
  | nil => simp [follow]
  | cons p ps ih =>
    rw [follow]
    split
    · simp
    · simp
    split
    · exact ih loc
    split
    · exact ih loc.tail
    split
    · simp
    · exact ih (p :: loc)

theorem locate_nulInPath {path : String} :
    d.locate path = .error .nulInPath ↔ nul ∈ path.toList := by
  unfold locate
  by_cases hnul : nul ∈ path.toList
  · simp [hnul]
  · simp only [List.contains_iff_mem, hnul, if_false, iff_false]
    split
    · exact fun h => nomatch h
    split
    · exact fun h => nomatch h
    · exact follow_ne_nulInPath _ _

/-- What is done with the place of a path fails for the path's NUL character, and for no other
reason in the same way. -/
theorem bind_locate_nulInPath {α : Type} {path : String} {f : Location → Except FileFault α}
    (hf : ∀ l, f l ≠ .error .nulInPath) :
    (d.locate path >>= f) = .error .nulInPath ↔ nul ∈ path.toList := by
  rw [← locate_nulInPath (d := d)]
  cases hloc : d.locate path with
  | error fault => simp only [bind, Except.bind, Except.error.injEq]
  | ok l => exact iff_of_false (hf l) (fun h => nomatch h)

theorem makeDirectory_nulInPath (d : Disk) (path : String) :
    d.makeDirectory path = .error .nulInPath ↔ nul ∈ path.toList := by
  refine bind_locate_nulInPath fun l => ?_
  split <;> exact fun h => nomatch h

theorem write_nulInPath (d : Disk) (path : String) (content : ByteArray) :
    d.write path content = .error .nulInPath ↔ nul ∈ path.toList := by
  refine bind_locate_nulInPath fun l => ?_
  split <;> exact fun h => nomatch h

/-- No directory is made where something lies. -/
theorem makeDirectory_there {path : String} {n : Node} (h : d.find? path = some n) :
    d.makeDirectory path = .error .alreadyThere := by
  obtain ⟨l, hl, hnode⟩ := find?_eq_some.mp h
  unfold makeDirectory
  rw [hl]
  dsimp only [bind, Except.bind]
  rw [hnode]

end Disk

end TableScaffold
