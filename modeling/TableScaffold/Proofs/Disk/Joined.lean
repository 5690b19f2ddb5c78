import TableScaffold.Proofs.Disk.Growth
import TableScaffold.Proofs.Path.Reshaped

/-!
# Paths that meet

A path that was read from a text is read again from its own text (`Sound.ofText_text`), so where its
text leads on a disk is where its names lead. Two ways down from one path meet only if they go through
the same names (`Disk.names_eq_of_joined`).
-/

namespace TableScaffold

namespace Path

variable {p : Path}

/-- The slashes at the start of a text part nothing from what follows. -/
theorem names_root {root : String} (hroot : root = "" ∨ root = "/" ∨ root = "//") (text : String) :
    (ofText (root ++ text)).names = (ofText text).names := by
  have hslash : ∀ text : String, (ofText ("/" ++ text)).names = (ofText text).names := by
    intro text
    have hparts := parts_slash "" text
    rw [String.empty_append] at hparts
    unfold ofText
    rw [hparts]
    rfl
  rcases hroot with rfl | rfl | rfl
  · rw [String.empty_append]
  · exact hslash text
  · have htwo : "//" ++ text = "/" ++ ("/" ++ text) := by
      rw [← String.toList_inj]
      simp
    rw [htwo, hslash, hslash]

theorem rootOf_append {root : String} (hroot : root = "" ∨ root = "/" ∨ root = "//") {cs : List Char}
    (hcs : cs.head? ≠ some '/') : rootOf (root.toList ++ cs) = root := by
  cases cs with
  | nil => rcases hroot with rfl | rfl | rfl <;> rfl
  | cons c cs =>
    have hc : c ≠ '/' := fun h => hcs (congrArg some h)
    rcases hroot with rfl | rfl | rfl <;> simp [rootOf, hc]

/-- A path that was read from a text is read again from its own text. -/
theorem Sound.ofText_text (hp : p.Sound) : ofText p.text = p := by
  obtain ⟨root, names⟩ := p
  cases names with
  | nil => rcases hp.root with h | h | h <;> cases h <;> decide +kernel
  | cons n ns =>
    have htext : (⟨root, n :: ns⟩ : Path).text = root ++ "/".intercalate (n :: ns) := by simp [text]
    have hfilter : (n :: ns).filter isName = n :: ns :=
      List.filter_eq_self.mpr fun a ha => (hp.names a ha).1
    have hnames : (ofText ("/".intercalate (n :: ns))).names = n :: ns := by
      unfold ofText parts
      rw [splitOn_names (List.cons_ne_nil n ns) fun a ha => (hp.names a ha).2, List.map_map]
      simpa [Function.comp_def] using hfilter
    obtain ⟨hname, hslash⟩ := hp.names n List.mem_cons_self
    have hhead : ("/".intercalate (n :: ns)).toList.head? ≠ some '/' := by
      have hstart : ∃ rest, ("/".intercalate (n :: ns)).toList = n.toList ++ rest := by
        cases ns with
        | nil => exact ⟨[], by simp⟩
        | cons m ms =>
          rw [String.intercalate_cons_cons, String.toList_append, String.toList_append,
            List.append_assoc]
          exact ⟨_, rfl⟩
      obtain ⟨rest, hrest⟩ := hstart
      cases hchars : n.toList with
      | nil =>
        rw [String.toList_eq_nil_iff.mp hchars] at hname
        exact absurd hname (by decide)
      | cons c cs =>
        rw [hrest, hchars]
        rintro h
        exact hslash (hchars ▸ Option.some.inj h ▸ List.mem_cons_self)
    have hroot : (ofText (root ++ "/".intercalate (n :: ns))).root = root := by
      show rootOf _ = root
      rw [String.toList_append]
      exact rootOf_append hp.root hhead
    rw [htext]
    exact congrArg₂ Path.mk hroot ((names_root hp.root _).trans hnames)

end Path

namespace Disk

variable {d : Disk} {loc l : Location}

/-- Where the names of a path lead from. -/
def origin (d : Disk) (p : Path) : Location := if p.root = "" then d.workingDirectory else []

/-- Parts that do not count lead nowhere. -/
theorem follow_names_of_parts {ps : List String} (h : d.follow loc ps = .ok l) :
    d.follow loc (ps.filter Path.isName) = .ok l := by
  induction ps generalizing loc with
  | nil => exact h
  | cons part rest ih =>
    obtain ⟨hloc, hsize, hrest⟩ := follow_cons_eq_ok.mp h
    cases hpart : Path.isName part with
    | true =>
      rw [List.filter_cons_of_pos hpart]
      exact follow_cons_eq_ok.mpr ⟨hloc, hsize, ih hrest⟩
    | false =>
      have hstay : stepTo loc part = loc := by
        have hdot : part = "" ∨ part = "." := by
          rw [Path.isName, Bool.and_eq_false_iff] at hpart
          simpa using hpart
        unfold stepTo
        rw [if_pos (by simpa using hdot)]
      rw [List.filter_cons_of_neg (by simp [hpart])]
      rw [hstay] at hrest
      exact ih hrest

/-- The text of a path leads from where its names do. -/
theorem start_text (d : Disk) {p : Path} (hp : p.Sound) : d.start p.text = d.origin p := by
  have hread := hp.ofText_text
  unfold origin start
  by_cases hroot : p.root = ""
  · have hhead := (Path.root_ofText_iff p.text).mp (hread.symm ▸ hroot)
    rw [if_pos hroot, if_neg]
    intro hslash
    refine hhead ?_
    cases hcs : p.text.toList with
    | nil => simp [hcs] at hslash
    | cons c cs =>
      have hc : '/' = c := by simpa [hcs] using hslash
      rw [← hc]
      rfl
  · have hhead : p.text.toList.head? = some '/' := by
      by_contra hhead
      exact hroot (hread ▸ (Path.root_ofText_iff p.text).mpr hhead)
    rw [if_neg hroot, if_pos]
    obtain ⟨cs, hcs⟩ := List.head?_eq_some_iff.mp hhead
    simp [hcs]

/-- A path leads where its names lead. -/
theorem follow_of_locate {p : Path} (hp : p.Sound) (h : d.locate p.text = .ok l) :
    d.follow (d.origin p) p.names = .ok l := by
  have hfollow := follow_names_of_parts (locate_eq_ok.mp h).2
  have hnames : (Path.parts p.text).filter Path.isName = p.names := congrArg Path.names hp.ofText_text
  rwa [start_text d hp, hnames] at hfollow

/-- Ways down from one path that lead to one place go through the same names. -/
theorem names_eq_of_joined {base p q : Path} (hbase : base.Sound) (hp : p.Sound) (hq : q.Sound)
    (hproot : p.root = "") (hqroot : q.root = "") (hpdown : ".." ∉ p.names) (hqdown : ".." ∉ q.names)
    (h : d.Joined (base.join p).text (base.join q).text) : p.names = q.names := by
  obtain ⟨l, hlp, hlq⟩ := h
  have hfollow : ∀ r : Path, r.Sound → r.root = "" → ".." ∉ r.names →
      d.locate (base.join r).text = .ok l →
      ∃ mid, d.follow (d.origin base) base.names = .ok mid ∧ l = r.names.reverse ++ mid := by
    intro r hr hroot hdown hl
    have hjoin := follow_of_locate (hbase.join hr) hl
    have horigin : d.origin (base.join r) = d.origin base := by
      unfold origin Path.join
      rw [if_pos hroot]
    rw [horigin, Path.names_join _ _ hroot, follow_append] at hjoin
    obtain ⟨mid, hmid, hbelow⟩ := hjoin
    have hnames : ∀ n ∈ r.names, Path.isName n = true ∧ n ≠ ".." := fun n hn =>
      ⟨(hr.names n hn).1, fun hup => hdown (hup ▸ hn)⟩
    exact ⟨mid, hmid, (follow_names (d := d) hnames hbelow).1⟩
  obtain ⟨mid, hmid, hpl⟩ := hfollow p hp hproot hpdown hlp
  obtain ⟨mid', hmid', hql⟩ := hfollow q hq hqroot hqdown hlq
  obtain rfl : mid = mid' := Except.ok.inj (hmid.symm.trans hmid')
  exact List.reverse_injective (List.append_cancel_right (hpl.symm.trans hql))

end Disk

end TableScaffold
