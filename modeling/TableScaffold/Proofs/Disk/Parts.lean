import TableScaffold.Template.Library

/-!
# The parts of a path

A text is cut into parts at its slashes. A path that was read from a text can be read again from its
own text: the last part of the text is the last name of the path, and a template file has the parts of
its directory in front of its own.
-/

namespace TableScaffold.Path

/-! ## The last part -/

/-- What follows the last slash of a text. -/
def lastPart (cs : List Char) : List Char := (cs.reverse.takeWhile (· != '/')).reverse

theorem lastPart_append {suffix : List Char} (h : '/' ∉ suffix) (cs : List Char) :
    lastPart (cs ++ suffix) = lastPart cs ++ suffix := by
  have hall : ∀ c ∈ suffix.reverse, (c != '/') = true := by
    intro c hc
    have hmem : c ∈ suffix := List.mem_reverse.mp hc
    simp only [bne_iff_ne, ne_eq]
    rintro rfl
    exact h hmem
  unfold lastPart
  rw [List.reverse_append, List.takeWhile_append_of_pos hall, List.reverse_append,
    List.reverse_reverse]

theorem slash_not_mem_lastPart (cs : List Char) : '/' ∉ lastPart cs := by
  intro h
  have hall := List.all_eq_true.mp (List.all_takeWhile (p := (· != '/')) (l := cs.reverse))
  simpa using hall '/' (List.mem_reverse.mp h)

/-- A text is its last part, or it has a slash in front of that. -/
theorem eq_lastPart_or (cs : List Char) :
    cs = lastPart cs ∨ ∃ front, cs = front ++ '/' :: lastPart cs := by
  have hsplit := List.takeWhile_append_dropWhile (p := (· != '/')) (l := cs.reverse)
  have hcs : cs = (cs.reverse.dropWhile (· != '/')).reverse ++ lastPart cs := by
    rw [lastPart, ← List.reverse_append, hsplit, List.reverse_reverse]
  cases hrest : cs.reverse.dropWhile (· != '/') with
  | nil =>
    rw [hrest] at hcs
    exact Or.inl hcs
  | cons c rest =>
    have hc : c = '/' := by
      have := List.head?_dropWhile_not (· != '/') cs.reverse
      rw [hrest] at this
      simpa using this
    rw [hrest, hc, List.reverse_cons, List.append_assoc] at hcs
    exact Or.inr ⟨rest.reverse, hcs⟩

theorem getLast?_splitOn (cs : List Char) : (cs.splitOn '/').getLast? = some (lastPart cs) := by
  have hsingle : (lastPart cs).splitOn '/' = [lastPart cs] :=
    List.splitOn_eq_singleton (slash_not_mem_lastPart cs)
  rcases eq_lastPart_or cs with h | ⟨front, h⟩
  · rw [← h] at hsingle
    rw [hsingle, ← h]
    rfl
  · rw [h, List.splitOn_append_cons_self, ← h, hsingle, List.getLast?_append]
    rfl

theorem lastPart_slash (front cs : List Char) : lastPart (front ++ '/' :: cs) = lastPart cs := by
  have h := getLast?_splitOn (front ++ '/' :: cs)
  rw [List.splitOn_append_cons_self, List.getLast?_append, getLast?_splitOn] at h
  exact (Option.some.inj h).symm

theorem slash_not_mem_splitOn {cs part : List Char} (h : part ∈ cs.splitOn '/') : '/' ∉ part := by
  induction cs generalizing part with
  | nil =>
    rw [List.splitOn_nil, List.mem_singleton] at h
    simp [h]
  | cons c cs ih =>
    rw [List.splitOn_cons_eq_if_modifyHead] at h
    split at h
    · rcases List.mem_cons.mp h with rfl | h
      · exact List.not_mem_nil
      · exact ih h
    · next hc =>
      obtain ⟨first, others, hcut⟩ := List.exists_cons_of_ne_nil (List.splitOn_ne_nil '/' cs)
      rw [hcut] at h ih
      rcases List.mem_cons.mp h with rfl | h
      · have hfirst := ih List.mem_cons_self
        intro hmem
        rcases List.mem_cons.mp hmem with heq | hmem
        · exact hc (by simp [← heq])
        · exact hfirst hmem
      · exact ih (List.mem_cons_of_mem _ h)

theorem slash_not_mem_parts {text part : String} (h : part ∈ parts text) :
    '/' ∉ part.toList := by
  obtain ⟨cs, hcs, rfl⟩ := List.mem_map.mp h
  rw [String.toList_ofList]
  exact slash_not_mem_splitOn hcs

theorem parts_ne_nil (text : String) : parts text ≠ [] := by
  simp [parts, List.splitOn_ne_nil]

/-- The last part of a text. -/
theorem getLast?_parts (text : String) :
    (parts text).getLast? = some (String.ofList (lastPart text.toList)) := by
  rw [parts, List.getLast?_map, getLast?_splitOn]
  rfl

/-! ## Paths that are read from texts -/

/-- The parts of a path are names, and it starts like a path that a text stands for. -/
structure Sound (p : Path) : Prop where
  root : p.root = "" ∨ p.root = "/" ∨ p.root = "//"
  names : ∀ n ∈ p.names, isName n = true ∧ '/' ∉ n.toList

theorem sound_ofText (text : String) : (ofText text).Sound where
  root := by
    unfold ofText rootOf
    dsimp only
    split <;> simp
  names n hn := by
    have hmem := List.mem_filter.mp hn
    exact ⟨hmem.2, slash_not_mem_parts hmem.1⟩

theorem Sound.join {p q : Path} (hp : p.Sound) (hq : q.Sound) : (p.join q).Sound := by
  unfold Path.join
  split
  · refine ⟨hp.root, fun n hn => ?_⟩
    rcases List.mem_append.mp hn with hn | hn
    · exact hp.names n hn
    · exact hq.names n hn
  · exact hq

/-- The last name of a joined path is that of its second part. -/
theorem getLast?_join (p : Path) {q : Path} {n : String} (h : q.names.getLast? = some n) :
    (p.join q).names.getLast? = some n := by
  unfold Path.join
  split
  · rw [List.getLast?_append, h]
    rfl
  · exact h

/-- The parts of names with slashes between them are the names. -/
theorem splitOn_names {names : List String} (hne : names ≠ [])
    (h : ∀ n ∈ names, '/' ∉ n.toList) :
    ("/".intercalate names).toList.splitOn '/' = names.map String.toList := by
  rw [String.toList_intercalate]
  refine List.splitOn_intercalate '/' (fun cs hcs => ?_) (by simpa using hne)
  obtain ⟨n, hn, rfl⟩ := List.mem_map.mp hcs
  exact h n hn

/-- The last part of a path's text is its last name. -/
theorem Sound.getLast?_parts {p : Path} (hp : p.Sound) {n : String}
    (hn : p.names.getLast? = some n) : (parts p.text).getLast? = some n := by
  have hne : p.names ≠ [] := by
    rintro h
    rw [h] at hn
    cases hn
  have htext : p.text = p.root ++ "/".intercalate p.names := by
    simp [text, hne]
  have hnames : lastPart ("/".intercalate p.names).toList = n.toList := by
    have h := getLast?_splitOn ("/".intercalate p.names).toList
    rw [splitOn_names hne fun m hm => (hp.names m hm).2, List.getLast?_map, hn] at h
    exact (Option.some.inj h).symm
  have hroot : lastPart p.text.toList = n.toList := by
    rw [htext, String.toList_append]
    rcases hp.root with h | h | h
    · rw [h]
      exact hnames
    · rw [h]
      exact (lastPart_slash [] _).trans hnames
    · rw [h]
      exact (lastPart_slash ['/'] _).trans hnames
  rw [Path.getLast?_parts, hroot, String.ofList_toList]

theorem Sound.text_ne_empty {p : Path} (hp : p.Sound) : p.text ≠ "" := by
  intro h
  cases hnames : p.names.getLast? with
  | none =>
    have hnil : p.names = [] := List.getLast?_eq_none_iff.mp hnames
    rcases hp.root with hroot | hroot | hroot <;> simp [text, hnil, hroot] at h
  | some n =>
    have hempty : (parts p.text).getLast? = some "" := by
      rw [h]
      rfl
    rw [hp.getLast?_parts hnames] at hempty
    have hname := (hp.names n (List.mem_of_getLast? hnames)).1
    rw [Option.some.inj hempty] at hname
    exact absurd hname (by decide)

/-- The parts of a file in a directory. -/
theorem parts_below (directory : String) {names : List String}
    (h : ∀ n ∈ names, '/' ∉ n.toList) :
    parts ("/".intercalate (directory :: names)) = parts directory ++ names := by
  cases names with
  | nil => simp
  | cons n names =>
    have hcut := splitOn_names (List.cons_ne_nil n names) h
    rw [String.intercalate_cons_cons, parts, String.toList_append, String.toList_append]
    show ((directory.toList ++ ['/'] ++ _).splitOn '/').map _ = _
    rw [List.append_assoc, List.singleton_append, List.splitOn_append_cons_self, hcut,
      List.map_append, List.map_map]
    simp [parts, Function.comp_def]

end TableScaffold.Path
