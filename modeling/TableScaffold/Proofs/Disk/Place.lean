import Mathlib.Data.List.Infix
import TableScaffold.Proofs.Disk.Joined

/-!
# Places of paths

The place of a path is where its names lead, each `..` back to the directory in front of it, whether or
not all of that is there yet. What a path leads to lies at its place, and without `..` whatever lies
there is what the path leads to (`find?_eq_place`). A path that leads nowhere ends at a file, or too
early (`follow_error`).
-/

namespace TableScaffold

namespace Path

variable {p q : Path}

/-- The paths that a path leads through from its start on, and the path itself. -/
def through (p : Path) : List Path := p.names.inits.map (Path.mk p.root)

theorem mem_through : q ∈ p.through ↔ q.root = p.root ∧ q.names <+: p.names := by
  unfold through
  rw [List.mem_map]
  constructor
  · rintro ⟨names, hnames, rfl⟩
    exact ⟨rfl, (List.mem_inits _ _).mp hnames⟩
  · rintro ⟨hroot, hnames⟩
    exact ⟨q.names, (List.mem_inits _ _).mpr hnames, by rw [← hroot]⟩

theorem mem_through_self (p : Path) : p ∈ p.through := mem_through.mpr ⟨rfl, List.prefix_rfl⟩

theorem mem_through_trans {r : Path} (hr : r ∈ q.through) (hq : q ∈ p.through) : r ∈ p.through := by
  rw [mem_through] at *
  exact ⟨hr.1.trans hq.1, hr.2.trans hq.2⟩

theorem Sound.of_mem_through (hp : p.Sound) (hq : q ∈ p.through) : q.Sound := by
  obtain ⟨hroot, hnames⟩ := mem_through.mp hq
  exact ⟨hroot ▸ hp.root, fun n hn => hp.names n (hnames.subset hn)⟩

/-- What stands in front of the names in the text of a path leads nowhere. -/
theorem Sound.exists_parts (hp : p.Sound) :
    ∃ front, parts p.text = front ++ p.names ∧ ∀ part ∈ front, part = "" ∨ part = "." := by
  obtain ⟨root, names⟩ := p
  have hroot : root = "" ∨ root = "/" ∨ root = "//" := hp.root
  cases names with
  | nil =>
    rcases hroot with rfl | rfl | rfl
    · exact ⟨["."], by decide +kernel, by decide⟩
    · exact ⟨["", ""], by decide +kernel, by decide⟩
    · exact ⟨["", "", ""], by decide +kernel, by decide⟩
  | cons n ns =>
    have htext : (⟨root, n :: ns⟩ : Path).text = root ++ "/".intercalate (n :: ns) := by simp [text]
    have hparts : parts ("/".intercalate (n :: ns)) = n :: ns := by
      rw [parts, splitOn_names (List.cons_ne_nil n ns) fun m hm => (hp.names m hm).2, List.map_map]
      simp [Function.comp_def]
    have hslash : ∀ text : String, parts ("/" ++ text) = "" :: parts text := by
      intro text
      have h := parts_slash "" text
      rwa [String.empty_append] at h
    rw [htext]
    rcases hroot with rfl | rfl | rfl
    · exact ⟨[], by rw [String.empty_append, hparts]; rfl, by decide⟩
    · exact ⟨[""], by rw [hslash, hparts]; rfl, by decide⟩
    · have htwo : "//" ++ "/".intercalate (n :: ns) = "/" ++ ("/" ++ "/".intercalate (n :: ns)) := by
        rw [← String.toList_inj]
        simp
      exact ⟨["", ""], by rw [htwo, hslash, hslash, hparts]; rfl, by decide⟩

/-- Names that go on make a longer text. -/
theorem intercalate_append (names rest : List String) :
    ∃ tail, "/".intercalate (names ++ rest) = "/".intercalate names ++ tail := by
  induction names with
  | nil => exact ⟨"/".intercalate rest, by simp⟩
  | cons n names ih =>
    obtain ⟨tail, htail⟩ := ih
    cases names with
    | nil =>
      cases rest with
      | nil => exact ⟨"", by simp⟩
      | cons m rest => exact ⟨"/" ++ "/".intercalate (m :: rest), by simp [String.append_assoc]⟩
    | cons m names =>
      refine ⟨tail, ?_⟩
      rw [List.cons_append, List.cons_append, String.intercalate_cons_cons, ← List.cons_append, htail,
        String.intercalate_cons_cons]
      simp only [String.append_assoc]

/-- The text of a path starts with that of a path that it leads through. -/
theorem text_of_mem_through (hq : q ∈ p.through) : q.text = "." ∨ ∃ tail, p.text = q.text ++ tail := by
  obtain ⟨root, names⟩ := q
  obtain ⟨rfl, rest, hnames⟩ := mem_through.mp hq
  by_cases hdot : p.root = "" ∧ names = []
  · exact .inl (by simp [text, hdot])
  · obtain ⟨tail, htail⟩ := intercalate_append names rest
    refine .inr ⟨tail, ?_⟩
    have hp : ¬ (p.root = "" ∧ p.names = []) := fun h =>
      hdot ⟨h.1, (List.append_eq_nil_iff.mp (hnames.trans h.2)).1⟩
    have hq : ¬ (p.root = "" && names.isEmpty) = true := by simpa using hdot
    have hp : ¬ (p.root = "" && p.names.isEmpty) = true := by simpa using hp
    rw [text, text, if_neg hp, if_neg hq, ← hnames, htail, String.append_assoc]

instance (text : String) : Decidable (Disk.IsPath text) :=
  inferInstanceAs (Decidable (_ ∧ _ ∧ _))

/-- A path is within the limits of a disk. -/
structure Fits (p : Path) : Prop where
  text : Disk.IsPath p.text
  names : ∀ n ∈ p.names, n.utf8ByteSize ≤ Disk.nameLimit

instance (p : Path) : Decidable p.Fits :=
  decidable_of_iff (Disk.IsPath p.text ∧ ∀ n ∈ p.names, n.utf8ByteSize ≤ Disk.nameLimit)
    ⟨fun h => ⟨h.1, h.2⟩, fun h => ⟨h.1, h.2⟩⟩

theorem isPath_of_mem_through (hp : p.Sound) (hpath : Disk.IsPath p.text) (hq : q ∈ p.through) :
    Disk.IsPath q.text := by
  rcases text_of_mem_through hq with hdot | ⟨tail, htail⟩
  · rw [hdot]
    decide
  · obtain ⟨hnul, hsize, -⟩ := hpath
    rw [htail, String.toList_append, List.mem_append] at hnul
    rw [htail, String.utf8ByteSize_append] at hsize
    exact ⟨fun h => hnul (.inl h), by omega, (hp.of_mem_through hq).text_ne_empty⟩

theorem Fits.of_mem_through (hp : p.Sound) (hfits : p.Fits) (hq : q ∈ p.through) : q.Fits :=
  ⟨isPath_of_mem_through hp hfits.text hq, fun n hn =>
    hfits.names n ((mem_through.mp hq).2.subset hn)⟩

end Path

namespace Disk

variable {d : Disk} {loc l : Location} {names : List String}

/-! ## Where names lead -/

/-- Where names lead from a location, if all that they lead through is there. -/
def reach (loc : Location) (names : List String) : Location := names.foldl stepTo loc

/-- Where a path leads, if all that it leads through is there. -/
def place (d : Disk) (p : Path) : Location := reach (d.origin p) p.names

theorem reach_cons (loc : Location) (n : String) (names : List String) :
    reach loc (n :: names) = reach (stepTo loc n) names := rfl

theorem follow_cons_of_directory {part : String} (hloc : d.node? loc = some .directory)
    (hsize : part.utf8ByteSize ≤ nameLimit) (rest : List String) :
    d.follow loc (part :: rest) = d.follow (stepTo loc part) rest := by
  rw [follow, hloc]
  unfold stepTo
  by_cases hdot : part = "" ∨ part = "."
  · simp [hdot]
  by_cases hup : part = ".."
  · simp [hup]
  · simp [hdot, hup, Nat.not_lt.mpr hsize]

/-- Parts that do not count are passed over in a directory. -/
theorem follow_front {front : List String} (hfront : ∀ part ∈ front, part = "" ∨ part = ".")
    (hloc : d.node? loc = some .directory) : d.follow loc (front ++ names) = d.follow loc names := by
  induction front with
  | nil => rfl
  | cons part front ih =>
    obtain ⟨hpart, hrest⟩ := List.forall_mem_cons.mp hfront
    have hsize : part.utf8ByteSize ≤ nameLimit := by
      rcases hpart with rfl | rfl <;> decide
    have hstay : stepTo loc part = loc := by simp [stepTo, hpart]
    rw [List.cons_append, follow_cons_of_directory hloc hsize, hstay, ih hrest]

/-- A path leads where its names lead from a directory. -/
theorem locate_text {p : Path} (hp : p.Sound) (hpath : IsPath p.text)
    (horigin : d.node? (d.origin p) = some .directory) :
    d.locate p.text = d.follow (d.origin p) p.names := by
  obtain ⟨front, hparts, hfront⟩ := hp.exists_parts
  have hfollow : d.follow (d.start p.text) (Path.parts p.text) = d.follow (d.origin p) p.names := by
    rw [start_text d hp, hparts, follow_front hfront horigin]
  cases hend : d.follow (d.origin p) p.names with
  | ok l => exact locate_eq_ok.mpr ⟨hpath, hfollow.trans hend⟩
  | error f =>
    obtain ⟨hnul, hsize, hne⟩ := hpath
    unfold locate
    simp only [List.contains_iff_mem, hnul, Nat.not_lt.mpr hsize, hne, if_false]
    exact hfollow.trans hend

/-- A path that leads somewhere leads there from a directory. -/
theorem origin_of_locate {p : Path} (hp : p.Sound) (h : d.locate p.text = .ok l) :
    d.node? (d.origin p) = some .directory := by
  have hfollow := (locate_eq_ok.mp h).2
  obtain ⟨part, rest, hparts⟩ := List.exists_cons_of_ne_nil (Path.parts_ne_nil p.text)
  rw [hparts, follow_cons_eq_ok, start_text d hp] at hfollow
  exact hfollow.1

theorem follow_eq_reach (h : d.follow loc names = .ok l) : l = reach loc names := by
  induction names generalizing loc with
  | nil => exact (Except.ok.inj h).symm
  | cons n names ih => exact ih (follow_cons_eq_ok.mp h).2.2

/-- What a path leads to lies at its place. -/
theorem place_of_locate {p : Path} (hp : p.Sound) (h : d.locate p.text = .ok l) : l = d.place p :=
  follow_eq_reach (follow_of_locate hp h)

theorem reach_names (hnames : ∀ n ∈ names, Path.isName n = true ∧ n ≠ "..") :
    reach loc names = names.reverse ++ loc := by
  induction names generalizing loc with
  | nil => rfl
  | cons n names ih =>
    obtain ⟨⟨hname, hup⟩, hrest⟩ := List.forall_mem_cons.mp hnames
    rw [reach_cons, stepTo_name hname hup, ih hrest]
    simp

/-- Names lead down to whatever lies at their place. -/
theorem follow_reach (hnames : ∀ n ∈ names, Path.isName n = true ∧ n ≠ "..")
    (hsizes : ∀ n ∈ names, n.utf8ByteSize ≤ nameLimit) (hnode : d.node? (reach loc names) ≠ none) :
    d.follow loc names = .ok (reach loc names) := by
  induction names generalizing loc with
  | nil => rfl
  | cons n names ih =>
    obtain ⟨⟨hname, hup⟩, hrest⟩ := List.forall_mem_cons.mp hnames
    obtain ⟨hsize, hsizes⟩ := List.forall_mem_cons.mp hsizes
    rw [reach_cons, stepTo_name hname hup] at hnode ⊢
    refine follow_cons_eq_ok.mpr ⟨?_, hsize, ?_⟩
    · rw [reach_names hrest] at hnode
      exact directory_above _ hnode
    · rw [stepTo_name hname hup]
      exact ih hrest hsizes hnode

/-- A path without `..` leads to what lies at its place. -/
theorem find?_eq_place {p : Path} (hp : p.Sound) (hfits : p.Fits) (hdown : ".." ∉ p.names)
    (horigin : d.node? (d.origin p) = some .directory) : d.find? p.text = d.node? (d.place p) := by
  have hnames : ∀ n ∈ p.names, Path.isName n = true ∧ n ≠ ".." := fun n hn =>
    ⟨(hp.names n hn).1, fun hup => hdown (hup ▸ hn)⟩
  cases hnode : d.node? (d.place p) with
  | none =>
    by_contra hfind
    obtain ⟨n, hn⟩ := Option.ne_none_iff_exists'.mp hfind
    obtain ⟨l, hl, hlnode⟩ := find?_eq_some.mp hn
    rw [place_of_locate hp hl, hnode] at hlnode
    cases hlnode
  | some n =>
    refine find?_eq_some.mpr ⟨d.place p, ?_, hnode⟩
    rw [locate_text hp hfits.text horigin]
    exact follow_reach hnames hfits.names (by rw [← place, hnode]; exact Option.some_ne_none n)

theorem Grown.origin {d' : Disk} {ts : List String} (h : Grown ts d d') (p : Path) :
    d'.origin p = d.origin p := by
  rw [Disk.origin, Disk.origin, h.workingDirectory]

theorem Grown.place {d' : Disk} {ts : List String} (h : Grown ts d d') (p : Path) :
    d'.place p = d.place p := by
  rw [Disk.place, Disk.place, h.origin]

/-! ## Ways with a file in them -/

/-- A file lies where a path leads through. -/
def Blocked (d : Disk) (p : Path) : Prop :=
  ∃ q ∈ p.through, ∃ content, d.node? (d.place q) = some (.file content)

theorem Blocked.of_mem_through {p q : Path} (hq : q ∈ p.through) (h : d.Blocked q) : d.Blocked p := by
  obtain ⟨r, hr, hfile⟩ := h
  exact ⟨r, Path.mem_through_trans hr hq, hfile⟩

/-- New directories put no file in a way and take none out of it. -/
theorem Grown.blocked_iff {d' : Disk} (h : Grown [] d d') (p : Path) : d'.Blocked p ↔ d.Blocked p := by
  simp only [Blocked, h.place, h.file_iff (fun _ ht => (nomatch ht))]

/-- A path leads to a directory through directories. -/
theorem find?_of_mem_through {p q : Path} (hp : p.Sound) (hq : q ∈ p.through)
    (h : d.find? p.text = some .directory) : d.find? q.text = some .directory := by
  obtain ⟨l, hl, hnode⟩ := find?_eq_some.mp h
  obtain ⟨hroot, rest, hrest⟩ := Path.mem_through.mp hq
  have horigin : d.origin q = d.origin p := by rw [origin, origin, hroot]
  have hfollow := follow_of_locate hp hl
  rw [← hrest, follow_append] at hfollow
  obtain ⟨mid, hmid, hend⟩ := hfollow
  have hpath := Path.isPath_of_mem_through hp (locate_eq_ok.mp hl).1 hq
  refine find?_eq_some.mpr ⟨mid, ?_, ?_⟩
  · rw [locate_text (hp.of_mem_through hq) hpath (horigin ▸ origin_of_locate hp hl), horigin, hmid]
  · cases rest with
    | nil => exact (Except.ok.inj hend) ▸ hnode
    | cons n rest => exact (follow_cons_eq_ok.mp hend).1

theorem not_blocked {p : Path} (hp : p.Sound) (h : d.find? p.text = some .directory) :
    ¬ d.Blocked p := by
  rintro ⟨q, hq, content, hfile⟩
  obtain ⟨l, hl, hnode⟩ := find?_eq_some.mp (find?_of_mem_through hp hq h)
  rw [place_of_locate (hp.of_mem_through hq) hl, hfile] at hnode
  cases hnode

/-- Without `..` a file is in the way if some path that is led through leads to it. -/
theorem blocked_iff {p : Path} (hp : p.Sound) (hfits : p.Fits) (hdown : ".." ∉ p.names)
    (horigin : d.node? (d.origin p) = some .directory) :
    d.Blocked p ↔ ∃ q ∈ p.through, ∃ content, d.find? q.text = some (.file content) := by
  have hplace : ∀ q ∈ p.through, d.find? q.text = d.node? (d.place q) := by
    intro q hq
    obtain ⟨hroot, hnames⟩ := Path.mem_through.mp hq
    refine find?_eq_place (hp.of_mem_through hq) (hfits.of_mem_through hp hq) ?_ ?_
    · exact fun hup => hdown (hnames.subset hup)
    · rwa [origin, hroot]
  constructor
  · rintro ⟨q, hq, content, hfile⟩
    exact ⟨q, hq, content, (hplace q hq).trans hfile⟩
  · rintro ⟨q, hq, content, hfile⟩
    exact ⟨q, hq, content, (hplace q hq).symm.trans hfile⟩

/-- Names that lead nowhere lead through a file, or too early to a place where nothing lies. -/
theorem follow_error {f : FileFault} (hsizes : ∀ n ∈ names, n.utf8ByteSize ≤ nameLimit)
    (h : d.follow loc names = .error f) (hf : f ≠ .notFound) :
    ∃ front, front <+: names ∧ ∃ content, d.node? (reach loc front) = some (.file content) := by
  induction names generalizing loc with
  | nil => cases h
  | cons n names ih =>
    obtain ⟨hsize, hrest⟩ := List.forall_mem_cons.mp hsizes
    cases hnode : d.node? loc with
    | none =>
      rw [follow, hnode] at h
      exact absurd (Except.error.inj h).symm hf
    | some node =>
      cases node with
      | file content => exact ⟨[], List.nil_prefix, content, hnode⟩
      | directory =>
        rw [follow_cons_of_directory hnode hsize] at h
        obtain ⟨front, hfront, hfile⟩ := ih hrest h
        exact ⟨n :: front, List.cons_prefix_cons.mpr ⟨rfl, hfront⟩, hfile⟩

/-- Where no directory can be made and none is, a file is in the way, unless a directory is missing. -/
theorem makeDirectory_error {p : Path} {f : FileFault} (hp : p.Sound) (hfits : p.Fits)
    (horigin : d.node? (d.origin p) = some .directory) (h : d.makeDirectory p.text = .error f)
    (hf : f ≠ .notFound) (hnone : d.find? p.text ≠ some .directory) : d.Blocked p := by
  unfold makeDirectory at h
  cases hloc : d.locate p.text with
  | ok l =>
    rw [hloc] at h
    dsimp only [bind, Except.bind] at h
    cases hnode : d.node? l with
    | none =>
      rw [hnode] at h
      cases h
    | some node =>
      cases node with
      | directory => exact absurd (find?_eq_some.mpr ⟨l, hloc, hnode⟩) hnone
      | file content =>
        exact ⟨p, p.mem_through_self, content, place_of_locate hp hloc ▸ hnode⟩
  | error f' =>
    rw [hloc] at h
    obtain rfl : f' = f := Except.error.inj h
    rw [locate_text hp hfits.text horigin] at hloc
    obtain ⟨front, hfront, hfile⟩ := follow_error hfits.names hloc hf
    exact ⟨⟨p.root, front⟩, Path.mem_through.mpr ⟨rfl, hfront⟩, hfile⟩

/-- No directory is missing on the way to what is made in a directory. -/
theorem makeDirectory_ne_notFound {p : Path} {front : List String} {n : String} (hp : p.Sound)
    (hfits : p.Fits) (hnames : p.names = front ++ [n])
    (h : d.find? (⟨p.root, front⟩ : Path).text = some .directory) :
    d.makeDirectory p.text ≠ .error .notFound := by
  have hq : (⟨p.root, front⟩ : Path) ∈ p.through :=
    Path.mem_through.mpr ⟨rfl, hnames ▸ List.prefix_append front [n]⟩
  have hqsound := hp.of_mem_through hq
  obtain ⟨l, hl, hnode⟩ := find?_eq_some.mp h
  have hlast : d.follow l [n] = .ok (stepTo l n) :=
    follow_cons_of_directory hnode (hfits.names n (by simp [hnames])) []
  have horigin := origin_of_locate hqsound hl
  have hloc : d.locate p.text = .ok (stepTo l n) := by
    rw [locate_text hp hfits.text horigin, hnames]
    exact (follow_append front).mpr ⟨l, follow_of_locate hqsound hl, hlast⟩
  unfold makeDirectory
  rw [hloc]
  dsimp only [bind, Except.bind]
  cases d.node? (stepTo l n) <;> exact fun h => nomatch h

end Disk

end TableScaffold
