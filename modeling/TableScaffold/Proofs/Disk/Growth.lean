import TableScaffold.Proofs.Disk.Parts

/-!
# Growing disks

Work on a disk adds directories and writes files. `Grown targets before after` says that nothing else
has happened: every directory is still there, and beside the files that `targets` lead to nothing is
changed, except that there may be new directories.

1. A path that leads somewhere leads to the same place on a grown disk.
2. New directories and written files make a disk grow.
3. A file that is written again with its content leaves a disk that looks the same.
4. `library_eq_of_grown`: the templates of a directory stay what they are, as long as their files are
   not among the targets.
-/

namespace TableScaffold.Disk

variable {d d' d'' : Disk}

/-! ## Where parts lead -/

/-- Where one part of a path leads from a location. -/
def stepTo (loc : Location) (part : String) : Location :=
  if part = "" || part = "." then loc else if part = ".." then loc.tail else part :: loc

theorem follow_cons_eq_ok {loc l : Location} {part : String} {rest : List String} :
    d.follow loc (part :: rest) = .ok l ↔
      d.node? loc = some .directory ∧ part.utf8ByteSize ≤ nameLimit ∧
        d.follow (stepTo loc part) rest = .ok l := by
  rw [follow]
  unfold stepTo
  cases hnode : d.node? loc with
  | none => simp
  | some node =>
    cases node with
    | file content => simp
    | directory =>
      by_cases hdot : part = "" ∨ part = "."
      · have hsize : part.utf8ByteSize ≤ nameLimit := by
          rcases hdot with rfl | rfl <;> decide
        simp [hdot, hsize]
      by_cases hup : part = ".."
      · subst hup
        have hsize : "..".utf8ByteSize ≤ nameLimit := by decide
        simp [hsize]
      by_cases hsize : nameLimit < part.utf8ByteSize
      · simp [hdot, hup, hsize, Nat.not_le.mpr hsize]
      · simp [hdot, hup, hsize, Nat.le_of_not_lt hsize]

/-- A name that counts leads down. -/
theorem stepTo_name {loc : Location} {n : String} (hn : Path.isName n = true) (hup : n ≠ "..") :
    stepTo loc n = n :: loc := by
  have hdot : ¬ (n = "" ∨ n = ".") := by
    simpa [Path.isName] using hn
  simp [stepTo, hdot, hup]

theorem follow_append {loc : Location} (ps : List String) {qs : List String} {l : Location} :
    d.follow loc (ps ++ qs) = .ok l ↔ ∃ mid, d.follow loc ps = .ok mid ∧ d.follow mid qs = .ok l := by
  induction ps generalizing loc with
  | nil => simp [follow]
  | cons p ps ih =>
    rw [List.cons_append, follow_cons_eq_ok, ih]
    simp only [follow_cons_eq_ok]
    grind

/-- What lies at a location, and else its directory, is there. -/
def Reachable (d : Disk) (loc : Location) : Prop :=
  d.node? loc ≠ none ∨ ∃ name parent, loc = name :: parent ∧ d.node? parent = some .directory

theorem reachable_stepTo {loc : Location} (h : d.node? loc = some .directory) (part : String) :
    d.Reachable (stepTo loc part) := by
  unfold stepTo
  split
  · exact Or.inl (by simp [h])
  split
  · cases loc with
    | nil => exact Or.inl (by simp [node?, nodeAt])
    | cons name parent =>
      have hparent : d.node? parent = some .directory :=
        d.connected name parent (by rw [node?] at h; simp [h])
      exact Or.inl (by simp [hparent])
  · exact Or.inr ⟨part, loc, rfl, h⟩

theorem reachable_follow {loc l : Location} {part : String} {rest : List String}
    (h : d.follow loc (part :: rest) = .ok l) : d.Reachable l := by
  induction rest generalizing loc part with
  | nil =>
    obtain ⟨hloc, -, hend⟩ := follow_cons_eq_ok.mp h
    cases hend
    exact reachable_stepTo hloc part
  | cons q rest ih => exact ih (follow_cons_eq_ok.mp h).2.2

/-- Where the parts of a text lead from. -/
def start (d : Disk) (path : String) : Location :=
  if path.startsWith "/" then [] else d.workingDirectory

/-- Whether a text may be a path at all. -/
def IsPath (path : String) : Prop :=
  '\x00' ∉ path.toList ∧ path.utf8ByteSize ≤ pathLimit ∧ path ≠ ""

theorem locate_eq_ok {path : String} {l : Location} :
    d.locate path = .ok l ↔ IsPath path ∧ d.follow (d.start path) (Path.parts path) = .ok l := by
  unfold locate IsPath start
  by_cases hnul : '\x00' ∈ path.toList
  · simp [hnul]
  by_cases hlong : pathLimit < path.utf8ByteSize
  · simp [hnul, hlong, Nat.not_le.mpr hlong]
  by_cases hempty : path = ""
  · subst hempty
    simp
  · simp [hnul, hempty, Nat.le_of_not_lt hlong, Nat.not_lt.mpr (Nat.le_of_not_lt hlong)]

theorem reachable_locate {path : String} {l : Location} (h : d.locate path = .ok l) :
    d.Reachable l := by
  have hfollow := (locate_eq_ok.mp h).2
  obtain ⟨part, rest, hparts⟩ := List.exists_cons_of_ne_nil (Path.parts_ne_nil path)
  rw [hparts] at hfollow
  exact reachable_follow hfollow

theorem find?_eq_some {path : String} {n : Node} :
    d.find? path = some n ↔ ∃ l, d.locate path = .ok l ∧ d.node? l = some n := by
  unfold find?
  cases d.locate path <;> simp

theorem read_eq_ok {path : String} {content : ByteArray} :
    d.read path = .ok content ↔ d.find? path = some (.file content) := by
  unfold read find?
  cases d.locate path with
  | error f => simp [bind, Except.bind]
  | ok l =>
    dsimp only [bind, Except.bind]
    cases d.node? l with
    | none => simp
    | some n => cases n <;> simp

theorem follow_of_directories
    (hdir : ∀ l, d.node? l = some .directory → d'.node? l = some .directory)
    {loc l : Location} {ps : List String} (h : d.follow loc ps = .ok l) :
    d'.follow loc ps = .ok l := by
  induction ps generalizing loc with
  | nil => exact h
  | cons p ps ih =>
    obtain ⟨hloc, hsize, hrest⟩ := follow_cons_eq_ok.mp h
    exact follow_cons_eq_ok.mpr ⟨hdir _ hloc, hsize, ih hrest⟩

/-- Where a path leads is decided by the directories on its way. -/
theorem locate_of_directories (hwd : d'.workingDirectory = d.workingDirectory)
    (hdir : ∀ l, d.node? l = some .directory → d'.node? l = some .directory)
    {path : String} {l : Location} (h : d.locate path = .ok l) : d'.locate path = .ok l := by
  obtain ⟨hpath, hfollow⟩ := locate_eq_ok.mp h
  refine locate_eq_ok.mpr ⟨hpath, ?_⟩
  rw [start, hwd]
  exact follow_of_directories hdir hfollow

/-- The location of a path ends with the path's last part, if that is a name. -/
theorem head_of_locate {path n : String} (hn : (Path.parts path).getLast? = some n)
    (hname : Path.isName n = true) (hup : n ≠ "..") {l : Location} (h : d.locate path = .ok l) :
    ∃ parent, l = n :: parent := by
  obtain ⟨front, hfront⟩ := List.getLast?_eq_some_iff.mp hn
  have hfollow := (locate_eq_ok.mp h).2
  rw [hfront, follow_append] at hfollow
  obtain ⟨mid, -, hlast⟩ := hfollow
  have hend := (follow_cons_eq_ok.mp hlast).2.2
  rw [stepTo_name hname hup] at hend
  exact ⟨mid, (Except.ok.inj hend).symm⟩

/-! ## Growth -/

/-- Whether two paths lead to one location. -/
def Joined (d : Disk) (p q : String) : Prop := ∃ l, d.locate p = .ok l ∧ d.locate q = .ok l

/-- Paths with different names at their ends lead to different places. -/
theorem not_joined {p q a : String} (hp : a ∈ (Path.parts p).getLast?)
    (ha : Path.isName a = true ∧ a ≠ "..")
    (hq : ∀ b ∈ (Path.parts q).getLast?, Path.isName b = true ∧ b ≠ ".." ∧ a ≠ b) :
    ¬ d.Joined p q := by
  rintro ⟨l, hlp, hlq⟩
  obtain ⟨b, hb⟩ := Option.ne_none_iff_exists'.mp (mt List.getLast?_eq_none_iff.mp (Path.parts_ne_nil q))
  obtain ⟨hname, hup, hne⟩ := hq b hb
  obtain ⟨x, rfl⟩ := head_of_locate hp ha.1 ha.2 hlp
  obtain ⟨y, hy⟩ := head_of_locate hb hname hup hlq
  exact hne (List.cons.inj hy).1

/-- Nothing has happened to a disk but new directories, and to the files that targets lead to. -/
structure Grown (targets : List String) (before after : Disk) : Prop where
  workingDirectory : after.workingDirectory = before.workingDirectory
  directory : ∀ l, before.node? l = some .directory → after.node? l = some .directory
  kept : ∀ l, (∀ t ∈ targets, after.locate t ≠ .ok l) →
    after.node? l = before.node? l ∨ before.node? l = none ∧ after.node? l = some .directory

namespace Grown

variable {ts us : List String}

theorem refl (ts : List String) (d : Disk) : Grown ts d d :=
  ⟨rfl, fun _ h => h, fun _ _ => Or.inl rfl⟩

theorem start (h : Grown ts d d') (path : String) : d'.start path = d.start path := by
  rw [Disk.start, Disk.start, h.workingDirectory]

/-- A path that leads somewhere leads there as before. -/
theorem locate (h : Grown ts d d') {path : String} {l : Location} (hl : d.locate path = .ok l) :
    d'.locate path = .ok l :=
  locate_of_directories h.workingDirectory h.directory hl

theorem find?_directory (h : Grown ts d d') {path : String}
    (hd : d.find? path = some .directory) : d'.find? path = some .directory := by
  obtain ⟨l, hl, hnode⟩ := find?_eq_some.mp hd
  exact find?_eq_some.mpr ⟨l, h.locate hl, h.directory l hnode⟩

theorem trans (h : Grown ts d d') (h' : Grown us d' d'') : Grown (ts ++ us) d d'' where
  workingDirectory := h'.workingDirectory.trans h.workingDirectory
  directory l hl := h'.directory l (h.directory l hl)
  kept l hl := by
    -- a target of the first growth leads to no other place after the second
    have hfirst : ∀ t ∈ ts, d'.locate t ≠ .ok l := fun t ht hloc =>
      hl t (List.mem_append_left _ ht) (h'.locate hloc)
    have hsecond : ∀ t ∈ us, d''.locate t ≠ .ok l := fun t ht =>
      hl t (List.mem_append_right _ ht)
    rcases h'.kept l hsecond with heq | ⟨hnone, hdir⟩
    · rw [heq]
      exact h.kept l hfirst
    · rcases h.kept l hfirst with heq | ⟨-, hd'⟩
      · exact Or.inr ⟨heq.symm.trans hnone, hdir⟩
      · rw [hnone] at hd'
        cases hd'

theorem mono (h : Grown ts d d') (hsub : ts ⊆ us) : Grown us d d' :=
  ⟨h.workingDirectory, h.directory, fun l hl => h.kept l fun t ht => hl t (hsub ht)⟩

/-- Two growths with targets among given ones. -/
theorem comp (h : Grown ts d d') (h' : Grown ts d' d'') : Grown ts d d'' :=
  (h.trans h').mono (by simp)

/-- A file that no target leads to is there as it was. -/
theorem file_iff (h : Grown ts d d') {l : Location} (hl : ∀ t ∈ ts, d'.locate t ≠ .ok l)
    (content : ByteArray) :
    d'.node? l = some (.file content) ↔ d.node? l = some (.file content) := by
  rcases h.kept l hl with heq | ⟨hnone, hdir⟩
  · rw [heq]
  · rw [hnone, hdir]
    simp

theorem find?_file (h : Grown ts d d') {path : String} {content : ByteArray}
    (hpath : ∀ t ∈ ts, ¬ d'.Joined path t) (hfile : d.find? path = some (.file content)) :
    d'.find? path = some (.file content) := by
  obtain ⟨l, hl, hnode⟩ := find?_eq_some.mp hfile
  refine find?_eq_some.mpr ⟨l, h.locate hl, ?_⟩
  exact (h.file_iff (fun t ht htl => hpath t ht ⟨l, h.locate hl, htl⟩) content).mpr hnode

end Grown

/-! ## What makes a disk grow -/

theorem makeDirectory_ok {path : String} (h : d.makeDirectory path = .ok d') :
    Grown [] d d' ∧ d'.find? path = some .directory := by
  unfold makeDirectory at h
  cases hloc : d.locate path with
  | error f =>
    rw [hloc] at h
    cases h
  | ok l =>
    rw [hloc] at h
    dsimp only [bind, Except.bind] at h
    split at h
    · cases h
    · next hnone =>
      cases h
      obtain ⟨name, parent, rfl, hparent⟩ := (reachable_locate hloc).resolve_left (by simp [hnone])
      have hnode := fun l => node?_addDirectory d name parent l hparent hnone
      have hgrown : Grown [] d (d.addDirectory (name :: parent)) := by
        refine ⟨?_, fun l hl => ?_, fun l _ => ?_⟩
        · rw [addDirectory, dif_pos ⟨hparent, hnone⟩]
        · rw [hnode]
          split
          · rfl
          · exact hl
        · rw [hnode]
          split
          · next heq =>
            rw [heq]
            exact Or.inr ⟨hnone, rfl⟩
          · exact Or.inl rfl
      refine ⟨hgrown, find?_eq_some.mpr ⟨name :: parent, hgrown.locate hloc, ?_⟩⟩
      rw [hnode, if_pos rfl]

/-- A file that can be written lies in a directory. -/
theorem write_ok {path : String} {content : ByteArray} (h : d.write path content = .ok d') :
    Grown [path] d d' ∧ d'.find? path = some (.file content) := by
  unfold write at h
  cases hloc : d.locate path with
  | error f =>
    rw [hloc] at h
    cases h
  | ok l =>
    rw [hloc] at h
    dsimp only [bind, Except.bind] at h
    split at h
    · cases h
    · next hfile =>
      cases h
      obtain ⟨name, parent, rfl, hparent⟩ :
          ∃ name parent, l = name :: parent ∧ d.node? parent = some .directory := by
        rcases reachable_locate hloc with hnode | hparent
        · cases l with
          | nil => exact absurd rfl hfile
          | cons name parent => exact ⟨name, parent, rfl, d.connected name parent hnode⟩
        · exact hparent
      have hnode := fun l => node?_putFile d content name parent l hparent hfile
      have hdir : ∀ l, d.node? l = some .directory →
          (d.putFile content (name :: parent)).node? l = some .directory := by
        intro l hl
        rw [hnode, if_neg]
        · exact hl
        · rintro rfl
          exact hfile hl
      have hwd : (d.putFile content (name :: parent)).workingDirectory = d.workingDirectory := by
        rw [putFile, dif_pos ⟨hparent, hfile⟩]
      have hlocate := locate_of_directories hwd hdir hloc
      refine ⟨⟨hwd, hdir, fun l hl => Or.inl ?_⟩, find?_eq_some.mpr ⟨_, hlocate, ?_⟩⟩
      · rw [hnode, if_neg]
        rintro rfl
        exact hl path (List.mem_singleton_self _) hlocate
      · rw [hnode, if_pos rfl]

theorem locate_of_write {path : String} {content : ByteArray} (h : d.write path content = .ok d') :
    ∃ l, d.locate path = .ok l := by
  unfold write at h
  cases hloc : d.locate path with
  | error f =>
    rw [hloc] at h
    cases h
  | ok l => exact ⟨l, rfl⟩

/-! ## Disks that look alike -/

/-- The same lies at every location. -/
structure Same (before after : Disk) : Prop where
  workingDirectory : after.workingDirectory = before.workingDirectory
  node? : ∀ l, after.node? l = before.node? l

namespace Same

theorem refl (d : Disk) : Same d d := ⟨rfl, fun _ => rfl⟩

theorem trans (h : Same d d') (h' : Same d' d'') : Same d d'' :=
  ⟨h'.workingDirectory.trans h.workingDirectory, fun l => (h'.node? l).trans (h.node? l)⟩

theorem follow (h : Same d d') (loc : Location) (ps : List String) :
    d'.follow loc ps = d.follow loc ps := by
  induction ps generalizing loc with
  | nil => rfl
  | cons p ps ih => simp only [Disk.follow, h.node?, ih]

theorem locate (h : Same d d') (path : String) : d'.locate path = d.locate path := by
  unfold Disk.locate
  rw [h.workingDirectory, h.follow]

theorem find? (h : Same d d') (path : String) : d'.find? path = d.find? path := by
  unfold Disk.find?
  rw [h.locate]
  cases d.locate path with
  | error f => rfl
  | ok l => exact h.node? l

theorem library (h : Same d d') (directory : String) :
    d'.library directory = d.library directory := by
  have hfind : d'.find? = d.find? := funext h.find?
  unfold Disk.library
  rw [hfind]

end Same

/-- A file that is written with the content that it has stays as it is. -/
theorem write_again {path : String} {content : ByteArray}
    (h : d.find? path = some (.file content)) :
    ∃ d', d.write path content = .ok d' ∧ Same d d' := by
  obtain ⟨l, hl, hnode⟩ := find?_eq_some.mp h
  obtain ⟨name, parent, rfl⟩ : ∃ name parent, l = name :: parent := by
    cases l with
    | nil => cases hnode
    | cons name parent => exact ⟨name, parent, rfl⟩
  have hparent : d.node? parent = some .directory :=
    d.connected name parent (fun hnone => by rw [node?, hnone] at hnode; cases hnode)
  have hfile : d.node? (name :: parent) ≠ some .directory := by
    rw [hnode]
    simp
  refine ⟨d.putFile content (name :: parent), ?_, ?_, fun l => ?_⟩
  · unfold write
    rw [hl]
    dsimp only [bind, Except.bind]
    rw [hnode]
  · rw [putFile, dif_pos ⟨hparent, hfile⟩]
  · rw [node?_putFile d content name parent l hparent hfile]
    split
    · next heq => rw [heq, hnode]
    · rfl

/-! ## Template files -/

/-- Above whatever is there lie directories. -/
theorem directory_above (xs : Location) {name : String} {l : Location}
    (h : d.node? (xs ++ name :: l) ≠ none) : d.node? l = some .directory := by
  induction xs with
  | nil => exact d.connected name l h
  | cons x xs ih =>
    refine ih ?_
    have := d.connected x (xs ++ name :: l) h
    rw [node?, this]
    simp

/-- Names that count lead down to a place, and they lead there on every disk on which it is. -/
theorem follow_names {names : List String}
    (hnames : ∀ n ∈ names, Path.isName n = true ∧ n ≠ "..") {loc l : Location}
    (h : d'.follow loc names = .ok l) :
    l = names.reverse ++ loc ∧ (d.node? l ≠ none → d.follow loc names = .ok l) := by
  induction names generalizing loc with
  | nil => exact ⟨(Except.ok.inj h).symm, fun _ => h⟩
  | cons n names ih =>
    obtain ⟨-, hsize, hrest⟩ := follow_cons_eq_ok.mp h
    have hstep : stepTo loc n = n :: loc :=
      stepTo_name (hnames n List.mem_cons_self).1 (hnames n List.mem_cons_self).2
    rw [hstep] at hrest
    obtain ⟨hl, hfollow⟩ := ih (fun m hm => hnames m (List.mem_cons_of_mem _ hm)) hrest
    refine ⟨by simp [hl], fun hnode => follow_cons_eq_ok.mpr ⟨?_, hsize, ?_⟩⟩
    · rw [hl] at hnode
      exact directory_above _ hnode
    · rw [hstep]
      exact hfollow hnode

/-- A path below a directory starts where the directory does. -/
theorem start_below (d : Disk) {directory : String} (h : directory ≠ "") (names : List String) :
    d.start ("/".intercalate (directory :: names)) = d.start directory := by
  obtain ⟨c, cs, hcs⟩ : ∃ c cs, directory.toList = c :: cs :=
    List.exists_cons_of_ne_nil (by simpa using h)
  have hhead : ∃ cs', ("/".intercalate (directory :: names)).toList = c :: cs' := by
    cases names with
    | nil => exact ⟨cs, by simpa using hcs⟩
    | cons n names =>
      rw [String.intercalate_cons_cons, String.toList_append, String.toList_append, hcs]
      exact ⟨_, rfl⟩
  obtain ⟨cs', hcs'⟩ := hhead
  simp [start, hcs, hcs']

/-- The names that lead to a template file, below its directory. -/
theorem eq_of_filePath? {directory file path : String}
    (h : Template.filePath? directory file = some path) :
    ∃ names, path = "/".intercalate (directory :: names) ∧
      Path.parts path = Path.parts directory ++ names ∧
      ∀ n ∈ names, Path.isName n = true ∧ n ≠ ".." := by
  unfold Template.filePath? at h
  split at h
  · cases h
  · next hup =>
    cases h
    refine ⟨_, rfl, Path.parts_below directory fun n hn => ?_, fun n hn => ?_⟩
    · exact Path.slash_not_mem_parts (List.mem_filter.mp hn).1
    · refine ⟨(List.mem_filter.mp hn).2, ?_⟩
      rintro rfl
      exact hup (by simpa using (List.mem_filter.mp hn).1)

/-- A directory that holds some template leads somewhere. -/
theorem follow_of_library {directory file : String} (hne : directory ≠ "")
    (h : d.library directory file ≠ .error .fileMissing) :
    ∃ mid, d.follow (d.start directory) (Path.parts directory) = .ok mid := by
  unfold library at h
  split at h
  · next content hfile =>
    obtain ⟨path, hpath, hfind⟩ := Option.bind_eq_some_iff.mp hfile
    obtain ⟨names, rfl, hparts, -⟩ := eq_of_filePath? hpath
    obtain ⟨l, hl, -⟩ := find?_eq_some.mp hfind
    have hfollow := (locate_eq_ok.mp hl).2
    rw [hparts, d.start_below hne, follow_append] at hfollow
    obtain ⟨mid, hmid, -⟩ := hfollow
    exact ⟨mid, hmid⟩
  · exact absurd rfl h

/-- A template of a directory stays what it is on a grown disk, unless its file is a target. The
directory must hold some template: else it may be that a new directory leads to it. -/
theorem library_eq_of_grown {ts : List String} (h : Grown ts d d') {directory file known : String}
    (hne : directory ≠ "") (hknown : d.library directory known ≠ .error .fileMissing)
    (hapart : ∀ path, Template.filePath? directory file = some path →
      ∀ t ∈ ts, ¬ d'.Joined path t) :
    d'.library directory file = d.library directory file := by
  unfold library
  cases hpath : Template.filePath? directory file with
  | none => rfl
  | some path =>
    have hfile : ∀ content,
        d'.find? path = some (.file content) ↔ d.find? path = some (.file content) := by
      refine fun content => ⟨fun hfind => ?_, h.find?_file (hapart path hpath)⟩
      obtain ⟨l, hl, hnode⟩ := find?_eq_some.mp hfind
      have hnode' := (h.file_iff (fun t ht htl => hapart path hpath t ht ⟨l, hl, htl⟩) content).mp
        hnode
      obtain ⟨hvalid, hfollow⟩ := locate_eq_ok.mp hl
      obtain ⟨names, rfl, hparts, hnames⟩ := eq_of_filePath? hpath
      obtain ⟨mid, hmid⟩ := follow_of_library hne hknown
      refine find?_eq_some.mpr ⟨l, locate_eq_ok.mpr ⟨hvalid, ?_⟩, hnode'⟩
      rw [hparts, start_below _ hne, follow_append] at hfollow ⊢
      obtain ⟨mid', hmid', hbelow⟩ := hfollow
      have hsame : mid' = mid := by
        have := follow_of_directories h.directory hmid
        rw [← h.start, hmid'] at this
        exact Except.ok.inj this
      rw [hsame] at hbelow
      exact ⟨mid, hmid, (follow_names hnames hbelow).2 (by simp [hnode'])⟩
    simp only [Option.bind_some]
    split
    · next content hfind => rw [(hfile content).mp hfind]
    · next hno =>
      split
      · next content hfind => exact absurd ((hfile content).mpr hfind) (hno content)
      · rfl

end TableScaffold.Disk
