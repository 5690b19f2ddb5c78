import TableScaffold.Host
import TableScaffold.Proofs.Disk.Faults

/-!
# Work on a machine

Work on a machine has a result and leaves a machine behind; the notices on the way change neither.
Each thing that a program may do has its equation here. Directories are made where none are, all those
that they lie in first. A file gets its content, or the front of it where the device breaks off
(`stored_write`).
-/

namespace TableScaffold

variable {ε α β : Type}

/-! ## Results -/

namespace OnMachine

/-- The result of work on a machine, and the machine that it leaves behind. -/
def result (x : OnMachine α) (m : Machine) : α × Machine := (x.run m).value

@[simp] theorem result_pure (a : α) (m : Machine) : result (pure a) m = (a, m) := rfl

@[simp] theorem result_bind (x : OnMachine α) (f : α → OnMachine β) (m : Machine) :
    result (x >>= f) m = result (f (result x m).1) (result x m).2 := rfl

@[simp] theorem result_map (f : α → β) (x : OnMachine α) (m : Machine) :
    result (f <$> x) m = (f (result x m).1, (result x m).2) := rfl

@[simp] theorem result_note (n : Notice) (m : Machine) :
    result (Host.note n) m = ((), m) := rfl

@[simp] theorem result_isDirectory (path : String) (m : Machine) :
    result (Host.isDirectory path) m = (m.disk.find? path == some .directory, m) := rfl

@[simp] theorem result_isThere (path : String) (m : Machine) :
    result (Host.isThere path) m = ((m.disk.find? path).isSome, m) := rfl

@[simp] theorem result_environment (name : String) (m : Machine) :
    result (Host.environment name) m = (m.environment.lookup name, m) := rfl

@[simp] theorem result_read (path : String) (m : Machine) :
    result (Host.read path) m = (m.disk.read path, m) := rfl

theorem result_change (work : Disk → Except FileFault Disk) (m : Machine) :
    result (change work) m =
      match work m.disk with
      | .ok disk => (.ok (), { m with disk })
      | .error f => (.error f, m) := by
  show result (get >>= fun machine => _) m = _
  rw [result_bind]
  show result (match work m.disk with
    | .ok disk => _
    | .error f => _) m = _
  cases work m.disk <;> rfl

@[simp] theorem result_makeDirectory (path : String) (m : Machine) :
    result (Host.makeDirectory path) m =
      match m.disk.makeDirectory path with
      | .ok disk => (.ok (), { m with disk })
      | .error f => (.error f, m) := result_change _ m

@[simp] theorem result_write (path : String) (content : ByteArray) (m : Machine) :
    result (Host.write path content) m =
      match m.cut? path content with
      | none => result (change (·.write path content)) m
      | some (taken, f) =>
        ((result (change (·.write path (content.extract 0 taken))) m).1.bind fun _ => .error f.fault,
          (result (change (·.write path (content.extract 0 taken))) m).2) := by
  have hget : result (get : OnMachine Machine) m = (m, m) := rfl
  show result (store path content) m = _
  unfold store
  rw [result_bind, hget]
  dsimp only
  cases m.cut? path content <;> rfl

/-- An attempt changes nothing on a machine. -/
@[simp] theorem result_attempt (x : Attempt ε α) (m : Machine) :
    result (Host.attempt x) m = (x.outcome, m) := by
  have hnotices : ∀ notices : List Notice,
      (result (notices.forM Host.note) m).2 = m := by
    intro notices
    induction notices with
    | nil => rfl
    | cons n notices ih => exact ih
  unfold Host.attempt
  rw [result_bind, hnotices]
  rfl

/-- The outcome of work that may fail, and the machine that it leaves behind. -/
def outcome (x : ExceptT ε OnMachine α) (m : Machine) : Except ε α × Machine := result x.run m

@[simp] theorem outcome_pure (a : α) (m : Machine) :
    outcome (pure a : ExceptT ε OnMachine α) m = (.ok a, m) := rfl

@[simp] theorem outcome_throw (e : ε) (m : Machine) :
    outcome (throw e : ExceptT ε OnMachine α) m = (.error e, m) := rfl

@[simp] theorem outcome_mk (x : OnMachine (Except ε α)) (m : Machine) :
    outcome (ExceptT.mk x) m = result x m := rfl

/-- Work that does not fail is followed by what its result leads to. -/
@[simp] theorem outcome_liftM_bind (x : OnMachine α) (f : α → ExceptT ε OnMachine β) (m : Machine) :
    outcome (liftM x >>= f) m = outcome (f (result x m).1) (result x m).2 := rfl

theorem outcome_bind (x : ExceptT ε OnMachine α) (f : α → ExceptT ε OnMachine β) (m : Machine) :
    outcome (x >>= f) m =
      match outcome x m with
      | (.ok a, m') => outcome (f a) m'
      | (.error e, m') => (.error e, m') := by
  show result (x.run >>= ExceptT.bindCont f) m = _
  rw [result_bind]
  unfold outcome
  rcases result x.run m with ⟨e | a, m'⟩ <;> rfl

end OnMachine

/-! ## Growth -/

/-- Nothing has happened to a machine but that its disk has grown. -/
structure Machine.Grown (targets : List String) (before after : Machine) : Prop where
  environment : after.environment = before.environment
  device : after.device = before.device
  disk : before.disk.Grown targets after.disk

/-- The environment and the device are the same, and the same lies everywhere on the disk. -/
structure Machine.Same (before after : Machine) : Prop where
  environment : after.environment = before.environment
  device : after.device = before.device
  disk : before.disk.Same after.disk

/-- The file at a path holds a content, of which the device takes all. -/
structure Machine.Holds (m : Machine) (path : String) (content : ByteArray) : Prop where
  file : m.disk.find? path = some (.file content)
  whole : m.cut? path content = none

namespace Machine

variable {ts us : List String} {m m' m'' : Machine} {path : String} {content : ByteArray}

theorem cut?_eq {l : Location} (h : m.disk.locate path = .ok l) (content : ByteArray) :
    m.cut? path content = m.device l content := by
  unfold cut?
  rw [h]
  rfl

namespace Grown

theorem refl (ts : List String) (m : Machine) : Grown ts m m :=
  ⟨rfl, rfl, Disk.Grown.refl ts m.disk⟩

theorem comp (h : Grown ts m m') (h' : Grown ts m' m'') : Grown ts m m'' :=
  ⟨h'.environment.trans h.environment, h'.device.trans h.device, h.disk.comp h'.disk⟩

theorem mono (h : Grown ts m m') (hsub : ts ⊆ us) : Grown us m m' :=
  ⟨h.environment, h.device, h.disk.mono hsub⟩

/-- A path that leads to a file leads to the same place later, where the device does the same. -/
theorem cut? (h : Grown ts m m') {l : Location} (hl : m.disk.locate path = .ok l) :
    m'.cut? path content = m.cut? path content := by
  rw [cut?_eq hl, cut?_eq (h.disk.locate hl), h.device]

end Grown

namespace Same

theorem refl (m : Machine) : Same m m := ⟨rfl, rfl, .refl m.disk⟩

theorem trans (h : Same m m') (h' : Same m' m'') : Same m m'' :=
  ⟨h'.environment.trans h.environment, h'.device.trans h.device, h.disk.trans h'.disk⟩

end Same

namespace Holds

theorem same (h : m.Holds path content) (hsame : Same m m') : m'.Holds path content := by
  refine ⟨(hsame.disk.find? path).trans h.file, ?_⟩
  have hwhole := h.whole
  unfold cut? at hwhole ⊢
  rwa [hsame.disk.locate, hsame.device]

/-- A file keeps its content while other files are written. -/
theorem grown (h : m.Holds path content) (hgrown : Grown ts m m')
    (hapart : ∀ t ∈ ts, ¬ m'.disk.Joined path t) : m'.Holds path content := by
  obtain ⟨l, hl, -⟩ := Disk.find?_eq_some.mp h.file
  exact ⟨hgrown.disk.find?_file hapart h.file, (hgrown.cut? hl).trans h.whole⟩

end Holds

end Machine

/-! ## Making directories -/

namespace Host

open OnMachine

variable {m : Machine} {path : String}

/-- How making the directory of a path ends. -/
structure Settled (path : String) (before : Machine) (ending : Except FileError Unit × Machine) :
    Prop where
  grown : Machine.Grown [] before ending.2
  made : ending.1 = .ok () → ending.2.disk.find? path = some .directory
  /-- A path that holds the NUL character has a fault of its own. -/
  fault : ∀ e, ending.1 = .error e → (e.fault = .nulInPath ↔ nul ∈ path.toList)
  /-- A directory that is there stays as it is. -/
  there : before.disk.find? path = some .directory → ending = (.ok (), before)

theorem Settled.of_made {disk : Disk} (h : m.disk.makeDirectory path = .ok disk) :
    Settled path m (.ok (), { m with disk }) := by
  obtain ⟨hgrown, hdir⟩ := Disk.makeDirectory_ok h
  refine ⟨⟨rfl, rfl, hgrown⟩, fun _ => hdir, fun _ he => (nomatch he), fun hthere => ?_⟩
  rw [Disk.makeDirectory_there hthere] at h
  cases h

theorem Settled.of_fault {f : FileFault} (h : m.disk.makeDirectory path = .error f) :
    Settled path m
      (if m.disk.find? path = some .directory then .ok () else .error ⟨f, path⟩, m) := by
  by_cases hdir : m.disk.find? path = some .directory
  · rw [if_pos hdir]
    exact ⟨Machine.Grown.refl [] m, fun _ => hdir, fun _ he => (nomatch he), fun _ => rfl⟩
  · rw [if_neg hdir]
    refine ⟨Machine.Grown.refl [] m, fun he => (nomatch he), fun e he => ?_, fun h => absurd h hdir⟩
    cases he
    rw [← m.disk.makeDirectory_nulInPath, h]
    simp

theorem settled_settleDirectory (path : String) (m : Machine) :
    Settled path m (result (do return (← settleDirectory path).mapError (⟨·, path⟩)) m) := by
  unfold settleDirectory
  simp only [result_bind, result_makeDirectory]
  cases hmake : m.disk.makeDirectory path with
  | ok disk => exact .of_made hmake
  | error f =>
    refine (congrArg (Settled path m) ?_).mp (.of_fault hmake)
    by_cases hdir : m.disk.find? path = some .directory <;> simp [hdir] <;> rfl

theorem nul_mem_text_below {root name : String} {parents : List String}
    (h : nul ∈ (Path.mk root parents.reverse).text.toList) :
    nul ∈ (Path.mk root (name :: parents).reverse).text.toList := by
  rw [Path.nul_mem_text] at h ⊢
  rcases h with h | ⟨n, hn, h⟩
  · exact Or.inl h
  · exact Or.inr ⟨n, by simpa using Or.inl (List.mem_reverse.mp hn), h⟩

/-- The last directory of a path is made after those that it lies in. -/
theorem settled_settlePath (root : String) (names : List String) (m : Machine) :
    Settled (Path.mk root names.reverse).text m (result (settlePath root names) m) := by
  induction names generalizing m with
  | nil => exact settled_settleDirectory _ m
  | cons name parents ih =>
    rw [settlePath]
    generalize hpath : (Path.mk root (name :: parents).reverse).text = path
    simp only [result_bind, result_makeDirectory]
    cases hmake : m.disk.makeDirectory path with
    | ok disk => exact .of_made hmake
    | error f =>
      have hfault := Settled.of_fault hmake
      cases f with
      | notFound =>
        have hplain : nul ∉ path.toList := by
          rw [← m.disk.makeDirectory_nulInPath, hmake]
          simp
        have hthere : m.disk.find? path ≠ some .directory := by
          intro hdir
          rw [Disk.makeDirectory_there hdir] at hmake
          cases hmake
        have habove := ih m
        dsimp only
        rw [result_bind]
        revert habove
        rcases result (settlePath root parents) m with ⟨e | ⟨⟩, m'⟩ <;> intro habove
        · refine ⟨habove.grown, fun h => (nomatch h), fun e' h => ?_, fun h => absurd h hthere⟩
          cases h
          rw [habove.fault e rfl]
          refine iff_of_false (fun habove => hplain ?_) hplain
          rw [← hpath]
          exact nul_mem_text_below habove
        · have hlast := settled_settleDirectory path m'
          exact ⟨habove.grown.comp hlast.grown, hlast.made, hlast.fault, fun h => absurd h hthere⟩
      | _ =>
        refine (congrArg (Settled path m) ?_).mp hfault
        by_cases hdir : m.disk.find? path = some .directory <;> simp [hdir]

theorem settled_makeDirectories (path : Path) (m : Machine) :
    Settled path.text m (result (makeDirectories path) m) := by
  have h := settled_settlePath path.root path.names.reverse m
  rwa [List.reverse_reverse] at h

/-! ## Writing files -/

variable {content : ByteArray}

/-- The device has broken off: the file at a path holds the front of its content. -/
structure Torn (path : String) (content : ByteArray) (before after : Machine) (fault : FileFault) :
    Prop where
  grown : Machine.Grown [path] before after
  front : ∃ l taken cause, after.disk.locate path = .ok l ∧
    before.device l content = some (taken, cause) ∧ fault = cause.fault ∧
    after.disk.node? l = some (.file (content.extract 0 taken))

theorem Torn.after {between after : Machine} {f : FileFault}
    (h : Torn path content between after f) (hgrown : Machine.Grown [] m between) :
    Torn path content m after f := by
  obtain ⟨l, taken, cause, hfront⟩ := h.front
  rw [hgrown.device] at hfront
  exact ⟨(hgrown.mono (List.nil_subset _)).comp h.grown, l, taken, cause, hfront⟩

/-- How giving a file its content ends. -/
structure Stored (path : String) (content : ByteArray) (before : Machine)
    (ending : Except FileFault Unit × Machine) : Prop where
  written : ending.1 = .ok () → Machine.Grown [path] before ending.2 ∧ ending.2.Holds path content
  failed : ∀ f, ending.1 = .error f → (f = .nulInPath → nul ∈ path.toList) ∧
    (ending.2 = before ∨ Torn path content before ending.2 f)
  /-- A content that is there already is written again. -/
  again : before.Holds path content → ending.1 = .ok () ∧ before.Same ending.2

theorem stored_whole (h : m.cut? path content = none) :
    Stored path content m (result (change (·.write path content)) m) := by
  rw [result_change]
  cases hwrite : m.disk.write path content with
  | ok disk =>
    obtain ⟨hgrown, hfile⟩ := Disk.write_ok hwrite
    have hall : Machine.Grown [path] m { m with disk } := ⟨rfl, rfl, hgrown⟩
    obtain ⟨l, hl⟩ := Disk.locate_of_write hwrite
    refine ⟨fun _ => ⟨hall, hfile, (hall.cut? hl).trans h⟩, fun _ he => (nomatch he), fun hholds => ?_⟩
    obtain ⟨d, hagain, hsame⟩ := Disk.write_again hholds.file
    rw [hwrite] at hagain
    cases hagain
    exact ⟨rfl, rfl, rfl, hsame⟩
  | error f =>
    refine ⟨fun he => (nomatch he), fun f' he => ?_, fun hholds => ?_⟩
    · cases he
      refine ⟨fun hnul => ?_, .inl rfl⟩
      rw [← m.disk.write_nulInPath path content, hwrite]
      exact congrArg _ hnul
    · obtain ⟨d, hagain, -⟩ := Disk.write_again hholds.file
      rw [hwrite] at hagain
      cases hagain

theorem stored_write (path : String) (content : ByteArray) (m : Machine) :
    Stored path content m (result (write path content) m) := by
  rw [result_write]
  cases hcut : m.cut? path content with
  | none => exact stored_whole hcut
  | some cut =>
    obtain ⟨taken, cause⟩ := cut
    have hagain : ¬ m.Holds path content := fun h => by
      rw [h.whole] at hcut
      cases hcut
    dsimp only
    rw [result_change]
    cases hwrite : m.disk.write path (content.extract 0 taken) with
    | ok disk =>
      obtain ⟨hgrown, hfile⟩ := Disk.write_ok hwrite
      obtain ⟨l, hl⟩ := Disk.locate_of_write hwrite
      obtain ⟨l', hl', hnode⟩ := Disk.find?_eq_some.mp hfile
      rw [hgrown.locate hl] at hl'
      cases hl'
      rw [Machine.cut?_eq hl] at hcut
      refine ⟨fun he => (nomatch he), fun f he => ?_, fun h => absurd h hagain⟩
      cases he
      exact ⟨fun hnul => absurd hnul cause.fault_ne_nulInPath,
        .inr ⟨⟨rfl, rfl, hgrown⟩, l, taken, cause, hgrown.locate hl, hcut, rfl, hnode⟩⟩
    | error f =>
      refine ⟨fun he => (nomatch he), fun f' he => ?_, fun h => absurd h hagain⟩
      cases he
      refine ⟨fun hnul => ?_, .inl rfl⟩
      rw [← m.disk.write_nulInPath path (content.extract 0 taken), hwrite]
      exact congrArg _ hnul

end Host

end TableScaffold
