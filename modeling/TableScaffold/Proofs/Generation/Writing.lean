import TableScaffold.Generation
import TableScaffold.Proofs.Artifact.Paths
import TableScaffold.Proofs.Host.Machine

/-!
# Writing artifacts

What is left on a machine when artifacts are written. The output directories are made first; then each
artifact gets its directory and its file. A step that fails has made directories at most, or left the
front of a file where the device broke off. A step that is done again changes nothing.
-/

namespace TableScaffold

open OnMachine

variable {m m' : Machine} {root : Path}

/-! ## Output directories -/

/-- How making the directories below a root ends. -/
structure TreeSettled (root : Path) (names : List String) (before : Machine)
    (ending : Except FileError Unit × Machine) : Prop where
  grown : Machine.Grown [] before ending.2
  made : ending.1 = .ok () → ∀ name ∈ names,
    ending.2.disk.find? (root.join (Path.ofText name)).text = some .directory
  fault : ∀ e, ending.1 = .error e → (e.fault = .nulInPath ↔ nul ∈ root.text.toList)
  there : (∀ name ∈ names, before.disk.find? (root.join (Path.ofText name)).text = some .directory) →
    ending = (.ok (), before)

theorem settled_makeOutputDirectories (root : Path) {names : List String}
    (hnames : ∀ name ∈ names, (Path.ofText name).root = "" ∧
      ∀ n ∈ (Path.ofText name).names, nul ∉ n.toList) (m : Machine) :
    TreeSettled root names m (result (makeOutputDirectories root names) m) := by
  induction names generalizing m with
  | nil =>
    exact ⟨Machine.Grown.refl [] m, fun _ _ h => (nomatch h), fun _ h => (nomatch h), fun _ => rfl⟩
  | cons name names ih =>
    rw [makeOutputDirectories, result_bind]
    have hfirst := Host.settled_makeDirectories (root.join (Path.ofText name)) m
    have hplain := hnames name List.mem_cons_self
    revert hfirst
    rcases result (Host.makeDirectories (root.join (Path.ofText name))) m with ⟨e | ⟨⟩, m'⟩ <;>
      intro hfirst
    · refine ⟨hfirst.grown, fun h => (nomatch h), fun e' h => ?_, fun h => ?_⟩
      · cases h
        rw [hfirst.fault e rfl]
        exact Path.nul_mem_join hplain.1 hplain.2
      · have hthere := hfirst.there (h name List.mem_cons_self)
        cases hthere
    · have hrest := ih (fun n hn => hnames n (List.mem_cons_of_mem _ hn)) m'
      refine ⟨hfirst.grown.comp hrest.grown, fun h n hn => ?_, hrest.fault, fun h => ?_⟩
      · rcases List.mem_cons.mp hn with rfl | hn
        · exact hrest.grown.disk.find?_directory (hfirst.made rfl)
        · exact hrest.made h n hn
      · have hthere := hfirst.there (h name List.mem_cons_self)
        cases hthere
        exact hrest.there fun n hn => h n (List.mem_cons_of_mem _ hn)

theorem settled_ensureTree (root : Path) (m : Machine) :
    TreeSettled root outputDirectories m (result (ensureTree root) m) :=
  settled_makeOutputDirectories root (by decide +kernel) m

/-! ## One artifact -/

namespace Artifact

/-- The path of an artifact's file. -/
def target (root : Path) (a : Artifact) : Path := root.join (Path.ofText a.path)

/-- An artifact is on a machine: its file lies in a directory and holds its content. -/
structure InPlace (root : Path) (m : Machine) (a : Artifact) : Prop where
  parent : m.disk.find? (a.target root).parent.text = some .directory
  file : m.Holds (a.target root).text a.content.toUTF8

theorem InPlace.same {a : Artifact} (h : a.InPlace root m) (hsame : m.Same m') :
    a.InPlace root m' :=
  ⟨(hsame.disk.find? _).trans h.parent, h.file.same hsame⟩

/-- An artifact stays in place when other files are written. -/
theorem InPlace.grown {a : Artifact} {ts : List String} (h : a.InPlace root m)
    (hgrown : m.Grown ts m') (hapart : ∀ t ∈ ts, ¬ m'.disk.Joined (a.target root).text t) :
    a.InPlace root m' :=
  ⟨hgrown.disk.find?_directory h.parent, h.file.grown hgrown hapart⟩

/-- The failure to write an artifact. -/
def failure (root : Path) (a : Artifact) : FileError → RunError :=
  RunError.ofFile fun e => .generation (.notWritten (a.target root).text e)

end Artifact

/-- The device has broken off in the content of an artifact. -/
abbrev Artifact.Torn (root : Path) (a : Artifact) (before after : Machine) (e : FileError) : Prop :=
  e.path = (a.target root).text ∧
    Host.Torn (a.target root).text a.content.toUTF8 before after e.fault

/-- How writing an artifact ends. -/
structure ArtifactWritten (root : Path) (a : Artifact) (before : Machine)
    (ending : Except RunError String × Machine) : Prop where
  failed : ∀ e, ending.1 = .error e → ∃ cause, e = a.failure root cause ∧
    (cause.fault = .nulInPath → nul ∈ (a.target root).text.toList) ∧
    (Machine.Grown [] before ending.2 ∨ a.Torn root before ending.2 cause)
  written : ∀ t, ending.1 = .ok t → t = (a.target root).text ∧
    Machine.Grown [t] before ending.2 ∧ a.InPlace root ending.2
  again : a.InPlace root before →
    ending.1 = .ok (a.target root).text ∧ Machine.Same before ending.2

theorem outcome_writeArtifact (root : Path) (a : Artifact) (m : Machine) :
    outcome (writeArtifact root a) m =
      match result (Host.makeDirectories (a.target root).parent) m with
      | (.error e, m') => (.error (a.failure root e), m')
      | (.ok (), m') =>
        match result (Host.write (a.target root).text a.content.toUTF8) m' with
        | (.ok (), m'') => (.ok (a.target root).text, m'')
        | (.error f, m'') => (.error (a.failure root ⟨f, (a.target root).text⟩), m'') := by
  unfold writeArtifact Artifact.failure Artifact.target
  generalize root.join (Path.ofText a.path) = target
  rw [outcome_liftM_bind]
  rcases result (Host.makeDirectories target.parent) m with ⟨e | ⟨⟩, m'⟩
  · rfl
  · dsimp only
    rw [outcome_liftM_bind]
    rcases result (Host.write target.text a.content.toUTF8) m' with ⟨f | ⟨⟩, m''⟩ <;> rfl

theorem artifactWritten (root : Path) (a : Artifact) (m : Machine) :
    ArtifactWritten root a m (outcome (writeArtifact root a) m) := by
  rw [outcome_writeArtifact]
  have hparent := Host.settled_makeDirectories (a.target root).parent m
  revert hparent
  rcases result (Host.makeDirectories (a.target root).parent) m with ⟨e | ⟨⟩, m'⟩ <;>
    intro hparent <;> dsimp only
  · refine ⟨fun e' h => ?_, fun t h => (nomatch h), fun h => ?_⟩
    · cases h
      exact ⟨e, rfl, fun hnul => Path.nul_mem_parent ((hparent.fault e rfl).mp hnul),
        .inl hparent.grown⟩
    · have hthere := hparent.there h.parent
      cases hthere
  have hfile := Host.stored_write (a.target root).text a.content.toUTF8 m'
  revert hfile
  rcases result (Host.write (a.target root).text a.content.toUTF8) m' with ⟨f | ⟨⟩, m''⟩ <;>
    intro hfile <;> dsimp only
  · refine ⟨fun e' h => ?_, fun t h => (nomatch h), fun h => ?_⟩
    · cases h
      obtain ⟨hnul, hleft⟩ := hfile.failed f rfl
      refine ⟨_, rfl, hnul, hleft.imp (fun hsame => ?_) fun htorn => ⟨rfl, ?_⟩⟩
      · have hsame : m'' = m' := hsame
        rw [hsame]
        exact hparent.grown
      · exact htorn.after hparent.grown
    · have hthere := hparent.there h.parent
      cases hthere
      obtain ⟨hagain, -⟩ := hfile.again h.file
      cases hagain
  · obtain ⟨hgrown, hholds⟩ := hfile.written rfl
    refine ⟨fun e' h => (nomatch h), fun t h => ?_, fun h => ⟨rfl, ?_⟩⟩
    · cases h
      refine ⟨rfl, (hparent.grown.mono (List.nil_subset _)).comp hgrown, ?_, hholds⟩
      exact hgrown.disk.find?_directory (hparent.made rfl)
    · have hthere := hparent.there h.parent
      cases hthere
      exact (hfile.again h.file).2

/-! ## Artifacts in a row -/

/-- Writing artifacts, the first of them, and then the rest. -/
theorem outcome_writeArtifacts_cons (root : Path) (a : Artifact) (rest : List Artifact)
    (m : Machine) :
    outcome (writeArtifacts root (a :: rest)) m =
      match outcome (writeArtifact root a) m with
      | (.error e, m') => (.error e, m')
      | (.ok t, m') =>
        match outcome (writeArtifacts root rest) m' with
        | (.error e, m'') => (.error e, m'')
        | (.ok ts, m'') => (.ok (t :: ts), m'') := by
  rw [writeArtifacts, outcome_bind]
  rcases outcome (writeArtifact root a) m with ⟨e | t, m'⟩
  · rfl
  · dsimp only
    rw [outcome_bind]
    rcases outcome (writeArtifacts root rest) m' with ⟨e | ts, m''⟩ <;> rfl

/-- Writing goes on where the first artifacts have been written. -/
theorem outcome_writeArtifacts_append {artifacts : List Artifact} {ts : List String}
    (h : outcome (writeArtifacts root artifacts) m = (.ok ts, m')) (rest : List Artifact) :
    outcome (writeArtifacts root (artifacts ++ rest)) m =
      match outcome (writeArtifacts root rest) m' with
      | (.error e, m'') => (.error e, m'')
      | (.ok us, m'') => (.ok (ts ++ us), m'') := by
  induction artifacts generalizing m ts with
  | nil =>
    cases h
    rw [List.nil_append]
    rcases outcome (writeArtifacts root rest) m' with ⟨e | us, m''⟩ <;> rfl
  | cons a artifacts ih =>
    rw [outcome_writeArtifacts_cons] at h
    rw [List.cons_append, outcome_writeArtifacts_cons]
    revert h
    rcases outcome (writeArtifact root a) m with ⟨e | t, m₁⟩ <;> intro h <;> dsimp only at h ⊢
    · cases h
    cases hout : outcome (writeArtifacts root artifacts) m₁ with
    | mk r m₂ =>
      rw [hout] at h
      cases r with
      | error e => cases h
      | ok us =>
        cases h
        rw [ih hout]
        rcases outcome (writeArtifacts root rest) m' with ⟨e | vs, m''⟩ <;> rfl

/-- However writing ends, only the files of the artifacts are touched. -/
theorem grown_writeArtifact (root : Path) (a : Artifact) (m : Machine) :
    Machine.Grown [(a.target root).text] m (outcome (writeArtifact root a) m).2 := by
  have h := artifactWritten root a m
  revert h
  rcases outcome (writeArtifact root a) m with ⟨e | t, m'⟩ <;> intro h
  · obtain ⟨cause, -, -, hgrown | ⟨-, htorn⟩⟩ := h.failed e rfl
    · exact hgrown.mono (List.nil_subset _)
    · exact htorn.grown
  · obtain ⟨rfl, hgrown, -⟩ := h.written t rfl
    exact hgrown

/-- Artifacts whose files lie at different places are all in place when the last is written. -/
theorem writeArtifacts_ok {artifacts : List Artifact} {ts : List String}
    (hapart : artifacts.Pairwise fun a b => ∀ d : Disk,
      ¬ d.Joined (a.target root).text (b.target root).text)
    (h : outcome (writeArtifacts root artifacts) m = (.ok ts, m')) :
    ts = artifacts.map (fun a => (a.target root).text) ∧ Machine.Grown ts m m' ∧
      ∀ a ∈ artifacts, a.InPlace root m' := by
  induction artifacts generalizing m ts with
  | nil =>
    cases h
    exact ⟨rfl, .refl [] m', fun _ ha => (nomatch ha)⟩
  | cons a rest ih =>
    obtain ⟨hfirst, hrest⟩ := List.pairwise_cons.mp hapart
    rw [outcome_writeArtifacts_cons] at h
    have hone := artifactWritten root a m
    revert h hone
    rcases outcome (writeArtifact root a) m with ⟨e | t, m₁⟩ <;> intro h hone
    · cases h
    dsimp only at h
    cases hout : outcome (writeArtifacts root rest) m₁ with
    | mk r m₂ =>
      rw [hout] at h
      cases r with
      | error e => cases h
      | ok us =>
        cases h
        obtain ⟨rfl, hgrown, hplace⟩ := hone.written t rfl
        obtain ⟨rfl, hgrown', hplaces⟩ := ih hrest hout
        refine ⟨rfl, (hgrown.mono ?_).comp (hgrown'.mono ?_), fun b hb => ?_⟩
        · simp
        · exact List.subset_cons_self _ _
        rcases List.mem_cons.mp hb with rfl | hb
        · refine hplace.grown hgrown' fun u hu => ?_
          obtain ⟨c, hc, rfl⟩ := List.mem_map.mp hu
          exact hfirst c hc _
        · exact hplaces b hb

end TableScaffold
