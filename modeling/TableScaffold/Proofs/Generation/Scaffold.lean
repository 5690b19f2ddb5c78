import TableScaffold.Proofs.Disk.Place
import TableScaffold.Proofs.Generation.Writing

/-!
# The output tree

Directories are made along a path from a directory on, unless a file is in the way. What is made on the
way adds directories at most, so whether a file is in the way is known beforehand: a file lies at the
place of a path that is led through. Then the output directories are made one after the other.
-/

namespace TableScaffold

open OnMachine

variable {m m' : Machine}

/-! ## Directories along a path -/

namespace Host

variable {root name path : String} {names parents : List String} {e : FileError}

/-- No directory can be made, and none is there. -/
structure Unmade (d : Disk) (path : String) (f : FileFault) : Prop where
  fault : d.makeDirectory path = .error f
  missing : d.find? path ≠ some .directory

theorem settleDirectory_error
    (h : result (do return (← settleDirectory path).mapError (⟨·, path⟩)) m = (.error e, m')) :
    ∃ f, Unmade m.disk path f := by
  unfold settleDirectory at h
  simp only [result_bind, result_makeDirectory] at h
  cases hmake : m.disk.makeDirectory path with
  | ok disk =>
    rw [hmake] at h
    cases h
  | error f =>
    rw [hmake] at h
    have hdir : m.disk.find? path ≠ some .directory := by
      intro hdir
      simp [hdir, Except.mapError] at h
    exact ⟨f, hmake, hdir⟩

/-- Where making directories along a path fails. -/
theorem settlePath_cons_error (hpath : (Path.mk root (name :: parents).reverse).text = path)
    (h : result (settlePath root (name :: parents)) m = (.error e, m')) :
    (∃ f, f ≠ .notFound ∧ Unmade m.disk path f) ∨
      result (settlePath root parents) m = (.error e, m') ∨
      ∃ m₁, result (settlePath root parents) m = (.ok (), m₁) ∧ ∃ f, Unmade m₁.disk path f := by
  rw [settlePath, hpath] at h
  simp only [result_bind, result_makeDirectory] at h
  cases hmake : m.disk.makeDirectory path with
  | ok disk =>
    rw [hmake] at h
    cases h
  | error f =>
    rw [hmake] at h
    by_cases hf : f = .notFound
    · subst hf
      dsimp only at h
      rw [result_bind] at h
      rcases hrest : result (settlePath root parents) m with ⟨e' | ⟨⟩, m₁⟩
      · rw [hrest] at h
        exact .inr (.inl h)
      · rw [hrest] at h
        exact .inr (.inr ⟨m₁, rfl, settleDirectory_error h⟩)
    · have hend : result (do return if ← Host.isDirectory path then .ok () else .error ⟨f, path⟩) m =
          ((.error e : Except FileError Unit), m') := by
        cases f <;> first | exact h | exact absurd rfl hf
      have hdir : m.disk.find? path ≠ some .directory := by
        intro hdir
        simp [hdir] at hend
      exact .inl ⟨f, hf, hmake, hdir⟩

/-- Directories that cannot be made along a path have a file in the way. -/
theorem settlePath_error (hp : (Path.mk root names.reverse).Sound)
    (hfits : (Path.mk root names.reverse).Fits)
    (horigin : m.disk.node? (m.disk.origin ⟨root, names.reverse⟩) = some .directory)
    (h : result (settlePath root names) m = (.error e, m')) :
    m.disk.Blocked ⟨root, names.reverse⟩ := by
  induction names with
  | nil =>
    obtain ⟨f, hunmade⟩ := settleDirectory_error h
    refine absurd (Disk.find?_eq_some.mpr ⟨_, ?_, horigin⟩) hunmade.missing
    exact Disk.locate_text hp hfits.text horigin
  | cons name parents ih =>
    have habove : Path.mk root parents.reverse ∈ (Path.mk root (name :: parents).reverse).through :=
      Path.mem_through.mpr ⟨rfl, by simp⟩
    rcases settlePath_cons_error rfl h with ⟨f, hf, hunmade⟩ | hrest | ⟨m₁, hrest, f, hunmade⟩
    · exact Disk.makeDirectory_error hp hfits horigin hunmade.fault hf hunmade.missing
    · exact .of_mem_through habove
        (ih (hp.of_mem_through habove) (hfits.of_mem_through hp habove) horigin hrest)
    · -- the directory above is there now, so none is missing any more
      have hsettled := settled_settlePath root parents m
      rw [hrest] at hsettled
      have hf : f ≠ .notFound := by
        rintro rfl
        exact Disk.makeDirectory_ne_notFound hp hfits List.reverse_cons (hsettled.made rfl)
          hunmade.fault
      refine (hsettled.grown.disk.blocked_iff _).mp
        (Disk.makeDirectory_error hp hfits ?_ hunmade.fault hf hunmade.missing)
      rw [hsettled.grown.disk.origin]
      exact hsettled.grown.disk.directory _ horigin

/-- Where a path leads from no directory, none is there and none can be made. -/
theorem unmade_of_lost {p : Path} {d : Disk} (hp : p.Sound)
    (hlost : d.node? (d.origin p) ≠ some .directory) : ∃ f, Unmade d p.text f := by
  cases hloc : d.locate p.text with
  | ok l => exact absurd (Disk.origin_of_locate hp hloc) hlost
  | error f => exact ⟨f, by rw [Disk.makeDirectory, hloc]; rfl, by simp [Disk.find?, hloc]⟩

theorem settlePath_lost (hp : (Path.mk root names.reverse).Sound)
    (hlost : m.disk.node? (m.disk.origin ⟨root, names.reverse⟩) ≠ some .directory) :
    ∃ e m', result (settlePath root names) m = (.error e, m') := by
  induction names with
  | nil =>
    obtain ⟨f, hmake, hnone⟩ := unmade_of_lost hp hlost
    refine ⟨⟨f, (Path.mk root []).text⟩, m, ?_⟩
    simp at hmake hnone
    simp [settlePath, settleDirectory, hmake, hnone, Except.mapError]
  | cons name parents ih =>
    obtain ⟨f, hmake, hnone⟩ := unmade_of_lost hp hlost
    have habove : Path.mk root parents.reverse ∈ (Path.mk root (name :: parents).reverse).through :=
      Path.mem_through.mpr ⟨rfl, by simp⟩
    obtain ⟨e, m', hrest⟩ := ih (hp.of_mem_through habove) hlost
    rw [settlePath]
    generalize (Path.mk root (name :: parents).reverse).text = path at hmake hnone ⊢
    simp only [result_bind, result_makeDirectory, hmake]
    by_cases hf : f = .notFound
    · exact ⟨e, m', by simp [hf, hrest]⟩
    · refine ⟨⟨f, path⟩, m, ?_⟩
      cases f <;> first | exact absurd rfl hf | simp [hnone]

/-! The same of a path as a whole. -/

theorem makeDirectories_error {p : Path} (hp : p.Sound) (hfits : p.Fits)
    (horigin : m.disk.node? (m.disk.origin p) = some .directory)
    (h : result (makeDirectories p) m = (.error e, m')) : m.disk.Blocked p := by
  have hreverse : Path.mk p.root p.names.reverse.reverse = p := by rw [List.reverse_reverse]
  rw [← hreverse] at hp hfits horigin ⊢
  exact settlePath_error hp hfits horigin h

theorem makeDirectories_lost {p : Path} (hp : p.Sound)
    (hlost : m.disk.node? (m.disk.origin p) ≠ some .directory) :
    ∃ e m', result (makeDirectories p) m = (.error e, m') := by
  refine settlePath_lost ?_ ?_ <;> rwa [List.reverse_reverse]

end Host

/-! ## The output directories -/

variable {root : Path}

/-- The root of the output and its directories. -/
def outputPaths (root : Path) : List Path :=
  root :: outputDirectories.map fun name => root.join (Path.ofText name)

theorem plain_outputDirectories : ∀ name ∈ outputDirectories,
    (Path.ofText name).root = "" ∧ ".." ∉ (Path.ofText name).names := by decide +kernel

/-- The output paths lead through the root, and on without `..`. -/
theorem outputPaths_below {p : Path} (hp : p ∈ outputPaths root) :
    root ∈ p.through ∧ (".." ∈ p.names → ".." ∈ root.names) := by
  rcases List.mem_cons.mp hp with rfl | hp
  · exact ⟨p.mem_through_self, id⟩
  · obtain ⟨name, hname, rfl⟩ := List.mem_map.mp hp
    obtain ⟨hplain, hdown⟩ := plain_outputDirectories name hname
    have hnames := Path.names_join root _ hplain
    refine ⟨Path.mem_through.mpr ⟨?_, hnames ▸ List.prefix_append _ _⟩, fun hup => ?_⟩
    · rw [Path.join, if_pos hplain]
    · rw [hnames, List.mem_append] at hup
      exact hup.resolve_right hdown

theorem sound_outputPaths (hroot : root.Sound) {p : Path} (hp : p ∈ outputPaths root) : p.Sound := by
  rcases List.mem_cons.mp hp with rfl | hp
  · exact hroot
  · obtain ⟨name, -, rfl⟩ := List.mem_map.mp hp
    exact hroot.join (Path.sound_ofText name)

theorem origin_outputPaths {p : Path} (hp : p ∈ outputPaths root) (d : Disk) :
    d.origin p = d.origin root := by
  rw [Disk.origin, Disk.origin, (Path.mem_through.mp (outputPaths_below hp).1).1]

theorem join_mem_outputPaths {name : String} (hname : name ∈ outputDirectories) :
    root.join (Path.ofText name) ∈ outputPaths root :=
  List.mem_cons_of_mem _ (List.mem_map_of_mem hname)

theorem makeOutputDirectories_error {names : List String} {e : FileError} (hroot : root.Sound)
    (hnames : ∀ name ∈ names, (Path.ofText name).root = "")
    (hfits : ∀ name ∈ names, (root.join (Path.ofText name)).Fits)
    (horigin : m.disk.node? (m.disk.origin root) = some .directory)
    (h : result (makeOutputDirectories root names) m = (.error e, m')) :
    ∃ name ∈ names, m.disk.Blocked (root.join (Path.ofText name)) := by
  induction names generalizing m with
  | nil => cases h
  | cons name names ih =>
    rw [makeOutputDirectories, result_bind] at h
    have hsound : (root.join (Path.ofText name)).Sound := hroot.join (Path.sound_ofText name)
    have hjoin : m.disk.origin (root.join (Path.ofText name)) = m.disk.origin root := by
      rw [Disk.origin, Path.join, if_pos (hnames name List.mem_cons_self)]
      rfl
    have hsettled := Host.settled_makeDirectories (root.join (Path.ofText name)) m
    rcases hfirst : result (Host.makeDirectories (root.join (Path.ofText name))) m with ⟨e' | ⟨⟩, m₁⟩
    · exact ⟨name, List.mem_cons_self, Host.makeDirectories_error hsound
        (hfits name List.mem_cons_self) (hjoin ▸ horigin) hfirst⟩
    · rw [hfirst] at h hsettled
      have hgrown := hsettled.grown.disk
      obtain ⟨n, hn, hblocked⟩ := ih (fun n hn => hnames n (List.mem_cons_of_mem _ hn))
        (fun n hn => hfits n (List.mem_cons_of_mem _ hn))
        (by rw [hgrown.origin]; exact hgrown.directory _ horigin) h
      exact ⟨n, List.mem_cons_of_mem _ hn, (hgrown.blocked_iff _).mp hblocked⟩

/-- The output directories lie in the root. -/
theorem made_outputPaths {d : Disk} (hroot : root.Sound)
    (hmade : ∀ name ∈ outputDirectories,
      d.find? (root.join (Path.ofText name)).text = some .directory) :
    ∀ p ∈ outputPaths root, d.find? p.text = some .directory := by
  intro p hp
  rcases List.mem_cons.mp hp with rfl | hp
  · have hconfig : p.join (Path.ofText "config") ∈ outputPaths p := join_mem_outputPaths (by decide)
    exact Disk.find?_of_mem_through (sound_outputPaths hroot hconfig) (outputPaths_below hconfig).1
      (hmade "config" (by decide))
  · obtain ⟨name, hname, rfl⟩ := List.mem_map.mp hp
    exact hmade name hname

/-- The output directories cannot be made if there is no directory to start from, or if a file is in
the way of one of them. -/
theorem ensureTree_error_iff (hroot : root.Sound) (hfits : ∀ p ∈ outputPaths root, p.Fits)
    (m : Machine) : (∃ e, (result (ensureTree root) m).1 = .error e) ↔
      m.disk.node? (m.disk.origin root) ≠ some .directory ∨
        ∃ p ∈ outputPaths root, m.disk.Blocked p := by
  have hsettled := settled_ensureTree root m
  constructor
  · rintro ⟨e, he⟩
    by_cases horigin : m.disk.node? (m.disk.origin root) = some .directory
    · obtain ⟨name, hname, hblocked⟩ := makeOutputDirectories_error hroot
        (fun name hname => (plain_outputDirectories name hname).1)
        (fun name hname => hfits _ (join_mem_outputPaths hname)) horigin (Prod.ext he rfl)
      exact .inr ⟨_, join_mem_outputPaths hname, hblocked⟩
    · exact .inl horigin
  · rintro (hlost | ⟨p, hp, hblocked⟩)
    · have hconfig : root.join (Path.ofText "config") ∈ outputPaths root :=
        join_mem_outputPaths (by decide)
      obtain ⟨e, m', hfirst⟩ := Host.makeDirectories_lost (sound_outputPaths hroot hconfig)
        (origin_outputPaths hconfig m.disk ▸ hlost)
      refine ⟨e, ?_⟩
      rw [ensureTree, outputDirectories, makeOutputDirectories, result_bind, hfirst]
      rfl
    · cases hend : (result (ensureTree root) m).1 with
      | error e => exact ⟨e, rfl⟩
      | ok u =>
        have hmade := made_outputPaths hroot (hsettled.made hend) p hp
        exact absurd ((hsettled.grown.disk.blocked_iff p).mpr hblocked)
          (Disk.not_blocked (sound_outputPaths hroot hp) hmade)

/-- **The output directories are made without harm.** Whether they can be made or not, nothing happens to
the disk but new directories. If they can, they are there, and making them again changes nothing. They
cannot be made exactly if there is no directory to start from or a file is in the way. Without `..` that
is a file which the path of an output directory leads through. -/
theorem output_tree_scaffolded (text : String) (m : Machine) :
    ∃ ending after, result (ensureTree (Path.ofText text)) m = (ending, after) ∧
      Machine.Grown [] m after ∧
      (ending = .ok () →
        (∀ p ∈ outputPaths (Path.ofText text), after.disk.find? p.text = some .directory) ∧
          result (ensureTree (Path.ofText text)) after = (.ok (), after)) ∧
      ((∀ p ∈ outputPaths (Path.ofText text), p.Fits) →
        ((∃ e, ending = .error e) ↔
          m.disk.node? (m.disk.origin (Path.ofText text)) ≠ some .directory ∨
            ∃ p ∈ outputPaths (Path.ofText text), m.disk.Blocked p) ∧
        (".." ∉ (Path.ofText text).names →
          m.disk.node? (m.disk.origin (Path.ofText text)) = some .directory →
          ((∃ e, ending = .error e) ↔ ∃ p ∈ outputPaths (Path.ofText text), ∃ q ∈ p.through,
            ∃ content, m.disk.find? q.text = some (.file content)))) := by
  have hroot := Path.sound_ofText text
  generalize Path.ofText text = root at hroot
  have hsettled := settled_ensureTree root m
  refine ⟨(result (ensureTree root) m).1, (result (ensureTree root) m).2, rfl, hsettled.grown,
    fun hend => ?_, fun hfits => ⟨?_, fun hdown horigin => ?_⟩⟩
  · have hmade := hsettled.made hend
    exact ⟨made_outputPaths hroot hmade, (settled_ensureTree root _).there hmade⟩
  · exact ensureTree_error_iff hroot hfits m
  · rw [ensureTree_error_iff hroot hfits m, or_iff_right (not_not.mpr horigin)]
    refine exists_congr fun p => and_congr_right fun hp => ?_
    exact Disk.blocked_iff (sound_outputPaths hroot hp) (hfits p hp)
      (fun hup => hdown ((outputPaths_below hp).2 hup)) (origin_outputPaths hp m.disk ▸ horigin)

/-- A machine whose disk holds just one file, in the directory at the top. -/
def Machine.withFile (name : String) : Machine := { disk := Disk.empty.putFile "text".toUTF8 [name], environment := [] }

/-- A file that is called like the root is in the way; on an empty disk nothing is. -/
theorem output_tree_scaffolded_blocked :
    (∀ p ∈ outputPaths (Path.ofText "out"), p.Fits) ∧ ".." ∉ (Path.ofText "out").names ∧
      (∃ e after, result (ensureTree (Path.ofText "out")) (.withFile "out") = (.error e, after)) ∧
      ∃ after, result (ensureTree (Path.ofText "out")) { disk := Disk.empty, environment := [] } = (.ok (), after) ∧
        result (ensureTree (Path.ofText "out")) after = (.ok (), after) := by
  have hfits : ∀ p ∈ outputPaths (Path.ofText "out"), p.Fits := by decide +kernel
  have hdown : ".." ∉ (Path.ofText "out").names := by decide +kernel
  refine ⟨hfits, hdown, ?_, ?_⟩
  · have horigin : (Machine.withFile "out").disk.node?
        ((Machine.withFile "out").disk.origin (Path.ofText "out")) = some .directory := by
      decide +kernel
    have hfile : (Machine.withFile "out").disk.find? (Path.ofText "out").text =
        some (.file "text".toUTF8) := by decide +kernel
    obtain ⟨ending, after, hrun, -, -, hfails⟩ := output_tree_scaffolded "out" (.withFile "out")
    obtain ⟨e, rfl⟩ := ((hfails hfits).2 hdown horigin).mpr
      ⟨_, List.mem_cons_self, _, Path.mem_through_self _, _, hfile⟩
    exact ⟨e, after, hrun⟩
  · have hends : (result (ensureTree (Path.ofText "out")) { disk := Disk.empty, environment := [] }).1 = .ok () := by
      decide +kernel
    obtain ⟨ending, after, hrun, -, hmade, -⟩ := output_tree_scaffolded "out" { disk := Disk.empty, environment := [] }
    rw [hrun] at hends
    obtain rfl : ending = .ok () := hends
    exact ⟨after, hrun, (hmade rfl).2⟩

/-- A directory that is made on the way back over `..` may bring a file in the way to light. -/
theorem ensureTree_fails_behind_missing_directory :
    (∀ p ∈ outputPaths (Path.ofText "a/../b"), p.Fits ∧ ∀ q ∈ p.through,
      (Machine.withFile "b").disk.find? q.text = none ∨
        (Machine.withFile "b").disk.find? q.text = some .directory) ∧
      (result (ensureTree (Path.ofText "a/../b")) (.withFile "b")).1 =
        .error ⟨.alreadyThere, "a/../b"⟩ := by
  decide +kernel

end TableScaffold
