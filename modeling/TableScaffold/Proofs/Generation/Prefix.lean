import TableScaffold.Proofs.Generation.Lazy

/-!
# Failing generations

A generation that fails at one artifact has written exactly the artifacts before it. Each of them is
what it would be when rendered on its own; beside their files there is nothing new but directories. There
is one exception: a device that breaks off in the content of the failing artifact leaves the front of it
(`writeViews_torn`).
-/

namespace TableScaffold

open OnMachine Template

variable {s : TableSchema} {source : TemplateSource} {root : Path} {m m' : Machine}

/-! ## Templates beside the output -/

/-- A template file lies below the directory of the templates. -/
theorem Disk.below_of_filePath? {d : Disk} {directory file path : String} {mid l : Location}
    (hne : directory ≠ "") (hmid : d.locate directory = .ok mid)
    (hpath : filePath? directory file = some path) (hl : d.locate path = .ok l) : mid <:+ l := by
  obtain ⟨names, rfl, hparts, hnames⟩ := Disk.eq_of_filePath? hpath
  have hfollow := (Disk.locate_eq_ok.mp hl).2
  rw [hparts, d.start_below hne, Disk.follow_append] at hfollow
  obtain ⟨mid', hmid', hbelow⟩ := hfollow
  rw [(Disk.locate_eq_ok.mp hmid).2] at hmid'
  cases hmid'
  exact ⟨names.reverse, (Disk.follow_names (d := d) hnames hbelow).1.symm⟩

/-- Templates are apart from targets that do not lie in their directory. -/
theorem TemplateSource.Apart.of_beside {d : Disk} {ts : List String} (mid : Location)
    (hmid : d.locate source.shown = .ok mid)
    (hbeside : ∀ t ∈ ts, ∀ l ∈ (d.locate t).toOption, ¬ mid <:+ l) (library : Library)
    (work : Library → Except RenderFault String) : source.Apart library work ts d := by
  rintro file path - hpath t ht ⟨l, hl, htl⟩
  cases source with
  | bundled => cases hpath
  | directory dir =>
    have hne := (Path.sound_ofText dir).text_ne_empty
    refine hbeside t ht l ?_ (Disk.below_of_filePath? hne hmid hpath hl)
    rw [htl]
    rfl

/-! ## The run up to the failure -/

/-- The artifact of a view model is torn: its content can be made, and the device takes only the front of
it, which is left in its file. -/
structure Torn (s : TableSchema) (source : TemplateSource) (root : Path) (view : View)
    (e : GenerationError) (before after : Machine) : Prop where
  fault : ∃ cause : DeviceFault, e = .notWritten (s.targetOf root view).text
    ⟨cause.fault, (s.targetOf root view).text⟩
  front : ∃ a l taken cause, s.artifactOn source before.disk view = .ok a ∧
    after.disk.locate (s.targetOf root view).text = .ok l ∧
    before.device l a.content.toUTF8 = some (taken, cause) ∧
    after.disk.node? l = some (.file (a.content.toUTF8.extract 0 taken))

/-- An artifact that cannot be written leaves directories at most, or it is torn. -/
theorem left_of_writeArtifact {view : View} {a : Artifact} {e : GenerationError}
    {between after : Machine} (hview : s.artifactOn source m.disk view = .ok a)
    (hdevice : between.device = m.device)
    (h : outcome (writeArtifact root a) between = (.error (.generation e), after)) :
    Machine.Grown [] between after ∨
      Machine.Grown [(s.targetOf root view).text] between after ∧ Torn s source root view e m after := by
  have hone := artifactWritten root a between
  rw [h] at hone
  obtain ⟨cause, he, -, hgrown | ⟨hpath, htorn⟩⟩ := hone.failed _ rfl
  · exact .inl hgrown
  · obtain ⟨l, taken, f, hl, hcut, hf, hnode⟩ := htorn.front
    rw [View.target_of_artifact hview root] at hpath hl
    rw [hdevice] at hcut
    have hgrown := htorn.grown
    rw [View.target_of_artifact hview root] at hgrown
    refine .inr ⟨hgrown, ⟨f, ?_⟩, a, l, taken, f, hview, hl, hcut, hnode⟩
    obtain ⟨fault, path⟩ := cause
    subst hf hpath
    rw [Artifact.failure, View.target_of_artifact hview root] at he
    unfold RunError.ofFile at he
    rw [if_neg f.fault_ne_nulInPath] at he
    exact RunError.generation.inj he

/-- A failing artifact ends the run where the ones before it are written. -/
theorem outcome_writeMade_stops {done : List View} {view : View} {made : List Artifact}
    {paths : List String} {e : GenerationError} {between : Machine} (later : List View)
    (hmade : s.Made source m.disk done made)
    (hwritten : outcome (writeArtifacts root made) m = (.ok paths, between))
    (hdevice : between.device = m.device)
    (hfails : s.artifactOn source m.disk view = .error e ∨
      ∃ a, s.artifactOn source m.disk view = .ok a ∧
        (outcome (writeArtifact root a) between).1 = .error (.generation e)) :
    ∃ after, outcome (writeMade root
        (artifactsOf s source.shown (source.library m.disk) (done ++ view :: later))) m =
      (.error (.generation e), after) ∧
      (Machine.Grown [] between after ∨
        Machine.Grown [(s.targetOf root view).text] between after ∧
          Torn s source root view e m after) := by
  rw [hmade.artifactsOf_append, outcome_writeMade]
  dsimp only
  rw [outcome_writeArtifacts_append hwritten]
  rcases hfails with hview | ⟨a, hview, hfails⟩
  · unfold TableSchema.artifactOn at hview
    rw [artifactsOf, hview]
    exact ⟨between, rfl, .inl (.refl [] between)⟩
  · rcases hone : outcome (writeArtifact root a) between with ⟨r, after⟩
    rw [hone] at hfails
    subst hfails
    have hleft := left_of_writeArtifact hview hdevice hone
    unfold TableSchema.artifactOn at hview
    rw [artifactsOf, hview]
    dsimp only
    rw [outcome_writeArtifacts_cons, hone]
    exact ⟨after, rfl, hleft⟩

/-- The message of an artifact that cannot be made or written. -/
theorem message_of_failure (root : Path) {view : View} {e : GenerationError} :
    (∀ d, s.artifactOn source d view = .error e → ∃ cause : RenderError,
      e.message = "Failed to generate " ++ s.pathOf view ++ ": " ++ cause.message) ∧
    (∀ d a m, s.artifactOn source d view = .ok a →
      (outcome (writeArtifact root a) m).1 = .error (.generation e) → ∃ cause : FileError,
      e.message = "Failed to write " ++ (s.targetOf root view).text ++ ": " ++ cause.message) := by
  refine ⟨fun d h => ?_, fun d a m ha h => ?_⟩
  · unfold TableSchema.artifactOn at h
    cases hrender : view.render s (source.library d) with
    | ok text =>
      rw [hrender] at h
      cases h
    | error f =>
      rw [hrender] at h
      cases h
      exact ⟨_, rfl⟩
  · obtain ⟨cause, he, -⟩ := (artifactWritten root a m).failed _ h
    rw [Artifact.failure, View.target_of_artifact ha root] at he
    unfold RunError.ofFile at he
    split at he
    · cases he
    · cases he
      exact ⟨cause, rfl⟩

/-- What is left of a generation that has written the artifacts of some view models; `torn` is the view
model of the artifact that is torn, if one is. -/
structure LeavesPrefix (s : TableSchema) (source : TemplateSource) (root : Path)
    (done torn : List View) (before after : Machine) : Prop where
  /-- Their files hold what is rendered on its own. -/
  written : ∀ u ∈ done, ∃ a, s.artifactOn source before.disk u = .ok a ∧
    after.disk.find? (s.targetOf root u).text = some (.file a.content.toUTF8)
  /-- The file of any other artifact is as it was, and not there if it was not. -/
  untouched : ∀ u ∉ done ++ torn, ∀ l, after.disk.locate (s.targetOf root u).text = .ok l →
    ∀ content, after.disk.node? l = some (.file content) ↔ before.disk.node? l = some (.file content)
  /-- Beside the files that are written, nothing has changed but that directories are new. -/
  grown : Machine.Grown ((done ++ torn).map fun u => (s.targetOf root u).text) before after

theorem leavesPrefix_of_written {done torn : List View} {made : List Artifact} {paths : List String}
    {between after : Machine} (hroot : root.Sound) (hviews : (done ++ torn).Nodup)
    (hmade : s.Made source m.disk done made)
    (hwritten : outcome (writeArtifacts root made) m = (.ok paths, between))
    (hlast : Machine.Grown (torn.map fun u => (s.targetOf root u).text) between after) :
    LeavesPrefix s source root done torn m after := by
  obtain ⟨hdone, -, hdisjoint⟩ := List.nodup_append.mp hviews
  obtain ⟨hpaths, hgrown, hplaces⟩ := writeArtifacts_ok (hmade.apart hdone hroot) hwritten
  have htargets : paths = done.map fun u => (s.targetOf root u).text :=
    hpaths.trans (hmade.texts_eq root)
  rw [htargets] at hgrown
  have hall : Machine.Grown ((done ++ torn).map fun u => (s.targetOf root u).text) m after := by
    rw [List.map_append]
    exact (hgrown.mono (List.subset_append_left ..)).comp (hlast.mono (List.subset_append_right ..))
  have hapart : ∀ u v, u ≠ v → ¬ after.disk.Joined (s.targetOf root u).text (s.targetOf root v).text :=
    fun u v hne => s.not_joined_targets hroot hne _
  refine ⟨fun u hu => ?_, fun u hu l hl content => ?_, hall⟩
  · obtain ⟨a, ha, hview⟩ := hmade.exists_mem hu
    have hplace := hplaces a ha
    have hfile := (hplace.grown hlast fun t ht => by
      obtain ⟨v, hv, rfl⟩ := List.mem_map.mp ht
      rw [View.target_of_artifact hview root]
      exact hapart u v (hdisjoint u hu v hv)).file.file
    rw [View.target_of_artifact hview root] at hfile
    exact ⟨a, hview, hfile⟩
  · refine hall.disk.file_iff (fun t ht => ?_) content
    obtain ⟨v, hv, rfl⟩ := List.mem_map.mp ht
    have hne : u ≠ v := by
      rintro rfl
      exact hu hv
    exact fun hloc => hapart u v hne ⟨l, hl, hloc⟩

/-- **A failing generation leaves exactly a prefix.** The artifacts of the view models `done` can be
made, each on its own, and written one after the other; that of the next one cannot be built, rendered
or written. Then the run fails with its error and leaves the files of `done`. Any other file is as it
was, unless the device broke off in the content of the failing artifact: its file holds the front then. -/
theorem writeViews_prefix (output : String) {done : List View} {view : View} (later : List View)
    {made : List Artifact} {paths : List String} {e : GenerationError} {between : Machine}
    (hlayout : View.layout = done ++ view :: later)
    (hmade : s.Made source m.disk done made)
    (hwritten : outcome (writeArtifacts (Path.ofText output) made) m = (.ok paths, between))
    (hfails : s.artifactOn source m.disk view = .error e ∨
      ∃ a, s.artifactOn source m.disk view = .ok a ∧
        (outcome (writeArtifact (Path.ofText output) a) between).1 = .error (.generation e))
    (hapart : ∀ u : View, source.Apart (source.library m.disk) (u.render s)
      (s.targets (Path.ofText output))
      (outcome (writeViews s source (Path.ofText output) View.layout) m).2.disk) :
    ∃ after torn,
      outcome (writeViews s source (Path.ofText output) View.layout) m =
        (.error (.generation e), after) ∧
      (s.artifactOn source m.disk view = .error e → ∃ cause : RenderError,
        e.message = "Failed to generate " ++ s.pathOf view ++ ": " ++ cause.message) ∧
      (∀ a, s.artifactOn source m.disk view = .ok a → ∃ cause : FileError,
        e.message = "Failed to write " ++ (s.targetOf (Path.ofText output) view).text ++ ": " ++
          cause.message) ∧
      LeavesPrefix s source (Path.ofText output) done torn m after ∧
      (torn = [] ∨ torn = [view] ∧ Torn s source (Path.ofText output) view e m after) := by
  have hroot := Path.sound_ofText output
  have hviews : (done ++ [view]).Nodup := by
    have h := View.nodup_layout
    rw [hlayout, ← List.singleton_append, ← List.append_assoc] at h
    exact (List.nodup_append.mp h).1
  have hdone : done.Nodup := (List.nodup_append.mp hviews).1
  have hgrown := (writeArtifacts_ok (hmade.apart hdone hroot) hwritten).2.1
  obtain ⟨after, hout, hlast⟩ := outcome_writeMade_stops later hmade hwritten hgrown.device hfails
  rw [← hlayout, ← outcome_writeViews_layout hapart] at hout
  have hmessage : ∀ a, s.artifactOn source m.disk view = .ok a → ∃ cause : FileError,
      e.message = "Failed to write " ++ (s.targetOf (Path.ofText output) view).text ++ ": " ++
        cause.message := by
    intro a ha
    rcases hfails with hview | ⟨b, hb, hfails⟩
    · rw [hview] at ha
      cases ha
    · exact (message_of_failure _).2 m.disk b between hb hfails
  rcases hlast with hlast | ⟨hlast, htorn⟩
  · have hviews : (done ++ []).Nodup := by rwa [List.append_nil]
    exact ⟨after, [], hout, (message_of_failure (Path.ofText output)).1 m.disk, hmessage,
      leavesPrefix_of_written hroot hviews hmade hwritten hlast, .inl rfl⟩
  · exact ⟨after, [view], hout, (message_of_failure (Path.ofText output)).1 m.disk, hmessage,
      leavesPrefix_of_written hroot hviews hmade hwritten hlast, .inr ⟨rfl, htorn⟩⟩

/-- A machine with a template directory that holds one template, that of the database model. -/
def loneTemplate : Machine where
  disk := ((Disk.withWorkingDirectory ["w"]).addDirectory ["t", "w"]).putFile "x".toUTF8
    ["prisma-model.prisma.j2", "t", "w"]
  environment := []

/-- With one template only, the first artifact is written and the second one is missed. -/
theorem writeViews_lone :
    ∃ after, outcome (writeViews ⟨"as", [], [], []⟩ (.directory "t") (Path.ofText "out") View.layout)
        loneTemplate = (.error (.generation
          (.notMade "dtos/a.dto.ts" (.fault .dto "t" .fileMissing))), after) ∧
      LeavesPrefix ⟨"as", [], [], []⟩ (.directory "t") (Path.ofText "out") [.persistenceModel] []
        loneTemplate after := by
  have hfirst : TableSchema.artifactOn ⟨"as", [], [], []⟩ (.directory "t") loneTemplate.disk
      .persistenceModel = .ok ⟨"prisma-model", "as.model.prisma", "x"⟩ := by
    decide +kernel
  have hsecond : TableSchema.artifactOn ⟨"as", [], [], []⟩ (.directory "t") loneTemplate.disk
      .dto = .error (.notMade "dtos/a.dto.ts" (.fault .dto "t" .fileMissing)) := by
    decide +kernel
  have hwritten : (outcome (writeArtifacts (Path.ofText "out")
      [⟨"prisma-model", "as.model.prisma", "x"⟩]) loneTemplate).1 = .ok ["out/as.model.prisma"] := by
    decide +kernel
  obtain ⟨after, torn, hout, -, -, hleft, htorn⟩ := writeViews_prefix "out" View.layout.tail.tail rfl
    (.cons hfirst .nil) (Prod.ext hwritten rfl) (Or.inl hsecond) fun u =>
      .of_beside ["t", "w"] (by decide +kernel) (by decide +kernel) _ _
  rcases htorn with rfl | ⟨rfl, ⟨cause, hcause⟩, -⟩
  · exact ⟨after, hout, hleft⟩
  · cases hcause

/-- The same machine on a device that is full. -/
def fullDevice : Machine := { loneTemplate with device := fun _ _ => some (0, .full) }

/-- A full device leaves an empty file of the artifact that cannot be written. And a table whose name
holds a NUL has no file for its first artifact, so that the run ends there, with no generation error, and
not at the second artifact, which is the first that cannot be rendered. -/
theorem writeViews_torn :
    (∃ after, outcome (writeViews ⟨"as", [], [], []⟩ (.directory "t") (Path.ofText "out") View.layout)
        fullDevice = (.error (.generation
          (.notWritten "out/as.model.prisma" ⟨.noSpace, "out/as.model.prisma"⟩)), after) ∧
      fullDevice.disk.find? "out/as.model.prisma" = none ∧
      after.disk.find? "out/as.model.prisma" = some (.file "".toUTF8)) ∧
    TableSchema.artifactOn ⟨"a\x00s", [], [], []⟩ (.directory "t") loneTemplate.disk
      .persistenceModel = .ok ⟨"prisma-model", "a\x00s.model.prisma", "x"⟩ ∧
    TableSchema.artifactOn ⟨"a\x00s", [], [], []⟩ (.directory "t") loneTemplate.disk .dto =
      .error (.notMade "dtos/a\x00.dto.ts" (.fault .dto "t" .fileMissing)) ∧
    (outcome (writeViews ⟨"a\x00s", [], [], []⟩ (.directory "t") (Path.ofText "out") View.layout)
      loneTemplate).1 = .error .nulInPath := by
  have hout : (outcome (writeViews ⟨"as", [], [], []⟩ (.directory "t") (Path.ofText "out")
      View.layout) fullDevice).1 = .error (.generation
        (.notWritten "out/as.model.prisma" ⟨.noSpace, "out/as.model.prisma"⟩)) := by
    decide +kernel
  refine ⟨⟨_, Prod.ext hout rfl, ?_, ?_⟩, ?_, ?_, ?_⟩ <;> decide +kernel

end TableScaffold
