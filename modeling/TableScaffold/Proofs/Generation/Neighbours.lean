import TableScaffold.Proofs.Artifact.Inside
import TableScaffold.Proofs.Disk.Joined
import TableScaffold.Proofs.Generation.Run

/-!
# Two tables in one root

Two tables have the file of the constants in common. If their file names differ, they have no other path
in common, with one exception: the response of one table is the list response of the other where the
singular file name of the first is the plural one of the second with `-list` behind it
(`View.artifactPath_eq_iff`). So a run for one table keeps the files of the other, as far as their paths
lead to other places.
-/

namespace TableScaffold

open OnMachine TableScaffold.Path

/-! ## Common paths -/

/-- The file names of two tables differ, the singular ones as well as the plural ones. -/
structure Names.Differ (n n' : Names) : Prop where
  singular : n.singularFile ≠ n'.singularFile
  plural : n.pluralFile ≠ n'.pluralFile

theorem Names.Differ.symm {n n' : Names} (h : n.Differ n') : n'.Differ n :=
  ⟨h.singular.symm, h.plural.symm⟩

namespace View

variable {n n' : Names} {u v : View}

/-- The path of an artifact is its folder, the name of the table and an ending. -/
theorem artifactPath_stem (n : Names) (view : View) :
    view.artifactPath n = folderPath view.folders ++ view.stem n ++ view.ending := by
  cases view with
  | constants => rfl
  | moduleClass | persistenceModel =>
    show _ = "" ++ _ ++ _
    rw [String.empty_append]
    rfl
  | _ => rfl

theorem stem_ne (h : n.Differ n') (hview : u ≠ constants) : u.stem n ≠ u.stem n' := by
  cases u with
  | dto | response | notFoundError | request => exact h.singular
  | persistenceModel | handler | controller | dbService | listResponse | moduleClass =>
    exact h.plural
  | constants => exact absurd rfl hview

/-- Different artifacts of two tables have different paths, but for a response and a list response. -/
theorem responses_of_artifactPath_eq (hne : u ≠ v) (h : u.artifactPath n = v.artifactPath n') :
    u = response ∧ v = listResponse ∨ u = listResponse ∧ v = response := by
  have hlast := congrArg (fun path => lastPart path.toList) h
  rw [lastPart_artifactPath, lastPart_artifactPath] at hlast
  have hu : u.ending.toList <:+ lastPart (v.stem n').toList ++ v.ending.toList := ⟨_, hlast⟩
  rcases List.suffix_or_suffix_of_suffix hu (List.suffix_append _ _) with hend | hend
  · exact .inl (ending_suffix hne hend)
  · exact .inr (ending_suffix hne.symm hend).symm

theorem response_eq_listResponse_iff :
    response.artifactPath n = listResponse.artifactPath n' ↔
      n.singularFile = n'.pluralFile ++ "-list" := by
  have hending : listResponse.ending = "-list" ++ response.ending := by decide +kernel
  rw [artifactPath_stem, artifactPath_stem, hending, ← String.append_assoc]
  show folderPath response.folders ++ n.singularFile ++ _ =
    folderPath response.folders ++ n'.pluralFile ++ "-list" ++ _ ↔ _
  rw [String.append_left_inj, String.append_assoc, String.append_right_inj]

/-- The artifacts of two tables with a common path: the constants, and at most one response. -/
theorem artifactPath_eq_iff (h : n.Differ n') :
    u.artifactPath n = v.artifactPath n' ↔
      u = constants ∧ v = constants ∨
      u = response ∧ v = listResponse ∧ n.singularFile = n'.pluralFile ++ "-list" ∨
      u = listResponse ∧ v = response ∧ n'.singularFile = n.pluralFile ++ "-list" := by
  constructor
  · intro heq
    by_cases huv : u = v
    · subst huv
      by_cases hview : u = constants
      · exact .inl ⟨hview, hview⟩
      · rw [artifactPath_stem, artifactPath_stem, String.append_left_inj, String.append_right_inj]
          at heq
        exact absurd heq (stem_ne h hview)
    · rcases responses_of_artifactPath_eq huv heq with ⟨rfl, rfl⟩ | ⟨rfl, rfl⟩
      · exact .inr (.inl ⟨rfl, rfl, response_eq_listResponse_iff.mp heq⟩)
      · exact .inr (.inr ⟨rfl, rfl, response_eq_listResponse_iff.mp heq.symm⟩)
  · rintro (⟨rfl, rfl⟩ | ⟨rfl, rfl, hlist⟩ | ⟨rfl, rfl, hlist⟩)
    · rfl
    · exact response_eq_listResponse_iff.mpr hlist
    · exact (response_eq_listResponse_iff.mpr hlist).symm

end View

theorem TableSchema.pathOf_mem (s : TableSchema) (view : View) : s.pathOf view ∈ s.artifactPaths :=
  List.mem_map_of_mem view.mem_layout

theorem TableSchema.response_eq_listResponse (s : TableSchema) {t : TableSchema}
    (h : s.names.singularFile = t.names.pluralFile ++ "-list") :
    s.pathOf .response = t.pathOf .listResponse :=
  View.response_eq_listResponse_iff.mpr h

/-! ## Common places -/

namespace View

variable {table : String} {u : View}

theorem slash_notMem_stem (h : '/' ∉ table.toList) (view : View) :
    '/' ∉ (view.stem (Names.ofTable table)).toList := by
  have hmark : '/' ∈ pathMarks := by decide
  have hplural : '/' ∉ (Names.ofTable table).pluralFile.toList := fun hmem =>
    h (Naming.mark_mem_of_className hmark (Naming.mark_mem_of_fileName hmark hmem))
  have hsingular : '/' ∉ (Names.ofTable table).singularFile.toList := fun hmem =>
    h (Naming.mem_of_mem_singular
      (Naming.mark_mem_of_className hmark (Naming.mark_mem_of_fileName hmark hmem)))
  cases view with
  | dto | response | notFoundError | request => exact hsingular
  | persistenceModel | handler | controller | dbService | listResponse | moduleClass => exact hplural
  | constants => exact List.not_mem_nil

end View

namespace TableSchema

variable {s t : TableSchema} {root : Path} {u v : View}

theorem fileOf_stem (h : '/' ∉ s.tableName.toList) (view : View) :
    s.fileOf view = view.stem (Names.ofTable s.tableName) ++ view.ending := by
  have hstem := view.slash_notMem_stem h
  have hlast : lastPart (view.stem (Names.ofTable s.tableName)).toList =
      (view.stem (Names.ofTable s.tableName)).toList := by
    have hcut := getLast?_splitOn (view.stem (Names.ofTable s.tableName)).toList
    rw [List.splitOn_eq_singleton hstem] at hcut
    exact (Option.some.inj hcut).symm
  rw [fileOf, pathOf, View.lastPart_artifactPath, hlast, ← String.toList_append, String.ofList_toList]

/-- The names that lead to an artifact of a table without a slash. -/
theorem names_pathOf_stem (h : '/' ∉ s.tableName.toList) (view : View) :
    (ofText (s.pathOf view)).names = view.folders ++ [s.fileOf view] := by
  have hdirs : dirs (view.stem (Names.ofTable s.tableName)) = [] := by
    rw [dirs, parts, List.splitOn_eq_singleton (view.slash_notMem_stem h)]
    rfl
  rw [names_pathOf, pathOf, View.dirs_artifactPath, hdirs, List.append_nil]

theorem up_notMem_pathOf (h : '/' ∉ s.tableName.toList) (view : View) :
    ".." ∉ (ofText (s.pathOf view)).names := by
  rw [names_pathOf_stem h, List.mem_append, List.mem_singleton, not_or]
  exact ⟨by cases view <;> decide, (s.fileOf_ne_up view).symm⟩

/-- Artifacts of tables without slashes that go to one place have one path. -/
theorem pathOf_eq_of_joined (hs : '/' ∉ s.tableName.toList) (ht : '/' ∉ t.tableName.toList)
    (hroot : root.Sound) {d : Disk}
    (h : d.Joined (s.targetOf root u).text (t.targetOf root v).text) : s.pathOf u = t.pathOf v := by
  have hnames := Disk.names_eq_of_joined hroot (sound_ofText _) (sound_ofText _)
    (s.root_pathOf (.of_slash_notMem hs) u) (t.root_pathOf (.of_slash_notMem ht) v)
    (up_notMem_pathOf hs u) (up_notMem_pathOf ht v) h
  rw [names_pathOf_stem hs, names_pathOf_stem ht] at hnames
  obtain ⟨hfolders, hfile⟩ := List.append_inj' hnames (by simp)
  have hstem := List.singleton_inj.mp hfile
  rw [fileOf_stem hs, fileOf_stem ht] at hstem
  rw [pathOf, pathOf, View.artifactPath_stem, View.artifactPath_stem, hfolders, String.append_assoc,
    String.append_assoc, hstem]

end TableSchema

/-! ## Two runs -/

/-- A run that succeeds lets the disk grow by the files of its table. -/
theorem grown_run {g : Sql.Grammar} {scriptPath : String} {settings : Settings} {m after : Machine}
    {made : Generated} {t : TableSchema}
    (hrun : outcome (run g scriptPath settings) m = (.ok made, after))
    (hschema : m.disk.schemaAt g settings.dialect scriptPath = .ok t) :
    Machine.Grown (t.targets settings.outputRoot) m after := by
  obtain ⟨t', m', paths, hschema', htree, hviews, rfl⟩ := outcome_run_ok hrun
  obtain rfl : t' = t := Except.ok.inj (hschema'.symm.trans hschema)
  have hsettled := settled_ensureTree settings.outputRoot m
  have hgrown := grown_writeViews t' settings.templateSource settings.outputRoot View.layout m'
  rw [htree] at hsettled
  rw [hviews] at hgrown
  exact (hsettled.grown.mono (List.nil_subset _)).comp hgrown

/-- **Two tables in one root.** Tables whose file names differ have no path in common but that of the
constants and, where the singular file name of one is the plural one of the other with `-list` behind it,
that of a response. A run for one of them keeps every file of the other whose path leads to no place of
its own; if no table name holds a slash, these are all files but those at the common paths. -/
theorem neighbours_kept {s t : TableSchema} (h : s.names.Differ t.names) :
    (∀ path, path ∈ s.artifactPaths ∧ path ∈ t.artifactPaths ↔
      path = "config/constants.ts" ∨
      path = s.pathOf .response ∧ s.names.singularFile = t.names.pluralFile ++ "-list" ∨
      path = t.pathOf .response ∧ t.names.singularFile = s.names.pluralFile ++ "-list") ∧
    ∀ g scriptPath settings m made after,
      outcome (run g scriptPath settings) m = (.ok made, after) →
      m.disk.schemaAt g settings.dialect scriptPath = .ok t →
      ∀ view content, m.disk.find? (s.targetOf settings.outputRoot view).text = some (.file content) →
        ((∀ other, ¬ after.disk.Joined (s.targetOf settings.outputRoot view).text
            (t.targetOf settings.outputRoot other).text) ∨
          '/' ∉ s.tableName.toList ∧ '/' ∉ t.tableName.toList ∧ s.pathOf view ∉ t.artifactPaths) →
        after.disk.find? (s.targetOf settings.outputRoot view).text = some (.file content) := by
  refine ⟨fun path => ⟨?_, ?_⟩, ?_⟩
  · rintro ⟨hs, ht⟩
    obtain ⟨u, -, rfl⟩ := List.mem_map.mp hs
    obtain ⟨v, -, hv⟩ := List.mem_map.mp ht
    rcases (View.artifactPath_eq_iff h).mp hv.symm with ⟨rfl, rfl⟩ | ⟨rfl, rfl, hlist⟩ |
      ⟨rfl, rfl, hlist⟩
    · exact .inl rfl
    · exact .inr (.inl ⟨rfl, hlist⟩)
    · exact .inr (.inr ⟨hv.symm, hlist⟩)
  · rintro (hpath | ⟨hpath, hlist⟩ | ⟨hpath, hlist⟩) <;> rw [hpath]
    · exact ⟨s.pathOf_mem .constants, t.pathOf_mem .constants⟩
    · refine ⟨s.pathOf_mem _, ?_⟩
      rw [s.response_eq_listResponse hlist]
      exact t.pathOf_mem _
    · refine ⟨?_, t.pathOf_mem _⟩
      rw [t.response_eq_listResponse hlist]
      exact s.pathOf_mem _
  · intro g scriptPath settings m made after hrun hschema view content hfile hplace
    refine (grown_run hrun hschema).disk.find?_file (fun target htarget => ?_) hfile
    obtain ⟨other, -, rfl⟩ := List.mem_map.mp htarget
    rcases hplace with hplace | ⟨hs, ht, hpath⟩
    · exact hplace other
    · refine fun hjoined => hpath ?_
      rw [TableSchema.pathOf_eq_of_joined hs ht (sound_ofText _) hjoined]
      exact t.pathOf_mem other

/-- A machine with a script for the table `a` and with a file for the table `b`. -/
def besideScript : Machine where
  disk := (((Disk.withWorkingDirectory ["w"]).addDirectory ["dtos", "w"]).putFile
    "export class BDto {}".toUTF8 ["b.dto.ts", "dtos", "w"]).putFile
    "CREATE TABLE a (x INT)".toUTF8 ["a.sql", "w"]
  environment := []

/-- The tables `a` and `b` share the constants, and a run for `a` keeps the file of `b`. -/
theorem neighbours_kept_beside : ∃ t made after,
    outcome (run Sql.grammar "a.sql" { outputDir := "." }) besideScript = (.ok made, after) ∧
    besideScript.disk.schemaAt Sql.grammar .mysql "a.sql" = .ok t ∧
    (∀ path, path ∈ ({ tableName := "b" } : TableSchema).artifactPaths ∧ path ∈ t.artifactPaths ↔
      path = "config/constants.ts") ∧
    after.disk.find? "dtos/b.dto.ts" = some (.file "export class BDto {}".toUTF8) := by
  have heval : (outcome (run Sql.grammar "a.sql" { outputDir := "." }) besideScript).1.toOption.map
      (·.tableName) = some "a" := by
    decide +kernel
  rcases hrun : outcome (run Sql.grammar "a.sql" { outputDir := "." }) besideScript with ⟨r, after⟩
  rw [hrun] at heval
  obtain ⟨made, hmade, htable⟩ := Option.map_eq_some_iff.mp heval
  obtain rfl : r = .ok made := Attempt.ok_of_toOption hmade
  obtain ⟨t, m', written, hschema, -, -, rfl⟩ := outcome_run_ok hrun
  have htable : t.tableName = "a" := htable
  have hnames : t.names = Names.ofTable "a" := congrArg Names.ofTable htable
  have hdiffer : Names.Differ ({ tableName := "b" } : TableSchema).names t.names := by
    rw [hnames]
    exact ⟨by decide +kernel, by decide +kernel⟩
  obtain ⟨hpaths, hkept⟩ := neighbours_kept hdiffer
  have hshared : ∀ path, path ∈ ({ tableName := "b" } : TableSchema).artifactPaths ∧
      path ∈ t.artifactPaths ↔ path = "config/constants.ts" := by
    intro path
    rw [hpaths path, hnames]
    have hlist : ({ tableName := "b" } : TableSchema).names.singularFile ≠
          (Names.ofTable "a").pluralFile ++ "-list" ∧
        (Names.ofTable "a").singularFile ≠
          ({ tableName := "b" } : TableSchema).names.pluralFile ++ "-list" := by
      decide +kernel
    simp [hlist]
  refine ⟨t, _, after, rfl, hschema, hshared, ?_⟩
  have hfile : besideScript.disk.find? "dtos/b.dto.ts" =
      some (.file "export class BDto {}".toUTF8) := by
    decide +kernel
  have htarget : (({ tableName := "b" } : TableSchema).targetOf (Path.ofText ".") .dto).text =
      "dtos/b.dto.ts" := by
    decide +kernel
  have hplace := hkept Sql.grammar "a.sql" { outputDir := "." } besideScript _ after hrun hschema .dto
    "export class BDto {}".toUTF8
  rw [htarget] at hplace
  refine hplace hfile (.inr ⟨by decide, by rw [htable]; decide, fun hmem => ?_⟩)
  have hdto := (hshared _).mp ⟨TableSchema.pathOf_mem _ .dto, hmem⟩
  exact absurd hdto (by decide +kernel)

/-- The response of one table and the list response of another one, whose file names are all different,
have one path and different contents; and two tables with different paths can share all places. -/
theorem neighbours_meet :
    (∀ n ∈ [(Names.ofTable "user_list").singularFile, (Names.ofTable "user_list").pluralFile],
      n ≠ (Names.ofTable "user").singularFile ∧ n ≠ (Names.ofTable "user").pluralFile) ∧
    (∃ as bs : List Artifact,
      generate { tableName := "user_list" } bundledDirectory Template.Library.bundled = .ok as ∧
      generate { tableName := "user" } bundledDirectory Template.Library.bundled = .ok bs ∧
      ∃ a ∈ as, ∃ b ∈ bs, a.path = "http/responses/user-list.response.ts" ∧ b.path = a.path ∧
        a.content ≠ b.content) ∧
    (∀ n ∈ [(Names.ofTable "a/b").singularFile, (Names.ofTable "a/b").pluralFile],
      n ≠ (Names.ofTable "a//b").singularFile ∧ n ≠ (Names.ofTable "a//b").pluralFile) ∧
    ∀ root view, ({ tableName := "a/b" } : TableSchema).targetOf root view =
      ({ tableName := "a//b" } : TableSchema).targetOf root view := by
  have hwritable : ∀ name, TableSchema.Writable { tableName := name } :=
    fun _ _ h => absurd h List.not_mem_nil
  refine ⟨by decide +kernel, ⟨_, _, generate_bundled_ok (hwritable _) _,
    generate_bundled_ok (hwritable _) _, ?_⟩, by decide +kernel, fun root view => ?_⟩
  · exact ⟨_, List.mem_map_of_mem (View.mem_layout .response), _,
      List.mem_map_of_mem (View.mem_layout .listResponse), by decide +kernel, by decide +kernel,
      by decide +kernel⟩
  · have hfirst : (Names.ofTable "a/b").singularFile = "a/b" ∧
        (Names.ofTable "a/b").pluralFile = "a/b" := by
      decide +kernel
    have hsecond : (Names.ofTable "a//b").singularFile = "a//b" ∧
        (Names.ofTable "a//b").pluralFile = "a//b" := by
      decide +kernel
    refine congrArg root.join ?_
    unfold TableSchema.pathOf View.artifactPath
    dsimp only
    rw [hfirst.1, hfirst.2, hsecond.1, hsecond.2]
    cases view <;> decide +kernel

end TableScaffold
