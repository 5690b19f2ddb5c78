import TableScaffold.Proofs.Artifact.Imports
import TableScaffold.Proofs.Artifact.Paths
import TableScaffold.Proofs.Extraction.FieldNames
import TableScaffold.Proofs.Path.Reshaped

/-!
# Artifacts inside the output root

A table name goes into the paths of the artifacts with its slashes and dots. So it is the table name
that decides whether the files of a schema lie below the root of the output: they do, wherever that is,
if the name does not start with a slash and does not lead above its start (`artifacts_below_iff`).
-/

namespace TableScaffold

open TableScaffold.Path Text

/-! ## Names as they go into paths -/

namespace Naming

/-- A table name without the underscores that no file name keeps. -/
def bare (table : String) : String := String.ofList (table.toList.filter (· != '_'))

theorem toList_fileName (table : String) :
    (fileName (className table)).toList = lowerFrom [] (dashes (pascalFrom true table.toList)) := by
  simp [fileName, className, Text.lower]

/-- A file name leads through directories like the table name that it is made from. -/
theorem depth?_dirs_fileName (table : String) (depth : Nat) :
    depth? depth (dirs (fileName (className table))) = depth? depth (dirs (bare table)) := by
  have hfile : fileName (className table) =
      String.ofList (lowerFrom [] (dashes (pascalFrom true table.toList))) := by
    rw [← toList_fileName, String.ofList_toList]
  calc depth? depth (dirs (fileName (className table)))
      = depth? depth (dirs (String.ofList (dashes (pascalFrom true table.toList)))) := by
        rw [hfile, (Reshaped.lowerFrom [] _).depth?_dirs]
    _ = depth? depth (dirs (String.ofList (pascalFrom true table.toList))) :=
        (Reshaped.dashes _).depth?_dirs depth
    _ = depth? depth (dirs (bare table)) := (Reshaped.pascalFrom true _).depth?_dirs depth

theorem head?_fileName (table : String) :
    (fileName (className table)).toList.head? = some '/' ↔ (bare table).toList.head? = some '/' := by
  rw [toList_fileName, bare, String.toList_ofList, (Reshaped.lowerFrom [] _).head?_eq_slash,
    (Reshaped.dashes _).head?_eq_slash, (Reshaped.pascalFrom true _).head?_eq_slash]

/-- The `s` that a singular name lacks is no part of a directory. -/
theorem dirs_bare_singular (table : String) : dirs (bare (singular table)) = dirs (bare table) := by
  unfold singular
  split
  · next hlast =>
    obtain ⟨cs, hcs⟩ := List.getLast?_eq_some_iff.mp hlast
    have hbare : bare table = bare (String.ofList cs) ++ "s" := by
      rw [← String.toList_inj]
      simp [bare, hcs]
    rw [hbare, dirs_append (by decide), hcs, List.dropLast_concat]
  · rfl

end Naming

namespace View

theorem depth?_dirs_stem (table : String) {view : View} (hview : view ≠ constants) (depth : Nat) :
    depth? depth (dirs (view.stem (Names.ofTable table))) =
      depth? depth (dirs (Naming.bare table)) := by
  have hsingular : depth? depth (dirs (Names.ofTable table).singularFile) =
      depth? depth (dirs (Naming.bare table)) := by
    rw [← Naming.dirs_bare_singular table]
    exact Naming.depth?_dirs_fileName (Naming.singular table) depth
  have hplural : depth? depth (dirs (Names.ofTable table).pluralFile) =
      depth? depth (dirs (Naming.bare table)) := Naming.depth?_dirs_fileName table depth
  cases view with
  | dto | response | notFoundError | request => exact hsingular
  | persistenceModel | handler | controller | dbService | listResponse | moduleClass => exact hplural
  | constants => exact absurd rfl hview

/-- The directories of an artifact are its folder and those of its name. -/
theorem dirs_artifactPath (names : Names) (view : View) :
    dirs (view.artifactPath names) = view.folders ++ dirs (view.stem names) := by
  have hending : '/' ∉ view.ending.toList := by cases view <;> decide +kernel
  have plain : ∀ stem : String, dirs (stem ++ view.ending) = [] ++ dirs stem := fun stem =>
    dirs_append hending stem
  have below : ∀ folder stem : String, dirs (folder ++ "/" ++ stem ++ view.ending) =
      (parts folder).filter isName ++ dirs stem := fun folder stem =>
    (dirs_append hending _).trans (dirs_slash folder stem)
  cases view with
  | persistenceModel | moduleClass => exact plain _
  | dto => exact below "dtos" _
  | handler => exact below "handlers" _
  | controller => exact below "controllers" _
  | dbService => exact below "data" _
  | response | listResponse => exact below "http/responses" _
  | request => exact below "http/requests" _
  | notFoundError => exact below "exceptions" _
  | constants => exact below "config" ""

/-- Only a file that lies in no folder can have an absolute path. -/
theorem head?_artifactPath (names : Names) (view : View)
    (h : (view.artifactPath names).toList.head? = some '/') :
    names.pluralFile.toList.head? = some '/' := by
  unfold artifactPath at h
  cases view with
  | persistenceModel | moduleClass =>
    cases hstem : names.pluralFile.toList with
    | nil => simp [hstem] at h
    | cons c cs => simpa [hstem] using h
  | _ => simp at h

end View

/-! ## Below the root -/

/-- A table name that leads neither from the root of the disk nor above where it starts. -/
structure Grounded (table : String) : Prop where
  relative : (Naming.bare table).toList.head? ≠ some '/'
  inside : (depth? 0 (dirs (Naming.bare table))).isSome = true

/-- A name without slashes. -/
theorem Grounded.of_slash_notMem {table : String} (h : '/' ∉ table.toList) : Grounded table := by
  have hbare : '/' ∉ (Naming.bare table).toList := by
    rw [Naming.bare, String.toList_ofList]
    exact fun hmem => h (List.mem_of_mem_filter hmem)
  refine ⟨fun hhead => hbare (List.mem_of_head? hhead), ?_⟩
  rw [dirs, parts, List.splitOn_eq_singleton hbare]
  rfl

namespace TableSchema

variable (s : TableSchema)

theorem isName_fileOf (view : View) : isName (s.fileOf view) = true :=
  (s.getLast?_targetOf (sound_ofText ".") view).2.1

theorem fileOf_ne_up (view : View) : s.fileOf view ≠ ".." :=
  (s.getLast?_targetOf (sound_ofText ".") view).2.2

theorem names_pathOf (view : View) :
    (ofText (s.pathOf view)).names = dirs (s.pathOf view) ++ [s.fileOf view] := by
  have hname := s.isName_fileOf view
  unfold fileOf at hname ⊢
  exact names_ofText hname

theorem root_pathOf (h : Grounded s.tableName) (view : View) : (ofText (s.pathOf view)).root = "" := by
  refine (root_ofText_iff (s.pathOf view)).mpr fun hhead => h.relative ?_
  have hplural := View.head?_artifactPath (Names.ofTable s.tableName) view hhead
  exact (Naming.head?_fileName s.tableName).mp hplural

theorem root_pathOf_first (h : (Naming.bare s.tableName).toList.head? = some '/') :
    (ofText (s.pathOf .persistenceModel)).root ≠ "" := by
  intro hroot
  refine (root_ofText_iff (s.pathOf .persistenceModel)).mp hroot ?_
  have hfile := (Naming.head?_fileName s.tableName).mpr h
  show (Naming.fileName (Naming.className s.tableName) ++ ".model.prisma").toList.head? = some '/'
  rw [String.toList_append, List.head?_append, hfile]
  rfl

/-- How far down the path of an artifact leads: through its folder, its name's directories, and to its
file. -/
theorem depth?_pathOf (view : View) :
    depth? 0 (ofText (s.pathOf view)).names =
      (depth? view.folders.length (dirs (view.stem (Names.ofTable s.tableName)))).map (· + 1) := by
  have hfolders : depth? 0 view.folders = some view.folders.length := by
    cases view <;> decide
  have hfile : ∀ depth, depth? depth [s.fileOf view] = some (depth + 1) := fun depth =>
    depth?_down (s.fileOf_ne_up view)
  rw [names_pathOf, depth?_append, pathOf, View.dirs_artifactPath, depth?_append, hfolders,
    Option.bind_some]
  generalize depth? view.folders.length (dirs (view.stem (Names.ofTable s.tableName))) = depth
  cases depth with
  | none => rfl
  | some depth => exact hfile depth

theorem isSome_depth?_pathOf (h : Grounded s.tableName) (view : View) :
    (depth? 0 (ofText (s.pathOf view)).names).isSome = true := by
  rw [depth?_pathOf, Option.isSome_map]
  by_cases hview : view = .constants
  · subst hview
    rfl
  · rw [View.depth?_dirs_stem s.tableName hview]
    exact isSome_depth?_add h.inside _

theorem depth?_pathOf_first (h : depth? 0 (dirs (Naming.bare s.tableName)) = none) :
    depth? 0 (ofText (s.pathOf .persistenceModel)).names = none := by
  rw [depth?_pathOf, View.depth?_dirs_stem s.tableName (by decide)]
  exact congrArg (Option.map (· + 1)) h

end TableSchema

/-- The files of a schema lie strictly below the root of the output, wherever that is, exactly if its
table name is grounded. -/
theorem artifacts_below_iff (s : TableSchema) :
    (∀ root : Path, ∀ path ∈ s.artifactPaths, (root.join (ofText path)).Below root) ↔
      Grounded s.tableName := by
  constructor
  · intro h
    have hfirst : s.pathOf .persistenceModel ∈ s.artifactPaths :=
      List.mem_map_of_mem (View.mem_layout _)
    have hbelow := h (ofText ".") _ hfirst
    constructor
    · intro hhead
      exact not_below_join (.inl (s.root_pathOf_first hhead)) hbelow
    · by_contra hnone
      rw [Option.not_isSome_iff_eq_none] at hnone
      exact not_below_join (.inr (s.depth?_pathOf_first hnone)) hbelow
  · intro h root path hpath
    obtain ⟨view, -, rfl⟩ := List.mem_map.mp hpath
    have hlast : (ofText (s.pathOf view)).names.getLast? = some (s.fileOf view) := by
      rw [s.names_pathOf, List.getLast?_concat]
    exact below_join (s.root_pathOf h view) hlast (s.fileOf_ne_up view)
      (s.isSome_depth?_pathOf h view) root

/-- A table name that leads out of the output root. -/
theorem artifacts_outside : ∃ vs s,
    (Sql.trees .mysql "CREATE TABLE `../x` (a INT)").outcome = .ok vs ∧
    (extract (.list vs)).outcome = .ok s ∧
    ∃ root : Path, ∃ path ∈ s.artifactPaths, ¬ (root.join (ofText path)).Below root := by
  have heval : ((Sql.trees .mysql "CREATE TABLE `../x` (a INT)").outcome.toOption.bind
        fun vs => (extract (.list vs)).outcome.toOption.map (·.artifactPaths.head?)) =
      some (some "../x.model.prisma") := by
    decide +kernel
  obtain ⟨vs, s, htrees, hs, hpath⟩ := Attempt.exists_of_eval heval
  refine ⟨vs, s, htrees, hs, ofText ".", "../x.model.prisma", List.mem_of_head? hpath, ?_⟩
  exact not_below_join (.inr (by decide +kernel))

end TableScaffold
