import TableScaffold.Artifact
import TableScaffold.Proofs.Disk.Growth

/-!
# The files of the artifacts

The artifacts of a schema go to different files. The endings of their paths tell nine of them apart,
whatever the table is called. Only the ending of a response is also the end of another one, that of a
list response; there the lengths differ, because the last part of a singular file name is never longer
than that of the plural one.
-/

namespace TableScaffold

open TableScaffold.Path Text

/-! ## Singular and plural -/

/-- Where the slashes are in a text. -/
def slashes (cs : List Char) : List Bool := cs.map (· == '/')

theorem length_lastPart (cs : List Char) :
    (lastPart cs).length = ((slashes cs).reverse.takeWhile (!·)).length := by
  unfold lastPart slashes
  rw [← List.map_reverse, List.takeWhile_map, List.length_map, List.length_reverse]
  rfl

/-- A text that goes on without slashes has a longer last part. -/
theorem length_lastPart_le {cs cs' : List Char} {k : Nat}
    (h : slashes cs' = slashes cs ++ List.replicate k false) :
    (lastPart cs).length ≤ (lastPart cs').length := by
  rw [length_lastPart, length_lastPart, h, List.reverse_append, List.reverse_replicate,
    List.takeWhile_append_of_pos (by simp +contextual), List.length_append]
  omega

/-- Letter case moves no slash, whatever stands around a letter. -/
theorem slashes_lowerFrom (before cs : List Char) :
    slashes (lowerFrom before cs) =
      cs.flatMap fun c => if c = 'Σ' then [false] else slashes (lowerChar c) := by
  induction cs generalizing before with
  | nil => rfl
  | cons c cs ih =>
    rw [lowerFrom, List.flatMap_cons, ← ih (c :: before)]
    unfold slashes
    rw [List.map_append]
    by_cases hc : c = 'Σ'
    · rw [if_pos hc, if_pos hc]
      split <;> rfl
    · rw [if_neg hc, if_neg hc]

theorem slashes_lower (cs ds : List Char) :
    slashes (lowerFrom [] (cs ++ ds)) =
      slashes (lowerFrom [] cs) ++ slashes (lowerFrom [] ds) := by
  simp only [slashes_lowerFrom, List.flatMap_append]

namespace Naming

/-- One more character, and perhaps a dash in front of it. -/
theorem dashes_concat {c : Char} (hc : c ≠ '_') (cs : List Char) :
    dashes (cs ++ [c]) = dashes cs ++ [c] ∨ dashes (cs ++ [c]) = dashes cs ++ ['-', c] := by
  fun_induction dashes cs with
  | case1 => simp [dashes, hc]
  | case2 d =>
    by_cases hcase : d.isLower && c.isUpper
    · have hd : d ≠ '_' := by
        rintro rfl
        simp at hcase
      simp [dashes, hcase, hc, hd]
    · simp [dashes, hcase, hc]
  | case3 d e rest hcase ih =>
    rcases ih with ih | ih <;> simp_all [dashes]
  | case4 d e rest hcase ih =>
    rcases ih with ih | ih <;> simp_all [dashes]

theorem pascalFrom_concat (start : Bool) (cs : List Char) :
    pascalFrom start (cs ++ ['s']) = pascalFrom start cs ++ ['s'] ∨
      pascalFrom start (cs ++ ['s']) = pascalFrom start cs ++ ['S'] := by
  have hupper : upperChar 's' = ['S'] := by decide +kernel
  induction cs generalizing start with
  | nil => cases start <;> simp [pascalFrom, hupper]
  | cons c cs ih =>
    rw [List.cons_append, pascalFrom, pascalFrom]
    split
    · exact ih true
    · rcases ih false with h | h <;> rw [h] <;> simp

/-- A plural file name has the slashes of the singular one, and then perhaps more characters. -/
theorem slashes_plural (cs : List Char) :
    ∃ k, slashes (lowerFrom [] (dashes (pascalFrom true (cs ++ ['s'])))) =
      slashes (lowerFrom [] (dashes (pascalFrom true cs))) ++ List.replicate k false := by
  have hends : slashes (lowerFrom [] ['s']) = [false] ∧ slashes (lowerFrom [] ['S']) = [false] ∧
      slashes (lowerFrom [] ['-', 's']) = [false, false] ∧
      slashes (lowerFrom [] ['-', 'S']) = [false, false] := by
    decide +kernel
  obtain ⟨hs, hS, hds, hdS⟩ := hends
  rcases pascalFrom_concat true cs with h | h <;> rw [h]
  · rcases dashes_concat (c := 's') (by decide) (pascalFrom true cs) with h | h <;>
      rw [h, slashes_lower]
    · exact ⟨1, by rw [hs]; rfl⟩
    · exact ⟨2, by rw [hds]; rfl⟩
  · rcases dashes_concat (c := 'S') (by decide) (pascalFrom true cs) with h | h <;>
      rw [h, slashes_lower]
    · exact ⟨1, by rw [hS]; rfl⟩
    · exact ⟨2, by rw [hdS]; rfl⟩

end Naming

theorem Names.length_lastPart_singular (table : String) :
    (lastPart (Names.ofTable table).singularFile.toList).length ≤
      (lastPart (Names.ofTable table).pluralFile.toList).length := by
  have hfile : ∀ name : String, (Naming.fileName (Naming.className name)).toList =
      lowerFrom [] (Naming.dashes (Naming.pascalFrom true name.toList)) := by
    intro name
    simp [Naming.fileName, Naming.className, Text.lower]
  show (lastPart (Naming.fileName (Naming.className (Naming.singular table))).toList).length ≤
    (lastPart (Naming.fileName (Naming.className table)).toList).length
  unfold Naming.singular
  split
  · next hlast =>
    obtain ⟨cs, hcs⟩ := List.getLast?_eq_some_iff.mp hlast
    obtain ⟨k, hk⟩ := Naming.slashes_plural cs
    rw [hfile, hfile, hcs, String.toList_ofList, List.dropLast_concat]
    exact length_lastPart_le hk
  · exact Nat.le_refl _

/-! ## Endings -/

namespace View

/-- How the path of an artifact ends. -/
def ending : View → String
  | persistenceModel => ".model.prisma"
  | dto => ".dto.ts"
  | handler => ".handler.ts"
  | controller => ".controller.ts"
  | dbService => "-db.service.ts"
  | response => ".response.ts"
  | listResponse => "-list.response.ts"
  | notFoundError => "-not-found-error.ts"
  | constants => "constants.ts"
  | moduleClass => ".module.ts"
  | request => ".request.ts"

/-- What stands in front of the ending. -/
def stem (names : Names) : View → String
  | dto | response | notFoundError | request => names.singularFile
  | persistenceModel | handler | controller | dbService | listResponse | moduleClass =>
    names.pluralFile
  | constants => ""

theorem mem_all (view : View) : view ∈ all := by
  cases view <;> decide

theorem mem_layout (view : View) : view ∈ layout := by
  cases view <;> decide

/-- The name of the file of an artifact. -/
theorem lastPart_artifactPath (names : Names) (view : View) :
    lastPart (view.artifactPath names).toList =
      lastPart (view.stem names).toList ++ view.ending.toList := by
  have plain : ∀ stem : String, lastPart (stem ++ view.ending).toList =
      lastPart stem.toList ++ view.ending.toList := by
    intro stem
    rw [String.toList_append]
    exact lastPart_append (by cases view <;> decide +kernel) _
  have below : ∀ folder stem : String, lastPart (folder ++ "/" ++ stem ++ view.ending).toList =
      lastPart stem.toList ++ view.ending.toList := by
    intro folder stem
    rw [plain, String.toList_append, String.toList_append, List.append_assoc]
    exact congrArg (· ++ _) (lastPart_slash _ _)
  cases view with
  | persistenceModel | moduleClass => exact plain _
  | dto => exact below "dtos" _
  | handler => exact below "handlers" _
  | controller => exact below "controllers" _
  | dbService => exact below "data" _
  | response | listResponse => exact below "http/responses" _
  | request => exact below "http/requests" _
  | notFoundError => exact below "exceptions" _
  | constants => exact below "config" ""

/-- Only the ending of a response is the end of another one. -/
theorem ending_suffix {u v : View} (hne : u ≠ v) (h : u.ending.toList <:+ v.ending.toList) :
    u = response ∧ v = listResponse := by
  have key : ∀ u ∈ all, ∀ v ∈ all, u ≠ v → u.ending.toList <:+ v.ending.toList →
      u = response ∧ v = listResponse := by
    decide +kernel
  exact key u u.mem_all v v.mem_all hne h

/-- The files of two artifacts have different names. -/
theorem lastPart_ne (table : String) {u v : View} (hne : u ≠ v) :
    lastPart (u.artifactPath (Names.ofTable table)).toList ≠
      lastPart (v.artifactPath (Names.ofTable table)).toList := by
  have responses : ¬ lastPart ((Names.ofTable table).singularFile).toList ++ ".response.ts".toList =
      lastPart ((Names.ofTable table).pluralFile).toList ++ "-list.response.ts".toList := by
    intro h
    have hlength := congrArg List.length h
    have hle := Names.length_lastPart_singular table
    simp only [List.length_append] at hlength
    have hends : ".response.ts".toList.length = 12 ∧ "-list.response.ts".toList.length = 17 := by
      decide +kernel
    omega
  rw [lastPart_artifactPath, lastPart_artifactPath]
  intro h
  have hu : u.ending.toList <:+ lastPart (v.stem (Names.ofTable table)).toList ++ v.ending.toList :=
    ⟨_, h⟩
  rcases List.suffix_or_suffix_of_suffix hu (List.suffix_append _ _) with hend | hend
  · obtain ⟨rfl, rfl⟩ := ending_suffix hne hend
    exact responses h
  · obtain ⟨rfl, rfl⟩ := ending_suffix hne.symm hend
    exact responses h.symm

end View

/-! ## Locations -/

/-- The path of the file of an artifact, from the root of the output. -/
def TableSchema.targetOf (s : TableSchema) (root : Path) (view : View) : Path :=
  root.join (Path.ofText (s.pathOf view))

/-- The paths of the files of all artifacts. -/
def TableSchema.targets (s : TableSchema) (root : Path) : List String :=
  View.layout.map fun view => (s.targetOf root view).text

theorem TableSchema.targetOf_mem (s : TableSchema) (root : Path) (view : View) :
    (s.targetOf root view).text ∈ s.targets root :=
  List.mem_map_of_mem view.mem_layout

/-- The name of the file of an artifact. -/
def TableSchema.fileOf (s : TableSchema) (view : View) : String :=
  String.ofList (lastPart (s.pathOf view).toList)

/-- The file name stands at the end of the path, and it is a name. -/
theorem TableSchema.getLast?_targetOf (s : TableSchema) {root : Path} (hroot : root.Sound)
    (view : View) :
    (parts (s.targetOf root view).text).getLast? = some (s.fileOf view) ∧
      Path.isName (s.fileOf view) = true ∧ s.fileOf view ≠ ".." := by
  have hlong : 3 ≤ (s.fileOf view).toList.length := by
    have hending : 3 ≤ view.ending.toList.length := by
      cases view <;> decide +kernel
    rw [fileOf, String.toList_ofList, pathOf, View.lastPart_artifactPath, List.length_append]
    omega
  have hne : ∀ short : String, short.toList.length < 3 → s.fileOf view ≠ short := by
    rintro short hshort rfl
    omega
  have hname : Path.isName (s.fileOf view) = true := by
    simp [Path.isName, hne "" (by decide +kernel), hne "." (by decide +kernel)]
  refine ⟨(hroot.join (sound_ofText _)).getLast?_parts (getLast?_join _ ?_), hname,
    hne _ (by decide +kernel)⟩
  obtain ⟨ps, hps⟩ : ∃ ps, parts (s.pathOf view) = ps ++ [s.fileOf view] :=
    List.getLast?_eq_some_iff.mp (Path.getLast?_parts (s.pathOf view))
  unfold Path.ofText
  dsimp only
  rw [hps, List.filter_append, List.filter_cons_of_pos hname, List.getLast?_append]
  rfl

/-- Two artifacts go to different places. -/
theorem TableSchema.not_joined_targets (s : TableSchema) {root : Path} (hroot : root.Sound)
    {u v : View} (hne : u ≠ v) (d : Disk) :
    ¬ d.Joined (s.targetOf root u).text (s.targetOf root v).text := by
  obtain ⟨hlastu, hu⟩ := s.getLast?_targetOf hroot u
  obtain ⟨hlastv, hv⟩ := s.getLast?_targetOf hroot v
  refine Disk.not_joined hlastu hu fun b hb => ?_
  cases hlastv.symm.trans hb
  exact ⟨hv.1, hv.2, fun heq => View.lastPart_ne s.tableName hne (String.ofList_injective heq)⟩

theorem TableSchema.pairwise_targets (s : TableSchema) {root : Path} (hroot : root.Sound)
    {views : List View} (h : views.Nodup) :
    (views.map fun u => (s.targetOf root u).text).Pairwise fun p q => ∀ d : Disk, ¬ d.Joined p q :=
  List.pairwise_map.mpr (h.imp fun hne d => s.not_joined_targets hroot hne d)

end TableScaffold
