import Mathlib.Data.List.Nodup
import TableScaffold.Proofs.Artifact.Imports
import TableScaffold.Proofs.Artifact.Inside
import TableScaffold.Proofs.Generation.Prefix

/-!
# Distinct artifacts

The artifacts of a schema go to different places, and they export different names, whatever the table
is called. Both follow from fixed endings. Where one ending is the end of another one, as it is with a
response and a list response, a singular name would have to be longer than its plural.
-/

namespace TableScaffold

open TableScaffold.Path Template

/-! ## Places -/

namespace TableSchema

variable (s : TableSchema)

theorem fileOf_ne {u v : View} (hne : u ≠ v) : s.fileOf u ≠ s.fileOf v := fun heq =>
  View.lastPart_ne s.tableName hne (String.ofList_injective heq)

/-- Paths of different artifacts are different after they are resolved, from wherever they start. -/
theorem resolved_ne (root : Path) {u v : View} (hne : u ≠ v) :
    (root.join (ofText (s.pathOf u))).resolved ≠ (root.join (ofText (s.pathOf v))).resolved := by
  have hlast : ∀ view, (root.join (ofText (s.pathOf view))).resolved.names.getLast? =
      some (s.fileOf view) := by
    intro view
    refine getLast?_resolved (getLast?_join root ?_) (s.fileOf_ne_up view)
    rw [names_pathOf, List.getLast?_concat]
  intro heq
  have hu := hlast u
  rw [heq, hlast v] at hu
  exact s.fileOf_ne hne (Option.some.inj hu).symm

theorem nodup_resolved (root : Path) :
    (s.artifactPaths.map fun path => (root.join (ofText path)).resolved).Nodup := by
  unfold artifactPaths
  rw [List.map_map]
  exact List.pairwise_map.mpr (View.nodup_layout.imp fun hne => s.resolved_ne root hne)

end TableSchema

/-! ## Exported names -/

/-- A singular class name is never longer than its plural. -/
theorem Names.length_singularClass (table : String) :
    (Names.ofTable table).singularClass.toList.length ≤
      (Names.ofTable table).pluralClass.toList.length := by
  show (Naming.className (Naming.singular table)).toList.length ≤
    (Naming.className table).toList.length
  unfold Naming.singular
  split
  · next hlast =>
    obtain ⟨cs, hcs⟩ := List.getLast?_eq_some_iff.mp hlast
    simp only [Naming.className, String.toList_ofList, hcs, List.dropLast_concat]
    rcases Naming.pascalFrom_concat true cs with h | h <;> rw [h, List.length_append] <;> omega
  · exact Nat.le_refl _

namespace View

/-- Only the name of a response ends like another exported name. -/
theorem label_suffix {u v : View} (hu : u ≠ persistenceModel) (hv : v ≠ persistenceModel)
    (hne : u ≠ v) (h : u.label.ending.toList <:+ v.label.ending.toList) :
    u = response ∧ v = listResponse := by
  have key : ∀ u ∈ all, ∀ v ∈ all, u ≠ persistenceModel → v ≠ persistenceModel → u ≠ v →
      u.label.ending.toList <:+ v.label.ending.toList → u = response ∧ v = listResponse := by
    decide +kernel
  exact key u u.mem_all v v.mem_all hu hv hne h

/-- Two artifacts export different names. -/
theorem label_ne (table : String) {u v : View} (hu : u ≠ persistenceModel)
    (hv : v ≠ persistenceModel) (hne : u ≠ v) :
    u.label.text (Names.ofTable table) ≠ v.label.text (Names.ofTable table) := by
  have responses : response.label.text (Names.ofTable table) ≠
      listResponse.label.text (Names.ofTable table) := by
    intro h
    have hlength := congrArg (fun text => text.toList.length) h
    have hle := Names.length_singularClass table
    simp [Label.text, label, Derived.text] at hlength hle
    omega
  intro h
  have htext := congrArg String.toList h
  simp only [Label.text, String.toList_append] at htext
  have hsuffix : u.label.ending.toList <:+
      (v.label.base.text (Names.ofTable table)).toList ++ v.label.ending.toList := ⟨_, htext⟩
  rcases List.suffix_or_suffix_of_suffix hsuffix (List.suffix_append _ _) with hend | hend
  · obtain ⟨rfl, rfl⟩ := label_suffix hu hv hne hend
    exact responses h
  · obtain ⟨rfl, rfl⟩ := label_suffix hv hu hne.symm hend
    exact responses h.symm

end View

/-- The names that the artifacts of a schema export, as the lines of their templates have them. -/
def TableSchema.exportedNames (s : TableSchema) : List String :=
  View.layout.flatMap fun view =>
    (view.phrases.filterMap export?).map fun e => Phrase.text s.names e.name

/-- The view models whose artifacts are written in TypeScript. -/
def View.typed : List View := layout.filter (· != persistenceModel)

theorem TableSchema.exportedNames_eq (s : TableSchema) :
    s.exportedNames = View.typed.map fun view => view.label.text s.names := by
  have hname : ∀ l : Label, Phrase.text s.names l.phrase = l.text s.names := fun l =>
    l.text_phrase s.names
  unfold exportedNames
  simp only [View.exports_eq]
  simp [View.layout, View.typed, View.exported, hname]

theorem TableSchema.nodup_exportedNames (s : TableSchema) : s.exportedNames.Nodup := by
  rw [exportedNames_eq]
  refine List.pairwise_map.mpr ?_
  have htyped : View.typed.Pairwise fun u v => u ≠ .persistenceModel ∧ v ≠ .persistenceModel ∧ u ≠ v := by
    decide
  exact htyped.imp fun ⟨hu, hv, hne⟩ => View.label_ne s.tableName hu hv hne

theorem View.exported_label {view : View} (h : view ≠ persistenceModel) :
    ∃ keyword ∈ ["class", "const"], view.exported = some ⟨keyword, view.label.phrase⟩ := by
  cases view with
  | persistenceModel => exact absurd rfl h
  | constants => exact ⟨"const", by decide, rfl⟩
  | _ => exact ⟨"class", by decide, rfl⟩

/-- Each artifact in TypeScript holds the export of its name. -/
theorem TableSchema.shows_exportedNames (s : TableSchema) :
    List.Forall₂ (fun (a : Artifact) name =>
        ∃ keyword ∈ ["class", "const"], a.Shows ("export " ++ keyword ++ " " ++ name ++ " "))
      ((View.layout.map (View.made s)).filter (·.name != "prisma-model")) s.exportedNames := by
  have htyped : (View.layout.map (View.made s)).filter (·.name != "prisma-model") =
      View.typed.map (View.made s) := by
    rfl
  rw [htyped, exportedNames_eq, List.forall₂_map_left_iff, List.forall₂_map_right_iff,
    List.forall₂_same]
  intro view hview
  have hne : view ≠ .persistenceModel := by simpa using (List.mem_filter.mp hview).2
  obtain ⟨keyword, hkeyword, hexported⟩ := View.exported_label hne
  refine ⟨keyword, hkeyword, ?_⟩
  rw [← Export.text_front]
  exact View.shows_export s hexported

/-- No artifact of a schema goes to the place of another one, and none exports the name of another
one, whatever the table is called. -/
theorem artifacts_distinct (s : TableSchema) (directory : String) :
    s.artifactPaths.Nodup ∧
    (s.artifactPaths.map fun path => (ofText path).resolved).Nodup ∧
    (∀ root : Path,
      (s.artifactPaths.map fun path => (root.join (ofText path)).resolved).Nodup) ∧
    s.exportedNames.Nodup ∧
    s.exportedNames =
      [s.names.singularClass ++ "Dto", s.names.pluralClass ++ "Handler",
       s.names.pluralClass ++ "Controller", s.names.pluralClass ++ "DbService",
       s.names.singularClass ++ "Response", s.names.pluralClass ++ "ListResponse",
       s.names.singularClass ++ "NotFoundError", s.names.constant ++ "_NOT_FOUND",
       s.names.pluralClass ++ "Module", s.names.singularClass ++ "Request"] ∧
    ∃ artifacts, s.Generates directory Library.bundled artifacts ∧
      artifacts.map (·.path) = s.artifactPaths ∧
      artifacts.length = 11 ∧
      List.Forall₂ (fun (a : Artifact) name =>
          ∃ keyword ∈ ["class", "const"], a.Shows ("export " ++ keyword ++ " " ++ name ++ " "))
        (artifacts.filter (·.name != "prisma-model")) s.exportedNames := by
  have hresolved : (s.artifactPaths.map fun path => (ofText path).resolved).Nodup := by
    have hdot : ∀ q : Path, (ofText ".").join q = q := by
      intro q
      have hempty : ofText "." = ⟨"", []⟩ := by decide +kernel
      rw [hempty, join]
      split
      · next hroot =>
        rw [← hroot]
        rfl
      · rfl
    have h := s.nodup_resolved (ofText ".")
    simpa only [hdot] using h
  refine ⟨List.Nodup.of_map _ hresolved, hresolved, s.nodup_resolved, s.nodup_exportedNames, ?_,
    View.layout.map (View.made s), generates_bundled s directory, ?_, rfl, ?_⟩
  · rw [s.exportedNames_eq]
    rfl
  · rw [List.map_map]
    rfl
  · exact s.shows_exportedNames

end TableScaffold
