import TableScaffold.Proofs.Artifact.Content
import TableScaffold.Proofs.Artifact.Phrase

/-!
# Imports between the artifacts

The templates write their imports and exports as lines of fixed form, which are read here as phrases.

1. `import?` and `export?` read a line, `classUses` finds the class and constant names in it.
2. `Linked` compares what one template imports with the paths and exports of all others. It is
   decided on the phrases, so it holds for every table.
3. The artifacts hold the texts of these phrases, and a path in an import leads from the folder of
   its artifact to the artifact that exports the name.
-/

namespace TableScaffold

open Template

/-! ## Lines that import and export -/

/-- An imported name and the path that it is imported from. -/
structure Import where
  name : Phrase
  path : Phrase
  deriving DecidableEq

/-- An exported name and the word for its kind. -/
structure Export where
  keyword : String
  name : Phrase
  deriving DecidableEq

/-- The line of an import. -/
def Import.line (i : Import) : Phrase :=
  Phrase.ofString "import \x7b " ++ i.name ++ Phrase.ofString " \x7d from '" ++ i.path ++
    Phrase.ofString "';"

/-- The front of the line of an export. -/
def Export.front (e : Export) : Phrase :=
  Phrase.ofString ("export " ++ e.keyword ++ " ") ++ e.name ++ Phrase.ofString " "

/-- The import on a line. -/
def import? (line : Phrase) : Option Import := do
  let rest ← Phrase.after? "import \x7b ".toList line
  let (name, rest) ← Phrase.until? " \x7d from '".toList rest
  let (path, rest) ← Phrase.until? "';".toList rest
  if rest = [] then some ⟨name, path⟩ else none

/-- The export of a given kind on a line. -/
def exportOf? (line : Phrase) (keyword : String) : Option Export := do
  let rest ← Phrase.after? ("export " ++ keyword ++ " ").toList line
  let (name, _) ← Phrase.until? " ".toList rest
  some ⟨keyword, name⟩

/-- The export on a line. -/
def export? (line : Phrase) : Option Export := ["class", "const"].findSome? (exportOf? line)

theorem line_of_import? {line : Phrase} {i : Import} (h : import? line = some i) :
    i.line = line := by
  simp only [import?, Option.bind_eq_bind, Option.bind_eq_some_iff] at h
  obtain ⟨rest, hrest, ⟨name, rest'⟩, hname, ⟨path, rest''⟩, hpath, h⟩ := h
  split at h
  · next hend =>
    dsimp only at hname hpath hend
    cases h
    rw [Phrase.eq_of_after? hrest, Phrase.eq_of_until? hname, Phrase.eq_of_until? hpath, hend]
    simp [Import.line, Phrase.ofString]
  · cases h

theorem front_of_export? {line : Phrase} {e : Export} (h : export? line = some e) :
    ∃ rest, line = e.front ++ rest := by
  obtain ⟨keyword, -, h⟩ := List.exists_of_findSome?_eq_some h
  simp only [exportOf?, Option.bind_eq_bind, Option.bind_eq_some_iff] at h
  obtain ⟨rest, hrest, ⟨name, rest'⟩, hname, h⟩ := h
  cases h
  refine ⟨rest', ?_⟩
  rw [Phrase.eq_of_after? hrest, Phrase.eq_of_until? hname]
  simp [Export.front, Phrase.ofString]

/-! ## Paths -/

/-- The path of folders, one in another. -/
def folderPath (folders : List String) : String := String.join (folders.map (· ++ "/"))

/-- A path that starts with `./` or `../`, taken from folders. -/
def resolve (folders : List String) : List Char → String
  | '.' :: '/' :: rest => folderPath folders ++ String.ofList rest
  | '.' :: '.' :: '/' :: rest => resolve folders.dropLast rest
  | rest => folderPath folders ++ String.ofList rest

/-- A phrase of such a path, taken from folders; what follows the dots must be a character. -/
def resolved? (folders : List String) : Phrase → Option Phrase
  | .char '.' :: .char '/' :: rest => some (Phrase.ofString (folderPath folders) ++ rest)
  | .char '.' :: .char '.' :: .char '/' :: rest => resolved? folders.dropLast rest
  | .char c :: rest =>
    if c = '.' then none else some (Phrase.ofString (folderPath folders) ++ .char c :: rest)
  | _ => none

theorem resolve_of_ne (folders : List String) {c : Char} (hc : c ≠ '.') (cs : List Char) :
    resolve folders (c :: cs) = folderPath folders ++ String.ofList (c :: cs) := by
  unfold resolve
  split
  · next heq => exact absurd (List.cons.inj heq).1 hc
  · next heq => exact absurd (List.cons.inj heq).1 hc
  · rfl

theorem resolve_text (names : Names) {folders : List String} {p q : Phrase}
    (h : resolved? folders p = some q) :
    resolve folders (Phrase.text names p).toList = Phrase.text names q := by
  fun_induction resolved? folders p generalizing q with
  | case1 folders rest =>
    cases h
    rw [Phrase.text_append, Phrase.text_ofString]
    simp [Phrase.text, Symbol.chars, resolve]
  | case2 folders rest ih =>
    rw [← ih h]
    simp [Phrase.text, Symbol.chars, resolve]
  | case3 => cases h
  | case4 folders c rest h1 h2 hc =>
    cases h
    rw [Phrase.text_append, Phrase.text_ofString]
    unfold Phrase.text
    rw [String.toList_ofList]
    exact resolve_of_ne folders hc _
  | case5 => cases h

/-- The folder of an artifact. -/
def View.folders : View → List String
  | dto => ["dtos"]
  | handler => ["handlers"]
  | controller => ["controllers"]
  | dbService => ["data"]
  | response | listResponse => ["http", "responses"]
  | request => ["http", "requests"]
  | notFoundError => ["exceptions"]
  | constants => ["config"]
  | moduleClass | persistenceModel => []

/-- The name of the file of an artifact, in its folder. -/
def View.file : View → Phrase
  | dto => Label.phrase ⟨.singularFile, ".dto.ts"⟩
  | handler => Label.phrase ⟨.pluralFile, ".handler.ts"⟩
  | controller => Label.phrase ⟨.pluralFile, ".controller.ts"⟩
  | dbService => Label.phrase ⟨.pluralFile, "-db.service.ts"⟩
  | response => Label.phrase ⟨.singularFile, ".response.ts"⟩
  | listResponse => Label.phrase ⟨.pluralFile, "-list.response.ts"⟩
  | request => Label.phrase ⟨.singularFile, ".request.ts"⟩
  | notFoundError => Label.phrase ⟨.singularFile, "-not-found-error.ts"⟩
  | constants => Phrase.ofString "constants.ts"
  | moduleClass => Label.phrase ⟨.pluralFile, ".module.ts"⟩
  | persistenceModel => Label.phrase ⟨.pluralFile, ".model.prisma"⟩

theorem View.artifactPath_eq (names : Names) (view : View) :
    view.artifactPath names = folderPath view.folders ++ Phrase.text names view.file := by
  cases view with
  | constants =>
    rw [file, Phrase.text_ofString]
    rfl
  | moduleClass | persistenceModel =>
    rw [file, Label.text_phrase]
    exact String.empty_append.symm
  | _ =>
    rw [file, Label.text_phrase]
    exact String.append_assoc

/-! ## Imports and exports of a template -/

/-- Whether an import is of another artifact: relative, and not of the database client. -/
def Import.isSibling (i : Import) : Bool :=
  i.path.head? == some (.char '.') &&
    resolved? [] i.path != some (Phrase.ofString "prisma/prisma.service")

/-- Whether a symbol may stand in the name of a class or a constant. -/
def Symbol.isIdentifier : Symbol → Bool
  | char c => c.isAlphanum || c == '_'
  | derived .singularClass | derived .pluralClass | derived .constant => true
  | derived _ | camel _ => false

/-- Whether a symbol is a derived name. -/
def Symbol.isDerived : Symbol → Bool
  | derived _ => true
  | char _ | camel _ => false

/-- The names in a phrase; `run` is the front of the first. -/
def identifiers (run : Phrase) : Phrase → List Phrase
  | [] => [run]
  | x :: p => if x.isIdentifier then identifiers (run ++ [x]) p else run :: identifiers [] p

/-- The names of classes and constants in a phrase: those that depend on the table. -/
def classUses (line : Phrase) : List Phrase := (identifiers [] line).filter (·.any Symbol.isDerived)

/-- The imports of other artifacts on some lines. -/
def siblingImports (lines : List Phrase) : List Import :=
  (lines.filterMap import?).filter Import.isSibling

/-- The names of classes and constants on lines that are no imports. -/
def bodyUses (lines : List Phrase) : List Phrase :=
  (lines.filter fun line => (import? line).isNone).flatMap classUses

/-- The lines of a template as phrases. -/
def View.phrases (view : View) : List Phrase := view.lines.map fun line => view.phrase line.toList

/-- What the artifact of a view model exports. A database model exports nothing. -/
def View.exported : View → Option Export
  | persistenceModel => none
  | constants => some ⟨"const", constants.label.phrase⟩
  | view => some ⟨"class", view.label.phrase⟩

/-- Whether an import leads from one artifact to another, which exports its name. -/
def Import.leadsTo (view target : View) (i : Import) : Bool :=
  target != view && target.exported.map (·.name) == some i.name &&
    (resolved? view.folders i.path).map (· ++ Phrase.ofString ".ts") ==
      some (Phrase.ofString (folderPath target.folders) ++ target.file)

/-- Whether a line starts with the word of imports. -/
def startsImport (line : Phrase) : Bool := (Phrase.after? "import".toList line).isSome

/-- Whether the lines of a template export what its artifact is said to export, import other
artifacts only by their path and name, and use no class or constant but their own and those that
they import. No import has another form, and only plain templates import other artifacts. -/
def Linked (view : View) (lines : List Phrase) : Bool :=
  lines.filter startsImport == (lines.filterMap import?).map Import.line &&
  lines.filterMap export? == view.exported.toList &&
  ((siblingImports lines).all fun i => View.layout.any fun target => i.leadsTo view target) &&
  ((bodyUses lines).all fun use =>
    use == view.label.phrase || (siblingImports lines).any fun i => i.name == use) &&
  ((siblingImports lines).isEmpty || View.plain.contains view)

theorem View.phrases_eq (view : View) :
    view.phrases = (view.lines.map String.toList).map view.phrase := by
  rw [List.map_map]
  rfl

set_option maxRecDepth 10000 in
/-- The templates agree with each other. -/
theorem View.linked (view : View) : Linked view view.phrases = true := by
  rw [View.phrases_eq]
  cases view <;>
  · apply Spells.elim (P := fun css => Linked _ (css.map (View.phrase _)) = true)
    · repeat constructor
    · decide +kernel

/-! ## What the artifacts hold -/

/-- Whether a text is part of the content of an artifact. -/
def Artifact.Shows (a : Artifact) (text : String) : Prop :=
  ∃ before after, a.content = before ++ text ++ after

theorem Template.textOf_split {line : String} {lines : List String} (h : line ∈ lines) :
    ∃ before after, textOf lines = before ++ (line ++ "\n") ++ after := by
  obtain ⟨before, after, rfl⟩ := List.append_of_mem h
  refine ⟨textOf before, textOf after, ?_⟩
  rw [textOf_append, textOf_cons]
  exact String.append_assoc.symm

theorem View.made_shows {s : TableSchema} {view : View} {line : String}
    (h : line ∈ view.contentLines s) : (view.made s).Shows (line ++ "\n") :=
  textOf_split h

theorem View.exports_eq (view : View) : view.phrases.filterMap export? = view.exported.toList := by
  have := view.linked
  simp only [Linked, Bool.and_eq_true, beq_iff_eq] at this
  exact this.1.1.1.2

theorem View.text_phrase_mem (s : TableSchema) {view : View} (hplain : view ∈ plain) {p : Phrase}
    (h : p ∈ view.phrases) :
    Phrase.text s.names p ∈ view.contentLines s := by
  obtain ⟨line, hline, rfl⟩ := List.mem_map.mp h
  rw [contentLines_plain s hplain, text_phrase]
  exact List.mem_map_of_mem hline

theorem View.shows_import (s : TableSchema) {view : View} {i : Import}
    (h : i ∈ siblingImports view.phrases) :
    (view.made s).Shows (Phrase.text s.names i.line ++ "\n") := by
  have hplain : view ∈ plain := by
    have := view.linked
    simp only [Linked, Bool.and_eq_true, Bool.or_eq_true, List.isEmpty_iff,
      List.contains_iff_mem] at this
    refine this.2.resolve_left fun hnil => ?_
    rw [hnil] at h
    exact nomatch h
  obtain ⟨p, hp, hi⟩ := List.mem_filterMap.mp (List.mem_filter.mp h).1
  rw [line_of_import? hi]
  exact made_shows (text_phrase_mem s hplain hp)

theorem View.made_shows_front {s : TableSchema} {view : View} {line front rest : String}
    (h : line ∈ view.contentLines s) (hline : line = front ++ rest) :
    (view.made s).Shows front := by
  obtain ⟨before, after, hsplit⟩ := textOf_split h
  refine ⟨before, rest ++ ("\n" ++ after), hsplit.trans ?_⟩
  rw [hline]
  simp only [String.append_assoc]

theorem Export.text_front (names : Names) (keyword : String) (l : Label) :
    Phrase.text names (front ⟨keyword, l.phrase⟩) =
      "export " ++ keyword ++ " " ++ l.text names ++ " " := by
  unfold front
  simp only [Phrase.text_append, Phrase.text_ofString, Label.text_phrase]

theorem View.shows_export (s : TableSchema) {view : View} {e : Export}
    (h : view.exported = some e) :
    (view.made s).Shows (Phrase.text s.names e.front) := by
  have classLine (name ending : String) : "export class " ++ name ++ ending ++ " \x7b" =
      "export class " ++ (name ++ ending) ++ " " ++ "\x7b" := by
    simp only [String.append_assoc]
    rfl
  have ofPlain (hplain : view ∈ plain) : (view.made s).Shows (Phrase.text s.names e.front) := by
    have hmem : e ∈ view.phrases.filterMap export? := by
      rw [exports_eq, h]
      exact List.mem_singleton_self e
    obtain ⟨p, hp, he⟩ := List.mem_filterMap.mp hmem
    obtain ⟨rest, hrest⟩ := front_of_export? he
    rw [hrest] at hp
    exact made_shows_front (text_phrase_mem s hplain hp) (Phrase.text_append s.names e.front rest)
  cases view with
  | persistenceModel => cases h
  | dto =>
    cases h
    rw [Export.text_front]
    exact made_shows_front (List.mem_append_left _ (List.mem_append_left _
      (List.mem_singleton_self _))) (classLine _ _)
  | request =>
    cases h
    rw [Export.text_front]
    exact made_shows_front (List.mem_append_left _ (List.mem_append_left _
      (.tail _ (.tail _ (.tail _ (.head _)))))) (classLine _ _)
  | _ => exact ofPlain (by decide)

theorem View.template_injective {view view' : View} (h : view.template = view'.template) :
    view = view' := by
  have := ofTemplate?_template view
  rw [h, ofTemplate?_template] at this
  exact (Option.some.inj this).symm

/-- The artifacts import each other consistently. Each import of another artifact leads from the
folder of the importing one to the path of another artifact, and this one exports exactly the name
that is imported. A class or constant that is used is the artifact's own or imported. -/
theorem imports_agree (s : TableSchema) (directory : String) :
    ∃ artifacts, s.Generates directory Library.bundled artifacts ∧
      ∀ a ∈ artifacts, ∃ view : View, a.name = view.template ∧
        a.path = folderPath view.folders ++ Phrase.text s.names view.file ∧
        (view ∈ View.plain →
          a.content = textOf (view.phrases.map (Phrase.text s.names))) ∧
        view.phrases.filter startsImport = (view.phrases.filterMap import?).map Import.line ∧
        (∀ i ∈ siblingImports view.phrases,
          a.Shows (Phrase.text s.names i.line ++ "\n") ∧
          ∃ b ∈ artifacts, ∃ target : View, ∃ e : Export,
            b.name = target.template ∧ b.name ≠ a.name ∧
            b.path =
              resolve view.folders (Phrase.text s.names i.path).toList ++
                ".ts" ∧
            target.phrases.filterMap export? = [e] ∧
            Phrase.text s.names e.name =
              Phrase.text s.names i.name ∧
            b.Shows (Phrase.text s.names e.front)) ∧
        ∀ use ∈ bodyUses view.phrases,
          use = view.label.phrase ∨ ∃ i ∈ siblingImports view.phrases, i.name = use := by
  refine ⟨View.layout.map (View.made s), generates_bundled s directory, fun a ha => ?_⟩
  obtain ⟨view, -, rfl⟩ := List.mem_map.mp ha
  have linked := view.linked
  simp only [Linked, Bool.and_eq_true, Bool.or_eq_true, List.all_eq_true, List.any_eq_true,
    beq_iff_eq] at linked
  obtain ⟨⟨⟨⟨imports, -⟩, siblings⟩, uses⟩, -⟩ := linked
  refine ⟨view, rfl, view.artifactPath_eq s.names, fun hplain => ?_, imports, fun i hi => ?_, uses⟩
  · show textOf (view.contentLines s) = _
    rw [View.contentLines_plain s hplain, View.phrases, List.map_map]
    simp only [View.filledLines, Function.comp_def, View.text_phrase]
  · obtain ⟨target, htarget, hleads⟩ := siblings i hi
    simp only [Import.leadsTo, Bool.and_eq_true, bne_iff_ne, beq_iff_eq,
      Option.map_eq_some_iff] at hleads
    obtain ⟨⟨hne, e, he, hname⟩, q, hq, hpath⟩ := hleads
    refine ⟨View.shows_import s hi, target.made s, List.mem_map_of_mem htarget, target, e, rfl,
      fun heq => hne (View.template_injective heq), ?_, ?_, by rw [hname], View.shows_export s he⟩
    · calc
        s.pathOf target
          = folderPath target.folders ++ Phrase.text s.names target.file :=
            target.artifactPath_eq s.names
        _ = Phrase.text s.names (q ++ Phrase.ofString ".ts") := by
            rw [hpath, Phrase.text_append, Phrase.text_ofString]
        _ = resolve view.folders (Phrase.text s.names i.path).toList ++ ".ts" := by
            rw [Phrase.text_append, Phrase.text_ofString, resolve_text s.names hq]
    · rw [View.exports_eq, he]
      rfl

end TableScaffold
