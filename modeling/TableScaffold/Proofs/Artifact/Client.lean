import TableScaffold.Proofs.Artifact.Content
import TableScaffold.Proofs.Artifact.Phrase
import TableScaffold.Proofs.Naming.CamelCase
import TableScaffold.Proofs.Path.Reshaped

/-!
# Calls on the database client

The database service reaches the rows of its table by a name on the database client. The client has
one name for each declared model: that of the model with its first letter in lower case.

1. `clientNames` reads the names off a text; `Phrase.clientLabels?` reads them off a phrase, for all
   tables at once.
2. The service uses the plural class name in camel case (`clientNames_dbService`). That is the name
   that the client has exactly if the model is cased word by word (`service_names_model_iff`).
-/

namespace TableScaffold

open Template

/-! ## Names behind the client -/

/-- What a call on the database client starts with. -/
def clientFront : List Char := "this.prisma.".toList

/-- Whether a character may stand in a name. -/
def isNameChar (c : Char) : Bool := c.isAlphanum || c == '_' || c == '$'

/-- The names on the database client that characters call. -/
def clientNamesIn : List Char → List (List Char)
  | [] => []
  | c :: cs =>
    if clientFront.isPrefixOf (c :: cs) then
      ((c :: cs).drop clientFront.length).takeWhile isNameChar :: clientNamesIn cs
    else clientNamesIn cs

/-- The names on the database client that a text calls. -/
def clientNames (text : String) : List String := (clientNamesIn text.toList).map String.ofList

/-- A call of a name that ends where it seems to. -/
theorem clientNamesIn_call {c d : Char} {cs name rest : List Char}
    (h : c :: cs = clientFront ++ (name ++ d :: rest)) (hname : ∀ c ∈ name, isNameChar c = true)
    (hd : isNameChar d = false) : clientNamesIn (c :: cs) = name :: clientNamesIn cs := by
  have hprefix : clientFront.isPrefixOf (c :: cs) = true :=
    List.isPrefixOf_iff_prefix.mpr ⟨_, h.symm⟩
  rw [clientNamesIn, if_pos hprefix, h, List.drop_left, List.takeWhile_append_of_pos hname,
    List.takeWhile_cons_of_neg (by simp [hd]), List.append_nil]

/-! ## Fronts of phrases -/

/-- What may be left of a text behind some characters in front without a dot. -/
def openTails : List Char → List (List Char)
  | [] => [[]]
  | c :: cs => (c :: cs) :: if c = '.' then [] else openTails cs

theorem mem_openTails (cs : List Char) : cs ∈ openTails cs := by
  cases cs <;> exact List.mem_cons_self

/-- A text in front of dotless characters and others: what is left of it stands in front of those. -/
theorem exists_openTail {cs ds rest : List Char} (hds : '.' ∉ ds) (h : cs <+: ds ++ rest) :
    ∃ t ∈ openTails cs, t <+: rest := by
  induction ds generalizing cs with
  | nil => exact ⟨cs, mem_openTails cs, h⟩
  | cons d ds ih =>
    rw [List.mem_cons, not_or] at hds
    cases cs with
    | nil => exact ⟨[], List.mem_cons_self, List.nil_prefix⟩
    | cons c cs =>
      obtain ⟨rfl, hcs⟩ := List.cons_prefix_cons.mp h
      obtain ⟨t, ht, hrest⟩ := ih hds.2 hcs
      refine ⟨t, ?_, hrest⟩
      rw [openTails, if_neg (Ne.symm hds.1)]
      exact List.mem_cons_of_mem _ ht

/-- Dotless characters call nothing where no call can end behind them. -/
theorem clientNamesIn_append {ds rest : List Char} (hds : '.' ∉ ds)
    (h : ∀ t ∈ openTails clientFront, ¬ t <+: rest) :
    clientNamesIn (ds ++ rest) = clientNamesIn rest := by
  induction ds with
  | nil => rfl
  | cons d ds ih =>
    rw [List.cons_append, clientNamesIn, if_neg, ih (List.not_mem_of_not_mem_cons hds)]
    intro hfront
    obtain ⟨t, ht, hrest⟩ := exists_openTail hds (List.isPrefixOf_iff_prefix.mp hfront)
    exact h t ht hrest

namespace Phrase

/-- Whether some characters may stand in front of the text of a phrase. A derived name may be any
characters but dots. -/
def mayStart : Phrase → List Char → Bool
  | _, [] => true
  | [], _ :: _ => false
  | .char d :: p, c :: cs => c == d && mayStart p cs
  | .derived _ :: p, c :: cs | .camel _ :: p, c :: cs => (openTails (c :: cs)).any (mayStart p)

/-- The labels in camel case that a phrase calls on the database client. There are none if one of its
calls may have another form. -/
def clientLabels? : Phrase → Option (List Label)
  | [] => some []
  | .char c :: p =>
    match after? clientFront (.char c :: p) with
    | some (.camel l :: .char d :: _) =>
      if isNameChar d then none else (clientLabels? p).map (l :: ·)
    | some _ => none
    | none => if mayStart (.char c :: p) clientFront then none else clientLabels? p
  | .derived _ :: p | .camel _ :: p =>
    if (openTails clientFront).any (mayStart p) then none else clientLabels? p

end Phrase

/-! ## The texts of phrases -/

/-- No derived name has a dot in it. -/
def Names.Dotless (names : Names) : Prop := ∀ d : Derived, '.' ∉ (d.text names).toList

theorem isNameChar_of_isAlphanum {c : Char} (h : c.isAlphanum = true) : isNameChar c = true := by
  rw [isNameChar, h, Bool.true_or, Bool.true_or]

theorem dot_notMem_camelCase (s : String) : '.' ∉ (Naming.camelCase s).toList := fun h =>
  absurd (Naming.isAlphanum_of_mem_camelCase h) (by decide)

namespace Phrase

variable {names : Names}

theorem mayStart_of_front (h : names.Dotless) {p : Phrase} {cs : List Char}
    (hp : cs <+: p.flatMap (Symbol.chars names)) : mayStart p cs = true := by
  induction p generalizing cs with
  | nil =>
    rw [List.prefix_nil.mp hp]
    rfl
  | cons x p ih =>
    cases cs with
    | nil => cases x <;> rfl
    | cons c cs =>
      rw [List.flatMap_cons] at hp
      cases x with
      | char d =>
        obtain ⟨rfl, hcs⟩ := List.cons_prefix_cons.mp hp
        rw [mayStart, beq_self_eq_true, ih hcs]
        rfl
      | derived d =>
        obtain ⟨t, ht, hrest⟩ := exists_openTail (h d) hp
        exact List.any_eq_true.mpr ⟨t, ht, ih hrest⟩
      | camel l =>
        obtain ⟨t, ht, hrest⟩ := exists_openTail (dot_notMem_camelCase _) hp
        exact List.any_eq_true.mpr ⟨t, ht, ih hrest⟩

theorem flatMap_chars (cs : List Char) : (cs.map Symbol.char).flatMap (Symbol.chars names) = cs := by
  have htext := congrArg String.toList (text_chars names cs)
  rwa [text, String.toList_ofList, String.toList_ofList] at htext

theorem clientNamesIn_symbols (h : names.Dotless) {ds : List Char} {p : Phrase} (hds : '.' ∉ ds)
    (hp : (openTails clientFront).any (mayStart p) = false) :
    clientNamesIn (ds ++ p.flatMap (Symbol.chars names)) =
      clientNamesIn (p.flatMap (Symbol.chars names)) := by
  refine clientNamesIn_append hds fun t ht hprefix => ?_
  have hstart := List.any_eq_false.mp hp t ht
  exact hstart (mayStart_of_front h hprefix)

theorem clientNamesIn_of_clientLabels? (h : names.Dotless) {p : Phrase} {ls : List Label}
    (hp : clientLabels? p = some ls) :
    clientNamesIn (p.flatMap (Symbol.chars names)) =
      ls.map fun l => (Naming.camelCase (l.text names)).toList := by
  induction p generalizing ls with
  | nil =>
    cases hp
    rfl
  | cons x p ih =>
    rw [List.flatMap_cons]
    cases x with
    | char c =>
      rw [clientLabels?] at hp
      show clientNamesIn (c :: p.flatMap (Symbol.chars names)) = _
      have htext : c :: p.flatMap (Symbol.chars names) =
        List.flatMap (Symbol.chars names) (.char c :: p) := rfl
      split at hp
      · next l d rest hafter =>
        split at hp
        · cases hp
        · next hd =>
          obtain ⟨ls, hls, rfl⟩ := Option.map_eq_some_iff.mp hp
          have hfront : c :: p.flatMap (Symbol.chars names) = clientFront ++
              ((Naming.camelCase (l.text names)).toList ++
                d :: rest.flatMap (Symbol.chars names)) := by
            rw [htext, eq_of_after? hafter, List.flatMap_append, flatMap_chars]
            rfl
          have hname : ∀ c ∈ (Naming.camelCase (l.text names)).toList, isNameChar c = true :=
            fun _ hc => isNameChar_of_isAlphanum (Naming.isAlphanum_of_mem_camelCase hc)
          rw [clientNamesIn_call hfront hname (by simpa using hd), ih hls]
          rfl
      · cases hp
      · split at hp
        · cases hp
        · next hstart =>
          rw [clientNamesIn, if_neg, ih hp]
          intro hfront
          rw [htext] at hfront
          exact hstart (mayStart_of_front h (List.isPrefixOf_iff_prefix.mp hfront))
    | derived d =>
      rw [clientLabels?] at hp
      split at hp
      · cases hp
      · next hstart =>
        rw [← ih hp]
        exact clientNamesIn_symbols h (h d) (by simpa using hstart)
    | camel l =>
      rw [clientLabels?] at hp
      split at hp
      · cases hp
      · next hstart =>
        rw [← ih hp]
        exact clientNamesIn_symbols h (dot_notMem_camelCase _) (by simpa using hstart)

end Phrase

/-! ## The database service -/

/-- All lines of a template as one phrase. -/
def View.wholePhrase (view : View) : Phrase :=
  (segmentsOf (view.lines.map String.toList)).flatMap (Segment.phrase view)

theorem View.flatMap_wholePhrase (names : Names) (view : View) :
    String.ofList (view.wholePhrase.flatMap (Symbol.chars names)) =
      textOf (view.lines.map (fill (view.slotText names))) := by
  rw [textOf_fill, wholePhrase, List.flatMap_assoc]
  simp only [Segment.text_phrase]

set_option maxRecDepth 10000 in
theorem View.clientLabels_dbService : dbService.wholePhrase.clientLabels? =
    some (List.replicate 5 ⟨.pluralClass, ""⟩) := by
  unfold wholePhrase
  apply Spells.elim (P := fun css => Phrase.clientLabels? ((segmentsOf css).flatMap
    (Segment.phrase dbService)) = some (List.replicate 5 ⟨.pluralClass, ""⟩))
  · repeat constructor
  · decide +kernel

theorem Names.dotless_ofTable {table : String} (h : '.' ∉ table.toList) :
    (Names.ofTable table).Dotless := by
  have hmark : '.' ∈ pathMarks := by decide
  have hplural : '.' ∉ (Naming.pluralClass table).toList := fun hmem =>
    h (Naming.mark_mem_of_className hmark hmem)
  have hsingular : '.' ∉ (Naming.singularClass table).toList := fun hmem =>
    h (Naming.mem_of_mem_singular (Naming.mark_mem_of_className hmark hmem))
  intro d
  cases d with
  | singularClass => exact hsingular
  | pluralClass => exact hplural
  | singularFile => exact fun hmem => hsingular (Naming.mark_mem_of_fileName hmark hmem)
  | pluralFile => exact fun hmem => hplural (Naming.mark_mem_of_fileName hmark hmem)
  | constant => exact fun hmem => hsingular (Naming.mark_mem_of_upper hmark hmem)
  | route => exact fun hmem => hplural (Naming.mark_mem_of_lower hmark hmem)

/-- The service calls one name five times: the plural class name in camel case. -/
theorem TableSchema.clientNames_dbService {s : TableSchema} (h : '.' ∉ s.tableName.toList) :
    clientNames (View.dbService.made s).content =
      List.replicate 5 (Naming.camelCase (Naming.pluralClass s.tableName)) := by
  have hdotless : s.names.Dotless := Names.dotless_ofTable h
  show clientNames (textOf (View.dbService.lines.map (fill (View.dbService.slotText s.names)))) = _
  rw [← View.flatMap_wholePhrase, clientNames, String.toList_ofList,
    Phrase.clientNamesIn_of_clientLabels? hdotless View.clientLabels_dbService,
    List.map_replicate, List.map_replicate, String.ofList_toList]
  exact congrArg (List.replicate 5 <| Naming.camelCase ·) String.append_empty

/-! ## The declared model -/

/-- The name that the database client has for a model: that of the model with its first letter in
lower case. -/
def clientName (model : String) : String :=
  match model.toList with
  | [] => ""
  | c :: cs => String.ofList (Text.lowerChar c ++ cs)

namespace Naming

/-- A table name of letters, digits and underscores that starts with a letter, all ASCII. -/
structure IsPlain (table : String) : Prop where
  start : table.toList.head?.any Char.isAlpha = true
  chars : (table.toList.all fun c => c.isAlphanum || c == '_') = true

theorem IsPlain.isAlphanum_or {table : String} (h : IsPlain table) :
    ∀ c ∈ table.toList, c.isAlphanum = true ∨ c = '_' := by
  intro c hc
  simpa using List.all_eq_true.mp h.chars c hc

theorem upper_of_isAlpha {c : Char} (h : c.isAlpha = true) :
    c.toNat < 128 ∧ c ≠ '_' ∧ c.toUpper.isUpper = true := by
  have halnum : c.isAlphanum = true := Bool.or_eq_true_iff.mpr (.inl h)
  have hascii := Text.toNat_lt_of_isAlphanum halnum
  have key := Text.ascii_all (p := fun c => decide (c.isAlpha = true →
    c ≠ '_' ∧ c.toUpper.isUpper = true)) (by decide +kernel) hascii
  exact ⟨hascii, of_decide_eq_true key h⟩

theorem isAlphanum_of_mem_pascalFrom {start : Bool} {cs : List Char}
    (h : ∀ c ∈ cs, c.isAlphanum = true ∨ c = '_') :
    ∀ d ∈ pascalFrom start cs, d.isAlphanum = true := by
  induction cs generalizing start with
  | nil => exact fun _ hd => nomatch hd
  | cons c cs ih =>
    obtain ⟨hc, hcs⟩ := List.forall_mem_cons.mp h
    intro d hd
    rw [pascalFrom] at hd
    split at hd
    · exact ih hcs d hd
    · next hmark =>
      have halnum := hc.resolve_right hmark
      rcases List.mem_append.mp hd with hd | hd
      · split at hd
        · rw [Text.upperChar_ascii (Text.toNat_lt_of_isAlphanum halnum), List.mem_singleton] at hd
          rw [hd]
          exact (isAlphanum_case halnum).2
        · rw [List.mem_singleton.mp hd]
          exact halnum
      · exact ih hcs d hd

/-- The class name of such a table starts with a capital. -/
theorem IsPlain.exists_capital {table : String} (h : IsPlain table) :
    ∃ c cs, (pluralClass table).toList = c :: cs ∧ c.isUpper = true ∧
      ∀ d ∈ cs, d.isAlphanum = true := by
  have hstart := h.start
  have hchars := h.isAlphanum_or
  rw [pluralClass, className, String.toList_ofList]
  cases htable : table.toList with
  | nil => simp [htable] at hstart
  | cons c cs =>
    rw [htable] at hstart hchars
    obtain ⟨hascii, hmark, hupper⟩ := upper_of_isAlpha (by simpa using hstart)
    refine ⟨c.toUpper, pascalFrom false cs, ?_, hupper,
      isAlphanum_of_mem_pascalFrom (List.forall_mem_cons.mp hchars).2⟩
    rw [pascalFrom, if_neg hmark, if_pos rfl, Text.upperChar_ascii hascii]
    rfl

/-- Camel case gives the client's name for the model exactly if the model is cased word by word. -/
theorem IsPlain.camelCase_iff {table : String} (h : IsPlain table) :
    camelCase (pluralClass table) = clientName (pluralClass table) ↔
      wordwise (pluralClass table).toList = true := by
  obtain ⟨c, cs, hmodel, hc, hcs⟩ := h.exists_capital
  have hascii := Text.toNat_lt_of_isAlphanum (isAlphanum_of_isUpper hc)
  rw [camelCase, clientName, hmodel, ← joinCamel_words_iff hc hcs]
  dsimp only
  rw [Text.lowerChar_ascii hascii, String.ofList_inj]
  rfl

theorem IsPlain.dot_notMem {table : String} (h : IsPlain table) : '.' ∉ table.toList := by
  intro hmem
  rcases h.isAlphanum_or '.' hmem with hdot | hdot <;> exact absurd hdot (by decide)

end Naming

/-- The artifacts that declare a model and call the client. -/
theorem TableSchema.exists_service (s : TableSchema) (directory : String)
    (h : '.' ∉ s.tableName.toList) :
    ∃ artifacts service fields,
      s.Generates directory Library.bundled artifacts ∧
      s.Generates directory Library.written artifacts ∧
      (artifacts.filter (·.name == "prisma-model")).map (·.content) =
        ["model " ++ Naming.pluralClass s.tableName ++ " \x7b\n" ++ fields] ∧
      (artifacts.filter (·.name == "dbservice")).map (·.content) = [service] ∧
      clientNames service =
        List.replicate 5 (Naming.camelCase (Naming.pluralClass s.tableName)) := by
  have hmodel : (View.persistenceModel.made s).content =
      "model " ++ Naming.pluralClass s.tableName ++ " \x7b\n" ++ textOf s.modelLines.tail := by
    show textOf s.modelLines = _
    unfold modelLines
    simp only [List.cons_append, List.tail_cons, textOf_cons, String.append_assoc]
    rw [append_lineEnd (u := " \x7b\n") rfl]
  refine ⟨View.layout.map (View.made s), (View.dbService.made s).content, textOf s.modelLines.tail,
    generates_bundled s directory, generates_written s directory, ?_,
    contents_made s .dbService, s.clientNames_dbService h⟩
  rw [← hmodel]
  exact contents_made s .persistenceModel

/-- The service addresses the declared model exactly if the name of the model is cased word by word:
it calls one name, the model's in camel case. -/
theorem service_names_model_iff (s : TableSchema) (directory : String)
    (h : Naming.IsPlain s.tableName) :
    ∃ artifacts service fields,
      s.Generates directory Library.bundled artifacts ∧
      s.Generates directory Library.written artifacts ∧
      (artifacts.filter (·.name == "prisma-model")).map (·.content) =
        ["model " ++ Naming.pluralClass s.tableName ++ " \x7b\n" ++ fields] ∧
      (artifacts.filter (·.name == "dbservice")).map (·.content) = [service] ∧
      clientNames service = List.replicate 5 (Naming.camelCase (Naming.pluralClass s.tableName)) ∧
      ((∀ name ∈ clientNames service, name = clientName (Naming.pluralClass s.tableName)) ↔
        Naming.wordwise (Naming.pluralClass s.tableName).toList = true) := by
  obtain ⟨artifacts, service, fields, hbundled, hwritten, hmodel, hservice, hnames⟩ :=
    s.exists_service directory h.dot_notMem
  refine ⟨artifacts, service, fields, hbundled, hwritten, hmodel, hservice, hnames, ?_⟩
  rw [hnames, ← h.camelCase_iff]
  constructor
  · intro hall
    exact hall _ (List.mem_replicate.mpr ⟨by decide, rfl⟩)
  · intro hname name hmem
    rw [(List.mem_replicate.mp hmem).2, hname]

/-- The rows of a table with roles of users are addressed by the name of their model. -/
theorem service_names_model_roles :
    Naming.IsPlain "user_roles" ∧
    ∃ artifacts service fields,
      generate { tableName := "user_roles" } bundledDirectory Library.bundled = .ok artifacts ∧
      (artifacts.filter (·.name == "prisma-model")).map (·.content) =
        ["model UserRoles \x7b\n" ++ fields] ∧
      (artifacts.filter (·.name == "dbservice")).map (·.content) = [service] ∧
      clientNames service = List.replicate 5 "userRoles" ∧
      ∀ name ∈ clientNames service, name = clientName "UserRoles" := by
  have hplain : Naming.IsPlain "user_roles" := ⟨by decide +kernel, by decide +kernel⟩
  have hmodel : "model " ++ Naming.pluralClass "user_roles" ++ " \x7b\n" =
      "model UserRoles \x7b\n" := by decide +kernel
  have hclass : Naming.pluralClass "user_roles" = "UserRoles" := by decide +kernel
  have hcamel : Naming.camelCase "UserRoles" = "userRoles" := by decide +kernel
  obtain ⟨artifacts, service, fields, hgenerate, -, hdeclared, hservice, hnames, hiff⟩ :=
    service_names_model_iff { tableName := "user_roles" } bundledDirectory hplain
  dsimp only at hdeclared hnames hiff
  rw [hmodel] at hdeclared
  rw [hclass] at hnames hiff
  rw [hcamel] at hnames
  exact ⟨hplain, artifacts, service, fields, hgenerate.outcome, hdeclared, hservice, hnames,
    hiff.mpr (by decide +kernel)⟩

/-- The model of a table in capitals keeps them, and its client has `uSERS`; the service calls
`users`. -/
theorem capitals_called_small :
    Naming.IsPlain "USERS" ∧ clientName "USERS" = "uSERS" ∧
    ∃ artifacts service fields,
      generate { tableName := "USERS" } bundledDirectory Library.bundled = .ok artifacts ∧
      (artifacts.filter (·.name == "prisma-model")).map (·.content) =
        ["model USERS \x7b\n" ++ fields] ∧
      (artifacts.filter (·.name == "dbservice")).map (·.content) = [service] ∧
      clientNames service = List.replicate 5 "users" := by
  have hmodel : "model " ++ Naming.pluralClass "USERS" ++ " \x7b\n" = "model USERS \x7b\n" := by
    decide +kernel
  have hclass : Naming.camelCase (Naming.pluralClass "USERS") = "users" := by decide +kernel
  obtain ⟨artifacts, service, fields, hgenerate, -, hdeclared, hservice, hnames⟩ :=
    TableSchema.exists_service { tableName := "USERS" } bundledDirectory (by decide +kernel)
  dsimp only at hdeclared hnames
  rw [hmodel] at hdeclared
  rw [hclass] at hnames
  have hplain : Naming.IsPlain "USERS" := ⟨by decide +kernel, by decide +kernel⟩
  exact ⟨hplain, by decide +kernel, artifacts, service, fields, hgenerate.outcome, hdeclared,
    hservice, hnames⟩

end TableScaffold
