import TableScaffold.Proofs.Template.Filling

/-!
# What stands in the slots

Every name that a template writes is a name derived from the table name, perhaps with a fixed
ending. The table of all slots is given here once for all templates. The view models hold exactly
these names, and a template reads no name that its view model lacks.
-/

namespace TableScaffold

/-! ## Names -/

/-- The names derived from the name of a table. -/
def TableSchema.names (s : TableSchema) : Names := Names.ofTable s.tableName

/-- A name derived from the table name, as templates write it. -/
inductive Derived where
  | singularClass
  | pluralClass
  | singularFile
  | pluralFile
  | constant
  /-- The plural class name in lower case. -/
  | route
  deriving DecidableEq

/-- The text of a derived name. -/
def Derived.text (names : Names) : Derived → String
  | singularClass => names.singularClass
  | pluralClass => names.pluralClass
  | singularFile => names.singularFile
  | pluralFile => names.pluralFile
  | constant => names.constant
  | route => Text.lower names.pluralClass

/-- A derived name with a fixed ending. -/
structure Label where
  base : Derived
  ending : String
  deriving DecidableEq

/-- The text of a label. -/
def Label.text (names : Names) (l : Label) : String := l.base.text names ++ l.ending

namespace View

open Template

/-- The class, constant or model that the artifact of a view model declares. -/
def label : View → Label
  | dto => ⟨.singularClass, "Dto"⟩
  | request => ⟨.singularClass, "Request"⟩
  | response => ⟨.singularClass, "Response"⟩
  | listResponse => ⟨.pluralClass, "ListResponse"⟩
  | controller => ⟨.pluralClass, "Controller"⟩
  | handler => ⟨.pluralClass, "Handler"⟩
  | dbService => ⟨.pluralClass, "DbService"⟩
  | notFoundError => ⟨.singularClass, "NotFoundError"⟩
  | constants => ⟨.constant, "_NOT_FOUND"⟩
  | moduleClass => ⟨.pluralClass, "Module"⟩
  | persistenceModel => ⟨.pluralClass, ""⟩

/-- What the slots of a template stand for. Only `class_name` depends on the template. -/
def slots (view : View) : List (String × Label) :=
  [("class_name", if view = notFoundError then ⟨.singularClass, ""⟩ else view.label),
   ("model_name", persistenceModel.label),
   ("dto_class_name", dto.label),
   ("response_dto_class_name", dto.label),
   ("request_class_name", request.label),
   ("response_class_name", response.label),
   ("list_response_class_name", listResponse.label),
   ("handler_class_name", handler.label),
   ("db_service_class_name", dbService.label),
   ("not_found_error_class_name", notFoundError.label),
   ("plural_class_name", ⟨.pluralClass, ""⟩),
   ("dashed_file_name", ⟨.singularFile, ""⟩),
   ("dashed_file_name_plural", ⟨.pluralFile, ""⟩),
   ("lower_case_class_name", ⟨.singularFile, ""⟩),
   ("upper_case_class_name", ⟨.constant, ""⟩),
   ("route_name", ⟨.route, ""⟩)]

/-- The text in a slot of a template. -/
def slotText (names : Names) (view : View) (name : String) : String :=
  ((view.slots.lookup name).map (Label.text names)).getD ""

/-! ## View models -/

/-- The names in a view model. -/
def keys : View → List String
  | dto => ["class_name", "columns"]
  | request => ["class_name", "columns", "dashed_file_name"]
  | response => ["class_name", "dto_class_name", "dashed_file_name"]
  | listResponse =>
    ["class_name", "response_dto_class_name", "dashed_file_name", "dashed_file_name_plural"]
  | controller =>
    ["class_name", "handler_class_name", "request_class_name", "dto_class_name",
     "response_class_name", "list_response_class_name", "dashed_file_name",
     "dashed_file_name_plural", "route_name"]
  | handler =>
    ["class_name", "db_service_class_name", "dto_class_name", "dashed_file_name",
     "dashed_file_name_plural"]
  | dbService =>
    ["class_name", "dto_class_name", "not_found_error_class_name", "dashed_file_name",
     "dashed_file_name_plural", "plural_class_name"]
  | notFoundError => ["class_name", "lower_case_class_name", "upper_case_class_name"]
  | constants => ["upper_case_class_name"]
  | moduleClass => ["plural_class_name", "dashed_file_name_plural"]
  | persistenceModel => ["model_name", "columns", "relations", "indexes"]

theorem keys_build (s : TableSchema) (view : View) : (view.build s).map (·.1) = view.keys := by
  cases view <;> rfl

/-- The view model of a plain template holds what stands in its slots. -/
theorem build_plain (s : TableSchema) {view : View} (h : view ∈ plain) :
    view.build s =
      view.keys.map fun n => (n, .str (view.slotText s.names n)) := by
  simp only [plain, List.mem_cons, List.not_mem_nil, or_false] at h
  rcases h with rfl | rfl | rfl | rfl | rfl | rfl | rfl | rfl <;>
    simp [build, keys, slotText, slots, TableSchema.names, label, Label.text, Derived.text,
      List.lookup_cons]

/-- The names that a template sees at first. -/
def scope (s : TableSchema) (view : View) : Scope := (view.build s).map fun e => (e.1, .value e.2)

end View

namespace Template

/-! ## What a template reads -/

/-- The names that an expression reads. -/
def Expr.reads : Expr → List String
  | null | bool _ | whole _ | decimal _ _ | text _ | emptyList => []
  | name n => [n]
  | entry e _ | filter e _ | negative e | positive e | not e => e.reads
  | cons l r | item l r | operation _ l r | comparison _ l r | and l r | or l r | onlyIf l r =>
    l.reads ++ r.reads
  | choose test yes no => test.reads ++ yes.reads ++ no.reads

/-- The names that a template reads from its view model: not those of its own loops. -/
def Body.reads : Body → List String
  | done => []
  | text _ rest => rest.reads
  | output e rest => e.reads ++ rest.reads
  | each var e body otherwise rest =>
    e.reads ++ (body.reads.filter fun n => !(["loop", var].contains n)) ++ otherwise.reads ++
      rest.reads
  | branch test yes no rest => test.reads ++ yes.reads ++ no.reads ++ rest.reads
  | assign var e rest => e.reads ++ rest.reads.filter (· != var)
  | embed file _ rest => file.reads ++ rest.reads

theorem Plain.mem_reads {b : Body} {segs : List Segment} (h : Plain b segs) {name filter : String}
    (hmem : Segment.slot name filter ∈ segs) : name ∈ b.reads := by
  induction h with
  | done => exact nomatch hmem
  | @text cs rest segs h ih =>
    rcases List.mem_append.mp hmem with hmem | hmem
    · simp at hmem
    · exact ih hmem
  | slot _ _ ih | camelSlot _ _ ih =>
    rcases List.mem_cons.mp hmem with heq | hmem
    · cases heq
      exact List.mem_cons_self
    · exact List.mem_cons_of_mem _ (ih hmem)

end Template

/-- A bundled template reads no name that its view model lacks. -/
theorem View.reads_bundled (view : View) : ∀ n ∈ view.bundled.reads, n ∈ view.keys := by
  cases view <;> decide +kernel

end TableScaffold
