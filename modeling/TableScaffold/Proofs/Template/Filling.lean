import TableScaffold.Proofs.Template.Rendering
import TableScaffold.Proofs.Template.Source

/-!
# Templates of text with slots

Eight of the bundled templates are text with slots, without loops and choices. A line of such a
template is cut into characters and slots, and a value is put in place of each slot; what is put
there is not read again. The values are names derived from the table name.
-/

namespace TableScaffold

namespace Template

/-! ## Lines with slots -/

/-- A piece of a line: a character, or a slot with a name and the filter behind it, if any. -/
inductive Segment where
  | char (c : Char)
  | slot (name filter : String)
  deriving DecidableEq

/-- The slot with given characters between its braces. A bar stands in front of a filter. -/
def Segment.ofInside (cs : List Char) : Segment :=
  let shown := cs.filter (· != ' ')
  .slot (String.ofList (shown.takeWhile (· != '|')))
    (String.ofList ((shown.dropWhile (· != '|')).drop 1))

/-- The segments of a text. While a slot is open, `inside` holds what was read of it. -/
def segmentsFrom (inside : Option (List Char)) : List Char → List Segment
  | [] => []
  | [c] => if inside.isSome then [] else [.char c]
  | c :: d :: rest =>
    match inside with
    | none =>
      if c = '\x7b' ∧ d = '\x7b' then segmentsFrom (some []) rest
      else .char c :: segmentsFrom none (d :: rest)
    | some read =>
      if c = '\x7d' ∧ d = '\x7d' then .ofInside read :: segmentsFrom none rest
      else segmentsFrom (some (read ++ [c])) (d :: rest)

/-- The segments of a line. -/
def segments (cs : List Char) : List Segment := segmentsFrom none cs

/-- A value as a filter gives it. -/
def filtered (filter v : String) : String :=
  if filter = "camel_case" then Naming.camelCase v else v

/-- The characters that a segment stands for. -/
def Segment.chars (value : String → String) : Segment → List Char
  | char c => [c]
  | slot name filter => (filtered filter (value name)).toList

/-- A line with a value in place of each slot. -/
def fill (value : String → String) (line : String) : String :=
  String.ofList ((segments line.toList).flatMap (Segment.chars value))

/-! ## Plain templates -/

/-- A template without loops and choices, as segments. -/
inductive Plain : Body → List Segment → Prop
  | done : Plain .done []
  | text (cs : List Char) {rest : Body} {segs : List Segment} (h : Plain rest segs) :
    Plain (.text (String.ofList cs) rest) (cs.map .char ++ segs)
  | slot (name : String) {rest : Body} {segs : List Segment} (h : Plain rest segs) :
    Plain (.output (.name name) rest) (.slot name "" :: segs)
  | camelSlot (name : String) {rest : Body} {segs : List Segment} (h : Plain rest segs) :
    Plain (.output (.filter (.name name) "camel_case") rest) (.slot name "camel_case" :: segs)

theorem Plain.of_eq {b : Body} {segs segs' : List Segment} (h : Plain b segs)
    (heq : segs = segs') : Plain b segs' :=
  heq ▸ h

theorem flatMap_char (value : String → String) (cs : List Char) :
    (cs.map Segment.char).flatMap (Segment.chars value) = cs := by
  induction cs with
  | nil => rfl
  | cons c cs ih => exact congrArg (c :: ·) ih

/-- A plain template renders to its segments with the values of its names. -/
theorem Plain.renders {b : Body} {segs : List Segment} {embedding : Embedding} {scope : Scope}
    {value : String → String} (h : Plain b segs)
    (hv : ∀ name filter, Segment.slot name filter ∈ segs →
      scope.find name = .value (.str (value name))) :
    Renders embedding scope b (String.ofList (segs.flatMap (Segment.chars value))) := by
  induction h with
  | done => exact Renders.done
  | @text cs rest segs h ih =>
    have := Renders.text (s := String.ofList cs)
      (ih fun name filter hmem => hv name filter (List.mem_append_right _ hmem))
    rwa [List.flatMap_append, flatMap_char, String.ofList_append]
  | @slot name rest segs h ih =>
    have := Renders.slot (Gives.name (hv name "" List.mem_cons_self))
      (ih fun name' filter hmem => hv name' filter (List.mem_cons_of_mem _ hmem))
    rw [List.flatMap_cons, String.ofList_append]
    show Renders embedding scope _ (String.ofList (value name).toList ++ _)
    rwa [String.ofList_toList]
  | @camelSlot name rest segs h ih =>
    have := Renders.slot (Gives.camelCase (Gives.name (hv name _ List.mem_cons_self)))
      (ih fun name' filter hmem => hv name' filter (List.mem_cons_of_mem _ hmem))
    rw [List.flatMap_cons, String.ofList_append]
    show Renders embedding scope _ (String.ofList (Naming.camelCase (value name)).toList ++ _)
    rwa [String.ofList_toList]

/-- The segments of lines; each line ends with a line end. -/
def segmentsOf (css : List (List Char)) : List Segment :=
  css.flatMap fun cs => segments cs ++ [.char '\n']

theorem textOf_fill (value : String → String) (lines : List String) :
    textOf (lines.map (fill value)) =
      String.ofList ((segmentsOf (lines.map String.toList)).flatMap (Segment.chars value)) := by
  unfold textOf segmentsOf
  induction lines with
  | nil => rfl
  | cons line lines ih =>
    rw [List.map_cons, List.map_cons, String.join_cons, ih, List.map_cons, List.flatMap_cons,
      List.flatMap_append, List.flatMap_append, String.ofList_append, String.ofList_append]
    rfl

end Template

namespace View

open Template

/-- The view models whose templates are text with slots. -/
def plain : List View :=
  [handler, controller, dbService, response, listResponse, notFoundError, constants, moduleClass]

set_option maxRecDepth 10000 in
/-- The bundled template of each of these is its text, slot for slot. -/
theorem plain_bundled {view : View} (h : view ∈ plain) :
    Plain view.bundled (segmentsOf (view.lines.map String.toList)) := by
  simp only [plain, List.mem_cons, List.not_mem_nil, or_false] at h
  rcases h with rfl | rfl | rfl | rfl | rfl | rfl | rfl | rfl <;>
  · apply Spells.elim (P := fun css => Plain _ (segmentsOf css))
    · repeat constructor
    · apply Plain.of_eq
      · repeat constructor
      · decide +kernel

end View

end TableScaffold
