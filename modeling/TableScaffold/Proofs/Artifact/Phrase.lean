import TableScaffold.Proofs.Artifact.Slots

/-!
# Texts in derived names

A line of a template with the labels of its slots in it says the same for every table: only the
derived names are still open. Such a phrase can be read and compared once for all tables. What two
templates write as the same phrase they write as the same text.
-/

namespace TableScaffold

open Template

/-- A character, or a derived name that stands for characters. -/
inductive Symbol where
  | char (c : Char)
  | derived (d : Derived)
  /-- A label in camel case. -/
  | camel (l : Label)
  deriving DecidableEq

/-- The characters of a symbol. -/
def Symbol.chars (names : Names) : Symbol → List Char
  | char c => [c]
  | derived d => (d.text names).toList
  | camel l => (Naming.camelCase (l.text names)).toList

/-- A text in which derived names are left open. -/
abbrev Phrase := List Symbol

namespace Phrase

/-- The text of a phrase. -/
def text (names : Names) (p : Phrase) : String := String.ofList (p.flatMap (Symbol.chars names))

/-- A text without derived names. -/
def ofString (s : String) : Phrase := s.toList.map .char

variable (names : Names)

theorem text_append (p q : Phrase) : text names (p ++ q) = text names p ++ text names q := by
  unfold text
  rw [List.flatMap_append, String.ofList_append]

theorem text_chars (cs : List Char) : text names (cs.map .char) = String.ofList cs := by
  unfold text
  congr 1
  induction cs with
  | nil => rfl
  | cons c cs ih => exact congrArg (c :: ·) ih

theorem text_ofString (s : String) : text names (ofString s) = s := by
  unfold ofString
  rw [text_chars, String.ofList_toList]

end Phrase

/-- A label as a phrase. -/
def Label.phrase (l : Label) : Phrase := .derived l.base :: Phrase.ofString l.ending

theorem Label.text_phrase (names : Names) (l : Label) :
    Phrase.text names l.phrase = l.text names := by
  have := Phrase.text_append names [.derived l.base] (Phrase.ofString l.ending)
  rw [Phrase.text_ofString] at this
  rw [phrase, ← List.singleton_append, this]
  simp [Phrase.text, Symbol.chars, Label.text]

/-! ## Lines -/

/-- A segment of a line as a phrase. What stands in a slot of unknown name is left out. -/
def Template.Segment.phrase (view : View) : Segment → Phrase
  | char c => [.char c]
  | slot name filter =>
    match view.slots.lookup name with
    | none => []
    | some l => if filter = "camel_case" then [.camel l] else l.phrase

/-- A line of a template as a phrase. -/
def View.phrase (view : View) (line : List Char) : Phrase :=
  (segments line).flatMap (Segment.phrase view)

theorem Template.Segment.text_phrase (names : Names) (view : View) (seg : Segment) :
    (seg.phrase view).flatMap (Symbol.chars names) = seg.chars (view.slotText names) := by
  cases seg with
  | char c => rfl
  | slot name filter =>
    unfold phrase chars View.slotText filtered
    cases hl : view.slots.lookup name with
    | none =>
      have empty : Naming.camelCase "" = "" := by
        simp [Naming.camelCase, Naming.words, Naming.joinCamel]
      by_cases hf : filter = "camel_case" <;> simp [hl, hf, empty]
    | some l =>
      by_cases hf : filter = "camel_case"
      · simp [hl, hf, Symbol.chars]
      · have label := congrArg String.toList (l.text_phrase names)
        rw [Phrase.text, String.toList_ofList] at label
        simp [hl, hf, label]

theorem View.text_phrase (names : Names) (view : View) (line : String) :
    Phrase.text names (view.phrase line.toList) = fill (view.slotText names) line := by
  unfold Phrase.text View.phrase fill
  rw [List.flatMap_assoc]
  simp only [Segment.text_phrase]

/-! ## Reading phrases -/

namespace Phrase

/-- What follows a text at the front of a phrase. -/
def after? : List Char → Phrase → Option Phrase
  | [], p => some p
  | c :: cs, .char d :: p => if c = d then after? cs p else none
  | _ :: _, _ => none

/-- The part of a phrase in front of a text, and what follows the text. -/
def until? (stop : List Char) : Phrase → Option (Phrase × Phrase)
  | [] => none
  | x :: p =>
    match after? stop (x :: p) with
    | some rest => some ([], rest)
    | none => (until? stop p).map fun r => (x :: r.1, r.2)

theorem eq_of_after? {cs : List Char} {p q : Phrase} (h : after? cs p = some q) :
    p = cs.map .char ++ q := by
  induction cs generalizing p with
  | nil => exact Option.some.inj h
  | cons c cs ih =>
    unfold after? at h
    split at h
    · rename_i heq
      cases heq
    · rename_i heq
      cases heq
      split at h
      · next hc =>
        rw [hc, ih h]
        rfl
      · cases h
    · cases h

theorem eq_of_until? {stop : List Char} {p q r : Phrase} (h : until? stop p = some (q, r)) :
    p = q ++ (stop.map .char ++ r) := by
  induction p generalizing q with
  | nil => cases h
  | cons x p ih =>
    unfold until? at h
    split at h
    · next hafter =>
      cases h
      exact eq_of_after? hafter
    · obtain ⟨s, hs, heq⟩ := Option.map_eq_some_iff.mp h
      cases heq
      rw [List.cons_append, ← ih hs]

end Phrase

end TableScaffold
