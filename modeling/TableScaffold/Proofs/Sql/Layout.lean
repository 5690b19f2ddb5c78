import TableScaffold.Proofs.Sql.Dialects
import TableScaffold.Proofs.Sql.Literal

/-!
# Blanks, phrases and names

A phrase is a sequence of keywords in any letter case, each behind blanks of any kind. A name stands
between backticks or is a plain word. The tokens of both depend on neither blanks nor letter case.
-/

namespace TableScaffold.Sql

open Reading

variable {ps : List Part} {ws : List String}

/-! ## Blanks -/

/-- Blank characters of any kind, perhaps none. -/
structure Layout where
  chars : List Char
  blank : ∀ c ∈ chars, Text.isBlank c = true

/-- At least one blank character. -/
structure Parting extends Layout where
  nonempty : chars ≠ []

def Layout.parts (l : Layout) : List Part := blanks l.chars

namespace Layout

@[simp] theorem tokens_parts (l : Layout) (ps : List Part) : tokens (l.parts ++ ps) = tokens ps :=
  tokens_append_of_nil (tokens_blanks _) ps

@[simp] theorem script_parts (l : Layout) : script l.parts = l.chars := script_blanks l.chars

@[simp] theorem mark_notMem_parts (l : Layout) (c : Char) : .mark c ∉ l.parts := by
  simp [parts, blanks]

theorem fit_parts (l : Layout) (h : Fit .mysql ps) : Fit .mysql (l.parts ++ ps) :=
  fit_blanks l.blank h

theorem endsWord_parts (l : Layout) (h : EndsWord (script ps)) : EndsWord (script (l.parts ++ ps)) := by
  by_cases hnil : l.chars = []
  · rwa [parts, hnil]
  · exact endsWord_blanks l.blank hnil ps

theorem trails_parts (l : Layout) (h : Trails ps) : Trails (l.parts ++ ps) :=
  ⟨l.fit_parts h.fit, l.endsWord_parts h.endsWord⟩

theorem endsItem_parts (l : Layout) (h : EndsItem ps) : EndsItem (l.parts ++ ps) :=
  ⟨l.endsWord_parts h.endsWord, by rw [l.tokens_parts]; exact h.mark⟩

end Layout

theorem Parting.trails_parts (p : Parting) (h : Fit .mysql ps) : Trails (p.parts ++ ps) :=
  ⟨p.fit_parts h, endsWord_blanks p.blank p.nonempty ps⟩

/-! ## Phrases -/

/-- Keywords in any letter case, each behind at least one blank. -/
inductive Phrase : List String → Type
  | nil : Phrase []
  | cons {w : String} {ws : List String} (before : Parting) (word : Keyword w) (rest : Phrase ws) :
    Phrase (w :: ws)

def Phrase.parts : {ws : List String} → Phrase ws → List Part
  | _, nil => []
  | _, cons before word rest => before.parts ++ .word word.text :: rest.parts

namespace Phrase

theorem trails_parts (p : Phrase ws) (hws : ∀ w ∈ ws, isWordText w = true) (h : Trails ps) :
    Trails (p.parts ++ ps) := by
  induction p with
  | nil => exact h
  | cons before word rest ih =>
    obtain ⟨hword, hrest⟩ := List.forall_mem_cons.1 hws
    have := before.trails_parts (fit_word (word.isWordText_text hword) (ih hrest))
    rwa [parts, List.append_assoc, List.cons_append]

theorem endsWord_parts {w : String} (p : Phrase (w :: ws)) (ps : List Part) :
    EndsWord (script (p.parts ++ ps)) := by
  cases p with
  | cons before word rest =>
    rw [parts, List.append_assoc]
    exact endsWord_blanks before.blank before.nonempty _

/-- The tokens of a phrase spell its keywords. -/
theorem tokens_parts (p : Phrase ws) (ps : List Part) :
    ∃ us, tokens (p.parts ++ ps) = us ++ tokens ps ∧ SpellsAll ws us := by
  induction p with
  | nil => exact ⟨[], rfl, trivial⟩
  | cons before word rest ih =>
    obtain ⟨us, hus, hspells⟩ := ih
    refine ⟨⟨.word, word.text, script (rest.parts ++ ps)⟩ :: us, ?_, word.spells _, hspells⟩
    rw [parts, List.append_assoc, before.tokens_parts, List.cons_append, tokens, hus]
    rfl

/-- A phrase of one keyword is one token. -/
theorem exists_token {w : String} (p : Phrase [w]) (ps : List Part) :
    ∃ t, tokens (p.parts ++ ps) = t :: tokens ps ∧ t.Spells w := by
  obtain ⟨us, hus, hspells⟩ := p.tokens_parts ps
  obtain ⟨t, vs, rfl, ht, hvs⟩ := spellsAll_cons.1 hspells
  exact ⟨t, by rw [hus, spellsAll_nil.1 hvs]; rfl, ht⟩

@[simp] theorem mark_notMem_parts (p : Phrase ws) (c : Char) : .mark c ∉ p.parts := by
  induction p with
  | nil => exact List.not_mem_nil
  | cons before word rest ih => simp [parts, ih]

end Phrase

/-! ## Names -/

/-- A name as it may be written. -/
inductive AnyName where
  | quoted (n : QuotedName)
  | plain (n : PlainName)

namespace AnyName

def text : AnyName → String
  | quoted n => String.ofList n.value
  | plain n => n.text

def part : AnyName → Part
  | quoted n => n.part
  | plain n => .word n.text

/-- The token of a name. -/
def token : AnyName → List Char → Token
  | quoted n, rest => ⟨.name, String.ofList n.value, rest⟩
  | plain n, rest => ⟨.word, n.text, rest⟩

@[simp] theorem tokens_part (n : AnyName) (ps : List Part) :
    tokens (n.part :: ps) = n.token (script ps) :: tokens ps := by
  cases n <;> rfl

@[simp] theorem text_token (n : AnyName) (r : List Char) : (n.token r).text = n.text := by
  cases n <;> rfl

@[simp] theorem mark_ne_part (n : AnyName) (c : Char) : .mark c ≠ n.part := by
  cases n <;> simp [part, QuotedName.part]

theorem rest_token (n : AnyName) (r : List Char) : (n.token r).rest = r := by
  cases n <;> rfl

theorem fit_part (n : AnyName) (h : Trails ps) : Fit .mysql (n.part :: ps) := by
  cases n with
  | quoted n => exact n.fit_part h
  | plain n => exact fit_word n.word h

theorem kind_token (n : AnyName) (r : List Char) :
    (n.token r).kind = .word ∨ (n.token r).kind = .name := by
  cases n with
  | quoted => exact .inr rfl
  | plain => exact .inl rfl

/-- A name is no word that starts something else. -/
theorem isOneOf_token (n : AnyName) (r : List Char) {ws : List String} (hws : ws ⊆ specialWords) :
    (n.token r).isOneOf ws = false := by
  cases n with
  | quoted n => exact Token.isOneOf_name _ _ _
  | plain n => exact n.isOneOf r hws

/-- A name says a word if its text does. -/
theorem hasText_token (n : AnyName) {r : List Char} {ws : List String} (h : Text.upper n.text ∉ ws) :
    (n.token r).hasText ws = false := by
  simpa [Token.hasText] using fun _ => h

theorem namesTable_token (n : AnyName) (r : List Char) : NamesTable .mysql (n.token r) := by
  cases n with
  | quoted n => exact namesTable_name _ _
  | plain n => exact n.namesTable .mysql r

theorem isAnyName_token (n : AnyName) (r : List Char) : isAnyName (n.token r) = true := by
  have hselect : (n.token r).isWord "SELECT" = false :=
    Token.isWord_of_isOneOf (n.isOneOf_token r (List.Subset.refl _)) (by decide)
  have hmark : (n.token r).kind ≠ .mark := (n.namesTable_token r).noMark
  simp [isAnyName, hselect, hmark]

end AnyName

end TableScaffold.Sql
