import TableScaffold.Yaml.Content

/-!
# Where the faults of a YAML text come from

A text that is read as a document has a fault of its own only where a node does not fit its tag
(`contentOf_fault`); all else that can be wrong with it makes it no YAML. So a file is reported unless
it is no text, or its tokens or the text that spells one of its nodes give another fault
(`malformed_of_fitting`).
-/

namespace TableScaffold.Yaml

/-- A node stands somewhere in a node. -/
inductive Node.Within (n : Node) : Node → Prop where
  | self : Within n n
  | item {tag : Tag} {items : List Node} {m : Node} (hm : m ∈ items) (h : Within n m) :
    Within n (.list tag items)
  | key {tag : Tag} {entries : List (Node × Node)} {k v : Node} (he : (k, v) ∈ entries)
    (h : Within n k) : Within n (.mapping tag entries)
  | value {tag : Tag} {entries : List (Node × Node)} {k v : Node} (he : (k, v) ∈ entries)
    (h : Within n v) : Within n (.mapping tag entries)

/-- A fault that makes a text no YAML, or that of the text that spells a node. -/
def Explained (has : Node → Prop) (fault : Fault) : Prop :=
  fault = .malformed ∨ ∃ n, has n ∧ n.spellingFault? = some fault

theorem Explained.mono {has has' : Node → Prop} {fault : Fault} (h : Explained has fault)
    (himp : ∀ n, has n → has' n) : Explained has' fault :=
  h.imp_right fun ⟨n, hn, hfault⟩ => ⟨n, himp n hn, hfault⟩

/-! ## Findings -/

/-- A finding, if there is one, tells of a fault of some node, or that the text is no YAML. -/
def ExplainedBy (has : Node → Prop) (found : Option Finding) : Prop :=
  ∀ f, found = some f → Explained has f.fault

namespace ExplainedBy

variable {has has' : Node → Prop} {a b : Option Finding}

theorem none : ExplainedBy has none := fun _ h => nomatch h

theorem malformed (depth : Nat) : ExplainedBy has (some ⟨depth, .malformed⟩) := by
  rintro f ⟨⟩
  exact .inl rfl

theorem misfit (depth : Nat) (t : Tag) : ExplainedBy has (some (t.misfit depth)) := by
  rintro f ⟨⟩
  exact .inl rfl

theorem spelling {n : Node} (h : has n) (depth : Nat) :
    ExplainedBy has (n.spellingFault?.map (⟨depth, ·⟩)) := by
  intro f hf
  obtain ⟨fault, hfault, rfl⟩ := Option.map_eq_some_iff.mp hf
  exact .inr ⟨n, h, hfault⟩

theorem mono (h : ExplainedBy has a) (himp : ∀ n, has n → has' n) : ExplainedBy has' a :=
  fun f hf => (h f hf).mono himp

/-- The first of two findings is one of them. -/
theorem first (ha : ExplainedBy has a) (hb : ExplainedBy has b) :
    ExplainedBy has (firstFinding a b) := by
  intro f hf
  cases a with
  | none => exact hb f hf
  | some x =>
    cases b with
    | none => exact ha f hf
    | some y =>
      simp only [firstFinding] at hf
      split at hf
      · exact hb f hf
      · exact ha f hf

theorem ite {c : Prop} [Decidable c] (ha : ExplainedBy has a) (hb : ExplainedBy has b) :
    ExplainedBy has (if c then a else b) := by
  split
  · exact ha
  · exact hb

end ExplainedBy

namespace Node

/-- A node stands somewhere in an item. -/
def WithinItems (items : List Node) (n : Node) : Prop := ∃ m ∈ items, n.Within m

/-- A node stands somewhere in the key or the value of an entry. -/
def WithinEntries (entries : List (Node × Node)) (n : Node) : Prop :=
  ∃ e ∈ entries, n.Within e.1 ∨ n.Within e.2

theorem WithinItems.head {m n : Node} (h : n.Within m) (items : List Node) :
    WithinItems (m :: items) n :=
  ⟨m, List.mem_cons_self, h⟩

theorem WithinItems.tail {items : List Node} {n : Node} (h : WithinItems items n) (m : Node) :
    WithinItems (m :: items) n :=
  h.imp fun _ => And.imp_left (List.mem_cons_of_mem m)

theorem WithinItems.list {items : List Node} {n : Node} (h : WithinItems items n) (tag : Tag) :
    n.Within (list tag items) := by
  obtain ⟨m, hm, hn⟩ := h
  exact .item hm hn

theorem WithinEntries.key {k n : Node} (h : n.Within k) (v : Node) (entries : List (Node × Node)) :
    WithinEntries ((k, v) :: entries) n :=
  ⟨(k, v), List.mem_cons_self, .inl h⟩

theorem WithinEntries.value {v n : Node} (h : n.Within v) (k : Node) (entries : List (Node × Node)) :
    WithinEntries ((k, v) :: entries) n :=
  ⟨(k, v), List.mem_cons_self, .inr h⟩

theorem WithinEntries.tail {entries : List (Node × Node)} {n : Node} (h : WithinEntries entries n)
    (e : Node × Node) : WithinEntries (e :: entries) n :=
  h.imp fun _ => And.imp_left (List.mem_cons_of_mem e)

theorem WithinEntries.mapping {entries : List (Node × Node)} {n : Node}
    (h : WithinEntries entries n) (tag : Tag) : n.Within (mapping tag entries) := by
  obtain ⟨⟨k, v⟩, he, hk | hv⟩ := h
  · exact .key he hk
  · exact .value he hv

theorem explained_keyFault? (depth : Nat) (n : Node) :
    ExplainedBy (·.Within n) (n.keyFault?.map (⟨depth, ·⟩)) := by
  unfold keyFault?
  split
  · exact .spelling .self depth
  · exact .malformed depth

mutual

theorem explained_finding? (depth : Nat) : (n : Node) →
    ExplainedBy (·.Within n) (n.finding? depth)
  | cycle _ => by
    unfold finding?
    exact .none
  | scalar t s => by
    unfold finding?
    exact .ite (.spelling .self depth) (.misfit depth t)
  | list tag items => by
    unfold finding?
    split
    · exact (explained_itemsFinding? (depth + 1) items).mono fun _ h => h.list _
    · exact (explained_pairsFinding? (depth + 1) items).mono fun _ h => h.list _
    · exact .misfit depth _
  | mapping tag entries => by
    have hmerged := explained_mergedFinding? (depth + 1) entries
    have hown := explained_ownFinding? (depth + 1) entries
    unfold finding?
    refine .ite (.ite ((hmerged.first hown).mono fun _ h => h.mapping tag) (.malformed _)) ?_
    exact .ite (.spelling .self depth) (.misfit depth tag)

theorem explained_itemsFinding? (depth : Nat) : (items : List Node) →
    ExplainedBy (WithinItems items) (itemsFinding? depth items)
  | [] => by
    unfold itemsFinding?
    exact .none
  | n :: rest => by
    unfold itemsFinding?
    exact .first ((explained_finding? depth n).mono fun _ h => .head h rest)
      ((explained_itemsFinding? depth rest).mono fun _ h => h.tail n)

theorem explained_pairsFinding? (depth : Nat) : (items : List Node) →
    ExplainedBy (WithinItems items) (pairsFinding? depth items)
  | [] => by
    unfold pairsFinding?
    exact .none
  | mapping tag [(k, v)] :: rest => by
    have hk := (explained_finding? depth k).mono fun _ h => WithinEntries.key h v []
    have hv := (explained_finding? depth v).mono fun _ h => WithinEntries.value h k []
    unfold pairsFinding?
    exact .first ((hk.first hv).mono fun _ h => .head (h.mapping tag) rest)
      ((explained_pairsFinding? depth rest).mono fun _ h => h.tail _)
  | mapping _ [] :: _ | mapping _ (_ :: _ :: _) :: _ | scalar .. :: _ | list .. :: _
  | cycle _ :: _ => by
    unfold pairsFinding?
    exact .malformed depth

theorem explained_ownFinding? (depth : Nat) : (entries : List (Node × Node)) →
    ExplainedBy (WithinEntries entries) (ownFinding? depth entries)
  | [] => by
    unfold ownFinding?
    exact .none
  | (k, v) :: rest => by
    have hrest := (explained_ownFinding? depth rest).mono fun _ h => h.tail (k, v)
    have hk := (explained_keyFault? depth k).mono fun _ h => WithinEntries.key h v rest
    have hv := (explained_finding? depth v).mono fun _ h => WithinEntries.value h k rest
    unfold ownFinding?
    exact .ite hrest ((hk.first hv).first hrest)

theorem explained_mergedFinding? (depth : Nat) : (entries : List (Node × Node)) →
    ExplainedBy (WithinEntries entries) (mergedFinding? depth entries)
  | [] => by
    unfold mergedFinding?
    exact .none
  | (k, v) :: rest => by
    have hv := (explained_entriesFinding? depth v).mono fun _ h => WithinEntries.value h k rest
    unfold mergedFinding?
    exact (ExplainedBy.ite hv .none).first
      ((explained_mergedFinding? depth rest).mono fun _ h => h.tail (k, v))

theorem explained_entriesFinding? (depth : Nat) : (n : Node) →
    ExplainedBy (·.Within n) (n.entriesFinding? depth)
  | scalar .. | cycle _ => by
    unfold entriesFinding?
    exact .none
  | list tag items => by
    unfold entriesFinding?
    exact (explained_itemEntriesFinding? depth items).mono fun _ h => h.list tag
  | mapping tag entries => by
    have hmerged := explained_mergedFinding? depth entries
    have hown := explained_ownFinding? depth entries
    unfold entriesFinding?
    exact (hmerged.first hown).mono fun _ h => h.mapping tag

theorem explained_itemEntriesFinding? (depth : Nat) : (items : List Node) →
    ExplainedBy (WithinItems items) (itemEntriesFinding? depth items)
  | [] => by
    unfold itemEntriesFinding?
    exact .none
  | n :: rest => by
    unfold itemEntriesFinding?
    exact .first ((explained_itemEntriesFinding? depth rest).mono fun _ h => h.tail n)
      ((explained_entriesFinding? depth n).mono fun _ h => .head h rest)

end

end Node

/-! ## Texts -/

/-- A text without content is no document, or it is no YAML, or a node of its document does not fit
its tag. -/
theorem contentOf_fault {text : List Char} {fault : Fault} (h : contentOf text = .error fault) :
    documentOf text = .error fault ∨ ∃ root, documentOf text = .ok (some root) ∧
      Explained (·.Within root) fault := by
  unfold contentOf at h
  cases hdocument : documentOf text with
  | error f =>
    rw [hdocument] at h
    cases h
    exact .inl rfl
  | ok root? =>
    rw [hdocument] at h
    cases root? with
    | none => cases h
    | some root =>
      refine .inr ⟨root, rfl, ?_⟩
      simp only [bind, Except.bind] at h
      split at h
      · next f hf =>
        cases h
        exact root.explained_finding? 0 f hf
      · cases h

/-- Of a file with a document whose nodes fit their tags nothing worse is wrong than that it is no
YAML. -/
theorem malformed_of_fitting {content : ByteArray} {text : String} {root : Node}
    (htext : String.fromUTF8? content = some text)
    (hdocument : documentOf (Text.unifyLines text.toList) = .ok (some root))
    (hfit : ∀ n : Node, n.Within root → n.spellingFault? = none) {fault : Fault}
    (h : reader content = .error fault) : fault = .malformed := by
  unfold reader at h
  rw [htext] at h
  rcases contentOf_fault h with herror | ⟨root', hroot', rfl | ⟨n, hn, hfault⟩⟩
  · rw [hdocument] at herror
    cases herror
  · rfl
  · rw [hdocument] at hroot'
    cases hroot'
    rw [hfit n hn] at hfault
    cases hfault

end TableScaffold.Yaml
