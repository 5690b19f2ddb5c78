import Mathlib.Data.List.Basic
import Mathlib.Data.List.TakeWhile
import TableScaffold.Naming.Words
import TableScaffold.Proofs.Text.Ascii

/-!
# Words and camel case

An identifier of letters and digits is made up of its words. Camel case changes nothing but the first
letter of an identifier if each of its words has one capital at most, in front, and none begins with
a small letter. That can be seen from neighbouring characters, wherever the words end
(`joinCamel_words_iff`).
-/

namespace TableScaffold.Naming

/-! ## Characters -/

theorem isAlphanum_eq (c : Char) : c.isAlphanum = (c.isUpper || c.isLower || c.isDigit) := rfl

theorem isAlphanum_of_isUpper {c : Char} (h : c.isUpper = true) : c.isAlphanum = true := by
  rw [isAlphanum_eq, h, Bool.true_or, Bool.true_or]

theorem isAlphanum_of_isLower {c : Char} (h : c.isLower = true) : c.isAlphanum = true := by
  rw [isAlphanum_eq, h, Bool.or_true, Bool.true_or]

theorem isAlphanum_of_isDigit {c : Char} (h : c.isDigit = true) : c.isAlphanum = true := by
  rw [isAlphanum_eq, h, Bool.or_true]

/-- What kind a character is of, and whether it is its own small form and its own capital. -/
structure OfKind (c : Char) (upper lower digit : Bool) : Prop where
  isUpper : c.isUpper = upper
  isLower : c.isLower = lower
  isDigit : c.isDigit = digit
  toLower : c.toLower = c ↔ upper = false
  toUpper : c.toUpper = c ↔ lower = false

instance (c : Char) (upper lower digit : Bool) : Decidable (OfKind c upper lower digit) :=
  decidable_of_iff (c.isUpper = upper ∧ c.isLower = lower ∧ c.isDigit = digit ∧
      (c.toLower = c ↔ upper = false) ∧ (c.toUpper = c ↔ lower = false))
    ⟨fun ⟨hupper, hlower, hdigit, hsmall, hlarge⟩ => ⟨hupper, hlower, hdigit, hsmall, hlarge⟩,
      fun h => ⟨h.isUpper, h.isLower, h.isDigit, h.toLower, h.toUpper⟩⟩

/-- A letter or a digit is of one kind. -/
theorem exists_kind {c : Char} (h : c.isAlphanum = true) :
    OfKind c true false false ∨ OfKind c false true false ∨ OfKind c false false true := by
  have key := Text.ascii_all (p := fun c => decide (c.isAlphanum = true →
    OfKind c true false false ∨ OfKind c false true false ∨ OfKind c false false true))
    (by decide) (Text.toNat_lt_of_isAlphanum h)
  exact of_decide_eq_true key h

theorem kind_of_isUpper {c : Char} (h : c.isUpper = true) : OfKind c true false false := by
  rcases exists_kind (isAlphanum_of_isUpper h) with hc | hc | hc
  · exact hc
  all_goals cases h.symm.trans hc.isUpper

theorem kind_of_isLower {c : Char} (h : c.isLower = true) : OfKind c false true false := by
  rcases exists_kind (isAlphanum_of_isLower h) with hc | hc | hc
  · cases h.symm.trans hc.isLower
  · exact hc
  · cases h.symm.trans hc.isLower

theorem kind_of_isDigit {c : Char} (h : c.isDigit = true) : OfKind c false false true := by
  rcases exists_kind (isAlphanum_of_isDigit h) with hc | hc | hc
  · cases h.symm.trans hc.isDigit
  · cases h.symm.trans hc.isDigit
  · exact hc

/-! ## Cutting off a word -/

/-- Whether the first character of a text, if there is one, has a property. -/
def starts (p : Char → Bool) (cs : List Char) : Bool := cs.head?.any p

/-- A word and what follows it, by the kind of the word. -/
inductive Cut : List Char → List Char → Prop
  | digits {ds rest : List Char} (hne : ds ≠ []) (hds : ∀ c ∈ ds, c.isDigit = true)
    (hrest : starts Char.isDigit rest = false) : Cut ds rest
  | small {ls rest : List Char} (hne : ls ≠ []) (hls : ∀ c ∈ ls, c.isLower = true)
    (hrest : starts Char.isLower rest = false) : Cut ls rest
  /-- A capital with the small letters behind it. -/
  | capital {c : Char} {ls rest : List Char} (hc : c.isUpper = true) (hne : ls ≠ [])
    (hls : ∀ c ∈ ls, c.isLower = true) (hrest : starts Char.isLower rest = false) :
    Cut (c :: ls) rest
  /-- A capital with no letter behind it. -/
  | lone {c : Char} {rest : List Char} (hc : c.isUpper = true)
    (hlower : starts Char.isLower rest = false) (hupper : starts Char.isUpper rest = false) :
    Cut [c] rest
  /-- A capital in front of another that has small letters behind it. -/
  | beside {c d : Char} {rest : List Char} (hc : c.isUpper = true) (hd : d.isUpper = true)
    (hrest : starts Char.isLower rest = true) : Cut [c] (d :: rest)
  /-- Several capitals; a further one has small letters behind it. -/
  | capitals {c d : Char} {us rest : List Char} (hc : c.isUpper = true) (hd : d.isUpper = true)
    (hus : ∀ c ∈ us, c.isUpper = true) (hrest : starts Char.isLower rest = false)
    (hnext : starts Char.isUpper rest = true → starts Char.isLower rest.tail = true) :
    Cut (c :: d :: us) rest

theorem Cut.ne_nil {w rest : List Char} (h : Cut w rest) : w ≠ [] := by
  cases h <;> first | assumption | exact List.cons_ne_nil _ _

theorem starts_dropWhile (p : Char → Bool) (cs : List Char) : starts p (cs.dropWhile p) = false := by
  unfold starts
  cases h : (cs.dropWhile p).head? with
  | none => rfl
  | some c =>
    have := List.head?_dropWhile_not p cs
    rw [h] at this
    simpa using this

/-- How a run of capitals is cut. -/
theorem capitals_append {run rest : List Char} (hrun : ∀ c ∈ run, c.isUpper = true)
    (hrest : starts Char.isUpper rest = false) :
    capitals (run ++ rest) =
      if starts Char.isLower rest = false then (run, rest)
      else if run.length ≤ 1 then
        (run ++ rest.takeWhile Char.isLower, rest.dropWhile Char.isLower)
      else (run.dropLast, run.drop (run.length - 1) ++ rest) := by
  have htake : (run ++ rest).takeWhile Char.isUpper = run := by
    rw [List.takeWhile_append_of_pos hrun]
    cases rest with
    | nil => simp
    | cons d ds => simpa [starts] using hrest
  have hdrop : (run ++ rest).dropWhile Char.isUpper = rest := by
    rw [List.dropWhile_append_of_pos hrun]
    cases rest with
    | nil => rfl
    | cons d ds => simpa [starts] using hrest
  unfold capitals
  rw [htake, hdrop]
  cases rest with
  | nil => rfl
  | cons d ds => cases hd : d.isLower <;> simp [starts, hd]

/-- A run of capitals with what follows it has a word in front. -/
theorem cut_capitals {c : Char} {us rest : List Char} (hc : c.isUpper = true)
    (hus : ∀ c ∈ us, c.isUpper = true) (hrest : starts Char.isUpper rest = false) :
    (capitals (c :: us ++ rest)).1 ++ (capitals (c :: us ++ rest)).2 = c :: us ++ rest ∧
      Cut (capitals (c :: us ++ rest)).1 (capitals (c :: us ++ rest)).2 := by
  rw [capitals_append (List.forall_mem_cons.mpr ⟨hc, hus⟩) hrest]
  cases hlower : starts Char.isLower rest with
  | false =>
    rw [if_pos rfl]
    refine ⟨rfl, ?_⟩
    cases us with
    | nil => exact .lone hc hlower hrest
    | cons d us =>
      obtain ⟨hd, hus⟩ := List.forall_mem_cons.mp hus
      exact .capitals hc hd hus hlower fun h => absurd h (by simp [hrest])
  | true =>
    rw [if_neg (by decide)]
    rcases List.eq_nil_or_concat' us with rfl | ⟨vs, d, rfl⟩
    · rw [if_pos (by simp)]
      dsimp only
      refine ⟨by simp, .capital hc ?_ ?_ (starts_dropWhile _ _)⟩
      · cases rest with
        | nil => cases hlower
        | cons l ls =>
          have hl : l.isLower = true := by simpa [starts] using hlower
          simp [hl]
      · exact fun l hl => List.mem_takeWhile_imp hl
    · have hd : d.isUpper = true := hus d (by simp)
      have hsize : ¬ (c :: (vs ++ [d])).length ≤ 1 := by simp
      have hlast : (c :: (vs ++ [d])).drop ((c :: (vs ++ [d])).length - 1) = [d] := by
        simp
      have hfront : (c :: (vs ++ [d])).dropLast = c :: vs := by
        rw [← List.cons_append, List.dropLast_concat]
      rw [if_neg hsize, hlast, hfront]
      refine ⟨by simp, ?_⟩
      cases vs with
      | nil => exact .beside hc hd hlower
      | cons e vs =>
        have he : e.isUpper = true := hus e (by simp)
        refine .capitals hc he (fun x hx => hus x (by simp [hx])) ?_ fun _ => hlower
        simp [starts, (kind_of_isUpper hd).isLower]

theorem exists_cut {c : Char} (hc : c.isAlphanum = true) (cs : List Char) :
    ∃ w rest, w ++ rest = c :: cs ∧ Cut w rest ∧ words (c :: cs) = w :: words rest := by
  have hcut : (firstWord (c :: cs)).1 ++ (firstWord (c :: cs)).2 = c :: cs ∧
      Cut (firstWord (c :: cs)).1 (firstWord (c :: cs)).2 := by
    rw [firstWord]
    rcases exists_kind hc with hkind | hkind | hkind
    · rw [if_pos hkind.isUpper]
      have hrun : ∀ d ∈ cs.takeWhile Char.isUpper, d.isUpper = true :=
        fun _ h => List.mem_takeWhile_imp h
      have h := cut_capitals hkind.isUpper hrun (starts_dropWhile Char.isUpper cs)
      rwa [List.cons_append, List.takeWhile_append_dropWhile] at h
    · rw [if_neg (by simp [hkind.isUpper]), if_pos hkind.isLower]
      refine ⟨by simp [hkind.isLower],
        .small ?_ (fun _ h => List.mem_takeWhile_imp h) (starts_dropWhile _ cs)⟩
      simp [hkind.isLower]
    · rw [if_neg (by simp [hkind.isUpper]), if_neg (by simp [hkind.isLower]), if_pos hkind.isDigit]
      refine ⟨by simp [hkind.isDigit],
        .digits ?_ (fun _ h => List.mem_takeWhile_imp h) (starts_dropWhile _ cs)⟩
      simp [hkind.isDigit]
  refine ⟨_, _, hcut.1, hcut.2, ?_⟩
  rw [words, if_neg (by simpa using hcut.2.ne_nil)]

theorem Cut.isAlphanum {w rest : List Char} (h : Cut w rest) :
    ∀ c ∈ w, c.isAlphanum = true := by
  intro x hx
  cases h with
  | digits _ hds _ => exact isAlphanum_of_isDigit (hds x hx)
  | small _ hls _ => exact isAlphanum_of_isLower (hls x hx)
  | capital hc _ hls _ =>
    rcases List.mem_cons.mp hx with rfl | hx
    · exact isAlphanum_of_isUpper hc
    · exact isAlphanum_of_isLower (hls x hx)
  | lone hc _ _ | beside hc _ _ =>
    rw [List.mem_singleton.mp hx]
    exact isAlphanum_of_isUpper hc
  | capitals hc hd hus _ _ =>
    refine isAlphanum_of_isUpper ?_
    rcases List.mem_cons.mp hx with rfl | hx
    · exact hc
    · rcases List.mem_cons.mp hx with rfl | hx
      · exact hd
      · exact hus x hx

/-- Induction along the words of a text; a character that is in no word is passed over. -/
theorem words_induction {P : List Char → List (List Char) → Prop} (nil : P [] [])
    (skip : ∀ {c : Char} {cs : List Char} {ws : List (List Char)}, c.isAlphanum = false →
      P cs ws → P (c :: cs) ws)
    (cut : ∀ {w rest : List Char} {ws : List (List Char)}, Cut w rest → P rest ws →
      P (w ++ rest) (w :: ws)) (cs : List Char) : P cs (words cs) := by
  induction hn : cs.length using Nat.strong_induction_on generalizing cs with
  | _ n ih =>
    subst hn
    cases cs with
    | nil => rwa [words]
    | cons c cs =>
      cases hc : c.isAlphanum with
      | true =>
        obtain ⟨w, rest, heq, hcut, hwords⟩ := exists_cut hc cs
        rw [hwords, ← heq]
        have hsize := congrArg List.length heq
        have hw := List.length_pos_iff.mpr hcut.ne_nil
        rw [List.length_append] at hsize
        exact cut hcut (ih rest.length (by omega) rest rfl)
      | false =>
        have hfirst : firstWord (c :: cs) = ([], cs) := by
          have hkinds : c.isUpper = false ∧ c.isLower = false ∧ c.isDigit = false := by
            simpa [isAlphanum_eq, and_assoc] using hc
          simp [firstWord, hkinds]
        rw [words, hfirst, if_pos (by rfl)]
        exact skip hc (ih cs.length (Nat.lt_succ_self _) cs rfl)

/-- The words of a text are made up of its letters and digits. -/
theorem flatten_words (cs : List Char) : (words cs).flatten = cs.filter Char.isAlphanum := by
  refine words_induction (P := fun cs ws => ws.flatten = cs.filter Char.isAlphanum) rfl
    (fun hc ih => ?_) (fun hcut ih => ?_) cs
  · rw [List.filter_cons_of_neg (by simp [hc]), ih]
  · rw [List.flatten_cons, ih, List.filter_append, List.filter_eq_self.mpr hcut.isAlphanum]

/-! ## Words that keep their case -/

/-- Whether the letters of an identifier are cased word by word: behind two capitals stands a small
letter, and behind a digit none. -/
def wordwise : List Char → Bool
  | c :: d :: rest =>
    !(c.isUpper && d.isUpper && !starts Char.isLower rest) && !(c.isDigit && d.isLower) &&
      wordwise (d :: rest)
  | _ => true

@[simp] theorem starts_cons (p : Char → Bool) (c : Char) (cs : List Char) :
    starts p (c :: cs) = p c := by
  simp [starts]

theorem wordwise_cons_of_digit {c : Char} {cs : List Char} (hc : c.isDigit = true) :
    wordwise (c :: cs) = (!starts Char.isLower cs && wordwise cs) := by
  cases cs with
  | nil => rfl
  | cons d cs => simp [wordwise, hc, (kind_of_isDigit hc).isUpper]

theorem wordwise_append_of_digits {ds rest : List Char} (hne : ds ≠ [])
    (hds : ∀ c ∈ ds, c.isDigit = true) :
    wordwise (ds ++ rest) = (!starts Char.isLower rest && wordwise rest) := by
  induction ds with
  | nil => exact absurd rfl hne
  | cons d ds ih =>
    obtain ⟨hd, hds⟩ := List.forall_mem_cons.mp hds
    rw [List.cons_append, wordwise_cons_of_digit hd]
    cases ds with
    | nil => rfl
    | cons e ds =>
      have he := (kind_of_isDigit (hds e List.mem_cons_self)).isLower
      rw [ih (List.cons_ne_nil e ds) hds, List.cons_append, starts_cons, he]
      rfl

/-- A small letter says nothing about what follows it. -/
theorem wordwise_cons_of_lower {c : Char} {cs : List Char} (hc : c.isLower = true) :
    wordwise (c :: cs) = wordwise cs := by
  have hkind := kind_of_isLower hc
  cases cs with
  | nil => rfl
  | cons d cs => simp [wordwise, hkind.isUpper, hkind.isDigit]

theorem wordwise_append_of_lower {ls rest : List Char} (hls : ∀ c ∈ ls, c.isLower = true) :
    wordwise (ls ++ rest) = wordwise rest := by
  induction ls with
  | nil => rfl
  | cons l ls ih =>
    obtain ⟨hl, hls⟩ := List.forall_mem_cons.mp hls
    rw [List.cons_append, wordwise_cons_of_lower hl, ih hls]

/-- Behind a capital that no other follows, nothing is asked. -/
theorem wordwise_cons_of_upper {c : Char} {cs : List Char} (hc : c.isUpper = true)
    (hcs : starts Char.isUpper cs = false) : wordwise (c :: cs) = wordwise cs := by
  cases cs with
  | nil => rfl
  | cons d cs =>
    rw [starts_cons] at hcs
    simp [wordwise, hcs, (kind_of_isUpper hc).isDigit]

theorem map_toLower {cs : List Char} (h : ∀ c ∈ cs, c.toLower = c) :
    cs.map Char.toLower = cs :=
  (List.map_congr_left h).trans (List.map_id cs)

/-- A word with at most one capital, in front, stays as it is; an identifier has only such words if
it does not begin with a small letter and is cased word by word. -/
theorem capitalized_words_iff {cs : List Char} (h : ∀ c ∈ cs, c.isAlphanum = true) :
    (∀ w ∈ words cs, capitalized w = w) ↔
      starts Char.isLower cs = false ∧ wordwise cs = true := by
  refine words_induction (P := fun cs ws => (∀ c ∈ cs, c.isAlphanum = true) →
    ((∀ w ∈ ws, capitalized w = w) ↔ starts Char.isLower cs = false ∧ wordwise cs = true))
    (fun _ => by simp [starts, wordwise]) (fun hc _ h => ?_) (fun {w rest ws} hcut ih h => ?_) cs h
  · rw [(List.forall_mem_cons.mp h).1] at hc
    cases hc
  replace ih := ih fun c hc => h c (List.mem_append_right w hc)
  rw [List.forall_mem_cons, ih]
  cases hcut with
  | digits hne hds _ =>
    rw [wordwise_append_of_digits hne hds]
    cases w with
    | nil => exact absurd rfl hne
    | cons d ds =>
      have hd := kind_of_isDigit (hds d List.mem_cons_self)
      have hmap := map_toLower fun e he =>
        (kind_of_isDigit (hds e (List.mem_cons_of_mem d he))).toLower.mpr rfl
      simp [capitalized, hd.toUpper, hmap, hd.isLower]
  | small hne hls _ =>
    cases w with
    | nil => exact absurd rfl hne
    | cons l ls =>
      have hl := hls l List.mem_cons_self
      simp [capitalized, (kind_of_isLower hl).toUpper, hl]
  | @capital c ls _ hc hne hls hrest =>
    have hkind := kind_of_isUpper hc
    have hmap := map_toLower fun l hl => (kind_of_isLower (hls l hl)).toLower.mpr rfl
    have hstart : starts Char.isUpper (ls ++ rest) = false := by
      cases ls with
      | nil => exact absurd rfl hne
      | cons l ls => simp [(kind_of_isLower (hls l List.mem_cons_self)).isUpper]
    rw [List.cons_append, starts_cons, wordwise_cons_of_upper hc hstart,
      wordwise_append_of_lower hls]
    simp [capitalized, hkind.toUpper, hmap, hrest, hkind.isLower]
  | @lone c _ hc hlower hupper =>
    have hkind := kind_of_isUpper hc
    rw [List.singleton_append, starts_cons, wordwise_cons_of_upper hc hupper]
    simp [capitalized, hlower, hkind.isLower, hkind.toUpper]
  | @beside c d rest hc hd hrest =>
    have hkind := kind_of_isUpper hc
    simp [capitalized, wordwise, hrest, hkind.isLower, hkind.isDigit, hkind.toUpper,
      (kind_of_isUpper hd).isLower]
  | @capitals c d us _ hc hd hus hrest _ =>
    have hfollows : starts Char.isLower (us ++ rest) = false := by
      cases us with
      | nil => exact hrest
      | cons u us => simp [(kind_of_isUpper (hus u List.mem_cons_self)).isLower]
    simp [capitalized, wordwise, hc, hd, hfollows, (kind_of_isUpper hd).toLower]

/-! ## Camel case -/

@[simp] theorem length_capitalized (w : List Char) : (capitalized w).length = w.length := by
  cases w <;> simp [capitalized]

theorem flatMap_capitalized_iff {ws : List (List Char)} :
    ws.flatMap capitalized = ws.flatten ↔ ∀ w ∈ ws, capitalized w = w := by
  induction ws with
  | nil => simp
  | cons w ws ih =>
    rw [List.flatMap_cons, List.flatten_cons, List.forall_mem_cons, ← ih]
    constructor
    · intro h
      exact List.append_inj h (length_capitalized w)
    · rintro ⟨hw, hws⟩
      rw [hw, hws]

/-- Camel case changes only the first letter of an identifier that is cased word by word. -/
theorem joinCamel_words_iff {c : Char} {cs : List Char} (hc : c.isUpper = true)
    (hcs : ∀ d ∈ cs, d.isAlphanum = true) :
    joinCamel (words (c :: cs)) = c.toLower :: cs ↔ wordwise (c :: cs) = true := by
  have hall : ∀ d ∈ c :: cs, d.isAlphanum = true :=
    List.forall_mem_cons.mpr ⟨isAlphanum_of_isUpper hc, hcs⟩
  have hcased := capitalized_words_iff hall
  have hflat := (flatten_words (c :: cs)).trans (List.filter_eq_self.mpr hall)
  obtain ⟨w, rest, hw, hcut, hwords⟩ := exists_cut (isAlphanum_of_isUpper hc) cs
  rw [hwords] at hcased hflat ⊢
  obtain ⟨d, v, rfl⟩ := List.exists_cons_of_ne_nil hcut.ne_nil
  obtain ⟨rfl, hcs⟩ := List.cons.inj hflat
  have hkind := kind_of_isUpper hc
  rw [starts_cons, hkind.isLower, List.forall_mem_cons, eq_self_iff_true, true_and] at hcased
  rw [← hcased, ← hcs, ← flatMap_capitalized_iff, capitalized, hkind.toUpper.mpr rfl]
  show d.toLower :: (v.map Char.toLower ++ (words rest).flatMap capitalized) =
    d.toLower :: (v ++ (words rest).flatten) ↔ _
  constructor
  · intro h
    obtain ⟨hv, hrest⟩ := List.append_inj (List.cons.inj h).2 (List.length_map _)
    exact ⟨congrArg _ hv, hrest⟩
  · rintro ⟨hv, hrest⟩
    rw [(List.cons.inj hv).2, hrest]

theorem mem_capitalized {w : List Char} {d : Char} (h : d ∈ capitalized w) :
    ∃ c ∈ w, d = c.toLower ∨ d = c.toUpper := by
  cases w with
  | nil => cases h
  | cons c cs =>
    rcases List.mem_cons.mp h with rfl | h
    · exact ⟨c, List.mem_cons_self, .inr rfl⟩
    · obtain ⟨e, he, rfl⟩ := List.mem_map.mp h
      exact ⟨e, List.mem_cons_of_mem c he, .inl rfl⟩

theorem mem_joinCamel {ws : List (List Char)} {d : Char} (h : d ∈ joinCamel ws) :
    ∃ c ∈ ws.flatten, d = c.toLower ∨ d = c.toUpper := by
  cases ws with
  | nil => cases h
  | cons w ws =>
    rcases List.mem_append.mp h with h | h
    · obtain ⟨c, hc, rfl⟩ := List.mem_map.mp h
      exact ⟨c, List.mem_append_left _ hc, .inl rfl⟩
    · obtain ⟨v, hv, h⟩ := List.mem_flatMap.mp h
      obtain ⟨c, hc, h⟩ := mem_capitalized h
      exact ⟨c, List.mem_append_right w (List.mem_flatten.mpr ⟨v, hv, hc⟩), h⟩

theorem isAlphanum_case {c : Char} (h : c.isAlphanum = true) :
    c.toLower.isAlphanum = true ∧ c.toUpper.isAlphanum = true := by
  have key := Text.ascii_all (p := fun c => decide (c.isAlphanum = true →
    c.toLower.isAlphanum = true ∧ c.toUpper.isAlphanum = true)) (by decide)
    (Text.toNat_lt_of_isAlphanum h)
  exact of_decide_eq_true key h

/-- A text in camel case has letters and digits only. -/
theorem isAlphanum_of_mem_camelCase {s : String} {d : Char} (h : d ∈ (camelCase s).toList) :
    d.isAlphanum = true := by
  rw [camelCase, String.toList_ofList] at h
  obtain ⟨c, hc, h⟩ := mem_joinCamel h
  rw [flatten_words] at hc
  have halnum := isAlphanum_case (List.mem_filter.mp hc).2
  rcases h with rfl | rfl
  · exact halnum.1
  · exact halnum.2

/-- A run of capitals may stand in front of a small letter only, and a digit may not. -/
example : ["USERS", "AUser", "User1s", "User1S"].map (wordwise ·.toList) =
    [false, true, false, true] := by
  decide

end TableScaffold.Naming
