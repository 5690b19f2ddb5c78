import TableScaffold.Artifact

/-!
# The files that a rendering reads

Rendering may look at any file of a library, and which file it looks at next depends on what it has
found so far. A file is read if rendering cannot do without it: when the file has not been read yet,
this is the outcome.

`View.tracked_render`: two libraries that agree on the files read from one of them render alike.
-/

namespace TableScaffold.Template

variable {α β : Type}

/-- A library in which one file has not been read yet. -/
def Library.without (library : Library) (file : String) : Library := fun f =>
  if f = file then .error (.unread file) else library f

/-- Work over a library reads a file: it ends where the file is needed and has not been read. -/
def Reads (library : Library) (work : Library → Except RenderFault α) (file : String) : Prop :=
  work (library.without file) = .error (.unread file)

/-- Work that knows of a library only what it reads there. -/
structure Tracked (work : Library → Except RenderFault α) : Prop where
  without : ∀ library file,
    Reads library work file ∨ work (library.without file) = work library
  congr : ∀ library other, (∀ file, Reads library work file → other file = library file) →
    work other = work library

namespace Tracked

theorem const (x : Except RenderFault α) : Tracked fun _ => x :=
  ⟨fun _ _ => Or.inr rfl, fun _ _ _ => rfl⟩

/-- To look at a file is to read it. -/
theorem file (f : String) : Tracked fun library => library f where
  without library g := by
    by_cases h : f = g
    · subst h
      exact Or.inl (if_pos rfl)
    · exact Or.inr (if_neg h)
  congr _ _ h := h f (if_pos rfl)

/-- A step after which a file that is needed is still needed. -/
theorem step {x : Library → Except RenderFault α}
    (f : Except RenderFault α → Except RenderFault β)
    (hf : ∀ file, f (.error (.unread file)) = .error (.unread file)) (hx : Tracked x) :
    Tracked fun library => f (x library) where
  without library file := by
    rcases hx.without library file with h | h
    · exact Or.inl ((congrArg f h).trans (hf file))
    · exact Or.inr (congrArg f h)
  congr library other h :=
    congrArg f (hx.congr library other fun file hr => h file ((congrArg f hr).trans (hf file)))

theorem map {x : Library → Except RenderFault α} (f : α → β) (hx : Tracked x) :
    Tracked fun library => (x library).map f :=
  hx.step (Except.map f) fun _ => rfl

/-- Work whose second part depends on the outcome of the first. What the second part reads is read by
the whole, because the first part does not need it or needs it as well. -/
theorem bind {x : Library → Except RenderFault α} {k : Library → α → Except RenderFault β}
    (hx : Tracked x) (hk : ∀ a, Tracked fun library => k library a) :
    Tracked fun library => x library >>= k library where
  without library file := by
    rcases hx.without library file with h | h
    · left
      show x _ >>= _ = _
      rw [h]
      rfl
    · unfold Reads
      dsimp only
      rw [h]
      cases hxa : x library with
      | error e => exact Or.inr rfl
      | ok a => exact (hk a).without library file
  congr library other h := by
    have hfirst : x other = x library := hx.congr library other fun file hr => h file (by
      show x _ >>= _ = _
      rw [hr]
      rfl)
    rw [hfirst]
    cases hxa : x library with
    | error e => rfl
    | ok a =>
      refine (hk a).congr library other fun file hr => h file ?_
      rcases hx.without library file with hneeds | hsame
      · show x _ >>= _ = _
        rw [hneeds]
        rfl
      · show x _ >>= _ = _
        rw [hsame, hxa]
        exact hr

theorem mapM {γ : Type} {f : Library → γ → Except RenderFault β}
    (hf : ∀ c, Tracked fun library => f library c) (cs : List γ) :
    Tracked fun library => cs.mapM (f library) := by
  induction cs with
  | nil => exact const (.ok [])
  | cons c cs ih =>
    simp only [List.mapM_cons]
    exact (hf c).bind fun b => ih.bind fun bs => const _

end Tracked

/-! ## Rendering -/

/-- A text in front of a rendering. -/
theorem Tracked.prepend {x : Library → Except RenderFault (String × Scope)} (hx : Tracked x)
    (s : String) :
    Tracked fun library => do
      let (t, scope) ← x library
      return (s ++ t, scope) :=
  hx.bind fun _ => .const _

/-- A template that may be missed counts as an empty one then. -/
def orMissing (isOptional : Bool) : Except RenderFault String → Except RenderFault String
  | .error .fileMissing => if isOptional then .ok "" else .error .fileMissing
  | r => r

/-- A template reads files only through the templates that it includes. -/
theorem Body.tracked_render {embedding : Library → Embedding}
    (hembed : ∀ scope x, Tracked fun library => embedding library scope x) (b : Body) :
    ∀ scope, Tracked fun library => b.render (embedding library) scope := by
  induction b with
  | done => exact fun _ => .const _
  | text s rest ih =>
    intro scope
    unfold Body.render
    exact (ih scope).prepend s
  | output e rest ih =>
    intro scope
    unfold Body.render
    exact (Tracked.const _).bind fun _ => (Tracked.const _).bind (ih scope).prepend
  | each var e body otherwise rest ihBody ihOtherwise ih =>
    intro scope
    unfold Body.render
    refine (Tracked.const _).bind fun x => (Tracked.const _).bind fun vs => ?_
    dsimp only
    split
    · exact ((ihOtherwise scope).map _).bind (ih scope).prepend
    · exact ((Tracked.mapM (fun inner => (ihBody inner).map _) _).map _).bind (ih scope).prepend
  | branch test yes no rest ihYes ihNo ih =>
    intro scope
    unfold Body.render
    refine (Tracked.const _).bind fun x => (Tracked.const _).bind fun chosen => ?_
    dsimp only
    split
    · exact (ihYes scope).bind fun p => (ih p.2).prepend p.1
    · exact (ihNo scope).bind fun p => (ih p.2).prepend p.1
  | assign var e rest ih =>
    intro scope
    unfold Body.render
    exact (Tracked.const _).bind fun x => ih _
  | embed file isOptional rest ih =>
    intro scope
    unfold Body.render
    refine (Tracked.const _).bind fun x => ?_
    have included := (hembed scope x).step (orMissing isOptional) fun _ => rfl
    refine (congrArg Tracked (funext fun library => ?_)).mp (included.bind (ih scope).prepend)
    cases embedding library scope x with
    | ok s => rfl
    | error e => cases e <;> cases isOptional <;> rfl

theorem Library.tracked_renderFile (depth : Nat) :
    ∀ scope file, Tracked fun library => library.renderFile depth scope file := by
  induction depth with
  | zero => exact fun _ _ => .const _
  | succ depth ih =>
    intro scope file
    unfold Library.renderFile
    refine (Tracked.file file).bind fun body => Tracked.bind ?_ fun p => .const _
    refine Body.tracked_render (fun scope x => ?_) body scope
    refine (Tracked.const _).bind fun v => ?_
    cases v with
    | str s => exact ih scope s
    | _ => exact .const _

end TableScaffold.Template

namespace TableScaffold

open Template

theorem Template.Library.tracked_renderView (file : String) (model : ViewModel) :
    Tracked fun library => library.renderView file model := by
  unfold renderView
  split
  · exact (Tracked.file _).bind fun _ => .const _
  · exact Library.tracked_renderFile _ _ _

/-- The template comes first; its fault is that of the rendering. -/
theorem Template.Library.renderView_of_error {library : Library} {file : String} {model : ViewModel}
    {f : RenderFault} (h : library file = .error f) : library.renderView file model = .error f := by
  unfold renderView
  split
  · rw [h]
    rfl
  · show Library.renderFile _ (99 + 1) _ _ = _
    unfold Library.renderFile
    rw [h]
    rfl

theorem View.tracked_render (s : TableSchema) (view : View) : Tracked (view.render s) := by
  unfold View.render
  cases view.build? s with
  | some model => exact Library.tracked_renderView view.templateFile model
  | none => exact .const _

/-- A view model whose template has a fault is not rendered. -/
theorem View.exists_render_error {view : View} {library : Library} {f : RenderFault}
    (h : library view.templateFile = .error f) (s : TableSchema) :
    ∃ f', view.render s library = .error f' := by
  unfold View.render
  cases view.build? s with
  | some model => exact ⟨f, Library.renderView_of_error h⟩
  | none => exact ⟨.tooLong, rfl⟩

/-- The template of a view model that can be built is read. -/
theorem View.reads_templateFile {s : TableSchema} {view : View} {model : ViewModel}
    (h : view.build? s = some model) (library : Library) :
    Reads library (view.render s) view.templateFile := by
  unfold Reads View.render
  rw [h]
  exact Library.renderView_of_error (if_pos rfl)

end TableScaffold
