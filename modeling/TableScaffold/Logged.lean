import TableScaffold.Notice

/-!
# Results with notices

A logged result carries the notices of its making, in order. Work that may fail keeps the notices
made before the failure.
-/

namespace TableScaffold

/-- A result together with the notices made on the way to it. -/
structure Logged (α : Type) where
  notices : List Notice
  value : α

namespace Logged

/-- Makes one notice. -/
def note (n : Notice) : Logged Unit := ⟨[n], ()⟩

instance : Monad Logged where
  pure a := ⟨[], a⟩
  bind x f := ⟨x.notices ++ (f x.value).notices, (f x.value).value⟩

@[simp] theorem notices_pure {α : Type} (a : α) : (pure a : Logged α).notices = [] := rfl

@[simp] theorem value_pure {α : Type} (a : α) : (pure a : Logged α).value = a := rfl

@[simp] theorem notices_bind {α β : Type} (x : Logged α) (f : α → Logged β) :
    (x >>= f).notices = x.notices ++ (f x.value).notices := rfl

@[simp] theorem value_bind {α β : Type} (x : Logged α) (f : α → Logged β) :
    (x >>= f).value = (f x.value).value := rfl

instance : LawfulMonad Logged := LawfulMonad.mk' Logged
  (fun x => by cases x; simp [Functor.map])
  (fun _ _ => rfl)
  (fun x f g => by simp [bind, List.append_assoc])

end Logged

/-- Work that makes notices and may fail. -/
abbrev Attempt (ε α : Type) := ExceptT ε Logged α

namespace Attempt

variable {ε α : Type}

/-- Work that only makes a notice. -/
def note (n : Notice) : Attempt ε Unit := ExceptT.lift (Logged.note n)

/-- Logged work that does not fail. -/
def ofLogged (x : Logged α) : Attempt ε α := ExceptT.lift x

/-- Work without notices. -/
def ofExcept (x : Except ε α) : Attempt ε α := ExceptT.mk (pure x)

/-- The notices of an attempt. -/
def notices (x : Attempt ε α) : List Notice := (ExceptT.run x).notices

/-- The outcome of an attempt. -/
def outcome (x : Attempt ε α) : Except ε α := (ExceptT.run x).value

end Attempt

end TableScaffold
