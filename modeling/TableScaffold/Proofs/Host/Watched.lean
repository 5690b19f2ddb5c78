import TableScaffold.Proofs.Host.Machine

/-!
# Watched work

A watched host is a machine with a record of what is done to its files: each path that is looked at,
read, made or written, and each directory that templates are taken from. The record is kept beside the
work and does not change it, so what watched work does is what it does on a machine.
-/

namespace TableScaffold

/-- A thing that is done to files. -/
inductive Access where
  /-- Whether a path leads anywhere, or to a directory. -/
  | look (path : String)
  | read (path : String)
  | make (path : String)
  | write (path : String)
  /-- Templates are taken from a directory. -/
  | templates (directory : String)
  deriving DecidableEq, Repr

/-- Work on a machine, and the accesses to files that it makes from each machine. -/
structure Watched (α : Type) where
  work : OnMachine α
  accesses : Machine → List Access

namespace Watched

open OnMachine

variable {ε α β : Type}

instance : Monad Watched where
  pure a := ⟨pure a, fun _ => []⟩
  bind x f :=
    { work := x.work >>= fun a => (f a).work
      accesses := fun m =>
        x.accesses m ++ (f (result x.work m).1).accesses (result x.work m).2 }

/-- Work that makes no access to files. -/
def quiet (work : OnMachine α) : Watched α := ⟨work, fun _ => []⟩

/-- Work that makes one access. -/
def making (access : Access) (work : OnMachine α) : Watched α := ⟨work, fun _ => [access]⟩

instance : Host Watched where
  note n := quiet (Host.note n)
  environment name := quiet (Host.environment name)
  isThere path := making (.look path) (Host.isThere path)
  isDirectory path := making (.look path) (Host.isDirectory path)
  read path := making (.read path) (Host.read path)
  makeDirectory path := making (.make path) (Host.makeDirectory path)
  write path content := making (.write path) (Host.write path content)
  renderFrom directory render := making (.templates directory) (Host.renderFrom directory render)

/-! ## The work -/

@[simp] theorem work_pure (a : α) : (pure a : Watched α).work = pure a := rfl

@[simp] theorem work_bind (x : Watched α) (f : α → Watched β) :
    (x >>= f).work = x.work >>= fun a => (f a).work := rfl

/-- Work that may fail, not watched any more. -/
def workT (x : ExceptT ε Watched α) : ExceptT ε OnMachine α := ExceptT.mk x.run.work

@[simp] theorem workT_bind (x : ExceptT ε Watched α) (f : α → ExceptT ε Watched β) :
    workT (x >>= f) = workT x >>= fun a => workT (f a) := by
  refine congrArg (fun k => ExceptT.mk (x.run.work >>= k)) (funext fun r => ?_)
  cases r <;> rfl

/-- Steps that do the same one by one do the same together. -/
theorem work_step {x : Watched α} {y : OnMachine α} {f : α → Watched β} {g : α → OnMachine β}
    (hx : x.work = y) (hf : ∀ a, (f a).work = g a) : (x >>= f).work = y >>= g := by
  rw [work_bind, hx, funext hf]

theorem workT_step {x : ExceptT ε Watched α} {y : ExceptT ε OnMachine α}
    {f : α → ExceptT ε Watched β} {g : α → ExceptT ε OnMachine β} (hx : workT x = y)
    (hf : ∀ a, workT (f a) = g a) : workT (x >>= f) = y >>= g := by
  rw [workT_bind, hx, funext hf]

/-- The first step does not fail. -/
theorem workT_next {x : Watched α} {y : OnMachine α} {f : α → ExceptT ε Watched β}
    {g : α → ExceptT ε OnMachine β} (hx : x.work = y) (hf : ∀ a, workT (f a) = g a) :
    workT (liftM x >>= f) = liftM y >>= g :=
  workT_step (hx ▸ rfl) hf

/-! ## The record -/

/-- What is done before the first step of work that does not fail, and after it. -/
theorem accesses_liftM_bind (x : Watched α) (f : α → ExceptT ε Watched β) (m : Machine) :
    (liftM x >>= f : ExceptT ε Watched β).run.accesses m =
      x.accesses m ++ (f (result x.work m).1).run.accesses (result x.work m).2 :=
  congrArg (· ++ _) (List.append_nil (x.accesses m))

section

variable {x : ExceptT ε Watched α} {f : α → ExceptT ε Watched β} {m m' : Machine}

/-- Nothing is done after a failure. -/
theorem accesses_bind_error {e : ε} (h : outcome (workT x) m = (.error e, m')) :
    (x >>= f).run.accesses m = x.run.accesses m := by
  have hresult : result x.run.work m = (.error e, m') := h
  show x.run.accesses m ++
    (ExceptT.bindCont f (result x.run.work m).1).accesses (result x.run.work m).2 = _
  rw [hresult]
  exact List.append_nil _

theorem accesses_bind_ok {a : α} (h : outcome (workT x) m = (.ok a, m')) :
    (x >>= f).run.accesses m = x.run.accesses m ++ (f a).run.accesses m' := by
  have hresult : result x.run.work m = (.ok a, m') := h
  show x.run.accesses m ++
    (ExceptT.bindCont f (result x.run.work m).1).accesses (result x.run.work m).2 = _
  rw [hresult]
  rfl

end

/-- All accesses of some work are of a kind. -/
def Within (P : Access → Prop) (x : Watched α) : Prop := ∀ m, ∀ access ∈ x.accesses m, P access

namespace Within

variable {P : Access → Prop}

theorem quiet (work : OnMachine α) : Within P (Watched.quiet work) := fun _ _ h =>
  absurd h List.not_mem_nil

theorem making {access : Access} (h : P access) (work : OnMachine α) :
    Within P (Watched.making access work) := fun _ _ hmem => List.mem_singleton.1 hmem ▸ h

theorem bind {x : Watched α} {f : α → Watched β} (hx : Within P x) (hf : ∀ a, Within P (f a)) :
    Within P (x >>= f) := fun m access h =>
  (List.mem_append.1 h).elim (hx m access) (hf _ _ access)

theorem pure (a : α) : Within P (Pure.pure a) := quiet _

theorem throw (e : ε) : Within P (MonadExcept.throw e : ExceptT ε Watched α).run := quiet _

theorem bindT {x : ExceptT ε Watched α} {f : α → ExceptT ε Watched β} (hx : Within P x.run)
    (hf : ∀ a, Within P (f a).run) : Within P (x >>= f).run := by
  refine bind hx fun r => ?_
  cases r with
  | error e => exact quiet _
  | ok a => exact hf a

/-- Work that does not fail is followed by work that may. -/
theorem liftM_bind {x : Watched α} {f : α → ExceptT ε Watched β} (hx : Within P x)
    (hf : ∀ a, Within P (f a).run) : Within P (liftM x >>= f : ExceptT ε Watched β).run :=
  bindT (bind hx fun _ => quiet _) hf

end Within

end Watched

end TableScaffold
