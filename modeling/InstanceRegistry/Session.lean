import InstanceRegistry.Registry

/-!
  Sessions: a registry at work, with a journal of what happened.

  Besides the registry a session holds what its programs use: the next serial number for a new
  instance, the variables, and the components that can be assembled.  Its JOURNAL grows by an entry
  whenever an operation begins or is done, a callback starts or the registry has something to
  report, and every entry keeps the registry as it stood at that moment.  The journal is the whole
  history of a run: what it did is read off it, and so is every state that a callback could see.

  `Run` is work on a session.  It ends as an `Outcome`, or not at all within the depth it was
  given, and then there is no session to look at either.

  Mathlib-free.
-/

namespace InstanceRegistry

/-! ## Events -/

/-- What a callback is run as. -/
inductive Role where
  | construction
  | earlyFactory
  | disposal
  | production
  | postProcessing
  /-- A construction that several callers asked for at once. -/
  | contention
  deriving DecidableEq, Repr

/-- The role's name in reports. -/
def Role.name : Role → String
  | construction => "callback"
  | earlyFactory => "factory"
  | disposal => "hook"
  | production => "step"
  | postProcessing => "post"
  | contention => "race"

/-- Whether a callback of this role constructs an instance. -/
def Role.constructs : Role → Bool
  | construction | contention => true
  | earlyFactory | disposal | production | postProcessing => false

/-- The role of a callback that several callers asked for at once. -/
def Role.contended : Role → Role
  | construction => contention
  | role => role

theorem Role.constructs_contended (role : Role) : role.contended.constructs = role.constructs := by
  cases role <;> rfl

/-- Something that happened in a session. -/
inductive Event where
  /-- An operation began. -/
  | began (op : Op)
  /-- An operation is done.  It was a step of a program, or part of an assembly, a race or a lookup
      that had to wait. -/
  | done (op : Op) (asStep : Bool) (result : Outcome Failure (Answer Instance))
  /-- A callback started; a post-processor is passed an instance. -/
  | entered (role : Role) (id : Ident) (passed : Option Instance)
  /-- A component was given what it needs. -/
  | wired (id need : Ident) (given : Instance)
  /-- A lookup that had to wait is done. -/
  | fetched (id : Ident) (result : Outcome Failure (Option Instance))
  /-- The registry reported something. -/
  | noticed (notice : Notice)

/-- An event, and the registry as it stood then. -/
structure Entry where
  event : Event
  registry : Registry

/-! ## Sessions -/

/-- A registry at work. -/
structure Session where
  registry : Registry
  /-- The serial number of the next new instance. -/
  supply : Nat := 0
  bindings : Store Instance := ∅
  components : Store Component := ∅
  /-- The identifiers to look up when the running top-level operation is over. -/
  waiting : List Ident := []
  /-- What happened, the latest first. -/
  journal : List Entry := []

/-! ## Runs -/

/-- Work on a session: an outcome and the session after it, if there is an end within reach. -/
def Run (ε α : Type) : Type := Session → Option (Outcome ε α × Session)

namespace Run

variable {ε ε' α β : Type}

/-- End with a value. -/
protected def pure (value : α) : Run ε α := fun s => some (.ok value, s)

/-- Go on with the value of work that ended well; an error or a panic ends the whole. -/
protected def bind (work : Run ε α) (next : α → Run ε β) : Run ε β := fun s =>
  match work s with
  | none => none
  | some (.ok value, s') => next value s'
  | some (.error failure, s') => some (.error failure, s')
  | some (.panic payload, s') => some (.panic payload, s')

instance : Monad (Run ε) where
  pure := Run.pure
  bind := Run.bind

/-- Find no end within the depth given. -/
def exhausted : Run ε α := fun _ => none

/-- End with an outcome. -/
def conclude (outcome : Outcome ε α) : Run ε α := fun s => some (outcome, s)

/-- End with an error. -/
def fail (failure : ε) : Run ε α := conclude (.error failure)

/-- Panic. -/
def unwind (payload : Panic) : Run ε α := conclude (.panic payload)

/-- End with a value or an error that was computed before. -/
def ofExcept (result : Except ε α) : Run ε α := conclude (.ofExcept result)

/-- Catch whatever the work ends with. -/
def attempt (work : Run ε α) : Run ε' (Outcome ε α) := fun s =>
  match work s with
  | none => none
  | some (outcome, s') => some (.ok outcome, s')

/-- Pass errors on in another form. -/
def mapError (f : ε → ε') (work : Run ε α) : Run ε' α := fun s =>
  match work s with
  | none => none
  | some (outcome, s') => some (outcome.mapError f, s')

/-- Look something up in the session. -/
def read (f : Session → α) : Run ε α := fun s => some (.ok (f s), s)

/-- Change the session. -/
def update (f : Session → Session) : Run ε Unit := fun s => some (.ok (), f s)

/-- The registry as it stands. -/
def registry : Run ε Registry := read Session.registry

/-- Change the registry. -/
def edit (f : Registry → Registry) : Run ε Unit :=
  update fun s => { s with registry := f s.registry }

/-- Change the registry by a step that may be refused; a refused step changes nothing. -/
def tryEdit (f : Registry → Except ε (α × Registry)) : Run ε α := fun s =>
  match f s.registry with
  | .ok (value, registry) => some (.ok value, { s with registry })
  | .error failure => some (.error failure, s)

/-- Change the registry by a step that also yields a value. -/
def transact (f : Registry → α × Registry) : Run ε α := fun s =>
  some (.ok (f s.registry).1, { s with registry := (f s.registry).2 })

/-- Enter an event in the journal. -/
def record (event : Event) : Run ε Unit :=
  update fun s => { s with journal := ⟨event, s.registry⟩ :: s.journal }

/-- Report something. -/
def report (notice : Notice) : Run ε Unit := record (.noticed notice)

/-- Do the work of an operation between an entry for its beginning and one for its end. -/
def noted (op : Op) (asStep : Bool) (answer : α → Answer Instance) (work : Run Failure α) :
    Run Failure α := do
  record (.began op)
  let result ← attempt work
  record (.done op asStep (result.map answer))
  conclude result

/-- Make an instance that was never there before. -/
def fresh (label : Option String) : Run ε Instance := fun s =>
  some (.ok ⟨s.supply, label⟩, { s with supply := s.supply + 1 })

/-- Work done for each identifier in turn, the answers put one after another. -/
def collect (work : Ident → Run ε Report) : List Ident → Run ε Report
  | [] => pure {}
  | id :: rest => do
    let first ← work id
    let others ← collect work rest
    return first ++ others

end Run

/-! ## Engines -/

/-- What it means to run a callback in each of its roles, and how deep a destruction may cascade.

    Every operation that runs callbacks takes an engine, so it can be reasoned about for callbacks
    of any kind; programs get their meaning from one particular family of engines. -/
structure Engine where
  depth : Nat
  construct : Routine → Run Cause Instance
  expose : Routine → Run Cause Instance
  produce : Routine → Run Cause (Option Instance)
  process : Routine → Instance → Ident → Run Cause Instance
  dispose : Routine → Run Cause Unit

/-- The engine that gets nowhere. -/
def Engine.idle : Engine where
  depth := 0
  construct _ := Run.exhausted
  expose _ := Run.exhausted
  produce _ := Run.exhausted
  process _ _ _ := Run.exhausted
  dispose _ := Run.exhausted

end InstanceRegistry
