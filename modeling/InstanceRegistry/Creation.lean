import InstanceRegistry.Session

/-!
  Looking instances up and creating them.

  `lookup` is what lets cycles be created: while an identifier is being created, its early factory
  is run on the first lookup, and the reference it makes is handed out to everyone who asks until
  the creation is over.

  `getOrCreate` runs a construction at most once per identifier.  The callback may use the registry
  freely, so what it finds afterwards need not be what it left: another instance may have appeared,
  the mark may be gone, the registry may have been destroyed.  Each way out leaves the identifier
  either finished or as it would be found had the creation not been tried; only a panic leaves what
  was provisional behind.

  Mathlib-free.
-/

namespace InstanceRegistry.Creation

/-! ## Looking up -/

/-- Run the early factory of an identifier, which is taken out first, and keep what it makes. -/
def exposeEarly (engine : Engine) (id : Ident) (factory : Routine) : Run Failure Instance := do
  Run.edit (·.takeFactory id)
  let early ← (engine.expose factory).mapError (.construction id · [])
  Run.report (.exposing id)
  Run.edit (·.expose id early)
  return early

/-- The finished instance of an identifier, or its early reference while it is being created. -/
def lookup (engine : Engine) (id : Ident) : Run Failure (Option Instance) := do
  let r ← Run.registry
  match r.finished.get? id with
  | some found =>
    Run.report (.returning id)
    return some found
  | none =>
    if !r.marks.isActive id then return none
    else
      match r.early.get? id with
      | some early => return some early
      | none =>
        if !r.config.earlyReferences then return none
        else
          match r.factories.get? id with
          | none => return none
          | some factory => return some (← exposeEarly engine id factory)

/-! ## Creating -/

/-- Bind a finished instance. -/
def commit (id : Ident) (made : Instance) : Run Failure Unit :=
  Run.tryEdit fun r => (r.commit id made).map ((), ·)

/-- The way out of a creation whose callback returned an instance. -/
def conclude (id : Ident) (made : Instance) (closing : Registry.Closing) : Run Failure Instance := do
  Run.ofExcept closing.ended
  commit id made
  return made

/-- Report a mark that was not found. -/
def reportMismatch (id : Ident) : Except Failure Unit → Run Failure Unit
  | .ok () => return ()
  | .error failure => Run.report (.mismatched id failure)

/-- The way out of a creation whose callback failed: an instance that appeared meanwhile makes up
    for the failure. -/
def giveUp (id : Ident) (cause : Cause) (closing : Registry.Closing) : Run Failure Instance := do
  Run.edit (·.retract id)
  let r ← Run.registry
  match r.finished.get? id with
  | some existing =>
    Run.report (.appeared id cause)
    return existing
  | none =>
    Run.edit (·.unlist id)
    reportMismatch id closing.ended
    Run.fail (.construction id cause closing.suppressed)

/-- Run a construction under its mark. -/
def construct (engine : Engine) (id : Ident) (make : Routine) : Run Failure Instance := do
  Run.report (.creating id)
  let outermost ← Run.tryEdit (·.openCreation id)
  match ← (engine.construct make).attempt with
  | .ok made => conclude id made (← Run.transact (·.closeCreation outermost id))
  | .error cause => giveUp id cause (← Run.transact (·.closeCreation outermost id))
  | .panic payload =>
    Run.edit (·.abandonCreation outermost id)
    Run.unwind payload

/-- The finished instance of an identifier, which is constructed if there is none. -/
def getOrCreate (engine : Engine) (id : Ident) (make : Routine) : Run Failure Instance := do
  let r ← Run.registry
  match r.finished.get? id with
  | some found => return found
  | none =>
    if r.lifecycle.allowsCreation then construct engine id make
    else Run.fail (.creationClosed id)

/-! ## Registering -/

/-- Bind an instance that was made elsewhere. -/
def registerInstance (id : Ident) (made : Instance) : Run Failure Unit := do
  let r ← Run.registry
  if !r.lifecycle.allowsCreation then Run.fail (.creationClosed id)
  else if r.marks.isChecked id then Run.fail (.inCreation id)
  else commit id made

/-- Report a non-fatal error: it is kept for the outermost creation, up to the limit. -/
def suppress {ε : Type} (text : String) : Run ε Unit := do
  let r ← Run.registry
  match r.suppressed with
  | none => return ()
  | some texts =>
    if texts.length < r.config.suppressedLimit then
      Run.edit fun r => { r with suppressed := some (texts ++ [text]) }
    else Run.report (.errorDropped text)

end InstanceRegistry.Creation
