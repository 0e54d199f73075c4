import InstanceRegistry.Session

/-!
  Destroying instances.

  Destroying an identifier destroys its dependents first, then runs its own disposal hook, then
  destroys what it contains.  What is to be visited is detached before it is visited, and a hook is
  taken before anything else is destroyed, so cycles come to an end and no hook runs twice,
  whatever the hooks themselves do in between.

  Destroying the whole registry does this for every hook, the latest first, and then drops
  everything.  Hooks cannot stop it: their errors and panics are noted in the report.

  Mathlib-free.
-/

namespace InstanceRegistry.Destruction

/-! ## Hooks -/

/-- Keep a disposal hook; an earlier one is replaced in its place. -/
def registerHook {ε : Type} (id : Ident) (hook : Routine) : Run ε Unit := do
  let r ← Run.registry
  Run.edit fun r => { r with hooks := r.hooks.insert id hook }
  if r.hooks.contains id then Run.report (.hookReplaced id) else return ()

/-- Take a disposal hook out. -/
def takeHook {ε : Type} (id : Ident) : Run ε (Option Routine) :=
  Run.transact fun r => (r.hooks.get? id, { r with hooks := r.hooks.erase id })

/-- Run a disposal hook and note what came of it. -/
def dispose {ε : Type} (engine : Engine) (id : Ident) (hook : Routine) : Run ε Report := do
  Run.report (.disposing id)
  match ← (engine.dispose hook).attempt with
  | .ok () => return { disposed := [id] }
  | .error cause =>
    let text := cause.message
    Run.report (.hookFailed id text)
    return { disposed := [id], failures := [⟨id, text⟩] }
  | .panic payload =>
    let text := payload.text "disposal hook panicked"
    Run.report (.hookPanicked id text)
    return { disposed := [id], failures := [⟨id, text⟩] }

/-- Run a disposal hook if there is one. -/
def disposeIf {ε : Type} (engine : Engine) (id : Ident) : Option Routine → Run ε Report
  | none => return {}
  | some hook => dispose engine id hook

/-! ## One identifier -/

/-- Detach the dependents of an identifier, and report them if there are any. -/
def takeDependents {ε : Type} (id : Ident) : Run ε Roster := do
  let dependents ← Run.transact fun r =>
    let (dependents, graph) := r.graph.takeDependents id
    (dependents, { r with graph })
  if !dependents.isEmpty then Run.report (.destroyingDependents dependents id)
  return dependents

/-- Detach what an identifier contains. -/
def takeContained {ε : Type} (id : Ident) : Run ε Roster :=
  Run.transact fun r =>
    let (contained, graph) := r.graph.takeContained id
    (contained, { r with graph })

/-- Destroy an identifier, its dependents before it and what it contains after it, with cascades
    of at most the given depth. -/
def destroyWithin {ε : Type} (engine : Engine) : Nat → Ident → Run ε Report
  | 0, _ => Run.exhausted
  | depth + 1, id => do
    Run.edit (·.purge id)
    let hook ← takeHook id
    let dependents ← takeDependents id
    let before ← Run.collect (destroyWithin engine depth) dependents
    let own ← disposeIf engine id hook
    let contained ← takeContained id
    let after ← Run.collect (destroyWithin engine depth) contained
    Run.edit fun r => { r with graph := r.graph.forget id }
    return before ++ own ++ after

/-- Destroy an identifier after everything that depends on it. -/
def destroyOne {ε : Type} (engine : Engine) (id : Ident) : Run ε Report :=
  destroyWithin engine engine.depth id

/-! ## The whole registry -/

/-- Drop what is left once every hook had its turn. -/
def finish {ε : Type} : Run ε Unit := do
  let r ← Run.registry
  Run.edit (·.empty)
  if !r.hooks.isEmpty then Run.report (.hooksDiscarded r.hooks.keys)
  Run.edit fun r => { r with lifecycle := .destroyed }

/-- Destroy every identifier that has a hook, the latest registered first, and then everything
    else.  A registry that is not active has nothing left to destroy. -/
def destroyAll {ε : Type} (engine : Engine) : Run ε Report := do
  let r ← Run.registry
  if r.lifecycle = .active then
    Run.edit fun r => { r with lifecycle := .destroying }
    Run.report (.destroying { r.census with lifecycle := .destroying })
    let report ← Run.collect (destroyOne engine) r.hooks.keys.reverse
    finish
    if !report.isClean then Run.report (.unclean report.failures.length)
    return report
  else
    Run.report (.alreadyOver r.lifecycle)
    return {}

/-- End the registry. -/
def shutdown {ε : Type} (engine : Engine) : Run ε Report := do
  Run.report .shuttingDown
  destroyAll engine

end InstanceRegistry.Destruction
