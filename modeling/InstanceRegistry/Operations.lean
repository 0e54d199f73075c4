import InstanceRegistry.Creation
import InstanceRegistry.Destruction
import InstanceRegistry.Production

/-!
  The operations of a registry as its callers use them.

  Callers may use any name of an identifier; everything is kept under the canonical one.  An
  operation that can bring something new into the registry also ACCEPTS the identifier, that is, it
  refuses one that is not usable; the others take any text, and find nothing under a bad one.

  Mathlib-free.
-/

namespace InstanceRegistry.Operations

/-! ## Names -/

/-- The canonical name of an identifier. -/
def canonical {ε : Type} (id : Ident) : Run ε Ident := Run.read fun s => s.registry.canonical id

/-- The canonical name of an identifier that has to be usable. -/
def accept (id : Ident) : Run Failure Ident := do Run.ofExcept ((← Run.registry).accept id)

/-! ## Creation -/

/-- The finished instance of an identifier, or its early reference while it is being created. -/
def get (engine : Engine) (id : Ident) : Run Failure (Option Instance) := do
  Creation.lookup engine (← canonical id)

/-- The finished instance of an identifier, which is constructed if there is none. -/
def getOrCreate (engine : Engine) (id : Ident) (make : Routine) : Run Failure Instance := do
  Creation.getOrCreate engine (← accept id) make

/-- Record the dependencies of a request one by one, and refuse the first that depends on the
    identifier itself.  Those before it stay recorded. -/
def addDependencies (id : Ident) : List Ident → Run Failure Unit
  | [] => return ()
  | dependency :: rest => do
    let dependency ← accept dependency
    let r ← Run.registry
    if r.graph.isDependent id dependency then Run.fail (.circularDependency id dependency)
    else
      Run.edit fun r => { r with graph := r.graph.addDependency dependency id }
      addDependencies id rest

/-- Create as a request says: exclusion, dependencies, and then the construction. -/
def create (engine : Engine) (request : Request) (make : Routine) : Run Failure Instance := do
  let id ← accept request.id
  if request.excluded then Run.edit fun r => { r with marks := r.marks.setExcluded id true }
  addDependencies id request.dependsOn
  Creation.getOrCreate engine id make

/-- Bind an instance that was made elsewhere. -/
def registerInstance (id : Ident) (made : Instance) : Run Failure Unit := do
  Creation.registerInstance (← accept id) made

/-- Have early references of an identifier produced on demand. -/
def registerFactory (id : Ident) (factory : Routine) : Run Failure Unit := do
  let id ← accept id
  Run.edit (·.offerFactory id factory)

/-! ## Graph and aliases -/

/-- Carry out a command on the graph. -/
def onGraph {ε : Type} (command : Graph.Command) : Run ε (Answer Instance) :=
  Run.transact fun r =>
    let (answer, graph) := r.graph.run (command.rename r.canonical)
    (answer, { r with graph })

/-- Report an alias that was bound. -/
def reportBinding {ε : Type} (name nick : Ident) : AliasTable.Decision → Run ε Unit
  | .bind => Run.report (.aliasBound nick name)
  | _ => return ()

/-- Carry out a command on the aliases. -/
def onAliases : AliasTable.Command → Run Failure (Answer Instance)
  | .register name nick => do
    let decision ← Run.ofExcept ((← Run.registry).aliases.decision name nick)
    reportBinding name nick decision
    Run.edit fun r => { r with aliases := r.aliases.apply name nick decision }
    return .unit
  | command => do
    let (result, aliases) := (← Run.registry).aliases.run command
    Run.edit fun r => { r with aliases }
    Run.ofExcept result

/-! ## Changes -/

/-- Carry out a change that runs no callback. -/
def change : Change → Run Failure Unit
  | .remove id => do
    let id ← canonical id
    Run.edit (·.purge id)
  | .clear => Run.edit (·.purgeAll)
  | .suppress text => Creation.suppress text
  | .setExcluded id value => do
    let id ← canonical id
    Run.edit fun r => { r with marks := r.marks.setExcluded id value }
  | .setChecked id value => do
    let id ← canonical id
    Run.edit fun r => { r with marks := r.marks.setExcluded id !value }
  | .enter id => do
    let id ← canonical id
    Run.tryEdit fun r => (r.marks.enter id).map fun marks => ((), { r with marks })
  | .leave id => do
    let id ← canonical id
    Run.tryEdit fun r => (r.marks.leave id).map fun marks => ((), { r with marks })
  | .clearMarks => Run.edit fun r => { r with marks := r.marks.clear }

/-! ## Destruction -/

/-- Have a hook run when an identifier is destroyed. -/
def registerHook (id : Ident) (hook : Routine) : Run Failure Unit := do
  Destruction.registerHook (← accept id) hook

/-- Destroy an identifier after everything that depends on it. -/
def destroyOne {ε : Type} (engine : Engine) (id : Ident) : Run ε Report := do
  Destruction.destroyOne engine (← canonical id)

/-! ## Production -/

/-- The product of a step for an identifier. -/
def resolveProduct (engine : Engine) (id : Ident) (step : Routine) (shared post : Bool) :
    Run Failure Instance := do
  Production.resolve engine (← accept id) step shared post

end InstanceRegistry.Operations
