import InstanceRegistry.Operations

/-!
  What programs mean.

  An operation is carried out with an engine that says how callbacks run; a routine takes its steps
  one by one and settles.  The engine of depth `n + 1` runs a routine whose own operations use the
  engine of depth `n`, so `Engine.ofDepth` gives programs their meaning by recursion on the depth of
  nesting.  Programs can nest without end (a post-processor may ask for the product it is processing),
  so no depth suffices for all; one that suffices for a program gives the answer that any greater
  depth gives.

  Mathlib-free.
-/

namespace InstanceRegistry

/-! ## Settling -/

namespace Settle

/-- The instance a routine yields; `passed` is what it was passed, if anything. -/
def yield (id : Ident) (passed : Option Instance) : Settle → Run Cause Instance
  | .fail text => Run.fail (.foreign text)
  | .panic payload => Run.unwind payload
  | .recall name => do
    match ← Run.read fun s => s.bindings.get? name with
    | some held => return held
    | none => Run.fail (.foreign s!"unset variable {name}")
  | .wrap title =>
    match passed with
    | some p => Run.fresh (some (title ++ ":" ++ id ++ ":" ++ p.label.getD "<null>"))
    | none => Run.fresh (some id)
  | .same =>
    match passed with
    | some p => return p
    | none => Run.fresh (some id)
  | .fresh label => Run.fresh (some (label.getD id))
  | .nothing => Run.fresh (some id)

/-- What a production step yields, which may be nothing. -/
def produce (id : Ident) : Settle → Run Cause (Option Instance)
  | .nothing => return none
  | settle => return some (← settle.yield id none)

end Settle

/-! ## Operations inside operations -/

namespace Inner

/-- Look an identifier up. -/
def get (engine : Engine) (id : Ident) : Run Failure (Option Instance) :=
  Run.noted (.get id) false .found (Operations.get engine id)

/-- Look an identifier up, and create its instance if there is none. -/
def getOrCreate (engine : Engine) (id : Ident) (make : Routine) : Run Failure Instance :=
  Run.noted (.getOrCreate id make) false (.found <| some ·) (Operations.getOrCreate engine id make)

/-- Have early references of an identifier produced on demand. -/
def registerFactory (id : Ident) (factory : Routine) : Run Failure Unit :=
  Run.noted (.registerFactory id factory) false (fun _ => .unit)
    (Operations.registerFactory id factory)

/-- Have a hook run when an identifier is destroyed. -/
def registerHook (id : Ident) (hook : Routine) : Run Failure Unit :=
  Run.noted (.registerHook id hook) false (fun _ => .unit) (Operations.registerHook id hook)

/-- Record that one identifier depends on another. -/
def addDependency (dependency dependent : Ident) : Run Failure Unit := do
  let command := Graph.Command.addDependency dependency dependent
  let _ ← Run.noted (.graph command) false id (Operations.onGraph command)
  return ()

/-- Report a non-fatal error. -/
def suppress (text : String) : Run Failure Unit :=
  Run.noted (.change (.suppress text)) false (fun _ => .unit) (Operations.change (.suppress text))

end Inner

/-! ## Assembling components -/

namespace Assembly

/-- Give a component one of the things it needs, creating that first if it is not there. -/
def supply (engine : Engine) (id need : Ident) : Run Failure Unit := do
  let given ← match ← Inner.get engine need with
    | some there => pure there
    | none => Inner.getOrCreate engine need (.assembly need)
  Run.record (.wired id need given)
  Inner.addDependency need id

/-- Give a component everything it cannot do without. -/
def supplyNeeds (engine : Engine) (id : Ident) : List Ident → Run Failure Unit
  | [] => return ()
  | need :: rest => do
    supply engine id need
    supplyNeeds engine id rest

/-- Give a component what it can do without; what cannot be had is reported and left out. -/
def supplyWishes (engine : Engine) (id : Ident) : List Ident → Run Failure Unit
  | [] => return ()
  | wish :: rest => do
    match ← (supply engine id wish).attempt with
    | .ok () => pure ()
    | .error failure => Inner.suppress failure.message
    | .panic payload => Run.unwind payload
    supplyWishes engine id rest

/-- Have a component expose itself, if it does. -/
def announce (component : Component) (id : Ident) (me : Instance) : Run Failure Unit :=
  if component.early then Inner.registerFactory id (.handover id me) else return ()

/-- Have a component's hook run when it is destroyed, if it has one. -/
def attach (component : Component) (id : Ident) : Run Failure Unit :=
  match component.hook with
  | none => return ()
  | some hook => Inner.registerHook id hook

/-- Give a component all it needs and wishes for. -/
def furnish (engine : Engine) (component : Component) (id : Ident) (me : Instance) :
    Run Failure Unit := do
  announce component id me
  attach component id
  supplyNeeds engine id component.needs
  supplyWishes engine id component.wishes

/-- Assemble a component. -/
def assemble (engine : Engine) (id : Ident) : Run Cause Instance := do
  match ← Run.read fun s => s.components.get? id with
  | none => Run.fail (.foreign s!"no component '{id}'")
  | some component =>
    let me ← Run.fresh (some id)
    (furnish engine component id me).mapError .nested
    match component.fault with
    | none => return me
    | some text => Run.fail (.foreign text)

end Assembly

/-! ## Asking at once -/

namespace Contention

/-- How one caller fared, added to how the callers before it did. -/
def count (tally : Tally) (seen : List Instance) : Outcome Failure Instance → Tally × List Instance
  | .ok i =>
    ({ tally with oks := tally.oks + 1 }, if i ∈ seen then seen else seen ++ [i])
  | .error failure => ({ tally with errors := tally.errors ++ [failure.code] }, seen)
  | .panic _ => ({ tally with panics := tally.panics + 1 }, seen)

/-- How many constructions several callers have started in this session. -/
def started (s : Session) : Nat :=
  s.journal.countP fun e =>
    match e.event with
    | .entered .contention _ _ => true
    | _ => false

/-- Let callers ask for an identifier, each with a construction that settles in its own way.  Only
    one of them is inside a creation at a time, so they come one after another. -/
def callers {ε : Type} (engine : Engine) (id : Ident) :
    List Settle → Tally → List Instance → Run ε (Tally × List Instance)
  | [], tally, seen => return (tally, seen)
  | settle :: rest, tally, seen => do
    let outcome ← (Inner.getOrCreate engine id (.contender id settle)).attempt
    let (tally, seen) := count tally seen outcome
    callers engine id rest tally seen

/-- Have several callers ask for an identifier at once. -/
def race {ε : Type} (engine : Engine) (id : Ident) (settles : List Settle) : Run ε Tally := do
  let before ← Run.read started
  let (tally, seen) ← callers engine id settles
    { calls := 0, oks := 0, distinct := 0, errors := [], panics := 0 } []
  let after ← Run.read started
  return { tally with calls := after - before, distinct := seen.length }

end Contention

/-! ## Operations -/

namespace Op

/-- The instance that is to be bound directly; none if the variable it is in holds none. -/
def source (id : Ident) : Source → Run Failure (Option Instance)
  | .fresh label => return some (← Run.fresh (some (label.getD id)))
  | .recalled name => Run.read fun s => s.bindings.get? name

/-- Carry out an operation. -/
def run (engine : Engine) : Op → Run Failure (Answer Instance)
  | .ask query => Run.read fun s => s.registry.answer query
  | .change c => do
    Operations.change c
    return .unit
  | .graph command => Operations.onGraph command
  | .aliases command => Operations.onAliases command
  | .make label => return .found (some (← Run.fresh (some label)))
  | .get id => return .found (← Operations.get engine id)
  | .getLater id => do
    Run.update fun s => { s with waiting := s.waiting ++ [id] }
    return .unit
  | .getOrCreate id construct => return .found (some (← Operations.getOrCreate engine id construct))
  | .create request construct => return .found (some (← Operations.create engine request construct))
  | .registerInstance id origin => do
    match ← source id origin with
    | none => return .text "unset"
    | some made =>
      Operations.registerInstance id made
      return .unit
  | .registerFactory id factory => do
    Operations.registerFactory id factory
    return .unit
  | .registerHook id hook => do
    Operations.registerHook id hook
    return .unit
  | .destroyOne id => return .report (← Operations.destroyOne engine id)
  | .destroyAll => return .report (← Destruction.destroyAll engine)
  | .shutdown => return .report (← Destruction.shutdown engine)
  | .resolveProduct id step shared post =>
    return .found (some (← Operations.resolveProduct engine id step shared post))
  | .productType type => return .maybeText (← Production.productType type)
  | .wire id => return .found (some (← Inner.getOrCreate engine id (.assembly id)))
  | .race id number settle => return .tally (← Contention.race engine id (.replicate number settle))

end Op

/-! ## Steps and routines -/

namespace Step

/-- Keep an instance that was yielded in a variable, or empty the variable if there is none. -/
def bind {ε : Type} (binding : Option String) (answer : Answer Instance) : Run ε Unit :=
  match binding, answer.yielded? with
  | some name, some (some held) =>
    Run.update fun s => { s with bindings := s.bindings.insert name held }
  | some name, some none => Run.update fun s => { s with bindings := s.bindings.erase name }
  | _, _ => return ()

/-- Take a step: carry out its operation and note the result.  An operation that must succeed and
    does not ends the step as it ended itself. -/
def take (engine : Engine) : Step → Run Cause Unit
  | .step op must binding => do
    match ← (Run.noted op true id (op.run engine)).attempt with
    | .ok answer => bind binding answer
    | .error failure => if must then Run.fail (.nested failure) else return ()
    | .panic payload => if must then Run.unwind payload else return ()

/-- Take steps one after another. -/
def takeAll (engine : Engine) : List Step → Run Cause Unit
  | [] => return ()
  | first :: rest => do
    first.take engine
    takeAll engine rest

end Step

namespace Routine

/-- Run a routine that yields an instance. -/
def run (engine : Engine) (role : Role) : Routine → Run Cause Instance
  | .scripted id body settle => do
    Run.record (.entered role id none)
    Step.takeAll engine body
    settle.yield id none
  | .contender id settle => do
    Run.record (.entered role.contended id none)
    settle.yield id none
  | .assembly id => do
    Run.record (.entered role id none)
    Assembly.assemble engine id
  | .handover id held => do
    Run.record (.entered role id none)
    return held

/-- Run a routine as a production step, which may yield nothing. -/
def produce (engine : Engine) : Routine → Run Cause (Option Instance)
  | .scripted id body settle => do
    Run.record (.entered .production id none)
    Step.takeAll engine body
    settle.produce id
  | routine => return some (← routine.run engine .production)

/-- Run a routine as a post-processor, for the identifier and on the product it is passed. -/
def process (engine : Engine) (routine : Routine) (product : Instance) (id : Ident) :
    Run Cause Instance :=
  match routine with
  | .scripted _ body settle => do
    Run.record (.entered .postProcessing id (some product))
    Step.takeAll engine body
    settle.yield id (some product)
  | routine => routine.run engine .postProcessing

end Routine

/-! ## Engines by depth -/

/-- The engine under which routines may nest to the given depth. -/
def Engine.ofDepth : Nat → Engine
  | 0 => .idle
  | depth + 1 =>
    { depth := depth + 1
      construct := fun routine => routine.run (ofDepth depth) .construction
      expose := fun routine => routine.run (ofDepth depth) .earlyFactory
      produce := fun routine => routine.produce (ofDepth depth)
      process := fun routine => routine.process (ofDepth depth)
      dispose := fun routine => do
        let _ ← routine.run (ofDepth depth) .disposal
        return () }

/-! ## Scripts -/

/-- A program together with what it starts from. -/
structure Script where
  registry : Registry
  components : Store Component := ∅
  steps : List Step

namespace Script

/-- Look up what had to wait for the operation that is over now. -/
def fetchWaiting (engine : Engine) : List Ident → Run Cause Unit
  | [] => return ()
  | id :: rest => do
    let result ← (Inner.get engine id).attempt
    Run.record (.fetched id result)
    fetchWaiting engine rest

/-- Take a step at top level, and then look up what had to wait for it. -/
def takeStep (engine : Engine) (step : Step) : Run Cause Unit := do
  let outcome ← (step.take engine).attempt
  let waiting ← Run.read Session.waiting
  Run.update fun s => { s with waiting := [] }
  fetchWaiting engine waiting
  Run.conclude outcome

/-- Take steps at top level until one ends the script. -/
def takeSteps (engine : Engine) : List Step → Run Cause Unit
  | [] => return ()
  | first :: rest => do
    takeStep engine first
    takeSteps engine rest

/-- The session a script starts in. -/
def start (script : Script) : Session :=
  { registry := script.registry, components := script.components }

/-- Run a script with routines nested to the given depth. -/
def runWithin (depth : Nat) (script : Script) : Option (Outcome Cause Unit × Session) :=
  takeSteps (.ofDepth depth) script.steps script.start

/-- A depth that is far beyond what scripts use that come to an end. -/
def reach : Nat := 10000

/-- Run a script. -/
def run (script : Script) : Option (Outcome Cause Unit × Session) := script.runWithin reach

end Script

end InstanceRegistry
