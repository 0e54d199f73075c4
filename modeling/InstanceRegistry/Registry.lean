import InstanceRegistry.Notice
import InstanceRegistry.Program

/-!
  The state of a registry, and the changes it goes through in one step.

  An identifier moves through TIERS.  While it is being created it may have an early factory
  pending, which a lookup turns into an early reference; once it is created it has a finished
  instance, and neither of the others.  Beside the tiers stand the products of production steps,
  the list of identifiers that ever reached a tier, the marks, the graph, the disposal hooks and
  the buffer that collects the non-fatal errors of the outermost creation.

  Nothing here runs a callback.  Every operation that does is put together from these steps and
  runs of callbacks between them.

  Mathlib-free.
-/

namespace InstanceRegistry

/-- All that one registry keeps. -/
structure Registry where
  config : Config := {}
  /-- Whether identifiers are validated where they come in. -/
  guarded : Bool := true
  aliases : AliasTable := {}
  /-- Finished instances. -/
  finished : Store Instance := ∅
  /-- Early references of identifiers that are being created. -/
  early : Store Instance := ∅
  /-- Early factories that have not run. -/
  factories : Store Routine := ∅
  /-- Shared products. -/
  products : Store Instance := ∅
  /-- The identifiers that reached a tier, in that order. -/
  listed : Roster := []
  /-- The non-fatal errors of the outermost creation, while there is one. -/
  suppressed : Option (List String) := none
  lifecycle : Lifecycle := .active
  marks : Marks := {}
  graph : Graph := {}
  /-- Disposal hooks, in the order of registration. -/
  hooks : Store Routine := ∅
  /-- What is applied to products on request. -/
  postProcessor : Option Routine := none

namespace Registry

/-! ## Building -/

/-- A registry that validates identifiers; refused if no identifier is usable under the settings. -/
def ofConfig (c : Config) : Except Failure Registry := c.validate.map fun _ => { config := c }

/-- A registry that takes identifiers and settings as they are. -/
def unguarded (c : Config) : Registry := { config := c, guarded := false }

/-- The registry with an empty table of aliases under its own policy. -/
def withAliases (r : Registry) : Registry := { r with aliases := .ofConfig r.config }

/-! ## Names -/

/-- The name under which everything about `id` is kept. -/
def canonical (r : Registry) (id : Ident) : Ident := r.aliases.canonical id

/-- The same for an identifier that comes in: it has to be usable as it was given. -/
def accept (r : Registry) (id : Ident) : Except Failure Ident :=
  if r.guarded then (r.config.validateIdentifier id).map fun _ => r.canonical id
  else .ok (r.canonical id)

/-! ## Creation, step by step -/

/-- Begin a creation: mark the identifier, and open the buffer unless an outer creation has.  The
    answer says whether this creation is the outermost one. -/
def openCreation (r : Registry) (id : Ident) : Except Failure (Bool × Registry) :=
  (r.marks.enter id).map fun marks =>
    match r.suppressed with
    | some _ => (false, { r with marks })
    | none => (true, { r with marks, suppressed := some [] })

/-- Take what the buffer collected, if this creation is the one that opened it. -/
def takeSuppressed (r : Registry) (outermost : Bool) : List String × Registry :=
  if outermost then (r.suppressed.getD [], { r with suppressed := none }) else ([], r)

/-- A creation that ended by itself: what the buffer collected, and whether the mark was found. -/
structure Closing where
  suppressed : List String
  ended : Except Failure Unit

/-- End a creation whose callback returned. -/
def closeCreation (r : Registry) (outermost : Bool) (id : Ident) : Closing × Registry :=
  let (suppressed, r) := r.takeSuppressed outermost
  match r.marks.leave id with
  | .ok marks => (⟨suppressed, .ok ()⟩, { r with marks })
  | .error failure => (⟨suppressed, .error failure⟩, r)

/-- End a creation whose callback panicked. -/
def abandonCreation (r : Registry) (outermost : Bool) (id : Ident) : Registry :=
  let (_, r) := r.takeSuppressed outermost
  { r with marks := r.marks.leaveQuietly id }

/-- Bind a finished instance; whatever was provisional about the identifier goes. -/
def commit (r : Registry) (id : Ident) (made : Instance) : Except Failure Registry :=
  if r.finished.contains id then .error (.alreadyBound id)
  else .ok { r with
    finished := r.finished.insert id made
    factories := r.factories.erase id
    early := r.early.erase id
    listed := Roster.add r.listed id }

/-- Drop what a failed creation had exposed. -/
def retract (r : Registry) (id : Ident) : Registry :=
  { r with early := r.early.erase id, factories := r.factories.erase id }

/-- Strike an identifier off the list. -/
def unlist (r : Registry) (id : Ident) : Registry := { r with listed := Roster.drop r.listed id }

/-- Keep an early factory, unless the identifier is finished. -/
def offerFactory (r : Registry) (id : Ident) (factory : Routine) : Registry :=
  if r.finished.contains id then r
  else { r with
    factories := r.factories.insert id factory
    early := r.early.erase id
    listed := Roster.add r.listed id }

/-- Take an early factory out; it runs at most once. -/
def takeFactory (r : Registry) (id : Ident) : Registry :=
  { r with factories := r.factories.erase id }

/-- Keep an early reference. -/
def expose (r : Registry) (id : Ident) (early : Instance) : Registry :=
  { r with early := r.early.insert id early }

/-- Keep a product, if the identifier is finished. -/
def storeProduct (r : Registry) (id : Ident) (product : Instance) : Registry :=
  if r.finished.contains id then { r with products := r.products.insert id product } else r

/-! ## Removal, step by step -/

/-- Drop all that is kept under an identifier, its hook, mark and edges apart. -/
def purge (r : Registry) (id : Ident) : Registry :=
  { r with
    finished := r.finished.erase id
    early := r.early.erase id
    factories := r.factories.erase id
    products := r.products.erase id
    listed := Roster.drop r.listed id }

/-- Drop all that is kept under any identifier, hooks, marks and edges apart. -/
def purgeAll (r : Registry) : Registry :=
  { r with finished := ∅, early := ∅, factories := ∅, products := ∅, listed := [] }

/-- Drop everything, as at the end of a destruction. -/
def empty (r : Registry) : Registry :=
  { r.purgeAll with graph := {}, marks := r.marks.clear, hooks := ∅ }

/-! ## Views -/

/-- Where an identifier stands; its furthest tier counts. -/
def stage (r : Registry) (id : Ident) : Stage :=
  if r.finished.contains id then .finished
  else if r.early.contains id then .exposed
  else if r.factories.contains id then .factoryPending
  else if r.marks.isActive id then .underway
  else .absent

/-- The counts for diagnostics. -/
def census (r : Registry) : Census :=
  { finished := r.finished.size, lifecycle := r.lifecycle, inCreation := r.marks.active.length }

/-- The hooks as diagnostics show them. -/
def describeHooks (r : Registry) : String :=
  Text.record "DestructionCoordinator" [("hooks", Text.quotedList r.hooks.keys)] false

/-- The production side as diagnostics show it. -/
def describeProduction (r : Registry) : String :=
  Text.record "FactoryObjectResolver" [("post_processor", Text.flag r.postProcessor.isSome)] false

/-- The registry as diagnostics show it: as a whole, or part by part if it is unguarded. -/
def describe (r : Registry) : List String :=
  if r.guarded then
    [Text.record "SingletonRegistry"
      [("config", r.config.describe), ("cache", r.census.describe),
        ("destruction", r.describeHooks)] true]
  else [r.census.describe, r.describeHooks, r.describeProduction]

/-- Answer a query. -/
def answer (r : Registry) : Query → Answer Instance
  | .contains id => .flag (r.finished.contains (r.canonical id))
  | .count => .number r.listed.length
  | .identifiers => .texts r.listed
  | .stage id => .stage (r.stage (r.canonical id))
  | .lifecycle => .lifecycle r.lifecycle
  | .isChecked id => .flag (r.marks.isChecked (r.canonical id))
  | .isActive id => .flag (r.marks.isActive (r.canonical id))
  | .hasHook id => .flag (r.hooks.contains (r.canonical id))
  | .cachedProduct id => .found (r.products.get? (r.canonical id))
  | .finished id => .found (r.finished.get? (r.canonical id))
  | .activeCount => .number r.marks.active.length
  | .isExcluded id => .flag (r.marks.isExcluded (r.canonical id))
  | .hookCount => .number r.hooks.size
  | .config => .config r.config
  | .describe => .texts r.describe

end Registry

end InstanceRegistry
