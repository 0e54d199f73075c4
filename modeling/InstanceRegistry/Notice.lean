import InstanceRegistry.Failure
import InstanceRegistry.Text.Quoted

/-!
  Notices: what a registry reports about its own work while it works.

  A notice is kept as what happened; its level and its wording are functions of that.

  Mathlib-free.
-/

namespace InstanceRegistry

/-! ## Counts -/

/-- The counts that stand for a registry's instances in diagnostics. -/
structure Census where
  finished : Nat
  lifecycle : Lifecycle
  inCreation : Nat
  deriving DecidableEq, Repr

/-- The counts as diagnostics show them. -/
def Census.describe (c : Census) : String :=
  Text.record "InstanceCache"
    [("finished", toString c.finished), ("lifecycle", c.lifecycle.name),
      ("in_creation", toString c.inCreation)] true

/-! ## Levels -/

/-- How much a notice matters. -/
inductive Level where
  | trace
  | debug
  | warn
  | error
  deriving DecidableEq, Repr

/-- The level's name in reports. -/
def Level.name : Level → String
  | trace => "TRACE"
  | debug => "DEBUG"
  | warn => "WARN"
  | error => "ERROR"

/-! ## Notices -/

/-- Something a registry reports. -/
inductive Notice where
  /-- A lookup found a finished instance. -/
  | returning (id : Ident)
  /-- A lookup made an early reference. -/
  | exposing (id : Ident)
  /-- A construction is about to be started. -/
  | creating (id : Ident)
  /-- A construction failed, but its identifier has an instance all the same. -/
  | appeared (id : Ident) (cause : Cause)
  /-- A failed construction could not clear its mark. -/
  | mismatched (id : Ident) (failure : Failure)
  /-- A non-fatal error came when no more of them are kept. -/
  | errorDropped (text : String)
  /-- A disposal hook took another one's place. -/
  | hookReplaced (id : Ident)
  /-- The dependents of an identifier are destroyed before it. -/
  | destroyingDependents (dependents : List Ident) (id : Ident)
  /-- A disposal hook is about to run. -/
  | disposing (id : Ident)
  /-- A disposal hook failed. -/
  | hookFailed (id : Ident) (text : String)
  /-- A disposal hook panicked. -/
  | hookPanicked (id : Ident) (text : String)
  /-- The registry is not active any more, so there is nothing to destroy. -/
  | alreadyOver (lifecycle : Lifecycle)
  /-- The whole registry is being destroyed. -/
  | destroying (census : Census)
  /-- Hooks that were registered during the destruction never run. -/
  | hooksDiscarded (ids : List Ident)
  /-- The destruction is over, and some hooks did not end well. -/
  | unclean (count : Nat)
  /-- The registry is being shut down. -/
  | shuttingDown
  /-- A product is handed out as it is, because its identifier is in creation. -/
  | unprocessed (id : Ident)
  /-- A production step cannot tell the type of its product. -/
  | untyped (text : String)
  /-- An alias was pointed to a name. -/
  | aliasBound (nick name : Ident)
  deriving DecidableEq, Repr

namespace Notice

/-- How much the notice matters. -/
def level : Notice → Level
  | returning _ => .trace
  | errorDropped _ => .warn
  | hooksDiscarded _ => .warn
  | unclean _ => .warn
  | untyped _ => .warn
  | mismatched .. => .error
  | hookFailed .. => .error
  | hookPanicked .. => .error
  | _ => .debug

/-- The notice in words. -/
def message : Notice → String
  | returning id => s!"Returning cached instance of '{id}'"
  | exposing id => s!"Exposing early reference to '{id}' (circular reference)"
  | creating id => s!"Creating shared instance of '{id}'"
  | appeared id cause =>
    s!"Creation of '{id}' failed but an instance appeared meanwhile: " ++ cause.message
  | mismatched id failure =>
    s!"Creation bookkeeping for '{id}' is inconsistent: " ++ failure.message
  | errorDropped text => s!"Dropping suppressed error beyond limit: {text}"
  | hookReplaced id => s!"Replaced disposal hook for '{id}'"
  | destroyingDependents dependents id =>
    "Destroying dependents " ++ Text.quotedList dependents ++ s!" before '{id}'"
  | disposing id => s!"Invoking disposal hook for '{id}'"
  | hookFailed id text => s!"Disposal hook for '{id}' failed: {text}"
  | hookPanicked id text => s!"Disposal hook for '{id}' panicked: {text}"
  | alreadyOver lifecycle => "Registry already " ++ lifecycle.name ++ ", skipping destruction"
  | destroying census => "Destroying shared instances in " ++ census.describe
  | hooksDiscarded ids =>
    s!"Discarding {ids.length} disposal hook(s) registered during shutdown"
  | unclean count => s!"Shutdown finished with {count} failed disposal hook(s)"
  | shuttingDown => "Shutting down registry"
  | unprocessed id => s!"Returning unprocessed product of '{id}' (still in creation)"
  | untyped text =>
    "Production step failed to report its product type, treating it as unknown: " ++ text
  | aliasBound nick name => s!"Registering alias '{nick}' for '{name}'"

end Notice

end InstanceRegistry
