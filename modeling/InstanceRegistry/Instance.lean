import InstanceRegistry.Store

/-!
  Managed instances, and the states an identifier and a registry can be in.

  An instance is known by its serial number: two instances are the same exactly when they were
  made by the same act of creation, whatever they are called.  A production step that produced
  nothing yields a SENTINEL, an instance without a label, so that "produced nothing" and "nothing
  there" stay apart; every sentinel has a serial of its own as well.

  Mathlib-free.
-/

namespace InstanceRegistry

/-! ## Instances -/

/-- A shared value; without a label it is the sentinel of a production that yielded nothing. -/
structure Instance where
  serial : Nat
  label : Option String
  deriving DecidableEq, Repr

/-- Whether the instance stands for "nothing was produced". -/
def Instance.isSentinel (i : Instance) : Bool := i.label.isNone

/-! ## Stages and lifecycle -/

/-- Where an identifier stands. -/
inductive Stage where
  /-- Nothing is known under it. -/
  | absent
  /-- An early factory is pending. -/
  | factoryPending
  /-- An early reference has been handed out. -/
  | exposed
  /-- Its construction is running and nothing is exposed. -/
  | underway
  /-- A finished instance is bound. -/
  | finished
  deriving DecidableEq, Repr

/-- The stage's name in reports. -/
def Stage.name : Stage → String
  | absent => "Absent"
  | factoryPending => "FactoryRegistered"
  | exposed => "EarlyExposed"
  | underway => "InCreation"
  | finished => "Finished"

/-- A registry is active, then being destroyed, then destroyed for good. -/
inductive Lifecycle where
  | active
  | destroying
  | destroyed
  deriving DecidableEq, Repr

/-- The lifecycle's name in reports. -/
def Lifecycle.name : Lifecycle → String
  | active => "Active"
  | destroying => "Destroying"
  | destroyed => "Destroyed"

/-- Only an active registry creates. -/
def Lifecycle.allowsCreation (l : Lifecycle) : Bool := l = active

end InstanceRegistry
