import InstanceRegistry.Config

/-!
  What operations answer.

  One type covers the answers of every operation, so that a run can keep them in one journal.  It
  leaves open how an instance is given: inside a run by the instance itself, in a transcript by
  its number there.

  Mathlib-free.
-/

namespace InstanceRegistry

/-! ## Composite answers -/

/-- A disposal hook that did not end well, and its error text. -/
structure DisposalFailure where
  id : Ident
  message : String
  deriving DecidableEq, Repr

/-- What a destruction did: the hooks it ran, in that order, and those of them that failed. -/
structure Report where
  disposed : List Ident := []
  failures : List DisposalFailure := []
  deriving DecidableEq, Repr

namespace Report

/-- Whether every hook ended well. -/
def isClean (r : Report) : Bool := r.failures.isEmpty

/-- One destruction after another. -/
def append (r s : Report) : Report :=
  { disposed := r.disposed ++ s.disposed, failures := r.failures ++ s.failures }

instance : Append Report := ⟨append⟩

theorem append_assoc (r s t : Report) : r ++ s ++ t = r ++ (s ++ t) := by
  show mk (r.disposed ++ s.disposed ++ t.disposed) (r.failures ++ s.failures ++ t.failures) = _
  rw [List.append_assoc, List.append_assoc]
  rfl

end Report

/-- How several callers that asked for one identifier at once fared. -/
structure Tally where
  /-- How many constructions were started. -/
  calls : Nat
  /-- How many callers got an instance. -/
  oks : Nat
  /-- How many different instances they got. -/
  distinct : Nat
  /-- The codes of the failures the others met. -/
  errors : List String
  /-- How many callers were unwound by a panic. -/
  panics : Nat
  deriving DecidableEq, Repr

/-! ## Answers -/

/-- The answer of an operation, with instances given as `ι`. -/
inductive Answer (ι : Type) where
  | unit
  | flag (value : Bool)
  | number (value : Nat)
  | text (value : String)
  | maybeText (value : Option String)
  | texts (values : List String)
  | found (value : Option ι)
  | stage (value : Stage)
  | lifecycle (value : Lifecycle)
  | config (value : Config)
  | report (value : Report)
  | tally (value : Tally)
  deriving DecidableEq, Repr

namespace Answer

/-- The instance an operation yielded, for an operation that yields one if it can. -/
def yielded? {ι : Type} : Answer ι → Option (Option ι)
  | .found value => some value
  | _ => none

end Answer

end InstanceRegistry
