import InstanceRegistry.Answer

/-!
  Marks: which identifiers are being created.

  An identifier is marked when its construction begins and unmarked when it ends; marking it twice
  is how a re-entrant construction is noticed.  An EXCLUDED identifier looks after itself: beginning
  and ending leave its mark alone, so excluding it in between keeps the mark it had.

  A `Guard` is a mark that is certain to be cleared: closing it reports a mismatch, dropping it, as
  an unwinding panic does, clears the mark and keeps silent.

  Mathlib-free.
-/

namespace InstanceRegistry

/-- The identifiers in creation, and those excluded from the check. -/
structure Marks where
  active : Roster := []
  excluded : Roster := []
  deriving DecidableEq, Repr

namespace Marks

/-! ## Queries -/

/-- Whether `id` is marked. -/
def isActive (m : Marks) (id : Ident) : Bool := id ∈ m.active

/-- Whether `id` is excluded from the check. -/
def isExcluded (m : Marks) (id : Ident) : Bool := id ∈ m.excluded

/-- Whether `id` is marked and subject to the check. -/
def isChecked (m : Marks) (id : Ident) : Bool := !m.isExcluded id && m.isActive id

/-! ## Changes -/

/-- Begin the creation of `id`: mark it, unless it is excluded. -/
def enter (m : Marks) (id : Ident) : Except Failure Marks :=
  if m.isExcluded id then .ok m
  else if m.isActive id then .error (.inCreation id)
  else .ok { m with active := Roster.add m.active id }

/-- End the creation of `id`: clear its mark, unless it is excluded. -/
def leave (m : Marks) (id : Ident) : Except Failure Marks :=
  if m.isExcluded id then .ok m
  else if m.isActive id then .ok { m with active := Roster.drop m.active id }
  else .error (.inconsistent s!"'{id}' isn't currently in creation")

/-- End the creation of `id` and overlook a mismatch. -/
def leaveQuietly (m : Marks) (id : Ident) : Marks :=
  match m.leave id with
  | .ok m' => m'
  | .error _ => m

/-- Exclude `id` from the check, or subject it to the check again. -/
def setExcluded (m : Marks) (id : Ident) (value : Bool) : Marks :=
  { m with excluded := if value then Roster.add m.excluded id else Roster.drop m.excluded id }

/-- Clear all marks; exclusions stay. -/
def clear (m : Marks) : Marks := { m with active := [] }

end Marks

/-! ## Guards -/

/-- Marks together with the guards that are held, each in a slot of its own. -/
structure GuardedMarks where
  marks : Marks := {}
  /-- For every occupied slot, the identifier its guard was opened for. -/
  guards : Store Ident := ∅
  deriving DecidableEq

namespace GuardedMarks

/-- Drop the guard in a slot, if there is one. -/
def drop (g : GuardedMarks) (slot : Ident) : GuardedMarks :=
  match g.guards.get? slot with
  | none => g
  | some id => { marks := g.marks.leaveQuietly id, guards := g.guards.erase slot }

/-- Mark `id` and keep its guard in a slot; a guard that was there is dropped. -/
def mark (g : GuardedMarks) (id slot : Ident) : Except Failure GuardedMarks := do
  let marks ← g.marks.enter id
  let cleared := { g with marks }.drop slot
  return { cleared with guards := cleared.guards.insert slot id }

/-- Close the guard in a slot: whether there was one, or the mismatch it met. -/
def finish (g : GuardedMarks) (slot : Ident) : Except Failure Bool × GuardedMarks :=
  match g.guards.get? slot with
  | none => (.ok false, g)
  | some id =>
    let closed := { g with guards := g.guards.erase slot }
    match g.marks.leave id with
    | .ok marks => (.ok true, { closed with marks })
    | .error failure => (.error failure, closed)

/-- Work on `id` that panics under its guard: the guard is dropped on the way out. -/
def markPanicking (g : GuardedMarks) (id : Ident) : Except Failure GuardedMarks := do
  let marks ← g.marks.enter id
  return { g with marks := marks.leaveQuietly id }

/-! ## Commands -/

/-- The operations on marks and guards. -/
inductive Command where
  | enter (id : Ident)
  | leave (id : Ident)
  | mark (id slot : Ident)
  | finish (slot : Ident)
  | drop (slot : Ident)
  | markPanicking (id : Ident)
  | isActive (id : Ident)
  | isChecked (id : Ident)
  | setExcluded (id : Ident) (value : Bool)
  | isExcluded (id : Ident)
  | clear
  deriving DecidableEq, Repr

/-- The command's name in scripts. -/
def Command.name : Command → String
  | enter _ => "begin"
  | leave _ => "end"
  | mark .. => "mark"
  | finish _ => "finish"
  | drop _ => "drop"
  | markPanicking _ => "mark_panic"
  | isActive _ => "is_in_creation"
  | isChecked _ => "is_checked_in_creation"
  | setExcluded .. => "set_excluded"
  | isExcluded _ => "is_excluded"
  | clear => "clear"

/-- A change that may be refused, with what it answers. -/
def attempt {ι : Type} (g : GuardedMarks) (answer : Answer ι) (result : Except Failure GuardedMarks) :
    Except Failure (Answer ι) × GuardedMarks :=
  match result with
  | .ok g' => (.ok answer, g')
  | .error failure => (.error failure, g)

/-- Carry out a command: its answer, and the marks and guards after it. -/
def run {ι : Type} (g : GuardedMarks) : Command → Except Failure (Answer ι) × GuardedMarks
  | .enter id => g.attempt .unit ((g.marks.enter id).map fun marks => { g with marks })
  | .leave id => g.attempt .unit ((g.marks.leave id).map fun marks => { g with marks })
  | .mark id slot => g.attempt .unit (g.mark id slot)
  | .finish slot =>
    let (result, g') := g.finish slot
    (result.map .flag, g')
  | .drop slot => (.ok (.flag (g.guards.contains slot)), g.drop slot)
  | .markPanicking id => g.attempt (.text "panicked") (g.markPanicking id)
  | .isActive id => (.ok (.flag (g.marks.isActive id)), g)
  | .isChecked id => (.ok (.flag (g.marks.isChecked id)), g)
  | .setExcluded id value => (.ok .unit, { g with marks := g.marks.setExcluded id value })
  | .isExcluded id => (.ok (.flag (g.marks.isExcluded id)), g)
  | .clear => (.ok .unit, { g with marks := g.marks.clear })

end GuardedMarks

end InstanceRegistry
