import InstanceRegistry.Script

/-!
  Transcripts: a session's journal as it is told.

  A transcript numbers instances in the order in which it mentions them, so that two mentions of
  one instance bear the same number and nothing is said about instances that are never mentioned.
  The numbering is a pass over the journal from its first entry to its last.

  What is told of an entry depends on what the reader wants: the notices or not, and after each
  operation where some watched identifiers stand or not.

  Mathlib-free.
-/

namespace InstanceRegistry

/-! ## Numbers for instances -/

/-- An instance as a transcript mentions it. -/
structure Ref where
  number : Nat
  /-- Its label; none for a sentinel. -/
  label : Option String
  deriving DecidableEq, Repr

/-- The serial numbers of the instances mentioned so far, in that order. -/
abbrev Numbering := List Nat

/-- Telling something that may mention instances. -/
abbrev Telling (α : Type) := StateM Numbering α

namespace Telling

/-- Mention an instance. -/
def mention (i : Instance) : Telling Ref := fun known =>
  match known.idxOf? i.serial with
  | some number => (⟨number, i.label⟩, known)
  | none => (⟨known.length, i.label⟩, known ++ [i.serial])

/-- Mention an instance if there is one. -/
def mention? : Option Instance → Telling (Option Ref)
  | none => return none
  | some i => return some (← mention i)

end Telling

/-! ## Lines -/

/-- Where a watched identifier stands. -/
structure Watched where
  id : Ident
  stage : Stage
  isActive : Bool
  isChecked : Bool
  hasHook : Bool
  product : Option Ref
  deriving DecidableEq, Repr

/-- Where a registry stands, as far as it is watched. -/
structure View where
  lifecycle : Lifecycle
  listed : Roster
  watched : List Watched
  deriving DecidableEq, Repr

/-- A line of a transcript. -/
inductive Line where
  | entered (role : Role) (id : Ident) (passed : Option Ref)
  | done (operation : String) (result : Outcome Failure (Answer Ref)) (view : Option View)
  | wired (id need : Ident) (given : Ref)
  | fetched (id : Ident) (result : Outcome Failure (Option Ref))
  | noticed (level : Level) (text : String)
  deriving DecidableEq, Repr

/-! ## Telling -/

/-- What a reader wants to be told. -/
structure Reader where
  /-- The identifiers to watch; the registry is not looked at if there are none. -/
  watch : List Ident := []
  /-- Whether to tell notices. -/
  notices : Bool := false

namespace Transcript

/-- Tell an answer. -/
def answer : Answer Instance → Telling (Answer Ref)
  | .found value => return .found (← Telling.mention? value)
  | .unit => return .unit
  | .flag value => return .flag value
  | .number value => return .number value
  | .text value => return .text value
  | .maybeText value => return .maybeText value
  | .texts values => return .texts values
  | .stage value => return .stage value
  | .lifecycle value => return .lifecycle value
  | .config value => return .config value
  | .report value => return .report value
  | .tally value => return .tally value

/-- Tell an outcome, given how to tell its value. -/
def outcome {ε α β : Type} (tell : α → Telling β) : Outcome ε α → Telling (Outcome ε β)
  | .ok value => return .ok (← tell value)
  | .error failure => return .error failure
  | .panic payload => return .panic payload

/-- Tell where one identifier stands. -/
def watched (r : Registry) (id : Ident) : Telling Watched := do
  let name := r.canonical id
  return {
    id
    stage := r.stage name
    isActive := r.marks.isActive name
    isChecked := r.marks.isChecked name
    hasHook := r.hooks.contains name
    product := ← Telling.mention? (r.products.get? name) }

/-- Tell where a registry stands. -/
def view (reader : Reader) (r : Registry) : Telling (Option View) := do
  if reader.watch.isEmpty then return none
  else return some {
    lifecycle := r.lifecycle
    listed := r.listed
    watched := ← reader.watch.mapM (watched r) }

/-- Tell an entry, if the reader wants to know. -/
def line? (reader : Reader) (e : Entry) : Telling (Option Line) := do
  match e.event with
  | .began _ => return none
  | .done _ false _ => return none
  | .entered .contention _ _ => return none
  | .entered role id passed => return some (.entered role id (← Telling.mention? passed))
  | .done op true result =>
    let result ← outcome answer result
    return some (.done op.name result (← view reader e.registry))
  | .wired id need given => return some (.wired id need (← Telling.mention given))
  | .fetched id result => return some (.fetched id (← outcome Telling.mention? result))
  | .noticed notice =>
    return if reader.notices then some (.noticed notice.level notice.message) else none

/-- Tell entries from the first to the last. -/
def lines (reader : Reader) : List Entry → Telling (List Line)
  | [] => return []
  | e :: rest => do
    let first ← line? reader e
    let others ← lines reader rest
    return first.toList ++ others

/-- The transcript of a session. -/
def ofSession (reader : Reader) (s : Session) : List Line :=
  (lines reader s.journal.reverse |>.run []).1

end Transcript

/-! ## Scripts told -/

/-- What became of a script: its transcript, and what stopped it, if anything did. -/
structure Account where
  lines : List Line
  stopped : Option String

namespace Script

/-- Run a script and tell what happened; none if its routines nest too deep. -/
def tell (script : Script) (reader : Reader) : Option Account :=
  script.run.map fun (outcome, session) =>
    { lines := Transcript.ofSession reader session
      stopped := match outcome with
        | .ok () => none
        | .error cause => some cause.message
        | .panic payload => some (payload.text "<other>") }

end Script

end InstanceRegistry
