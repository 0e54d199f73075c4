import InstanceRegistry.Proofs.Runs

/-!
  The runs of disposal hooks: which hooks were run between two sessions, and in which order.

  A destruction answers a report, but what it DOES it does to a session: it changes the registry, it
  reports, and now and then it announces a hook and runs it.  `HooksRun` follows the sessions.  Each
  hook is run in the session that its announcement leaves, and the next one in a session that comes
  from there by an INTERLUDE, in which the registry changes and reports and nothing else happens.  So
  the order of the list is the order of the runs, whatever is answered in the end.

  The journal tells the same.  A hook that does not call back announces no other hook; with such
  hooks the announcements that were added to the journal are those of the hooks that were run, in
  that order (`HooksRun.disposed`).

  Mathlib-free.
-/

namespace InstanceRegistry

/-! ## Announcements in the journal -/

/-- Whose hook an event announces. -/
def Event.disposed? : Event → Option Ident
  | .noticed (.disposing id) => some id
  | _ => none

/-- Whether an event is a report that announces no hook. -/
def Event.isReport : Event → Bool
  | .noticed (.disposing _) => false
  | .noticed _ => true
  | _ => false

theorem Event.disposed?_of_isReport {event : Event} (h : event.isReport = true) :
    event.disposed? = none := by
  cases event with
  | noticed notice =>
    cases notice with
    | disposing _ => cases h
    | _ => rfl
  | _ => cases h

/-- The identifiers whose hooks were announced in a session, in that order. -/
def Session.disposed (s : Session) : List Ident :=
  s.journal.reverse.filterMap fun e => e.event.disposed?

theorem Session.disposed_append {s t : Session} {later : List Entry}
    (h : t.journal = later ++ s.journal) :
    t.disposed = s.disposed ++ later.reverse.filterMap fun e => e.event.disposed? := by
  rw [disposed, h, List.reverse_append, List.filterMap_append]
  rfl

/-- While one pending hook of a registry runs, no other hook is announced. -/
def Engine.RunsAlone (engine : Engine) (r : Registry) : Prop :=
  ∀ id hook, r.hooks.get? id = some hook → ∀ s ending t,
    engine.dispose hook s = some (ending, t) → t.disposed = s.disposed

/-! ## Interludes -/

/-- The registry changes and reports, and nothing else happens. -/
structure Interlude (s t : Session) : Prop where
  others : t = { s with registry := t.registry, journal := t.journal }
  journal : ∃ reports, t.journal = reports ++ s.journal ∧ ∀ e ∈ reports, e.event.isReport = true

namespace Interlude

variable {s t u : Session}

theorem edit (s : Session) (r : Registry) : Interlude s { s with registry := r } :=
  ⟨rfl, [], rfl, fun _ h => absurd h List.not_mem_nil⟩

theorem refl (s : Session) : Interlude s s := edit s s.registry

theorem trans (h : Interlude s t) (h' : Interlude t u) : Interlude s u := by
  obtain ⟨first, hfirst, hreports⟩ := h.journal
  obtain ⟨second, hsecond, hreports'⟩ := h'.journal
  refine ⟨?_, second ++ first, ?_, fun e he => ?_⟩
  · have hothers := congrArg
      (fun v : Session => { v with registry := u.registry, journal := u.journal }) h.others
    exact h'.others.trans hothers
  · rw [hsecond, hfirst, List.append_assoc]
  · rcases List.mem_append.1 he with he | he
    · exact hreports' e he
    · exact hreports e he

theorem report (s : Session) {notice : Notice} (h : (Event.noticed notice).isReport = true) :
    Interlude s { s with journal := ⟨.noticed notice, s.registry⟩ :: s.journal } :=
  ⟨rfl, [⟨.noticed notice, s.registry⟩], rfl, fun _ he => List.mem_singleton.1 he ▸ h⟩

/-- Whether something is reported first or not, work goes on after an interlude that leaves the
    registry as it was. -/
theorem reportIf {ε α : Type} (condition : Bool) (notice : Notice)
    (h : (Event.noticed notice).isReport = true) (next : Run ε α) (s : Session) :
    ∃ t, (if condition then do Run.report notice; next else next) s = next t ∧ Interlude s t ∧
      t.registry = s.registry := by
  cases condition with
  | false => exact ⟨s, rfl, refl s, rfl⟩
  | true => exact ⟨_, rfl, report s h, rfl⟩

/-- No hook is announced in an interlude. -/
theorem disposed (h : Interlude s t) : t.disposed = s.disposed := by
  obtain ⟨reports, hjournal, hreports⟩ := h.journal
  have hnone : reports.reverse.filterMap (fun e => e.event.disposed?) = [] :=
    List.filterMap_eq_nil_iff.2 fun e he =>
      Event.disposed?_of_isReport (hreports e (List.mem_reverse.1 he))
  rw [Session.disposed_append hjournal, hnone, List.append_nil]

end Interlude

/-! ## Runs of hooks -/

namespace Destruction

/-- From one session to a later one hooks that were pending in a registry are run one after another,
    those of these identifiers and in this order, and end in these ways.  Between them there are
    interludes. -/
inductive HooksRun (engine : Engine) (pending : Registry) :
    Session → List (Ident × Outcome Cause Unit) → Session → Prop where
  | interlude {s t : Session} (h : Interlude s t) : HooksRun engine pending s [] t
  /-- A hook is announced, and then it runs. -/
  | hook {s t : Session} {id : Ident} {hook : Routine} {ending : Outcome Cause Unit}
      (hpending : pending.hooks.get? id = some hook)
      (hrun : engine.dispose hook
        { s with journal := ⟨.noticed (.disposing id), s.registry⟩ :: s.journal } =
          some (ending, t)) : HooksRun engine pending s [(id, ending)] t
  | append {s t u : Session} {first second : List (Ident × Outcome Cause Unit)}
      (hfirst : HooksRun engine pending s first t)
      (hsecond : HooksRun engine pending t second u) :
      HooksRun engine pending s (first ++ second) u

namespace HooksRun

variable {engine : Engine} {pending : Registry} {s t u : Session}
  {endings : List (Ident × Outcome Cause Unit)}

/-- An interlude may come first. -/
theorem after (h : HooksRun engine pending t endings u) (hbefore : Interlude s t) :
    HooksRun engine pending s endings u := .append (.interlude hbefore) h

/-- An interlude may follow. -/
theorem before (h : HooksRun engine pending s endings t) (hafter : Interlude t u) :
    HooksRun engine pending s endings u := by
  have happend := h.append (.interlude hafter)
  rwa [List.append_nil] at happend

/-- **The journal tells which hooks were run**, and in which order, if each of them runs alone. -/
theorem disposed (h : HooksRun engine pending s endings t) (halone : engine.RunsAlone pending) :
    t.disposed = s.disposed ++ endings.map Prod.fst := by
  induction h with
  | interlude h => rw [h.disposed, List.map_nil, List.append_nil]
  | @hook s t id hook ending hpending hrun =>
    have hjournal : { s with
        journal := ⟨.noticed (.disposing id), s.registry⟩ :: s.journal : Session }.journal =
          [⟨.noticed (.disposing id), s.registry⟩] ++ s.journal := rfl
    rw [halone id hook hpending _ _ _ hrun]
    exact Session.disposed_append hjournal
  | append _ _ ihfirst ihsecond =>
    rw [ihsecond, ihfirst, List.map_append, List.append_assoc]

end HooksRun

end Destruction

end InstanceRegistry
