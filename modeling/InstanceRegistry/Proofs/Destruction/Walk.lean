import Mathlib.Logic.Relation
import InstanceRegistry.Destruction
import InstanceRegistry.Proofs.Destruction.HookRuns
import InstanceRegistry.Proofs.Graph.Paths

/-!
  The walk: a destruction as a machine with a list of tasks.

  `destroyWithin` recurses over a graph that it takes apart, so an identifier may be in the middle
  of its own destruction when the cascade comes back to it.  What is in the middle is hidden in the
  call stack.  A WALK makes the stack explicit: its tasks are to enter an identifier, to settle it
  (its dependents are destroyed, its hook is due) and to close it (what it contains is destroyed as
  well).  Along the way it notes who was entered, settled and closed, and how every hook ended.

  The machine only says in another form what the destruction does: for hooks that keep to
  themselves every destruction comes to an end and performs its tasks (`destroyWithin_performs`,
  `destroyOne_walk`, `destroyAll_walk`).  A cascade goes one level deeper only from an identifier
  whose list of neighbours it has just erased, so the number of lists bounds the depth
  (`Graph.nesting`).
-/

namespace InstanceRegistry

open Relation

/-! ## Hooks that keep to themselves -/

/-- A hook that keeps to itself: whenever it is run it comes to an end, well or with an error or a
    panic, and leaves the registry as it was. -/
def Engine.KeepsApart (engine : Engine) (hook : Routine) : Prop :=
  ∀ s, ∃ ending s', engine.dispose hook s = some (ending, s') ∧ s'.registry = s.registry

/-- Every pending hook of a registry keeps to itself. -/
def Engine.Leaves (engine : Engine) (r : Registry) : Prop :=
  ∀ id hook, r.hooks.get? id = some hook → engine.KeepsApart hook

/-- The number of neighbour lists along which a destruction can go deeper. -/
def Graph.nesting (g : Graph) : Nat := g.dependents.size + g.contained.size

namespace Destruction

/-! ## Endings -/

/-- What a report says of a hook that ended in some way. -/
def failureOf (id : Ident) : Outcome Cause Unit → Option DisposalFailure
  | .ok () => none
  | .error cause => some ⟨id, cause.message⟩
  | .panic payload => some ⟨id, payload.text "disposal hook panicked"⟩

/-- The report on hooks that were run in this order and ended in these ways. -/
def reportOf (endings : List (Ident × Outcome Cause Unit)) : Report where
  disposed := endings.map Prod.fst
  failures := endings.filterMap fun e => failureOf e.1 e.2

theorem reportOf_append (first second : List (Ident × Outcome Cause Unit)) :
    reportOf (first ++ second) = reportOf first ++ reportOf second := by
  show Report.mk _ _ = Report.mk _ _
  rw [List.map_append, List.filterMap_append]
  rfl

/-- What is noted of the hook that was taken from an identifier: its ending, if there was one. -/
inductive Ran (id : Ident) : Option Routine → List (Ident × Outcome Cause Unit) → Prop where
  | none : Ran id none []
  | some (hook : Routine) (ending : Outcome Cause Unit) : Ran id (some hook) [(id, ending)]

/-! ## The machine -/

/-- Something a destruction has still to do. -/
inductive Task where
  /-- Destroy an identifier. -/
  | enter (id : Ident)
  /-- Run the hook that was taken from an identifier, and go on to what it contains.  It is noted
      whether this belongs to the first visit of the identifier. -/
  | settle (id : Ident) (hook : Option Routine) (first : Bool)
  /-- Remove what is left of an identifier. -/
  | close (id : Ident) (first : Bool)

/-- The identifier a task is about. -/
def Task.id : Task → Ident
  | enter id => id
  | settle id _ _ => id
  | close id _ => id

/-- A destruction in the middle of its work. -/
structure Walk where
  todo : List Task
  registry : Registry
  /-- The identifiers that were entered, the latest first. -/
  entered : List Ident := []
  /-- The identifiers whose first visit came to their own hook, in that order. -/
  settled : List Ident := []
  /-- The identifiers that were closed, the latest first. -/
  closed : List Ident := []
  /-- The hooks that were run, in that order, each with its ending. -/
  endings : List (Ident × Outcome Cause Unit) := []

/-- Drop what is kept under an identifier, its hook and its dependents. -/
def detach (r : Registry) (id : Ident) : Registry :=
  { r.purge id with hooks := r.hooks.erase id, graph := (r.graph.takeDependents id).2 }

/-- Drop the list of what an identifier contains. -/
def release (r : Registry) (id : Ident) : Registry :=
  { r with graph := (r.graph.takeContained id).2 }

/-- Drop every edge from or to an identifier. -/
def forget (r : Registry) (id : Ident) : Registry := { r with graph := r.graph.forget id }

namespace Walk

/-- The walk on which some identifiers are to be destroyed one after another. -/
def start (r : Registry) (ids : List Ident) : Walk := { todo := ids.map .enter, registry := r }

/-- Enter an identifier: its dependents come next, and then it is settled. -/
def enter (w : Walk) (id : Ident) (rest : List Task) : Walk :=
  { w with
    todo := (w.registry.graph.dependentsOf id).map .enter ++
      .settle id (w.registry.hooks.get? id) (id ∉ w.entered) :: rest
    registry := detach w.registry id
    entered := id :: w.entered }

/-- Settle an identifier: what it contains comes next, and then it is closed. -/
def settle (w : Walk) (id : Ident) (first : Bool) (rest : List Task)
    (own : List (Ident × Outcome Cause Unit)) : Walk :=
  { w with
    todo := (w.registry.graph.containedIn id).map .enter ++ .close id first :: rest
    registry := release w.registry id
    settled := if first then w.settled ++ [id] else w.settled
    endings := w.endings ++ own }

/-- Close an identifier. -/
def close (w : Walk) (id : Ident) (rest : List Task) : Walk :=
  { w with todo := rest, registry := forget w.registry id, closed := id :: w.closed }

end Walk

/-! ### What the tasks of a walk tell

What is read off the list of tasks is mostly read off first visits that go on, and never off
identifiers that are only to be entered. -/

section Readings

variable {f : Task → Option Ident} (h : ∀ id, f (.enter id) = none)
include h

theorem filterMap_enters (ids : List Ident) (rest : List Task) :
    (ids.map Task.enter ++ rest).filterMap f = rest.filterMap f := by
  rw [List.filterMap_append]
  induction ids with
  | nil => rfl
  | cons id ids ih =>
    rw [List.map_cons, List.filterMap_cons_none (h id)]
    exact ih

theorem filterMap_todo_start (r : Registry) (ids : List Ident) :
    (Walk.start r ids).todo.filterMap f = [] := by
  have hids := filterMap_enters h ids []
  rwa [List.append_nil] at hids

theorem filterMap_todo_enter (w : Walk) (id : Ident) (rest : List Task) :
    (w.enter id rest).todo.filterMap f =
      (.settle id (w.registry.hooks.get? id) (id ∉ w.entered) :: rest : List Task).filterMap f :=
  filterMap_enters h _ _

theorem filterMap_todo_settle (w : Walk) (id : Ident) (first : Bool) (rest : List Task)
    (own : List (Ident × Outcome Cause Unit)) :
    (w.settle id first rest own).todo.filterMap f =
      (.close id first :: rest : List Task).filterMap f :=
  filterMap_enters h _ _

end Readings

/-- One step of a walk: the first task is carried out. -/
inductive Step (w : Walk) : Walk → Prop where
  | enter {id : Ident} {rest : List Task} (h : w.todo = .enter id :: rest) :
      Step w (w.enter id rest)
  | settle {id : Ident} {hook : Option Routine} {first : Bool} {rest : List Task}
      {own : List (Ident × Outcome Cause Unit)}
      (h : w.todo = .settle id hook first :: rest) (hran : Ran id hook own) :
      Step w (w.settle id first rest own)
  | close {id : Ident} {first : Bool} {rest : List Task} (h : w.todo = .close id first :: rest) :
      Step w (w.close id rest)

/-- Any number of steps. -/
def Steps : Walk → Walk → Prop := ReflTransGen Step

/-- What every step keeps is kept by all steps together. -/
theorem Steps.keep {P : Walk → Prop}
    (hstep : ∀ w w', Step w w' → P w → P w') {w w' : Walk} (h : Steps w w')
    (hw : P w) : P w' := by
  induction h with
  | refl => exact hw
  | tail _ hs ih => exact hstep _ _ hs ih

/-! ## How deep a walk can go -/

/-- The hooks of a registry are among those of an earlier one, which keep to themselves, and a
    destruction in it is less than `depth` deep. -/
structure Ready (engine : Engine) (start : Registry) (depth : Nat) (r : Registry) : Prop where
  leaves : engine.Leaves start
  hooks : ∀ id hook, r.hooks.get? id = some hook → start.hooks.get? id = some hook
  nesting : r.graph.nesting < depth

section Ready

variable {engine : Engine} {depth : Nat} {start r : Registry}

theorem Ready.of_leaves (h : engine.Leaves r) (hnesting : r.graph.nesting < depth) :
    Ready engine r depth r := ⟨h, fun _ _ hget => hget, hnesting⟩

theorem nesting_detach_le (r : Registry) (id : Ident) :
    (detach r id).graph.nesting ≤ r.graph.nesting :=
  Nat.add_le_add_right (Store.size_erase_le _ _) _

/-- Detaching dependents that are there makes the graph smaller. -/
theorem nesting_detach_lt {id : Ident} (h : r.graph.dependentsOf id ≠ []) :
    (detach r id).graph.nesting < r.graph.nesting := by
  obtain ⟨y, hy⟩ := List.exists_mem_of_ne_nil _ h
  exact Nat.add_lt_add_right (Store.size_erase_lt (Adjacency.mem_keys_of_mem_neighbours hy)) _

theorem nesting_release_le (r : Registry) (id : Ident) :
    (release r id).graph.nesting ≤ r.graph.nesting :=
  Nat.add_le_add_left (Store.size_erase_le _ _) _

/-- Detaching contained identifiers that are there makes the graph smaller. -/
theorem nesting_release_lt {id : Ident} (h : r.graph.containedIn id ≠ []) :
    (release r id).graph.nesting < r.graph.nesting := by
  obtain ⟨y, hy⟩ := List.exists_mem_of_ne_nil _ h
  exact Nat.add_lt_add_left (Store.size_erase_lt (Adjacency.mem_keys_of_mem_neighbours hy)) _

theorem nesting_forget_le (r : Registry) (id : Ident) :
    (forget r id).graph.nesting ≤ r.graph.nesting := by
  refine Nat.add_le_add ?_ ?_
  · exact Nat.le_trans (Store.size_update_le _ _) (Store.size_erase_le _ _)
  · exact Nat.le_trans (Store.size_update_le _ _) (Store.size_erase_le _ _)

theorem Ready.detach (h : Ready engine start depth r) (id : Ident) :
    Ready engine start depth (Destruction.detach r id) := by
  refine ⟨h.leaves, fun x hook hx => ?_, Nat.lt_of_le_of_lt (nesting_detach_le r id) h.nesting⟩
  -- a hook that is left after one was taken was there before
  have hx' : (r.hooks.erase id).get? x = some hook := hx
  rw [Store.get?_erase] at hx'
  split at hx'
  · cases hx'
  · exact h.hooks x hook hx'

theorem Ready.release (h : Ready engine start depth r) (id : Ident) :
    Ready engine start depth (Destruction.release r id) :=
  ⟨h.leaves, h.hooks, Nat.lt_of_le_of_lt (nesting_release_le r id) h.nesting⟩

theorem Ready.forget (h : Ready engine start depth r) (id : Ident) :
    Ready engine start depth (Destruction.forget r id) :=
  ⟨h.leaves, h.hooks, Nat.lt_of_le_of_lt (nesting_forget_le r id) h.nesting⟩

theorem Step.ready {w w' : Walk} (hs : Step w w') (h : Ready engine start depth w.registry) :
    Ready engine start depth w'.registry := by
  cases hs with
  | enter _ => exact h.detach _
  | settle _ _ => exact h.release _
  | close _ => exact h.forget _

theorem Steps.ready {w w' : Walk} (hs : Steps w w') (h : Ready engine start depth w.registry) :
    Ready engine start depth w'.registry :=
  Steps.keep (fun _ _ hs h => hs.ready h) hs h

end Ready

/-! ## The pieces of a destruction -/

section Pieces

variable {ε : Type} {engine : Engine}

/-- Detaching the dependents reports them, which the registry does not notice. -/
theorem takeDependents_ok (s : Session) (id : Ident) :
    ∃ s', (takeDependents id : Run ε Roster) s =
        some (.ok (s.registry.graph.dependentsOf id), s') ∧ Interlude s s' ∧
      s'.registry = { s.registry with graph := (s.registry.graph.takeDependents id).2 } := by
  rw [takeDependents, Run.bind_ok (Run.transact_apply _ _)]
  obtain ⟨s', hrun, hreports, hreg⟩ := Interlude.reportIf (ε := ε)
    (!(s.registry.graph.dependentsOf id).isEmpty)
    (.destroyingDependents (s.registry.graph.dependentsOf id) id) rfl
    (pure (s.registry.graph.dependentsOf id))
    { s with registry := { s.registry with graph := (s.registry.graph.takeDependents id).2 } }
  exact ⟨s', hrun, .trans (.edit s _) hreports, hreg⟩

/-- A hook that keeps to itself is run to its end, and the report says how it ended. -/
theorem dispose_ok {pending : Registry} {id : Ident} {hook : Routine}
    (hpending : pending.hooks.get? id = some hook) (h : engine.KeepsApart hook) (s : Session) :
    ∃ ending s', (dispose engine id hook : Run ε Report) s =
        some (.ok (reportOf [(id, ending)]), s') ∧
      HooksRun engine pending s [(id, ending)] s' ∧ s'.registry = s.registry := by
  rw [dispose, Run.bind_ok (Run.report_apply _ _)]
  obtain ⟨ending, s', hrun, hreg⟩ :=
    h { s with journal := ⟨.noticed (.disposing id), s.registry⟩ :: s.journal }
  rw [Run.bind_ok (Run.attempt_of hrun)]
  have hran : HooksRun engine pending s [(id, ending)] s' := .hook hpending hrun
  -- a hook that failed or panicked is reported
  cases ending with
  | ok value => exact ⟨.ok value, s', rfl, hran, hreg⟩
  | error cause => exact ⟨.error cause, _, rfl, hran.before (.report s' rfl), hreg⟩
  | panic payload => exact ⟨.panic payload, _, rfl, hran.before (.report s' rfl), hreg⟩

theorem disposeIf_ok {pending : Registry} {id : Ident} {hook : Option Routine}
    (h : ∀ routine, hook = some routine →
      pending.hooks.get? id = some routine ∧ engine.KeepsApart routine) (s : Session) :
    ∃ own s', (disposeIf engine id hook : Run ε Report) s = some (.ok (reportOf own), s') ∧
      HooksRun engine pending s own s' ∧ s'.registry = s.registry ∧ Ran id hook own := by
  cases hook with
  | none => exact ⟨[], s, rfl, .interlude (.refl s), rfl, .none⟩
  | some routine =>
    obtain ⟨hpending, hapart⟩ := h routine rfl
    obtain ⟨ending, s', hrun, hran, hreg⟩ := dispose_ok hpending hapart s
    exact ⟨_, s', hrun, hran, hreg, .some routine ending⟩

end Pieces

/-! ## The destruction walks -/

section Walking

variable {ε : Type} {engine : Engine} {start : Registry}

/-- Work on a session comes to an end, runs the hooks that it reports, and does what a walk does with
    these tasks, whatever the walk has still to do after them. -/
def Performs (engine : Engine) (start : Registry) (work : Run ε Report) (tasks : List Task)
    (s : Session) : Prop :=
  ∀ w rest, w.registry = s.registry → w.todo = tasks ++ rest →
    ∃ endings s' w', work s = some (.ok (reportOf endings), s') ∧
      HooksRun engine start s endings s' ∧ Steps w w' ∧
      w'.todo = rest ∧ w'.registry = s'.registry ∧ w'.endings = w.endings ++ endings

/-- Work on single identifiers performs their tasks, wherever a destruction is less than `depth`
    deep. -/
def PerformsEach (engine : Engine) (start : Registry) (depth : Nat) (work : Ident → Run ε Report) :
    Prop :=
  ∀ s id, Ready engine start depth s.registry → Performs engine start (work id) [.enter id] s

/-- Destroying several identifiers one after another performs their tasks, if destroying each does. -/
theorem collect_performs {depth : Nat} {work : Ident → Run ε Report} (ids : List Ident)
    {s : Session} (hready : ids ≠ [] → Ready engine start depth s.registry)
    (hwork : PerformsEach engine start depth work) :
    Performs engine start (Run.collect work ids) (ids.map .enter) s := by
  induction ids generalizing s with
  | nil =>
    exact fun w rest hw htodo =>
      ⟨[], s, w, rfl, .interlude (.refl s), .refl, htodo, hw, (List.append_nil _).symm⟩
  | cons id ids ih =>
    intro w rest hw htodo
    have hr := hready (List.cons_ne_nil _ _)
    obtain ⟨first, s₁, w₁, hrun₁, hran₁, hsteps₁, htodo₁, hreg₁, hends₁⟩ :=
      hwork s id hr w (ids.map .enter ++ rest) hw htodo
    -- steps take nothing away from being ready, so the others have the same depth
    have hr₁ : Ready engine start depth s₁.registry := hreg₁ ▸ hsteps₁.ready (hw ▸ hr)
    obtain ⟨others, s₂, w₂, hrun₂, hran₂, hsteps₂, htodo₂, hreg₂, hends₂⟩ :=
      ih (fun _ => hr₁) w₁ rest hreg₁ htodo₁
    refine ⟨first ++ others, s₂, w₂, ?_, hran₁.append hran₂, hsteps₁.trans hsteps₂, htodo₂, hreg₂,
      ?_⟩
    · rw [Run.collect, Run.bind_ok hrun₁, Run.bind_ok hrun₂, reportOf_append]
      rfl
    · rw [hends₂, hends₁, List.append_assoc]

/-- The cascade to the dependents of an identifier, one level deeper: if there are any, detaching
    them has made the graph smaller. -/
theorem dependents_performs {depth : Nat} {work : Ident → Run ε Report} {s t : Session} {id : Ident}
    (hready : Ready engine start (depth + 1) s.registry) (ht : t.registry = detach s.registry id)
    (hwork : PerformsEach engine start depth work) :
    Performs engine start (Run.collect work (s.registry.graph.dependentsOf id))
      ((s.registry.graph.dependentsOf id).map .enter) t := by
  refine collect_performs _ (fun hne => ?_) hwork
  have hless := nesting_detach_lt hne
  have hdetached := hready.detach id
  rw [ht]
  exact ⟨hready.leaves, hdetached.hooks,
    Nat.lt_of_lt_of_le hless (Nat.le_of_lt_succ hready.nesting)⟩

/-- The same for the cascade to what an identifier contains. -/
theorem contained_performs {depth : Nat} {work : Ident → Run ε Report} {s t : Session} {id : Ident}
    (hready : Ready engine start (depth + 1) s.registry) (ht : t.registry = release s.registry id)
    (hwork : PerformsEach engine start depth work) :
    Performs engine start (Run.collect work (s.registry.graph.containedIn id))
      ((s.registry.graph.containedIn id).map .enter) t := by
  refine collect_performs _ (fun hne => ?_) hwork
  have hless := nesting_release_lt hne
  rw [ht]
  exact ⟨hready.leaves, hready.hooks, Nat.lt_of_lt_of_le hless (Nat.le_of_lt_succ hready.nesting)⟩

/-- **A destruction walks.**  With hooks that keep to themselves and enough depth for the lists of
    neighbours there are, destroying an identifier comes to an end and performs its task. -/
theorem destroyWithin_performs (depth : Nat) :
    PerformsEach engine start depth fun id => (destroyWithin engine depth id : Run ε Report) := by
  induction depth with
  | zero => exact fun _ _ hready => absurd hready.nesting (Nat.not_lt_zero _)
  | succ depth ih =>
    intro s id hready w rest hw htodo
    -- enter: the dependents are detached and destroyed
    have hw₁ : Step w (w.enter id rest) := .enter htodo
    have hreg₁ : (w.enter id rest).registry = detach s.registry id := by rw [← hw]; rfl
    obtain ⟨s₁, hrun₁, hreports₁, hs₁⟩ := takeDependents_ok (ε := ε)
      { s with registry := { s.registry.purge id with hooks := s.registry.hooks.erase id } } id
    have hs₁ : s₁.registry = detach s.registry id := hs₁
    have htodo₁ : (w.enter id rest).todo = (s.registry.graph.dependentsOf id).map .enter ++
        .settle id (s.registry.hooks.get? id) (id ∉ w.entered) :: rest := by rw [← hw]; rfl
    obtain ⟨before, s₂, w₂, hrun₂, hran₂, hsteps₂, htodo₂, hreg₂, hends₂⟩ :=
      dependents_performs hready hs₁ ih (w.enter id rest) _ (hreg₁.trans hs₁.symm) htodo₁
    -- settle: the hook is the one that was taken on entering
    have hready₂ : Ready engine start (depth + 1) s₂.registry :=
      hreg₂ ▸ hsteps₂.ready (hreg₁ ▸ hready.detach id)
    have htaken : ∀ routine, s.registry.hooks.get? id = some routine →
        start.hooks.get? id = some routine ∧ engine.KeepsApart routine := fun routine hget =>
      ⟨hready.hooks id routine hget, hready.leaves id routine (hready.hooks id routine hget)⟩
    obtain ⟨own, s₃, hrun₃, hran₃, hreg₃, hown⟩ := disposeIf_ok (ε := ε) htaken s₂
    have hw₃ : Step w₂ (w₂.settle id (id ∉ w.entered) rest own) := .settle htodo₂ hown
    have hreg₄ : (w₂.settle id (id ∉ w.entered) rest own).registry = release s₃.registry id := by
      rw [hreg₃, ← hreg₂]; rfl
    have htodo₄ : (w₂.settle id (id ∉ w.entered) rest own).todo =
        (s₃.registry.graph.containedIn id).map .enter ++ .close id (id ∉ w.entered) :: rest := by
      rw [hreg₃, ← hreg₂]; rfl
    obtain ⟨after, s₅, w₅, hrun₅, hran₅, hsteps₅, htodo₅, hreg₅, hends₅⟩ :=
      contained_performs (t := { s₃ with registry := release s₃.registry id }) (hreg₃ ▸ hready₂) rfl
        ih _ _ hreg₄ htodo₄
    -- close: only this identifier's edges are left to be removed
    have hw₆ : Step w₅ (w₅.close id rest) := .close htodo₅
    refine ⟨before ++ (own ++ after), { s₅ with registry := forget s₅.registry id },
      w₅.close id rest, ?_, ?_, ?_, rfl, by rw [← hreg₅]; rfl, ?_⟩
    · -- the run itself, one operation after another
      rw [reportOf_append, reportOf_append]
      refine (Run.bind_ok (Run.edit_apply _ _)).trans ?_
      refine (Run.bind_ok (Run.transact_apply _ _)).trans ?_
      refine (Run.bind_ok hrun₁).trans ?_
      refine (Run.bind_ok hrun₂).trans ?_
      refine (Run.bind_ok hrun₃).trans ?_
      refine (Run.bind_ok (Run.transact_apply _ _)).trans ?_
      refine (Run.bind_ok hrun₅).trans ?_
      refine (Run.bind_ok (Run.edit_apply _ _)).trans ?_
      rw [← Report.append_assoc]
      rfl
    · -- the hooks were run in the order of the three parts, and what lies between them is silent
      have hbefore := hran₂.after (.trans (.edit s _) hreports₁)
      have hafter := (hran₅.after (.edit s₃ _)).before (.edit s₅ (forget s₅.registry id))
      exact hbefore.append (hran₃.append hafter)
    · exact ((ReflTransGen.head hw₁ hsteps₂).tail hw₃).trans (hsteps₅.tail hw₆)
    · show w₅.endings = _
      rw [hends₅]
      show (w₂.endings ++ own) ++ after = _
      rw [hends₂, List.append_assoc, List.append_assoc]
      rfl

/-- Destroying one identifier is a walk from its task alone. -/
theorem destroyOne_walk {s : Session} (hready : Ready engine s.registry engine.depth s.registry)
    (id : Ident) :
    ∃ w s', (destroyOne engine id : Run ε Report) s = some (.ok (reportOf w.endings), s') ∧
      HooksRun engine s.registry s w.endings s' ∧
      Steps (.start s.registry [id]) w ∧ w.todo = [] ∧ s'.registry = w.registry := by
  obtain ⟨endings, s', w, hrun, hran, hsteps, htodo, hreg, hends⟩ :=
    destroyWithin_performs (ε := ε) engine.depth s id hready (.start s.registry [id]) [] rfl rfl
  have hends : w.endings = endings := hends
  exact ⟨w, s', hends ▸ hrun, hends ▸ hran, hsteps, htodo, hreg.symm⟩

/-- Once every hook had its turn everything is dropped. -/
theorem finish_ok (s : Session) : ∃ s', (finish : Run ε Unit) s = some (.ok (), s') ∧
    Interlude s s' ∧ s'.registry = { s.registry.empty with lifecycle := .destroyed } := by
  rw [finish, Run.bind_ok (Run.registry_apply _), Run.bind_ok (Run.edit_apply _ _)]
  obtain ⟨s', hrun, hreports, hreg⟩ := Interlude.reportIf (ε := ε) (!s.registry.hooks.isEmpty)
    (.hooksDiscarded s.registry.hooks.keys) rfl
    (Run.edit fun r => { r with lifecycle := .destroyed })
    { s with registry := s.registry.empty }
  refine ⟨_, hrun, ?_, congrArg (fun r : Registry => { r with lifecycle := .destroyed }) hreg⟩
  exact .trans (.edit s _) (hreports.trans (.edit s' _))

/-- Destroying everything in an active registry is a walk from the tasks of all hooks, the latest
    registered first. -/
theorem destroyAll_walk {s : Session} (hready : Ready engine s.registry engine.depth s.registry)
    (hactive : s.registry.lifecycle = .active) :
    ∃ w s', (destroyAll engine : Run ε Report) s = some (.ok (reportOf w.endings), s') ∧
      HooksRun engine s.registry s w.endings s' ∧
      Steps
        (.start { s.registry with lifecycle := .destroying } s.registry.hooks.keys.reverse) w ∧
      w.todo = [] ∧ s'.registry = { w.registry.empty with lifecycle := .destroyed } := by
  let r : Registry := { s.registry with lifecycle := .destroying }
  let t : Session :=
    { s with
      registry := r
      journal := ⟨.noticed (.destroying { s.registry.census with lifecycle := .destroying }), r⟩ ::
        s.journal }
  have hclosed : Interlude s t := .trans (.edit s r) (.report _ rfl)
  have hcollect : Performs engine s.registry
      (Run.collect (destroyOne engine) s.registry.hooks.keys.reverse : Run ε Report)
      (s.registry.hooks.keys.reverse.map .enter) t :=
    collect_performs _ (fun _ => ⟨hready.leaves, hready.hooks, hready.nesting⟩)
      (destroyWithin_performs engine.depth)
  obtain ⟨endings, s₁, w, hrun₁, hran, hsteps, htodo, hreg₁, hends⟩ :=
    hcollect (.start r s.registry.hooks.keys.reverse) [] rfl (List.append_nil _).symm
  obtain ⟨s₂, hrun₂, hfinished, hreg₂⟩ := finish_ok (ε := ε) s₁
  obtain ⟨s₃, hrun₃, hreports, hreg₃⟩ := Interlude.reportIf (ε := ε) (!(reportOf endings).isClean)
    (.unclean (reportOf endings).failures.length) rfl (pure (reportOf endings)) s₂
  have hends : w.endings = endings := hends
  refine ⟨w, s₃, ?_, ?_, hsteps, htodo, by rw [hreg₃, hreg₂, hreg₁]⟩
  · rw [destroyAll, Run.bind_ok (Run.registry_apply _), if_pos hactive, hends]
    refine (Run.bind_ok (Run.edit_apply _ _)).trans ?_
    refine (Run.bind_ok (Run.report_apply _ _)).trans ?_
    refine (Run.bind_ok hrun₁).trans ?_
    exact (Run.bind_ok hrun₂).trans hrun₃
  · rw [hends]
    exact (hran.after hclosed).before (hfinished.trans hreports)

/-- Destroying everything in a registry that is not active any more does nothing. -/
theorem destroyAll_over {s : Session} (h : s.registry.lifecycle ≠ .active) :
    ∃ s', (destroyAll engine : Run ε Report) s = some (.ok {}, s') ∧ Interlude s s' ∧
      s'.registry = s.registry := by
  let notice : Notice := .alreadyOver s.registry.lifecycle
  refine ⟨{ s with journal := ⟨.noticed notice, s.registry⟩ :: s.journal }, ?_, .report s rfl, rfl⟩
  rw [destroyAll, Run.bind_ok (Run.registry_apply _), if_neg h]
  rfl

end Walking

end Destruction

end InstanceRegistry
