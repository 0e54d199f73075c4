import InstanceRegistry.Script
import InstanceRegistry.Proofs.Destruction.Visits

/-!
  Teardown: what destroying one identifier does, exactly.

  Destroying `id` comes to an end.  Those who are GONE afterwards are the identifiers that the
  graph led to from `id`, along dependents and contained edges mixed in any way, `id` among them.
  Whoever is gone has nothing left; whoever is not gone has lost nothing but its edges to those who
  are (`Severed`).  Of the hooks, exactly those of the gone ones were run, each once, and the report
  lists them in the order in which they were run, and the failures among them in the same order.

  All but the running itself is read off the walk that the destruction performs: it ends with
  everyone who was entered closed, the books say what the entered ones have lost, and the trimmed
  graph says what the closed ones have.
-/

namespace InstanceRegistry

open Relation

/-! ## What is gone and what is left -/

/-- Of a registry, everything that belongs to those who are gone is taken away, and only that. -/
structure Registry.Severed (before after : Registry) (gone : List Ident) : Prop where
  /-- Nothing is kept under an identifier that is gone. -/
  bare : ∀ x ∈ gone, after.finished.get? x = none ∧ after.early.get? x = none ∧
    after.factories.get? x = none ∧ after.products.get? x = none ∧ x ∉ after.listed ∧
    after.hooks.get? x = none
  /-- It has no edges, and none lead to it. -/
  edgeless : ∀ x ∈ gone, ∀ y,
    (y ∉ after.graph.dependentsOf x ∧ x ∉ after.graph.dependentsOf y) ∧
    (y ∉ after.graph.dependenciesOf x ∧ x ∉ after.graph.dependenciesOf y) ∧
    (y ∉ after.graph.containedIn x ∧ x ∉ after.graph.containedIn y)
  /-- Everything is kept under an identifier that is not gone. -/
  kept : ∀ x, x ∉ gone → after.finished.get? x = before.finished.get? x ∧
    after.early.get? x = before.early.get? x ∧
    after.factories.get? x = before.factories.get? x ∧
    after.products.get? x = before.products.get? x ∧
    after.hooks.get? x = before.hooks.get? x
  /-- Those that are left are listed as they were, and so are their hooks. -/
  listed : after.listed = before.listed.filter (· ∉ gone)
  hooks : after.hooks.keys = before.hooks.keys.filter (· ∉ gone)
  /-- The edges among those that are left are the edges there were, in the same order. -/
  edges : ∀ x, x ∉ gone →
    after.graph.dependentsOf x = (before.graph.dependentsOf x).filter (· ∉ gone) ∧
    after.graph.dependenciesOf x = (before.graph.dependenciesOf x).filter (· ∉ gone) ∧
    after.graph.containedIn x = (before.graph.containedIn x).filter (· ∉ gone)
  /-- Marks, lifecycle and settings are as they were. -/
  marks : after.marks = before.marks
  lifecycle : after.lifecycle = before.lifecycle
  aliases : after.aliases = before.aliases
  config : after.config = before.config

namespace Destruction

/-- A hook that ended with an error or a panic. -/
def failed : Outcome Cause Unit → Bool
  | .ok () => false
  | .error _ => true
  | .panic _ => true

/-- The failures of a report are those of the hooks that failed, in the order of the hooks. -/
theorem failures_reportOf (endings : List (Ident × Outcome Cause Unit)) :
    (reportOf endings).failures.map DisposalFailure.id =
      (endings.filter fun e => failed e.2).map Prod.fst := by
  induction endings with
  | nil => rfl
  | cons e endings ih =>
    obtain ⟨id, ending⟩ := e
    cases ending with
    | ok _ => exact ih
    | error cause => exact congrArg (id :: ·) ih
    | panic payload => exact congrArg (id :: ·) ih

/-! ## The end of a walk -/

section End

variable {start : Registry} {roots : List Ident} {w : Walk}

/-- No edge of a trimmed map is left at an identifier that was closed. -/
theorem Trimmed.edgeless {before after : Adjacency} {entered closed : List Ident} {x y : Ident}
    (h : Trimmed before after entered closed) (hentered : ∀ z ∈ entered, z ∈ closed)
    (hx : x ∈ closed) : y ∉ after.neighbours x ∧ x ∉ after.neighbours y := by
  rw [h.within x hx]
  refine ⟨List.not_mem_nil, fun hm => ?_⟩
  by_cases hy : y ∈ entered
  · rw [h.within y (hentered y hy)] at hm
    exact absurd hm List.not_mem_nil
  · rw [h.outside y hy] at hm
    exact of_decide_eq_true (List.mem_filter.1 hm).2 hx

/-- The edges among those who were not entered are the edges there were. -/
theorem Trimmed.edges {before after : Adjacency} {entered closed : List Ident} {x : Ident}
    (h : Trimmed before after entered closed) (hiff : ∀ z, z ∈ entered ↔ z ∈ closed)
    (hx : x ∉ entered) : after.neighbours x = (before.neighbours x).filter (· ∉ entered) := by
  rw [h.outside x hx]
  exact List.filter_congr fun y _ => decide_eq_decide.2 (not_congr (hiff y).symm)

/-- **A walk that is over has severed** those who were entered from the others. -/
theorem Sound.severed (h : Sound start roots w) (hdone : w.todo = []) :
    start.Severed w.registry w.entered := by
  have hiff : ∀ z, z ∈ w.entered ↔ z ∈ w.closed :=
    fun z => ⟨fun hz => (h.closed_of_entered hdone hz).1, h.pruned.closed z⟩
  have hclosed : ∀ z ∈ w.entered, z ∈ w.closed := fun z => (hiff z).1
  have hfinished : w.registry.finished = start.finished.restrict (· ∉ w.entered) :=
    congrArg Registry.finished h.books
  have hearly : w.registry.early = start.early.restrict (· ∉ w.entered) :=
    congrArg Registry.early h.books
  have hfactories : w.registry.factories = start.factories.restrict (· ∉ w.entered) :=
    congrArg Registry.factories h.books
  have hproducts : w.registry.products = start.products.restrict (· ∉ w.entered) :=
    congrArg Registry.products h.books
  have hhooks : w.registry.hooks = start.hooks.restrict (· ∉ w.entered) :=
    congrArg Registry.hooks h.books
  have hlisted : w.registry.listed = start.listed.filter (· ∉ w.entered) :=
    congrArg Registry.listed h.books
  have hrest : w.registry.marks = start.marks ∧ w.registry.lifecycle = start.lifecycle ∧
      w.registry.aliases = start.aliases ∧ w.registry.config = start.config := by
    rw [show w.registry = _ from h.books]
    exact ⟨rfl, rfl, rfl, rfl⟩
  refine ⟨fun x hx => ?_, fun x hx y => ?_, fun x hx => ?_, hlisted, ?_, fun x hx => ?_,
    hrest.1, hrest.2.1, hrest.2.2.1, hrest.2.2.2⟩
  · rw [hfinished, hearly, hfactories, hproducts, hhooks, hlisted]
    simp only [get?_without, if_pos hx, true_and, and_true]
    exact fun hm => of_decide_eq_true (List.mem_filter.1 hm).2 hx
  · exact ⟨h.pruned.dependents.edgeless hclosed (hclosed x hx),
      h.pruned.dependencies.edgeless hclosed (hclosed x hx),
      h.pruned.contained.edgeless hclosed (hclosed x hx)⟩
  · rw [hfinished, hearly, hfactories, hproducts, hhooks]
    simp only [get?_without, if_neg hx, and_self]
  · rw [hhooks, Store.keys_restrict]
  · exact ⟨h.pruned.dependents.edges hiff hx, h.pruned.dependencies.edges hiff hx,
      h.pruned.contained.edges hiff hx⟩

/-- The hooks that a walk has run in the end are those of the identifiers that it entered. -/
theorem Sound.mem_disposed_iff (h : Sound start roots w) (hdone : w.todo = []) {x : Ident} :
    x ∈ (reportOf w.endings).disposed ↔ x ∈ w.entered ∧ start.hooks.contains x = true := by
  show x ∈ w.endings.map Prod.fst ↔ _
  rw [h.firsts.disposed, List.mem_filter, h.mem_settled_iff hdone, h.mem_entered_iff hdone]

/-- None of them was run twice. -/
theorem Sound.disposed_nodup (h : Sound start roots w) :
    (reportOf w.endings).disposed.Nodup := by
  show (w.endings.map Prod.fst).Nodup
  rw [h.firsts.disposed]
  exact (List.nodup_append.1 h.firsts.nodup).2.1.filter _

end End

/-! ## Hooks that take no steps -/

/-- Settling leaves the registry and the journal as they are. -/
theorem yield_apart (id : Ident) (settle : Settle) (s : Session) :
    ∃ ending s', settle.yield id none s = some (ending, s') ∧ s'.registry = s.registry ∧
      s'.journal = s.journal := by
  match settle with
  | .recall name =>
    rw [Settle.yield, Run.bind_ok (Run.read_apply _ _)]
    cases s.bindings.get? name with
    | none => exact ⟨_, s, rfl, rfl, rfl⟩
    | some held => exact ⟨_, s, rfl, rfl, rfl⟩
  | .fail _ | .panic _ | .nothing | .wrap _ | .same | .fresh _ => exact ⟨_, _, rfl, rfl, rfl⟩

/-- Whether a routine settles without taking any steps. -/
def stepless : Routine → Bool
  | .scripted _ [] _ => true
  | _ => false

/-- A routine that takes no steps comes to an end as a hook, however it settles, and touches neither
    the registry nor another hook. -/
theorem dispose_stepless (depth : Nat) {hook : Routine} (h : stepless hook = true) (s : Session) :
    ∃ ending s', (Engine.ofDepth (depth + 1)).dispose hook s = some (ending, s') ∧
      s'.registry = s.registry ∧ s'.disposed = s.disposed := by
  obtain ⟨id, settle, rfl⟩ : ∃ id settle, hook = .scripted id [] settle := by
    cases hook with
    | scripted id body settle =>
      cases body with
      | nil => exact ⟨id, settle, rfl⟩
      | cons _ _ => cases h
    | contender _ _ => cases h
    | assembly _ => cases h
    | handover _ _ => cases h
  obtain ⟨ending, s', hrun, hreg, hjournal⟩ :=
    yield_apart id settle { s with journal := ⟨.entered .disposal id none, s.registry⟩ :: s.journal }
  have hroutine : Routine.run (.ofDepth depth) .disposal (.scripted id [] settle) s =
      some (ending, s') := by
    rw [Routine.run, Run.bind_ok (Run.record_apply s _), Step.takeAll,
      Run.bind_ok (Run.pure_apply _ _), hrun]
  refine ⟨ending.map fun _ => (), s', Run.map_of hroutine, hreg, ?_⟩
  rw [Session.disposed, hjournal, List.reverse_cons, List.filterMap_append]
  exact List.append_nil _

section Stepless

variable {depth : Nat} {r : Registry} (h : r.hooks.entries.all (fun e => stepless e.2) = true)
include h

/-- The pending hooks of a registry keep to themselves if none of them takes any steps. -/
theorem leaves_of_stepless : (Engine.ofDepth (depth + 1)).Leaves r := by
  intro id hook hget s
  have hstepless := List.all_eq_true.1 h _ (Store.mem_entries_of_get? hget)
  obtain ⟨ending, s', hrun, hreg, -⟩ := dispose_stepless depth hstepless s
  exact ⟨ending, s', hrun, hreg⟩

/-- And each of them runs alone. -/
theorem runsAlone_of_stepless : (Engine.ofDepth (depth + 1)).RunsAlone r := by
  intro id hook hget s ending t hrun
  have hstepless := List.all_eq_true.1 h _ (Store.mem_entries_of_get? hget)
  obtain ⟨_, _, hrun', -, hdisposed⟩ := dispose_stepless depth hstepless s
  cases hrun.symm.trans hrun'
  exact hdisposed

end Stepless

/-! ## Destroying one identifier -/

/-- **Exact teardown.**  Let the pending hooks keep to themselves, and let the depth of the engine
    exceed the number of neighbour lists there are.  Then destroying an identifier comes to an end.
    Between the sessions before and after it hooks were run one after another, and the report says
    which, in that order, and how they ended.  Those whom the graph led to from the identifier are
    gone, with all they had and nothing else; the hooks that were run are theirs, each once; and the
    failures are those of the hooks that failed or panicked when they were run, in the order in which
    they were run. -/
theorem destroyOne_exact {ε : Type} {engine : Engine} {s : Session} (id : Ident)
    (hdepth : s.registry.graph.nesting < engine.depth) (hapart : engine.Leaves s.registry) :
    ∃ endings gone s',
      (destroyOne engine id : Run ε Report) s = some (.ok (reportOf endings), s') ∧
      HooksRun engine s.registry s endings s' ∧
      (∀ x, x ∈ gone ↔ s.registry.graph.Reaches id x) ∧
      s.registry.Severed s'.registry gone ∧
      (reportOf endings).disposed.Nodup ∧
      (∀ x, x ∈ (reportOf endings).disposed ↔ x ∈ gone ∧ s.registry.hooks.contains x = true) ∧
      (reportOf endings).failures.map DisposalFailure.id =
        (endings.filter fun e => failed e.2).map Prod.fst := by
  obtain ⟨w, s', hrun, hran, hsteps, hdone, hreg⟩ :=
    destroyOne_walk (ε := ε) (.of_leaves hapart hdepth) id
  have hsound := hsteps.sound
  refine ⟨w.endings, w.entered, s', hrun, hran, fun x => ?_, ?_, hsound.disposed_nodup,
    fun x => hsound.mem_disposed_iff hdone, failures_reportOf _⟩
  · rw [hsound.mem_entered_iff hdone]
    constructor
    · rintro ⟨root, hroot, hpath⟩
      rwa [List.mem_singleton.1 hroot] at hpath
    · exact fun hpath => ⟨id, List.mem_singleton_self id, hpath⟩
  · rw [hreg]
    exact hsound.severed hdone

/-- Two identifiers that depend on each other and a third that one of them contains, all to be
    torn down, beside one that has nothing to do with them. -/
def circle : Session where
  registry :=
    { finished := ((∅ : Store Instance).insert "a" ⟨0, some "a"⟩).insert "z" ⟨1, some "z"⟩
      listed := ["z", "a"]
      graph := ((({} : Graph).addDependency "a" "b").addDependency "b" "a").addContainment "c" "b"
      hooks := ⟨[("c", .scripted "c" [] (.fail "stuck")), ("a", .scripted "a" [] (.fresh none)),
        ("z", .scripted "z" [] .same)], by decide⟩ }

theorem leaves_circle : (Engine.ofDepth 6).Leaves circle.registry := leaves_of_stepless rfl

/-- The circle is torn down from any of its members, and what it contains with it. -/
theorem destroyOne_exact_circle :
    (circle.registry.graph.nesting < (Engine.ofDepth 6).depth ∧
      (Engine.ofDepth 6).Leaves circle.registry) ∧
    ∃ endings s', (destroyOne (.ofDepth 6) "a" : Run Failure Report) circle =
        some (.ok (reportOf endings), s') ∧
      HooksRun (.ofDepth 6) circle.registry circle endings s' ∧
      "c" ∈ (reportOf endings).disposed ∧ s'.registry.finished.get? "c" = none ∧
      s'.registry.marks = circle.registry.marks := by
  refine ⟨⟨by decide, leaves_circle⟩, ?_⟩
  obtain ⟨endings, gone, s', hrun, hran, hgone, hsevered, -, hdisposed, -⟩ :=
    destroyOne_exact (ε := Failure) "a" (by decide) leaves_circle
  -- from `a` over its dependent `b` to what that contains
  have hab : circle.registry.graph.Leads "a" "b" := Or.inl (by decide)
  have hbc : circle.registry.graph.Leads "b" "c" := Or.inr (by decide)
  have hc : "c" ∈ gone := (hgone "c").2 ((ReflTransGen.single hab).tail hbc)
  exact ⟨endings, s', hrun, hran, (hdisposed "c").2 ⟨hc, rfl⟩, (hsevered.bare "c" hc).1,
    hsevered.marks⟩

end Destruction

end InstanceRegistry
