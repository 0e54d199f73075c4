import InstanceRegistry.Proofs.Destruction.Teardown

/-!
  Destroying where there are no hooks.

  Without hooks a destruction is silent: it starts no callback, makes no instance and has nothing to
  report.  All it does is to take away what is kept under the identifiers that the graph leads to,
  and their edges.  Whoever is left leads to whom it led to before, as far as they are left
  themselves: a path that comes to somebody who is left has met nobody who is gone.
-/

namespace InstanceRegistry

open Relation

/-! ## Callbacks -/

/-- The callback that starts with an entry, and what it is passed. -/
def Entry.callback? (e : Entry) : Option (Role × Option Instance) :=
  match e.event with
  | .entered role _ passed => some (role, passed)
  | _ => none

/-- The callbacks of a session, in the order in which they started. -/
def Session.callbacks (s : Session) : List (Role × Option Instance) :=
  s.journal.reverse.filterMap Entry.callback?

theorem Session.callbacks_cons {s t : Session} {e : Entry} (h : t.journal = e :: s.journal) :
    t.callbacks = s.callbacks ++ e.callback?.toList := by
  rw [callbacks, h, List.reverse_cons, List.filterMap_append]
  cases hcallback : e.callback? <;> simp [hcallback, callbacks]

/-- Work that starts no callback and makes no instance as long as there are no hooks. -/
def Run.Silent {ε α : Type} (work : Run ε α) : Prop :=
  ∀ s outcome t, s.registry.hooks = ∅ → work s = some (outcome, t) →
    t.registry.hooks = ∅ ∧ t.supply = s.supply ∧ t.callbacks = s.callbacks

namespace Run.Silent

variable {ε α β : Type}

theorem pure (value : α) : (Pure.pure value : Run ε α).Silent := by
  intro s outcome t hhooks h
  cases h
  exact ⟨hhooks, rfl, rfl⟩

theorem bind {work : Run ε α} {next : α → Run ε β} (hwork : work.Silent)
    (hnext : ∀ value, (next value).Silent) : (work >>= next).Silent := by
  intro s outcome t hhooks h
  rcases Run.bind_inv h with ⟨value, s', hfirst, hrest⟩ | ⟨_, hfirst, -⟩ | ⟨_, hfirst, -⟩
  · obtain ⟨hhooks', hsupply, hcallbacks⟩ := hwork _ _ _ hhooks hfirst
    obtain ⟨hhooks'', hsupply', hcallbacks'⟩ := hnext value _ _ _ hhooks' hrest
    exact ⟨hhooks'', hsupply'.trans hsupply, hcallbacks'.trans hcallbacks⟩
  · exact hwork _ _ _ hhooks hfirst
  · exact hwork _ _ _ hhooks hfirst

/-- A change that adds no hook. -/
theorem transact {f : Registry → α × Registry} (hf : ∀ r, r.hooks = ∅ → (f r).2.hooks = ∅) :
    (Run.transact f : Run ε α).Silent := by
  intro s outcome t hhooks h
  cases h
  exact ⟨hf _ hhooks, rfl, rfl⟩

theorem edit {f : Registry → Registry} (hf : ∀ r, r.hooks = ∅ → (f r).hooks = ∅) :
    (Run.edit f : Run ε Unit).Silent := by
  intro s outcome t hhooks h
  cases h
  exact ⟨hf _ hhooks, rfl, rfl⟩

theorem report (notice : Notice) : (Run.report notice : Run ε Unit).Silent := by
  intro s outcome t hhooks h
  cases h
  exact ⟨hhooks, rfl, (Session.callbacks_cons rfl).trans (List.append_nil _)⟩

theorem collect {work : Ident → Run ε Report} (hwork : ∀ id, (work id).Silent) (ids : List Ident) :
    (Run.collect work ids).Silent := by
  induction ids with
  | nil => exact .pure _
  | cons id ids ih => exact .bind (hwork id) fun _ => .bind ih fun _ => .pure _

end Run.Silent

namespace Destruction

variable {ε : Type} {engine : Engine} {s : Session}

/-- The hook that is taken where there are no hooks is none. -/
theorem takeHook_silent {α : Type} {next : Option Routine → Run ε α} (id : Ident)
    (hnext : (next none).Silent) : (takeHook id >>= next).Silent := by
  intro s outcome t hhooks h
  have herased : s.registry.hooks.erase id = ∅ := by
    rw [hhooks]
    rfl
  have htaken : (takeHook id : Run ε (Option Routine)) s =
      some (.ok none,
        { s with registry := { s.registry with hooks := s.registry.hooks.erase id } }) := by
    rw [takeHook, Run.transact_apply, hhooks]
    rfl
  rw [Run.bind_ok htaken] at h
  have hlater := fun hnone => hnext _ outcome t hnone h
  exact hlater herased

theorem takeDependents_silent (id : Ident) : (takeDependents id : Run ε Roster).Silent :=
  .bind (.transact fun _ hhooks => hhooks) fun dependents => by
    cases dependents.isEmpty with
    | true => exact .pure _
    | false => exact .bind (.report _) fun _ => .pure _

/-- **A destruction without hooks is silent**, however deep it goes. -/
theorem destroyWithin_silent (depth : Nat) (id : Ident) :
    (destroyWithin engine depth id : Run ε Report).Silent := by
  induction depth generalizing id with
  | zero => exact fun _ _ _ _ h => nomatch h
  | succ depth ih =>
    refine .bind (.edit fun _ hhooks => hhooks) fun _ => takeHook_silent id ?_
    refine .bind (takeDependents_silent id) fun dependents => ?_
    refine .bind (.collect ih dependents) fun before => ?_
    refine .bind (.pure _) fun own => ?_
    refine .bind (.transact fun _ hhooks => hhooks) fun contained => ?_
    exact .bind (.collect ih contained) fun after =>
      .bind (.edit fun _ hhooks => hhooks) fun _ => .pure _

/-! ## Whoever is left -/

/-- Whoever is left leads to those it led to, of those who are left. -/
theorem leads_severed {before after : Registry} {gone : List Ident}
    (h : before.Severed after gone) {x y : Ident} :
    after.graph.Leads x y ↔ before.graph.Leads x y ∧ x ∉ gone ∧ y ∉ gone := by
  by_cases hx : x ∈ gone
  · refine iff_of_false ?_ fun hleads => hleads.2.1 hx
    obtain ⟨⟨hdependents, -⟩, -, hcontained, -⟩ := h.edgeless x hx y
    exact fun hleads => hleads.elim hdependents hcontained
  · obtain ⟨hdependents, -, hcontained⟩ := h.edges x hx
    simp only [Graph.Leads, hdependents, hcontained, List.mem_filter, decide_eq_true_eq]
    rw [← or_and_right, and_iff_right hx]

/-- **Whoever is left reaches what it reached**, as far as that is left.  Nobody on the way to it is
    gone, because with them it would be gone as well. -/
theorem reaches_severed {before after : Registry} {gone : List Ident} {id : Ident}
    (h : before.Severed after gone) (hgone : ∀ x, x ∈ gone ↔ before.graph.Reaches id x)
    {x y : Ident} :
    after.graph.Reaches x y ↔
      x = y ∨ before.graph.Reaches x y ∧ ¬ before.graph.Reaches id y := by
  constructor
  · intro hpath
    induction hpath with
    | refl => exact .inl rfl
    | @tail y z _ hleads ih =>
      obtain ⟨hleads, -, hz⟩ := (leads_severed h).1 hleads
      refine .inr ⟨?_, fun hid => hz ((hgone z).2 hid)⟩
      rcases ih with rfl | ⟨hpath, -⟩
      · exact .single hleads
      · exact hpath.tail hleads
  · rintro (rfl | ⟨hpath, hleft⟩)
    · exact .refl
    · induction hpath with
      | refl => exact .refl
      | @tail y z _ hleads ih =>
        have hy : ¬ before.graph.Reaches id y := fun hid => hleft (hid.tail hleads)
        refine (ih hy).tail ((leads_severed h).2 ⟨hleads, ?_, ?_⟩)
        · exact fun hm => hy ((hgone y).1 hm)
        · exact fun hm => hleft ((hgone z).1 hm)

/-- **Destroying where there are no hooks.** -/
theorem destroyOne_hookless (hhooks : s.registry.hooks = ∅)
    (hdepth : s.registry.graph.nesting < engine.depth) (id : Ident) :
    ∃ gone t, (destroyOne engine id : Run ε Report) s = some (.ok {}, t) ∧
      (∀ x, x ∈ gone ↔ s.registry.graph.Reaches id x) ∧
      t.registry = { s.registry.without gone with graph := t.registry.graph } ∧
      (∀ x y, t.registry.graph.Reaches x y ↔
        x = y ∨ s.registry.graph.Reaches x y ∧ ¬ s.registry.graph.Reaches id y) ∧
      t.registry.graph.nesting < engine.depth ∧
      t.supply = s.supply ∧ t.callbacks = s.callbacks := by
  have hnone : ∀ x, s.registry.hooks.get? x = none := by
    rw [hhooks]
    exact fun _ => rfl
  have hleaves : engine.Leaves s.registry := fun x hook hhook =>
    nomatch (hnone x).symm.trans hhook
  have hready := Ready.of_leaves hleaves hdepth
  obtain ⟨w, t, hrun, -, hsteps, hdone, hreg⟩ := destroyOne_walk (ε := ε) hready id
  have hsound := hsteps.sound
  -- whatever was run was a hook
  have hnothing : w.endings = [] := by
    rw [← List.map_eq_nil_iff, hsound.firsts.disposed]
    refine List.filter_eq_nil_iff.2 fun x _ hx => ?_
    rw [Store.contains, hnone] at hx
    cases hx
  have hgone : ∀ x, x ∈ w.entered ↔ s.registry.graph.Reaches id x := by
    intro x
    rw [hsound.mem_entered_iff hdone]
    simp only [List.mem_singleton, exists_eq_left]
  obtain ⟨-, hsupply, hcallbacks⟩ := destroyWithin_silent engine.depth id s _ t hhooks hrun
  refine ⟨w.entered, t, ?_, hgone, ?_, ?_, ?_, hsupply, hcallbacks⟩
  · rw [hrun, hnothing]
    rfl
  · rw [hreg]
    exact hsound.books
  · intro x y
    rw [hreg]
    exact reaches_severed (hsound.severed hdone) hgone
  · rw [hreg]
    exact (hsteps.ready hready).nesting

end Destruction

end InstanceRegistry
