import InstanceRegistry.Proofs.Courses.Scripts
import InstanceRegistry.Proofs.Courses.Upkeep

/-!
  Every run is upkeep.

  Work UPHOLDS the graph and the hooks if whatever it does is upkeep, from whatever session it
  starts.  Almost every piece of work does, for the simple reason that it touches neither, and for
  those one rule per way of putting work together is all there is to say.

  Three kinds of work are looked into: what registers a hook, commands on the graph, and
  destruction.  A destruction is upkeep in a call that destroys, and its report lists the hooks that
  it ran (`Destruction.destroyWithin_upkeep`).

  Mathlib-free.
-/

namespace InstanceRegistry

/-- Whatever the work does is upkeep; no hook runs but in calls inside. -/
def Run.Upholds {ε α : Type} (work : Run ε α) : Prop :=
  ∀ s outcome t, work s = some (outcome, t) → Upkeep s t []

/-- Callbacks uphold the graph and the hooks in each of their roles; a hook starts as the upkeep of
    its disposal says. -/
structure Engine.Upholds (engine : Engine) : Prop where
  construct : ∀ make, (engine.construct make).Upholds
  expose : ∀ factory, (engine.expose factory).Upholds
  produce : ∀ step, (engine.produce step).Upholds
  process : ∀ processor product id, (engine.process processor product id).Upholds
  dispose : ∀ hook s outcome t, engine.dispose hook s = some (outcome, t) →
    Upkeep (s.note (hook.entry .disposal)) t []

/-- Two registries have the same graph and the same hooks. -/
structure Registry.Alike (r r' : Registry) : Prop where
  graph : r'.graph = r.graph
  hooks : r'.hooks = r.hooks

namespace Upkeep

variable {s t : Session}

/-- What leaves the graph and the hooks alone is upkeep. -/
theorem put {r : Registry} (h : s.registry.Alike r) : Upkeep s (s.put r) [] :=
  .apart h.graph h.hooks rfl

end Upkeep

/-! ## Rules -/

namespace Run.Upholds

variable {ε ε' α β : Type}

theorem conclude (outcome : Outcome ε α) : (Run.conclude outcome).Upholds := by
  intro s outcome' t h
  cases h
  exact .rest s

theorem pure (value : α) : (Pure.pure value : Run ε α).Upholds := conclude (.ok value)

theorem ofExcept (result : Except ε α) : (Run.ofExcept result).Upholds := conclude _

theorem fail (failure : ε) : (Run.fail failure : Run ε α).Upholds := conclude _

theorem unwind (payload : Panic) : (Run.unwind payload : Run ε α).Upholds := conclude _

theorem exhausted : (Run.exhausted : Run ε α).Upholds := by
  intro s outcome t h
  cases h

theorem read (f : Session → α) : (Run.read f : Run ε α).Upholds := by
  intro s outcome t h
  cases h
  exact .rest s

theorem bind {work : Run ε α} {next : α → Run ε β} (h : work.Upholds)
    (hnext : ∀ value, (next value).Upholds) : (work >>= next).Upholds := by
  intro s outcome u hrun
  rcases bind_inv hrun with ⟨value, t, hwork, hrest⟩ | ⟨failure, hwork, -⟩ | ⟨payload, hwork, -⟩
  · exact .next (h _ _ _ hwork) (hnext value _ _ _ hrest)
  · exact h _ _ _ hwork
  · exact h _ _ _ hwork

theorem registry_bind {next : Registry → Run ε β} (h : ∀ r, (next r).Upholds) :
    (Run.registry >>= next).Upholds :=
  bind (read _) h

theorem attempt {work : Run ε α} (h : work.Upholds) :
    (work.attempt : Run ε' (Outcome ε α)).Upholds := by
  intro s outcome t hrun
  obtain ⟨ending, hwork, -⟩ := attempt_inv hrun
  exact h _ _ _ hwork

theorem mapError {f : ε → ε'} {work : Run ε α} (h : work.Upholds) : (work.mapError f).Upholds := by
  intro s outcome t hrun
  obtain ⟨ending, hwork, -⟩ := mapError_inv hrun
  exact h _ _ _ hwork

theorem map {f : α → β} {work : Run ε α} (h : work.Upholds) :
    (work >>= fun value => Pure.pure (f value)).Upholds :=
  bind h fun _ => pure _

/-- A change of variables and the like. -/
theorem update {f : Session → Session} (hregistry : ∀ s, (f s).registry = s.registry)
    (hjournal : ∀ s, (f s).journal = s.journal) : (Run.update f : Run ε Unit).Upholds := by
  intro s outcome t h
  cases h
  exact .apart (congrArg Registry.graph (hregistry s)) (congrArg Registry.hooks (hregistry s))
    (hjournal s)

theorem fresh (label : Option String) : (Run.fresh label : Run ε Instance).Upholds := by
  intro s outcome t h
  cases h
  exact .apart rfl rfl rfl

theorem edit {f : Registry → Registry} (h : ∀ r : Registry, r.Alike (f r)) :
    (Run.edit f : Run ε Unit).Upholds := by
  intro s outcome t hrun
  cases hrun
  exact .put (h _)

theorem tryEdit {f : Registry → Except ε (α × Registry)}
    (h : ∀ {r : Registry} {value r'}, f r = .ok (value, r') → r.Alike r') : (Run.tryEdit f).Upholds := by
  intro s outcome t hrun
  rcases tryEdit_inv hrun with ⟨value, r, hf, -, rfl⟩ | ⟨failure, -, -, rfl⟩
  · exact .put (h hf)
  · exact .rest _

/-- A change of marks that may be refused. -/
theorem tryMarks (f : Marks → Except Failure Marks) :
    (Run.tryEdit fun r : Registry =>
      (f r.marks).map fun marks => ((), { r with marks })).Upholds := by
  refine tryEdit fun {r _ r'} h => ?_
  cases hmarks : f r.marks with
  | error failure =>
    rw [hmarks] at h
    cases h
  | ok marks =>
    rw [hmarks] at h
    cases h
    exact ⟨rfl, rfl⟩

theorem record {event : Event} (h : event.isPlain = true) :
    (Run.record event : Run ε Unit).Upholds := by
  intro s outcome t hrun
  cases hrun
  exact .note h

theorem report {notice : Notice} (h : (Event.noticed notice).isPlain = true) :
    (Run.report notice : Run ε Unit).Upholds :=
  record h

/-- A call that neither destroys nor registers a hook. -/
theorem noted {op : Op} {asStep : Bool} {answer : α → Answer Instance} {work : Run Failure α}
    (h : work.Upholds) (hdestroys : op.destroys = false) (hregisters : op.registersHook = false) :
    (Run.noted op asStep answer work).Upholds := by
  intro s outcome u hrun
  obtain ⟨t, hwork, rfl⟩ := noted_inv hrun
  have hhook : op.hook? s.registry = none := by
    cases op with
    | registerHook => cases hregisters
    | _ => rfl
  exact .call hdestroys hhook (h _ _ _ hwork)

end Run.Upholds

open Run (Upholds)

variable {engine : Engine}

/-! ## Creation -/

namespace Registry

variable {r r' : Registry}

theorem alike_offerFactory (id : Ident) (factory : Routine) : r.Alike (r.offerFactory id factory) := by
  rw [offerFactory]
  split <;> exact ⟨Eq.refl _, Eq.refl _⟩

theorem alike_storeProduct (id : Ident) (product : Instance) :
    r.Alike (r.storeProduct id product) := by
  rw [storeProduct]
  split <;> exact ⟨Eq.refl _, Eq.refl _⟩

theorem alike_commit {id : Ident} {made : Instance} (h : r.commit id made = .ok r') :
    r.Alike r' := by
  rw [commit] at h
  split at h
  · cases h
  · cases h
    exact ⟨Eq.refl _, Eq.refl _⟩

theorem alike_openCreation {id : Ident} {outermost : Bool}
    (h : r.openCreation id = .ok (outermost, r')) : r.Alike r' := by
  rw [openCreation] at h
  cases hmarks : r.marks.enter id with
  | error failure =>
    rw [hmarks] at h
    cases h
  | ok marks =>
    rw [hmarks] at h
    cases hbuffer : r.suppressed with
    | none | some _ =>
      simp only [hbuffer, Except.map] at h
      cases h
      exact ⟨Eq.refl _, Eq.refl _⟩

theorem alike_abandonCreation (outermost : Bool) (id : Ident) :
    r.Alike (r.abandonCreation outermost id) := by
  cases outermost <;> exact ⟨Eq.refl _, Eq.refl _⟩

end Registry

namespace Creation

/-- However a creation closes, it leaves the graph and the hooks alone. -/
theorem Closes.upkeep {id : Ident} {outermost : Bool} {t u : Session}
    {ending : Outcome Cause Instance} {outcome : Outcome Failure Instance}
    (h : Closes id outermost t ending outcome u) : Upkeep t u [] := by
  have habandon := Registry.alike_abandonCreation (r := t.registry) outermost id
  have hretract : t.registry.Alike ((t.registry.abandonCreation outermost id).retract id) :=
    ⟨habandon.graph, habandon.hooks⟩
  cases h with
  | stuck | occupied | unwound => exact .put habandon
  | bound _ hcommit =>
    have hbound := Registry.alike_commit hcommit
    exact .put ⟨hbound.graph.trans habandon.graph, hbound.hooks.trans habandon.hooks⟩
  | recovered _ => exact .next (.put hretract) (.note rfl)
  | failed _ _ => exact .put ⟨hretract.graph, hretract.hooks⟩
  | mismatched _ _ =>
    have hunlisted : t.registry.Alike
        (((t.registry.abandonCreation outermost id).retract id).unlist id) :=
      ⟨hretract.graph, hretract.hooks⟩
    exact .next (.put hunlisted) (.note rfl)

theorem exposeEarly_upholds (hengine : engine.Upholds) (id : Ident) (factory : Routine) :
    (exposeEarly engine id factory).Upholds := by
  refine .bind (.edit fun _ => ⟨rfl, rfl⟩) fun _ => ?_
  refine .bind (.mapError (hengine.expose factory)) fun early => ?_
  exact .bind (.report rfl) fun _ => .bind (.edit fun _ => ⟨rfl, rfl⟩) fun _ => .pure _

theorem lookup_upholds (hengine : engine.Upholds) (id : Ident) : (lookup engine id).Upholds := by
  refine .registry_bind fun r => ?_
  cases r.finished.get? id with
  | some found => exact .bind (.report rfl) fun _ => .pure _
  | none =>
    cases r.marks.isActive id with
    | false => exact .pure _
    | true =>
      cases r.early.get? id with
      | some early => exact .pure _
      | none =>
        cases r.config.earlyReferences with
        | false => exact .pure _
        | true =>
          cases r.factories.get? id with
          | none => exact .pure _
          | some factory => exact .map (exposeEarly_upholds hengine id factory)

theorem construct_upholds (hengine : engine.Upholds) (id : Ident) (make : Routine) :
    (construct engine id make).Upholds := by
  intro s outcome u h
  rcases construct_inv h with ⟨_, _, _, rfl⟩ | ⟨outermost, r, ending, t, hmark, hcallback, hclose⟩
  · exact .note rfl
  · have hannounced : Upkeep s (s.note (.noticed (.creating id))) [] := .note rfl
    have hopened : Upkeep (s.note (.noticed (.creating id)))
        ((s.note (.noticed (.creating id))).put r) [] := .put (Registry.alike_openCreation hmark)
    have hinside := hengine.construct make _ _ _ hcallback
    exact .next hannounced (.next hopened (.next hinside hclose.upkeep))

theorem getOrCreate_upholds (hengine : engine.Upholds) (id : Ident) (make : Routine) :
    (getOrCreate engine id make).Upholds := by
  intro s outcome u h
  rcases getOrCreate_inv h with ⟨_, _, _, rfl⟩ | ⟨_, ⟨_, _, rfl⟩ | ⟨_, h⟩⟩
  · exact .rest _
  · exact .rest _
  · exact construct_upholds hengine id make _ _ _ h

theorem registerInstance_upholds (id : Ident) (made : Instance) :
    (registerInstance id made).Upholds := by
  intro s outcome u h
  rcases registerInstance_inv h with ⟨r, _, _, hcommit, _, rfl⟩ | ⟨rfl, _⟩
  · exact .put (Registry.alike_commit hcommit)
  · exact .rest _

theorem suppress_upholds {ε : Type} (text : String) : (suppress text : Run ε Unit).Upholds := by
  intro s outcome t h
  rcases suppress_inv h with ⟨-, rfl⟩ | ⟨texts, -, ⟨-, rfl⟩ | ⟨-, rfl⟩⟩
  · exact .rest _
  · exact .put ⟨rfl, rfl⟩
  · exact .note rfl

end Creation

/-! ## Production -/

namespace Production

theorem produce_upholds (hengine : engine.Upholds) (id : Ident) (step : Routine) :
    (produce engine id step).Upholds := by
  refine .bind (.mapError (hengine.produce step)) fun product => ?_
  cases product with
  | some product => exact .pure _
  | none =>
    refine .registry_bind fun r => ?_
    cases r.marks.isActive id with
    | true => exact .fail _
    | false => exact .fresh none

theorem postProcess_upholds (hengine : engine.Upholds) (id : Ident) (product : Instance) :
    (postProcess engine id product).Upholds := by
  refine .registry_bind fun r => ?_
  cases r.postProcessor with
  | none => exact .pure _
  | some processor => exact .mapError (hengine.process processor product id)

theorem postProcessMarked_upholds (hengine : engine.Upholds) (id : Ident) (product : Instance) :
    (postProcessMarked engine id product).Upholds := by
  refine .bind (.tryMarks (·.enter id)) fun _ => ?_
  refine .bind (.attempt (postProcess_upholds hengine id product)) fun ending => ?_
  cases ending with
  | ok processed => exact .bind (.tryMarks (·.leave id)) fun _ => .pure _
  | error failure => exact .bind (.tryMarks (·.leave id)) fun _ => .fail _
  | panic payload => exact .bind (.edit fun _ => ⟨rfl, rfl⟩) fun _ => .unwind _

theorem keep_upholds (id : Ident) (product : Instance) : (keep id product).Upholds :=
  .bind (.edit fun _ => Registry.alike_storeProduct id product) fun _ => .pure _

theorem resolveShared_upholds (hengine : engine.Upholds) (id : Ident) (step : Routine)
    (post : Bool) : (resolveShared engine id step post).Upholds := by
  refine .registry_bind fun r => ?_
  cases r.products.get? id with
  | some kept => exact .pure _
  | none =>
    refine .bind (produce_upholds hengine id step) fun product => .registry_bind fun r => ?_
    cases r.products.get? id with
    | some kept => exact .pure _
    | none =>
      cases post with
      | false => exact keep_upholds id product
      | true =>
        cases r.marks.isActive id with
        | true => exact .bind (.report rfl) fun _ => .pure _
        | false =>
          exact .bind (postProcessMarked_upholds hengine id product) fun processed =>
            keep_upholds id processed

theorem resolve_upholds (hengine : engine.Upholds) (id : Ident) (step : Routine)
    (shared post : Bool) : (resolve engine id step shared post).Upholds := by
  refine .registry_bind fun r => ?_
  cases (shared && r.finished.contains id) with
  | true => exact resolveShared_upholds hengine id step post
  | false =>
    refine .bind (produce_upholds hengine id step) fun product => ?_
    cases post with
    | true => exact postProcess_upholds hengine id product
    | false => exact .pure _

theorem productType_upholds {ε : Type} (type : ProductType) :
    (productType type : Run ε (Option String)).Upholds := by
  cases type with
  | declared name => exact .pure _
  | failing text => exact .bind (.report rfl) fun _ => .pure _

end Production

/-! ## Destruction -/

theorem Report.disposed_append (r s : Report) : (r ++ s).disposed = r.disposed ++ s.disposed := rfl

namespace Destruction

variable {ε : Type}

/-- Registering a hook files it, and reports one that was there before. -/
theorem registerHook_eq (id : Ident) (hook : Routine) (s : Session) :
    (registerHook id hook : Run ε Unit) s = some (.ok (), s.keep id hook) := by
  rw [registerHook, Run.bind_ok (Run.registry_apply s), Run.bind_ok (Run.edit_put s _), Session.keep]
  cases s.registry.hooks.contains id <;> rfl

/-- The dependents of an identifier are detached, and reported at most. -/
theorem takeDependents_eq (id : Ident) (s : Session) :
    ∃ t, (takeDependents id : Run ε Roster) s = some (.ok (s.registry.graph.dependentsOf id), t) ∧
      Upkeep (s.put { s.registry with graph := (s.registry.graph.takeDependents id).2 }) t [] := by
  rw [takeDependents, Run.bind_ok (Run.transact_put s _)]
  cases hnone : (s.registry.graph.dependentsOf id).isEmpty with
  | true => exact ⟨_, by simp [Graph.takeDependents, hnone], .rest _⟩
  | false => exact ⟨_, by simp [Graph.takeDependents, hnone]; rfl, .note rfl⟩

/-- A hook is announced, runs to its end in whatever way, and is reported as run. -/
theorem dispose_upkeep (hengine : engine.Upholds) {id : Ident} {hook : Routine} {s t : Session}
    {report : Report} (h : dispose engine id hook s = some ((.ok report : Outcome ε Report), t)) :
    report.disposed = [id] ∧
      Upkeep ((s.note (.noticed (.disposing id))).note (hook.entry .disposal)) t [] := by
  rw [dispose, Run.bind_ok (Run.report_note s _)] at h
  obtain ⟨ending, u, hrun, hrest⟩ := Run.attempt_bind_inv h
  have hhook := hengine.dispose hook _ _ _ hrun
  cases ending with
  | ok _ =>
    cases hrest
    exact ⟨rfl, hhook⟩
  | error cause =>
    cases hrest
    exact ⟨rfl, .next hhook (.note rfl)⟩
  | panic payload =>
    cases hrest
    exact ⟨rfl, .next hhook (.note rfl)⟩

/-- What destroys one identifier after another is upkeep if what destroys each of them is. -/
theorem collect_upkeep {work : Ident → Run ε Report} (hsucceeds : ∀ id, Succeeds (work id))
    (hwork : ∀ id {s t : Session} {report : Report}, s.Doing Op.destroys →
      work id s = some (.ok report, t) → Upkeep s t report.disposed)
    (ids : List Ident) {s t : Session} {report : Report} (hdoing : s.Doing Op.destroys)
    (h : Run.collect work ids s = some (.ok report, t)) : Upkeep s t report.disposed := by
  induction ids generalizing s report with
  | nil =>
    cases h
    exact .rest _
  | cons id rest ih =>
    obtain ⟨first, u, hfirst, h⟩ := (hsucceeds id).bind_inv h
    obtain ⟨others, v, hothers, h⟩ := (Succeeds.collect hsucceeds rest).bind_inv h
    cases h
    have hone := hwork id hdoing hfirst
    exact .next hone (ih (hone.doing.2 hdoing) hothers)

/-- What is left of destroying an identifier when its hook had its turn. -/
theorem rest_upkeep {work : Ident → Run ε Report} (own : Report)
    (hsucceeds : ∀ id, Succeeds (work id))
    (hwork : ∀ id {s t : Session} {report : Report}, s.Doing Op.destroys →
      work id s = some (.ok report, t) → Upkeep s t report.disposed)
    {id : Ident} {before report : Report} {s u : Session} (hdoing : s.Doing Op.destroys)
    (h : (takeContained id >>= fun contained => Run.collect work contained >>= fun after =>
      Run.edit (fun r => { r with graph := r.graph.forget id }) >>= fun _ =>
      pure (before ++ own ++ after)) s = some (.ok report, u)) :
    ∃ after t, report = before ++ own ++ after ∧ Upkeep s t after.disposed ∧
      u = t.put { t.registry with graph := t.registry.graph.forget id } := by
  rw [takeContained, Run.bind_ok (Run.transact_put s _)] at h
  obtain ⟨after, t, hafter, h⟩ := (Succeeds.collect hsucceeds _).bind_inv h
  cases h
  have hreleased : Upkeep s
      (s.put { s.registry with graph := (s.registry.graph.takeContained id).2 }) [] :=
    .release hdoing
  exact ⟨after, t, rfl, .next hreleased (collect_upkeep hsucceeds hwork _ hdoing hafter), rfl⟩

/-- **Destroying one identifier is upkeep**, and the report lists the hooks that it ran. -/
theorem destroyWithin_upkeep (hengine : engine.Upholds) (depth : Nat) (id : Ident) {s u : Session}
    {report : Report} (hdoing : s.Doing Op.destroys)
    (h : destroyWithin engine depth id s = some ((.ok report : Outcome ε Report), u)) :
    Upkeep s u report.disposed := by
  induction depth generalizing id s u report with
  | zero => cases h
  | succ depth ih =>
    have hsucceeds : ∀ id, Succeeds (destroyWithin engine depth id : Run ε Report) :=
      succeeds_destroyWithin depth
    have hpurge : Upkeep s (s.put (s.registry.purge id)) [] := .put ⟨rfl, rfl⟩
    rw [destroyWithin, Run.bind_ok (Run.edit_put s _)] at h
    generalize s.put (s.registry.purge id) = p at hpurge h
    have hdoing : p.Doing Op.destroys := hpurge.doing.2 hdoing
    cases hhook : p.registry.hooks.get? id with
    | none =>
      rw [Run.bind_ok (takeHook_none hhook)] at h
      obtain ⟨s₂, hdependents, h₂⟩ := takeDependents_eq (ε := ε) id p
      rw [Run.bind_ok hdependents] at h
      obtain ⟨before, s₃, hbefore, h⟩ := (Succeeds.collect hsucceeds _).bind_inv h
      have hdoing₂ : s₂.Doing Op.destroys := h₂.doing.2 hdoing
      have h₃ := collect_upkeep hsucceeds (fun id => ih id) _ hdoing₂ hbefore
      obtain ⟨after, t, rfl, hafter, rfl⟩ :=
        rest_upkeep {} hsucceeds (fun id => ih id) (h₃.doing.2 hdoing₂) h
      rw [Report.disposed_append, Report.disposed_append]
      simpa using Upkeep.next hpurge (.detach hdoing (.next h₂ (.next h₃ hafter)))
    | some hook =>
      -- the dependents are detached after the hook is taken, which is as if it were done before
      rw [Run.bind_ok (takeHook_some hhook)] at h
      obtain ⟨s₂, hdependents, h₂⟩ := takeDependents_eq (ε := ε) id
        (p.put { p.registry with hooks := p.registry.hooks.erase id })
      rw [Run.bind_ok hdependents] at h
      obtain ⟨before, s₃, hbefore, h⟩ := (Succeeds.collect hsucceeds _).bind_inv h
      obtain ⟨own, s₄, hdispose, h⟩ := (succeeds_disposeIf id (some hook)).bind_inv h
      have hdoing₂ : s₂.Doing Op.destroys := h₂.doing.2 hdoing
      have h₃ := collect_upkeep hsucceeds (fun id => ih id) _ hdoing₂ hbefore
      obtain ⟨hown, h₄⟩ := dispose_upkeep hengine hdispose
      have hran := Upkeep.dispose (s := p.put { p.registry with
        graph := (p.registry.graph.takeDependents id).2 }) hdoing hhook (.next h₂ h₃) h₄
      obtain ⟨after, t, rfl, hafter, rfl⟩ :=
        rest_upkeep own hsucceeds (fun id => ih id) (hran.doing.2 hdoing) h
      rw [Report.disposed_append, Report.disposed_append, hown]
      simpa using Upkeep.next hpurge (.detach hdoing (.next hran hafter))

/-- Finishing drops what is left, hooks included, and reports these. -/
theorem finish_upkeep (s : Session) :
    ∃ t, (finish : Run ε Unit) s = some (.ok (), t) ∧ Upkeep s t [] := by
  rw [finish, Run.bind_ok (Run.registry_apply s), Run.bind_ok (Run.edit_put s _)]
  cases hnone : s.registry.hooks.isEmpty with
  | true =>
    have hhooks : s.registry.hooks = ∅ := Store.ext (List.isEmpty_iff.1 hnone)
    refine ⟨_, rfl, .next (.graph .clear) (.apart rfl ?_ rfl)⟩
    exact hhooks.symm
  | false => exact ⟨_, rfl, .next (.empty s) (.put ⟨rfl, rfl⟩)⟩

/-- **Destroying the whole registry is upkeep**, and the report lists the hooks that it ran. -/
theorem destroyAll_upkeep (hengine : engine.Upholds) {s v : Session} {report : Report}
    (hdoing : s.Doing Op.destroys)
    (h : destroyAll engine s = some ((.ok report : Outcome ε Report), v)) :
    Upkeep s v report.disposed := by
  rw [destroyAll, Run.bind_ok (Run.registry_apply s)] at h
  by_cases hactive : s.registry.lifecycle = .active
  · rw [if_pos hactive, Run.bind_ok (Run.edit_put s _), Run.bind_ok (Run.report_note _ _)] at h
    have hsucceeds : ∀ id, Succeeds (destroyOne engine id : Run ε Report) :=
      succeeds_destroyWithin engine.depth
    obtain ⟨found, t, hwork, h⟩ := (Succeeds.collect hsucceeds _).bind_inv h
    have halike : s.registry.Alike { s.registry with lifecycle := .destroying } := ⟨rfl, rfl⟩
    have hclosed : Upkeep s (begin s) [] := .next (.put halike) (.note rfl)
    have hhooks := collect_upkeep hsucceeds
      (fun id => destroyWithin_upkeep hengine engine.depth id) _ (hclosed.doing.2 hdoing) hwork
    obtain ⟨u, hfinish, hfinished⟩ := finish_upkeep (ε := ε) t
    rw [Run.bind_ok hfinish] at h
    have hall : Upkeep s u found.disposed := by
      simpa using Upkeep.next hclosed (.next hhooks hfinished)
    cases hclean : found.isClean with
    | true =>
      rw [hclean] at h
      cases h
      exact hall
    | false =>
      rw [hclean] at h
      cases h
      have hsaid : Upkeep u (u.note (.noticed (.unclean report.failures.length))) [] := .note rfl
      have hended := Upkeep.next hall hsaid
      rwa [List.append_nil] at hended
  · rw [if_neg hactive, Run.bind_ok (Run.report_note _ _)] at h
    cases h
    exact .note rfl

/-- Ending the registry is the same but for a notice. -/
theorem shutdown_upkeep (hengine : engine.Upholds) {s t : Session} {report : Report}
    (hdoing : s.Doing Op.destroys)
    (h : shutdown engine s = some ((.ok report : Outcome ε Report), t)) :
    Upkeep s t report.disposed := by
  rw [shutdown, Run.bind_ok (Run.report_note _ _)] at h
  have hsaid : Upkeep s (s.note (.noticed .shuttingDown)) [] := .note rfl
  exact .next hsaid (destroyAll_upkeep hengine (hsaid.doing.2 hdoing) h)

theorem succeeds_destroyAll : Succeeds (destroyAll engine : Run ε Report) := by
  intro s outcome t h
  rcases destroyAll_inv h with ⟨-, hend, -⟩ | ⟨-, report, _, _, -, hend, -⟩
  · exact ⟨_, hend⟩
  · exact ⟨report, hend⟩

end Destruction

/-! ## Operations -/

namespace Operations

theorem canonical_upholds {ε : Type} (id : Ident) : (canonical id : Run ε Ident).Upholds := .read _

theorem accept_upholds (id : Ident) : (accept id).Upholds := .registry_bind fun _ => .ofExcept _

/-- A command on the graph, whatever it answers. -/
theorem onGraph_upholds {ε : Type} (command : Graph.Command) :
    (onGraph command : Run ε (Answer Instance)).Upholds := by
  intro s outcome t h
  cases h
  have hgraph : ∀ c : Graph.Command, (@Graph.run Instance s.registry.graph c).2 =
      (@Graph.run Unit s.registry.graph c).2 := fun c => by cases c <;> rfl
  have hupkeep := Upkeep.graph (s := s) (command.rename s.registry.canonical)
  rw [← hgraph] at hupkeep
  exact hupkeep

theorem addDependencies_upholds (id : Ident) (dependencies : List Ident) :
    (addDependencies id dependencies).Upholds := by
  induction dependencies with
  | nil => exact .pure _
  | cons dependency rest ih =>
    refine .bind (accept_upholds dependency) fun dependency => .registry_bind fun r => ?_
    cases r.graph.isDependent id dependency with
    | true => exact .fail _
    | false =>
      have hadd : (Run.edit (fun r : Registry =>
          { r with graph := r.graph.addDependency dependency id }) : Run Failure Unit).Upholds := by
        intro s outcome t h
        cases h
        exact .graph (.addDependency dependency id)
      exact .bind hadd fun _ => ih

theorem create_upholds (hengine : engine.Upholds) (request : Request) (make : Routine) :
    (create engine request make).Upholds := by
  refine .bind (accept_upholds request.id) fun id => ?_
  have hrest : (addDependencies id request.dependsOn >>= fun _ =>
      Creation.getOrCreate engine id make).Upholds :=
    .bind (addDependencies_upholds id _) fun _ => Creation.getOrCreate_upholds hengine id make
  cases request.excluded with
  | true => exact .bind (.edit fun _ => ⟨rfl, rfl⟩) fun _ => hrest
  | false => exact hrest

theorem onAliases_upholds (command : AliasTable.Command) : (onAliases command).Upholds := by
  cases command with
  | register name nick =>
    refine .registry_bind fun r => .bind (.ofExcept _) fun decision => ?_
    refine .bind ?_ fun _ => .bind (.edit fun _ => ⟨rfl, rfl⟩) fun _ => .pure _
    cases decision with
    | bind => exact .report rfl
    | release | keep => exact .pure _
  | _ => exact .registry_bind fun _ => .bind (.edit fun _ => ⟨rfl, rfl⟩) fun _ => .ofExcept _

theorem change_upholds (c : Change) : (change c).Upholds := by
  cases c with
  | clear => exact .edit fun _ => ⟨rfl, rfl⟩
  | clearMarks =>
    have hclear : ∀ r : Registry, r.Alike { r with marks := r.marks.clear } := fun _ => ⟨rfl, rfl⟩
    exact .edit hclear
  | suppress text => exact Creation.suppress_upholds text
  | remove id | setExcluded id value | setChecked id value =>
    exact .bind (canonical_upholds id) fun _ => .edit fun _ => ⟨rfl, rfl⟩
  | enter id => exact .bind (canonical_upholds id) fun id => .tryMarks (·.enter id)
  | leave id => exact .bind (canonical_upholds id) fun id => .tryMarks (·.leave id)

theorem get_upholds (hengine : engine.Upholds) (id : Ident) : (get engine id).Upholds :=
  .bind (canonical_upholds id) fun id => Creation.lookup_upholds hengine id

theorem getOrCreate_upholds (hengine : engine.Upholds) (id : Ident) (make : Routine) :
    (getOrCreate engine id make).Upholds :=
  .bind (accept_upholds id) fun id => Creation.getOrCreate_upholds hengine id make

theorem registerInstance_upholds (id : Ident) (made : Instance) :
    (registerInstance id made).Upholds :=
  .bind (accept_upholds id) fun id => Creation.registerInstance_upholds id made

theorem registerFactory_upholds (id : Ident) (factory : Routine) :
    (registerFactory id factory).Upholds :=
  .bind (accept_upholds id) fun id => .edit fun _ => Registry.alike_offerFactory id factory

theorem resolveProduct_upholds (hengine : engine.Upholds) (id : Ident) (step : Routine)
    (shared post : Bool) : (resolveProduct engine id step shared post).Upholds :=
  .bind (accept_upholds id) fun id => Production.resolve_upholds hengine id step shared post

/-- A call that registers a hook keeps it, or is refused and keeps none. -/
theorem registerHook_upkeep {id : Ident} {hook : Routine} {asStep : Bool} {s t : Session}
    {outcome : Outcome Failure Unit}
    (h : registerHook id hook (s.note (.began (.registerHook id hook))) = some (outcome, t)) :
    Upkeep s (t.note (.done (.registerHook id hook) asStep (outcome.map fun _ => .unit))) [] := by
  rw [registerHook] at h
  cases haccept : (s.note (.began (.registerHook id hook))).registry.accept id with
  | error failure =>
    rw [Run.bind_error (accept_eq haccept)] at h
    cases h
    have hnone : (Op.registerHook id hook).hook? s.registry = none := by
      rw [Op.hook?, ← s.registry_note, haccept]
      rfl
    exact .call rfl hnone (.rest _)
  | ok accepted =>
    rw [Run.bind_ok (accept_eq haccept), Destruction.registerHook_eq] at h
    cases h
    have hkept : (Op.registerHook id hook).hook? s.registry = some (accepted, hook) := by
      rw [Op.hook?, ← s.registry_note, haccept]
      rfl
    exact .keep hkept

end Operations

/-! ## Operations inside operations -/

namespace Inner

theorem get_upholds (hengine : engine.Upholds) (id : Ident) : (get engine id).Upholds :=
  .noted (Operations.get_upholds hengine id) rfl rfl

theorem getOrCreate_upholds (hengine : engine.Upholds) (id : Ident) (make : Routine) :
    (getOrCreate engine id make).Upholds :=
  .noted (Operations.getOrCreate_upholds hengine id make) rfl rfl

theorem registerFactory_upholds (id : Ident) (factory : Routine) :
    (registerFactory id factory).Upholds :=
  .noted (Operations.registerFactory_upholds id factory) rfl rfl

theorem registerHook_upholds (id : Ident) (hook : Routine) : (registerHook id hook).Upholds := by
  intro s outcome u h
  obtain ⟨t, hwork, rfl⟩ := Run.noted_inv h
  exact Operations.registerHook_upkeep hwork

theorem addDependency_upholds (dependency dependent : Ident) :
    (addDependency dependency dependent).Upholds :=
  .bind (.noted (Operations.onGraph_upholds _) rfl rfl) fun _ => .pure _

theorem suppress_upholds (text : String) : (suppress text).Upholds :=
  .noted (Operations.change_upholds _) rfl rfl

end Inner

/-! ## Assembling components and asking at once -/

namespace Assembly

theorem supply_upholds (hengine : engine.Upholds) (id need : Ident) :
    (supply engine id need).Upholds := by
  have hgiven : ∀ given, (Run.record (.wired id need given) >>= fun _ =>
      Inner.addDependency need id).Upholds :=
    fun given => .bind (.record rfl) fun _ => Inner.addDependency_upholds need id
  refine .bind (Inner.get_upholds hengine need) fun there => ?_
  cases there with
  | some there => exact .bind (.pure there) hgiven
  | none => exact .bind (Inner.getOrCreate_upholds hengine need (.assembly need)) hgiven

theorem supplyNeeds_upholds (hengine : engine.Upholds) (id : Ident) (needs : List Ident) :
    (supplyNeeds engine id needs).Upholds := by
  induction needs with
  | nil => exact .pure _
  | cons need rest ih => exact .bind (supply_upholds hengine id need) fun _ => ih

theorem supplyWishes_upholds (hengine : engine.Upholds) (id : Ident) (wishes : List Ident) :
    (supplyWishes engine id wishes).Upholds := by
  induction wishes with
  | nil => exact .pure _
  | cons wish rest ih =>
    refine .bind (.attempt (supply_upholds hengine id wish)) fun ending => ?_
    cases ending with
    | ok _ => exact ih
    | error failure => exact .bind (Inner.suppress_upholds failure.message) fun _ => ih
    | panic payload => exact .unwind payload

theorem furnish_upholds (hengine : engine.Upholds) (component : Component) (id : Ident)
    (me : Instance) : (furnish engine component id me).Upholds := by
  have hannounce : (announce component id me).Upholds := by
    rw [announce]
    split
    · exact Inner.registerFactory_upholds id _
    · exact .pure _
  have hattach : (attach component id).Upholds := by
    rw [attach]
    split
    · exact .pure _
    · exact Inner.registerHook_upholds id _
  refine .bind hannounce fun _ => .bind hattach fun _ => ?_
  exact .bind (supplyNeeds_upholds hengine id _) fun _ => supplyWishes_upholds hengine id _

theorem assemble_upholds (hengine : engine.Upholds) (id : Ident) :
    (assemble engine id).Upholds := by
  refine .bind (.read _) fun component => ?_
  cases component with
  | none => exact .fail _
  | some component =>
    refine .bind (.fresh _) fun me => ?_
    refine .bind (.mapError (furnish_upholds hengine component id me)) fun _ => ?_
    cases component.fault with
    | none => exact .pure _
    | some text => exact .fail _

end Assembly

namespace Contention

theorem callers_upholds {ε : Type} (hengine : engine.Upholds) (id : Ident) (settles : List Settle)
    (tally : Tally) (seen : List Instance) :
    (callers engine id settles tally seen : Run ε _).Upholds := by
  induction settles generalizing tally seen with
  | nil => exact .pure _
  | cons settle rest ih =>
    refine .bind (.attempt ?_) fun _ => ih _ _
    exact Inner.getOrCreate_upholds hengine id (.contender id settle)

theorem race_upholds {ε : Type} (hengine : engine.Upholds) (id : Ident) (settles : List Settle) :
    (race engine id settles : Run ε Tally).Upholds :=
  .bind (.read _) fun _ => .bind (callers_upholds hengine id settles _ _) fun _ =>
    .bind (.read _) fun _ => .pure _

end Contention

/-! ## Carrying an operation out -/

namespace Op

/-- An operation that destroys ends with a report of the hooks that it ran. -/
theorem run_destroys (hengine : engine.Upholds) {op : Op} (hop : op.destroys = true)
    {s t : Session} {outcome : Outcome Failure (Answer Instance)}
    (h : op.run engine (s.note (.began op)) = some (outcome, t)) :
    ∃ report, outcome = .ok (.report report) ∧
      Upkeep (s.note (.began op)) t report.disposed := by
  have hdoing : (s.note (.began op)).Doing Op.destroys := (s.begins_note op).doing hop
  cases op with
  | destroyOne id =>
    obtain ⟨ending, hwork, rfl⟩ := Run.map_inv h
    rw [Operations.destroyOne, Operations.canonical, Run.bind_ok (Run.read_apply _ _)] at hwork
    obtain ⟨report, rfl⟩ := Destruction.succeeds_destroyWithin _ _ _ _ _ hwork
    exact ⟨report, rfl, Destruction.destroyWithin_upkeep hengine _ _ hdoing hwork⟩
  | destroyAll =>
    obtain ⟨ending, hwork, rfl⟩ := Run.map_inv h
    obtain ⟨report, rfl⟩ := Destruction.succeeds_destroyAll _ _ _ hwork
    exact ⟨report, rfl, Destruction.destroyAll_upkeep hengine hdoing hwork⟩
  | shutdown =>
    obtain ⟨ending, hwork, rfl⟩ := Run.map_inv h
    obtain ⟨report, rfl⟩ := Destruction.Succeeds.bind (Destruction.succeeds_report _)
      (fun _ => Destruction.succeeds_destroyAll) _ _ _ hwork
    exact ⟨report, rfl, Destruction.shutdown_upkeep hengine hdoing hwork⟩
  | _ => cases hop

/-- An operation that neither destroys nor registers a hook upholds the graph and the hooks. -/
theorem run_upholds (hengine : engine.Upholds) {op : Op} (hdestroys : op.destroys = false)
    (hregisters : op.registersHook = false) : (op.run engine).Upholds := by
  cases op with
  | ask query => exact .read _
  | change c => exact .map (Operations.change_upholds c)
  | graph command => exact Operations.onGraph_upholds command
  | aliases command => exact Operations.onAliases_upholds command
  | make label => exact .map (.fresh _)
  | get id => exact .map (Operations.get_upholds hengine id)
  | getLater id => exact .map (.update (fun _ => rfl) fun _ => rfl)
  | getOrCreate id make => exact .map (Operations.getOrCreate_upholds hengine id make)
  | create request make => exact .map (Operations.create_upholds hengine request make)
  | registerInstance id source =>
    have hsource : (Op.source id source).Upholds := by
      cases source with
      | fresh label => exact .map (.fresh _)
      | recalled name => exact .read _
    refine .bind hsource fun made => ?_
    cases made with
    | none => exact .pure _
    | some made => exact .map (Operations.registerInstance_upholds id made)
  | registerFactory id factory => exact .map (Operations.registerFactory_upholds id factory)
  | resolveProduct id step shared post =>
    exact .map (Operations.resolveProduct_upholds hengine id step shared post)
  | productType type => exact .map (Production.productType_upholds type)
  | wire id => exact .map (Inner.getOrCreate_upholds hengine id (.assembly id))
  | race id number settle => exact .map (Contention.race_upholds hengine id _)
  | registerHook => cases hregisters
  | destroyOne | destroyAll | shutdown => cases hdestroys

/-- **A call of any operation is upkeep.** -/
theorem noted_upholds (hengine : engine.Upholds) (op : Op) (asStep : Bool) :
    (Run.noted op asStep id (op.run engine)).Upholds := by
  intro s outcome u h
  cases hdestroys : op.destroys with
  | true =>
    obtain ⟨t, hwork, rfl⟩ := Run.noted_inv h
    obtain ⟨report, rfl, hinside⟩ := run_destroys hengine hdestroys hwork
    exact .destroy hdestroys hinside
  | false =>
    cases hregisters : op.registersHook with
    | false =>
      exact Upholds.noted (run_upholds hengine hdestroys hregisters) hdestroys hregisters _ _ _ h
    | true =>
      cases op with
      | registerHook id hook =>
        obtain ⟨t, hwork, rfl⟩ := Run.noted_inv h
        obtain ⟨ending, hregister, rfl⟩ := Run.map_inv hwork
        rw [Outcome.map_id]
        exact Operations.registerHook_upkeep hregister
      | _ => cases hregisters

end Op

/-! ## Steps and routines -/

namespace Settle

theorem yield_upholds (id : Ident) (passed : Option Instance) (settle : Settle) :
    (settle.yield id passed).Upholds := by
  cases settle with
  | fail text => exact .fail _
  | panic payload => exact .unwind payload
  | wrap title =>
    cases passed with
    | some p => exact .bind (.read _) fun _ => .fresh _
    | none => exact .fresh _
  | same =>
    cases passed with
    | some p => exact .pure _
    | none => exact .fresh _
  | fresh label => exact .fresh _
  | nothing => exact .fresh _
  | _ =>
    -- what a variable holds
    refine .bind (.read _) fun held => ?_
    cases held with
    | some held => exact .pure _
    | none => exact .fail _

theorem produce_upholds (id : Ident) (settle : Settle) : (settle.produce id).Upholds := by
  cases settle with
  | nothing => exact .pure _
  | _ => exact .map (yield_upholds id none _)

end Settle

namespace Step

theorem bind_upholds {ε : Type} (binding : Option String) (answer : Answer Instance) :
    (bind binding answer : Run ε Unit).Upholds := by
  unfold bind
  split
  · exact .update (fun _ => rfl) fun _ => rfl
  · exact .update (fun _ => rfl) fun _ => rfl
  · exact .pure _

theorem take_upholds (hengine : engine.Upholds) (step : Step) : (step.take engine).Upholds := by
  obtain ⟨op, must, binding⟩ := step
  refine .bind (.attempt (Op.noted_upholds hengine op true)) fun ending => ?_
  cases ending with
  | ok answer => exact bind_upholds binding answer
  | error failure =>
    cases must with
    | true => exact .fail _
    | false => exact .pure _
  | panic payload =>
    cases must with
    | true => exact .unwind payload
    | false => exact .pure _

theorem takeAll_upholds (hengine : engine.Upholds) (steps : List Step) :
    (takeAll engine steps).Upholds := by
  induction steps with
  | nil => exact .pure _
  | cons first rest ih => exact .bind (take_upholds hengine first) fun _ => ih

end Step

namespace Routine

/-- A routine that was entered is upkeep. -/
theorem run_upkeep (hengine : engine.Upholds) (role : Role) (routine : Routine) {s t : Session}
    {outcome : Outcome Cause Instance} (h : routine.run engine role s = some (outcome, t)) :
    Upkeep (s.note (routine.entry role)) t [] := by
  cases routine with
  | scripted id body settle =>
    rw [run, Run.bind_ok (Run.record_note s _)] at h
    exact Upholds.bind (Step.takeAll_upholds hengine body)
      (fun _ => Settle.yield_upholds id none settle) _ _ _ h
  | contender id settle =>
    rw [run, Run.bind_ok (Run.record_note s _)] at h
    exact Settle.yield_upholds id none settle _ _ _ h
  | assembly id =>
    rw [run, Run.bind_ok (Run.record_note s _)] at h
    exact Assembly.assemble_upholds hengine id _ _ _ h
  | handover id held =>
    cases h
    exact .rest _

theorem run_upholds (hengine : engine.Upholds) (role : Role) (routine : Routine) :
    (routine.run engine role).Upholds := by
  intro s outcome t h
  have hentered : Upkeep s (s.note (routine.entry role)) [] := .note (isPlain_entry role routine)
  exact .next hentered (run_upkeep hengine role routine h)

theorem produce_upholds (hengine : engine.Upholds) (routine : Routine) :
    (routine.produce engine).Upholds := by
  cases routine with
  | scripted id body settle =>
    refine .bind (.record rfl) fun _ => ?_
    exact .bind (Step.takeAll_upholds hengine body) fun _ => Settle.produce_upholds id settle
  | _ => exact .map (run_upholds hengine .production _)

theorem process_upholds (hengine : engine.Upholds) (routine : Routine) (product : Instance)
    (id : Ident) : (routine.process engine product id).Upholds := by
  cases routine with
  | scripted _ body settle =>
    refine .bind (.record rfl) fun _ => ?_
    exact .bind (Step.takeAll_upholds hengine body) fun _ =>
      Settle.yield_upholds id (some product) settle
  | contender name settle => exact run_upholds hengine .postProcessing (.contender name settle)
  | assembly name => exact run_upholds hengine .postProcessing (.assembly name)
  | handover name held => exact run_upholds hengine .postProcessing (.handover name held)

end Routine

/-! ## Engines and scripts -/

/-- **Callbacks uphold the graph and the hooks**, however deep they nest. -/
theorem upholds_ofDepth (depth : Nat) : (Engine.ofDepth depth).Upholds := by
  induction depth with
  | zero =>
    exact ⟨fun _ => .exhausted, fun _ => .exhausted, fun _ => .exhausted,
      fun _ _ _ => .exhausted, fun _ _ _ _ h => absurd h (Option.some_ne_none _).symm⟩
  | succ depth ih =>
    exact
      { construct := fun make => Routine.run_upholds ih .construction make
        expose := fun factory => Routine.run_upholds ih .earlyFactory factory
        produce := fun step => Routine.produce_upholds ih step
        process := fun processor product id => Routine.process_upholds ih processor product id
        dispose := fun hook s _ _ h => by
          obtain ⟨_, hrun, -⟩ := Run.map_inv h
          exact Routine.run_upkeep ih .disposal hook hrun }

namespace Script

theorem fetchWaiting_upholds (hengine : engine.Upholds) (waiting : List Ident) :
    (fetchWaiting engine waiting).Upholds := by
  induction waiting with
  | nil => exact .pure _
  | cons id rest ih =>
    exact .bind (.attempt (Inner.get_upholds hengine id)) fun _ => .bind (.record rfl) fun _ => ih

theorem takeStep_upholds (hengine : engine.Upholds) (step : Step) :
    (takeStep engine step).Upholds := by
  refine .bind (.attempt (Step.take_upholds hengine step)) fun _ => .bind (.read _) fun waiting => ?_
  refine .bind (.update (fun _ => rfl) fun _ => rfl) fun _ => ?_
  exact .bind (fetchWaiting_upholds hengine waiting) fun _ => .conclude _

theorem takeSteps_upholds (hengine : engine.Upholds) (steps : List Step) :
    (takeSteps engine steps).Upholds := by
  induction steps with
  | nil => exact .pure _
  | cons first rest ih => exact .bind (takeStep_upholds hengine first) fun _ => ih

/-- **Every script is upkeep** from its start to its end. -/
theorem upkeep {script : Script} {depth : Nat} {outcome : Outcome Cause Unit} {s : Session}
    (h : script.runWithin depth = some (outcome, s)) : Upkeep script.start s [] :=
  takeSteps_upholds (upholds_ofDepth depth) script.steps script.start _ _ h

end Script

end InstanceRegistry
