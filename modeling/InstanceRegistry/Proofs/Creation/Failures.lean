import InstanceRegistry.Proofs.Creation.Requests

/-!
  What operations fail with.

  Work FAILS in a certain way if every failure it can end with is as described, given the session it
  leaves.  There is one rule for each way of putting work together.  Lookups and productions hand on
  few failures: those of callbacks, wrapped, and a handful of their own.  So whoever wants to know
  something about all of them has to show it of these.

  Mathlib-free.
-/

namespace InstanceRegistry

/-- Whatever work fails with is as described, in the session that it leaves. -/
def Run.Fails {α : Type} (P : Session → Failure → Prop) (work : Run Failure α) (s : Session) :
    Prop :=
  ∀ failure t, work s = some (.error failure, t) → P t failure

/-! ## Rules -/

namespace Run.Fails

variable {α β : Type} {P : Session → Failure → Prop} {s : Session}

theorem of_ok {work : Run Failure α} (h : ∀ outcome t, work s = some (outcome, t) →
    ∃ value, outcome = .ok value) : work.Fails P s := by
  intro failure t hrun
  obtain ⟨value, hvalue⟩ := h _ _ hrun
  cases hvalue

theorem pure (value : α) : (Pure.pure value : Run Failure α).Fails P s := by
  intro failure t h
  cases h

theorem update (f : Session → Session) : (Run.update f : Run Failure Unit).Fails P s := by
  intro failure t h
  cases h

theorem read (f : Session → α) : (Run.read f : Run Failure α).Fails P s := by
  intro failure t h
  cases h

theorem fresh (label : Option String) : (Run.fresh label).Fails P s := by
  intro failure t h
  cases h

theorem fail {failure : Failure} (h : P s failure) :
    (Run.fail failure : Run Failure α).Fails P s := by
  intro failure' t hrun
  cases hrun
  exact h

theorem bind {work : Run Failure α} {next : α → Run Failure β} (h : work.Fails P s)
    (hnext : ∀ value t, (next value).Fails P t) : (work >>= next).Fails P s := by
  intro failure u hrun
  rcases bind_inv hrun with ⟨value, t, -, hrest⟩ | ⟨failure', hwork, heq⟩ | ⟨payload, -, hno⟩
  · exact hnext value t _ _ hrest
  · cases heq
    exact h _ _ hwork
  · cases hno

theorem registry_bind {next : Registry → Run Failure β} (h : (next s.registry).Fails P s) :
    (Run.registry >>= next).Fails P s := by
  intro failure t hrun
  rw [bind_ok (registry_apply s)] at hrun
  exact h _ _ hrun

/-- What a callback fails with is wrapped. -/
theorem mapError {ε : Type} {f : ε → Failure} {work : Run ε α} (h : ∀ cause t, P t (f cause)) :
    (work.mapError f).Fails P s := by
  intro failure t hrun
  obtain ⟨ending, -, heq⟩ := mapError_inv hrun
  cases ending with
  | error cause =>
    cases heq
    exact h cause t
  | ok _ | panic _ => cases heq

end Run.Fails

open Run (Fails)

variable {engine : Engine} {P : Session → Failure → Prop} {id : Ident}

/-! ## Operations -/

/-- What is not accepted is refused. -/
theorem Operations.accept_fails (hrefusal : ∀ t failure, failure.isRefusal = true → P t failure)
    (s : Session) : (accept id).Fails P s := by
  intro failure t h
  rcases s.registry.accept_inv id with haccept | ⟨failure', haccept, hrefused⟩
  · rw [accept_eq haccept] at h
    cases h
  · rw [accept_eq haccept] at h
    cases h
    exact hrefusal _ failure hrefused

/-- A lookup fails with what an early factory failed with. -/
theorem Creation.lookup_fails (hfactory : ∀ cause t, P t (.construction id cause []))
    (s : Session) : (lookup engine id).Fails P s := by
  refine .registry_bind ?_
  cases s.registry.finished.get? id with
  | some found => exact .bind (.update _) fun _ _ => .pure _
  | none =>
    cases s.registry.marks.isActive id with
    | false => exact .pure _
    | true =>
      cases s.registry.early.get? id with
      | some early => exact .pure _
      | none =>
        cases s.registry.config.earlyReferences with
        | false => exact .pure _
        | true =>
          cases s.registry.factories.get? id with
          | none => exact .pure _
          | some factory =>
            have hexpose : (exposeEarly engine id factory).Fails P s := by
              refine .bind (.update _) fun _ _ => .bind (.mapError hfactory) fun _ _ => ?_
              exact .bind (.update _) fun _ _ => .bind (.update _) fun _ _ => .pure _
            exact .bind hexpose fun _ _ => .pure _

namespace Production

/-- A step fails with what its callback failed with, or for want of a product. -/
theorem produce_fails {step : Routine} (hstep : ∀ cause t, P t (.construction id cause []))
    (hnull : ∀ t, P t (.nullProduction id)) (s : Session) : (produce engine id step).Fails P s := by
  refine .bind (.mapError hstep) fun product t => ?_
  cases product with
  | some product => exact .pure _
  | none =>
    refine .registry_bind ?_
    cases t.registry.marks.isActive id with
    | true => exact .fail (hnull t)
    | false => exact .fresh none

theorem postProcess_fails {product : Instance}
    (hprocessor : ∀ cause t, P t (.postProcessing id cause)) (s : Session) :
    (postProcess engine id product).Fails P s := by
  refine .registry_bind ?_
  cases s.registry.postProcessor with
  | none => exact .pure _
  | some processor => exact .mapError hprocessor

theorem keep_fails {product : Instance} (s : Session) : (keep id product).Fails P s :=
  .bind (.update _) fun _ _ => .pure _

/-- A shared product fails as its step does, or as the processing under the mark. -/
theorem resolveShared_fails {step : Routine} {post : Bool}
    (hproduce : ∀ t, (produce engine id step).Fails P t)
    (hmarked : ∀ product t, (postProcessMarked engine id product).Fails P t) (s : Session) :
    (resolveShared engine id step post).Fails P s := by
  refine .registry_bind ?_
  cases s.registry.products.get? id with
  | some kept => exact .pure _
  | none =>
    refine .bind (hproduce s) fun product t => .registry_bind ?_
    cases t.registry.products.get? id with
    | some kept => exact .pure _
    | none =>
      cases post with
      | false => exact keep_fails t
      | true =>
        cases t.registry.marks.isActive id with
        | true => exact .bind (.update _) fun _ _ => .pure _
        | false => exact .bind (hmarked product t) fun _ u => keep_fails u

theorem resolve_fails {step : Routine} {shared post : Bool}
    (hproduce : ∀ t, (produce engine id step).Fails P t)
    (hpost : ∀ product t, (postProcess engine id product).Fails P t)
    (hmarked : ∀ product t, (postProcessMarked engine id product).Fails P t) (s : Session) :
    (resolve engine id step shared post).Fails P s := by
  refine .registry_bind ?_
  cases (shared && s.registry.finished.contains id) with
  | true => exact resolveShared_fails hproduce hmarked s
  | false =>
    refine .bind (hproduce s) fun product t => ?_
    cases post with
    | true => exact hpost product t
    | false => exact .pure _

end Production

end InstanceRegistry
