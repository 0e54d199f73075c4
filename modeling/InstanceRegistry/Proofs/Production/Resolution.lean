import InstanceRegistry.Proofs.Courses.OnCourse
import InstanceRegistry.Proofs.Courses.Preparing
import InstanceRegistry.Proofs.Marks

/-!
  How a product is resolved, part by part.

  A request MAY SHARE if it asks for a shared product and its identifier is finished.  Then it is
  answered with the product that is kept, or it has one made and keeps it.  Every other request has
  one made that is not kept.  What follows says how each part of this goes on, once it is known
  how the callback in it ended.

  Mathlib-free.
-/

namespace InstanceRegistry

/-- A request may be answered with the product that is kept for an identifier. -/
def Registry.MayShare (r : Registry) (shared : Bool) (id : Ident) : Prop :=
  shared = true ∧ id ∈ r.finished.keys

instance (r : Registry) (shared : Bool) (id : Ident) : Decidable (r.MayShare shared id) :=
  inferInstanceAs (Decidable (_ ∧ _))

namespace Production

variable {engine : Engine} {id : Ident} {step : Routine} {shared post : Bool} {s t : Session}
  {product : Instance}

/-! ## Steps -/

theorem produce_some (h : engine.produce step s = some (.ok (some product), t)) :
    produce engine id step s = some (.ok product, t) := by
  rw [produce, Run.bind_ok (Run.mapError_of h)]
  rfl

/-- A step that yields nothing makes a sentinel, unless its identifier is in creation. -/
theorem produce_none (h : engine.produce step s = some (.ok none, t))
    (hidle : t.registry.marks.isActive id = false) :
    produce engine id step s =
      some (.ok ⟨t.supply, none⟩, { t with supply := t.supply + 1 }) := by
  rw [produce, Run.bind_ok (Run.mapError_of h)]
  refine (Run.bind_ok (Run.registry_apply t)).trans ?_
  rw [hidle]
  rfl

theorem produce_error {cause : Cause} (h : engine.produce step s = some (.error cause, t)) :
    produce engine id step s = some (.error (.construction id cause []), t) := by
  rw [produce, Run.bind_error (Run.mapError_of h)]

theorem produce_panic {payload : Panic} (h : engine.produce step s = some (.panic payload, t)) :
    produce engine id step s = some (.panic payload, t) := by
  rw [produce, Run.bind_panic (Run.mapError_of h)]

/-! ## Processing -/

theorem postProcess_none (h : s.registry.postProcessor = none) :
    postProcess engine id product s = some (.ok product, s) := by
  rw [postProcess, Run.bind_ok (Run.registry_apply s), h]
  rfl

theorem postProcess_some {processor : Routine} (h : s.registry.postProcessor = some processor) :
    postProcess engine id product s =
      (engine.process processor product id).mapError (.postProcessing id ·) s := by
  rw [postProcess, Run.bind_ok (Run.registry_apply s), h]

/-- Processing that leaves the registry as it is may as well be done under the mark. -/
theorem postProcessMarked_of {marks : Marks} {outcome : Outcome Failure Instance}
    (henter : s.registry.marks.enter id = .ok marks)
    (hpost : postProcess engine id product (s.put { s.registry with marks }) = some (outcome, t))
    (ht : t.registry = { s.registry with marks }) :
    postProcessMarked engine id product s = some (outcome, t.put s.registry) := by
  have hmarks : t.registry.marks = marks := by rw [ht]
  have hleave : t.registry.marks.leave id = .ok s.registry.marks :=
    hmarks ▸ Marks.leave_of_enter henter
  have hback : ({ t.registry with marks := s.registry.marks } : Registry) = s.registry := by rw [ht]
  rw [postProcessMarked, Run.bind_ok (Run.tryMarks_ok (f := (·.enter id)) henter),
    Run.bind_ok (Run.attempt_of hpost)]
  cases outcome with
  | ok processed =>
    refine (Run.bind_ok (Run.tryMarks_ok (f := (·.leave id)) hleave)).trans ?_
    rw [hback]
    rfl
  | error failure =>
    refine (Run.bind_ok (Run.tryMarks_ok (f := (·.leave id)) hleave)).trans ?_
    rw [hback]
    rfl
  | panic payload =>
    refine (Run.bind_ok (Run.edit_apply _ _)).trans ?_
    rw [Marks.leaveQuietly_eq hleave, hback]
    rfl

/-! ## Requests -/

theorem resolve_shared (h : s.registry.MayShare shared id) :
    resolve engine id step shared post s = resolveShared engine id step post s := by
  rw [resolve, Run.bind_ok (Run.registry_apply s), h.1, Store.contains_iff_mem_keys.2 h.2]
  rfl

/-- A request that may not share goes from the step straight on to the processing. -/
theorem resolve_apart (h : ¬ s.registry.MayShare shared id) :
    resolve engine id step shared post s =
      (produce engine id step >>= fun product =>
        if post then postProcess engine id product else pure product) s := by
  have hshares : (shared && s.registry.finished.contains id) = false := by
    refine Bool.eq_false_iff.2 fun hboth => h ?_
    obtain ⟨hshared, hfinished⟩ := Bool.and_eq_true_iff.1 hboth
    exact ⟨hshared, Store.contains_iff_mem_keys.1 hfinished⟩
  rw [resolve, Run.bind_ok (Run.registry_apply s), hshares]
  rfl

theorem resolveShared_kept {kept : Instance} (h : s.registry.products.get? id = some kept) :
    resolveShared engine id step post s = some (.ok kept, s) := by
  rw [resolveShared, Run.bind_ok (Run.registry_apply s), h]
  rfl

/-- If nothing is kept, the step is run, and what follows depends on what is there then. -/
theorem resolveShared_made (hnone : s.registry.products.get? id = none)
    (hstep : produce engine id step s = some (.ok product, t)) :
    resolveShared engine id step post s =
      (match t.registry.products.get? id with
        | some kept => return kept
        | none =>
          if !post then keep id product
          else if t.registry.marks.isActive id then do
            Run.report (.unprocessed id)
            return product
          else do keep id (← postProcessMarked engine id product)) t := by
  rw [resolveShared, Run.bind_ok (Run.registry_apply s), hnone]
  refine (Run.bind_ok hstep).trans ?_
  exact Run.bind_ok (Run.registry_apply t)

theorem resolveShared_error {failure : Failure} (hnone : s.registry.products.get? id = none)
    (hstep : produce engine id step s = some (.error failure, t)) :
    resolveShared engine id step post s = some (.error failure, t) := by
  rw [resolveShared, Run.bind_ok (Run.registry_apply s), hnone]
  exact Run.bind_error hstep

theorem resolveShared_panic {payload : Panic} (hnone : s.registry.products.get? id = none)
    (hstep : produce engine id step s = some (.panic payload, t)) :
    resolveShared engine id step post s = some (.panic payload, t) := by
  rw [resolveShared, Run.bind_ok (Run.registry_apply s), hnone]
  exact Run.bind_panic hstep

end Production

/-- The product of a step is resolved under the name that is accepted. -/
theorem Operations.resolveProduct_of_accept {engine : Engine} {given id : Ident} {step : Routine}
    {shared post : Bool} {s : Session} (haccept : s.registry.accept given = .ok id) :
    resolveProduct engine given step shared post s = Production.resolve engine id step shared post s :=
  Run.bind_ok (accept_eq haccept)

end InstanceRegistry
