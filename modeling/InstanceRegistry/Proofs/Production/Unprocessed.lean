import InstanceRegistry.Proofs.Courses.Scripts
import InstanceRegistry.Proofs.Production.Resolution

/-!
  Products of identifiers that are in creation.

  A product is processed before it is handed out for good, and nothing about an identifier that is
  in creation is for good yet.  A request for the processed product should then be answered with
  the RAW one, that is, with what the step yielded, and nothing should be kept.

  Whether an identifier is in creation is looked up once the step is over, but only for a request
  that may share.  There the raw product is handed out, unless the step has asked for the product
  itself and had one kept, which goes to everybody.  A request that may not share, because its
  product is not shared or because its identifier is not finished, as it usually is not while it is
  in creation, goes straight on to the post-processor.  It gets the raw product only if there is
  none (`answersRaw_iff`).
-/

namespace InstanceRegistry.Operations

open Production

/-- However a post-processor would go about it, the request for a processed product that is made in
    session `s` is answered with the raw one, and leaves the registry as it is in session `t`. -/
def AnswersRaw (engine : Engine) (given : Ident) (step : Routine) (shared : Bool) (raw : Instance)
    (s t : Session) : Prop :=
  ∀ process, ∃ u, u.registry = t.registry ∧
    resolveProduct { engine with process } given step shared true s = some (.ok raw, u)

variable {engine : Engine} {given id : Ident} {step : Routine} {shared : Bool} {raw : Instance}
  {s t : Session}

/-- A request that may share is answered with what is kept when the step is over, and with the raw
    product if nothing is. -/
theorem resolveProduct_sharing (haccept : s.registry.accept given = .ok id)
    (hshares : s.registry.MayShare shared id) (hnone : s.registry.products.get? id = none)
    (hstep : engine.produce step s = some (.ok (some raw), t))
    (hunderway : t.registry.marks.isActive id = true) :
    resolveProduct engine given step shared true s =
      match t.registry.products.get? id with
      | some kept => some (.ok kept, t)
      | none => some (.ok raw, t.note (.noticed (.unprocessed id))) := by
  rw [resolveProduct_of_accept haccept, resolve_shared hshares,
    resolveShared_made hnone (produce_some hstep), hunderway]
  cases t.registry.products.get? id <;> rfl

/-- A request that may not share goes on to the processing. -/
theorem resolveProduct_apart (haccept : s.registry.accept given = .ok id)
    (happart : ¬ s.registry.MayShare shared id)
    (hstep : engine.produce step s = some (.ok (some raw), t)) :
    resolveProduct engine given step shared true s = postProcess engine id raw t := by
  rw [resolveProduct_of_accept haccept, resolve_apart happart]
  exact Run.bind_ok (produce_some hstep)

/-- **Who gets the raw product.**  A request for a processed product has its step run, and when that
    has yielded a product the identifier is in creation.  The request is answered with the raw
    product, and nothing is kept, exactly if it may share and nothing else was kept in the meantime,
    or if it may not share and there is no post-processor.  Otherwise it is answered with what was
    kept, or with what the post-processor makes of the raw product. -/
theorem answersRaw_iff (haccept : s.registry.accept given = .ok id)
    (hruns : s.registry.MayShare shared id → s.registry.products.get? id = none)
    (hstep : engine.produce step s = some (.ok (some raw), t))
    (hunderway : t.registry.marks.isActive id = true) :
    (AnswersRaw engine given step shared raw s t ↔
        (s.registry.MayShare shared id ∧
          ∀ kept, t.registry.products.get? id = some kept → kept = raw) ∨
        (¬ s.registry.MayShare shared id ∧ t.registry.postProcessor = none)) ∧
      (s.registry.MayShare shared id → ∀ kept, t.registry.products.get? id = some kept →
        resolveProduct engine given step shared true s = some (.ok kept, t)) ∧
      (¬ s.registry.MayShare shared id → ∀ processor,
        t.registry.postProcessor = some processor →
        resolveProduct engine given step shared true s =
          (engine.process processor raw id).mapError (.postProcessing id ·) t) := by
  by_cases hshares : s.registry.MayShare shared id
  · have hresolve : ∀ process,
        resolveProduct { engine with process } given step shared true s = _ :=
      fun _ => resolveProduct_sharing haccept hshares (hruns hshares) hstep hunderway
    refine ⟨?_, fun _ kept hkept => ?_, fun happart => absurd hshares happart⟩
    · rw [or_iff_left fun h => h.1 hshares, and_iff_right hshares]
      constructor
      · intro hraw kept hkept
        obtain ⟨u, -, hrun⟩ := hraw engine.process
        rw [hresolve, hkept] at hrun
        cases hrun
        rfl
      · intro hkept process
        rw [hresolve]
        cases hproduct : t.registry.products.get? id with
        | none => exact ⟨t.note (.noticed (.unprocessed id)), rfl, rfl⟩
        | some kept =>
          rw [hkept kept hproduct]
          exact ⟨t, rfl, rfl⟩
    · rw [hresolve engine.process, hkept]
  · have hresolve : ∀ process,
        resolveProduct { engine with process } given step shared true s =
          postProcess { engine with process } id raw t :=
      fun _ => resolveProduct_apart haccept hshares hstep
    refine ⟨?_, fun hshares' => absurd hshares' hshares, fun _ processor hprocessor => ?_⟩
    · rw [or_iff_right fun h => hshares h.1, and_iff_right hshares]
      constructor
      · intro hraw
        -- a post-processor that gets nowhere would be noticed
        obtain ⟨u, -, hrun⟩ := hraw fun _ _ _ => Run.exhausted
        rw [hresolve] at hrun
        cases hprocessor : t.registry.postProcessor with
        | none => rfl
        | some processor =>
          rw [postProcess_some hprocessor] at hrun
          cases hrun
      · intro hprocessor process
        rw [hresolve]
        exact ⟨t, rfl, postProcess_none hprocessor⟩
    · rw [hresolve engine.process]
      exact postProcess_some hprocessor

/-- A lamp that is finished and is being created once more. -/
def relit : Session where
  registry :=
    { finished := (∅ : Store Instance).insert "lamp" ⟨0, some "lamp"⟩
      marks := { active := ["lamp"] }
      postProcessor := some (.scripted "polish" [] (.wrap "polished")) }
  supply := 1

/-- Its shared product is handed out raw. -/
theorem answersRaw_iff_relit :
    ∃ t, (Engine.ofDepth 1).produce (.scripted "lamp" [] (.fresh (some "raw"))) relit =
        some (.ok (some ⟨1, some "raw"⟩), t) ∧
      t.registry.marks.isActive "lamp" = true ∧
      AnswersRaw (.ofDepth 1) "lamp" (.scripted "lamp" [] (.fresh (some "raw"))) true
        ⟨1, some "raw"⟩ relit t := by
  refine ⟨_, rfl, rfl, (answersRaw_iff rfl (fun _ => rfl) rfl rfl).1.2 (.inl ⟨?_, nofun⟩)⟩
  exact ⟨rfl, by decide⟩

/-- What a post-processor is passed, at the entry for its start. -/
def passed? (e : Entry) : Option Instance :=
  match e.event with
  | .entered .postProcessing _ passed => passed
  | _ => none

/-- A lamp whose construction asks for its shared product, with processing. -/
def lighting : Script where
  registry := { postProcessor := some (.scripted "polish" [] (.wrap "polished")) }
  steps :=
    [.step (.getOrCreate "lamp" (.scripted "lamp"
      [.step (.resolveProduct "lamp" (.scripted "lamp" [] (.fresh (some "raw"))) true true)
        true (some "product")] (.recall "product"))) true none]

/-- The product is passed to the post-processor while the lamp is in creation, and the construction
    goes on with what that makes of it. -/
theorem polished_while_underway :
    ∃ outcome s, lighting.runWithin 3 = some (outcome, s) ∧
      (∃ e ∈ s.journal, passed? e = some ⟨0, some "raw"⟩ ∧
        e.registry.marks.isActive "lamp" = true) ∧
      s.bindings.get? "product" = some ⟨1, some "polished:lamp:raw"⟩ :=
  Script.ends_of_check (by decide +kernel)

end InstanceRegistry.Operations
