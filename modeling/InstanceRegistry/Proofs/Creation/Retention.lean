import InstanceRegistry.Proofs.Creation.Underway

/-!
  What a construction made is not lost.

  While the callback of an identifier runs that is subject to the check, the identifier is underway: in
  a calm session it is marked and not finished at every moment until the callback ends.  Then the mark
  is found, the place is free, and the instance that the callback returned is bound and handed out.

  Mathlib-free.
-/

namespace InstanceRegistry

/-! ## Callbacks of creations -/

namespace Creation

variable {engine : Engine} {id : Ident} {make : Routine} {s t u : Session}
  {ending : Outcome Cause Instance} {outcome : Outcome Failure Instance}

/-- A creation that begins in session `s` runs its callback, which ends so in session `t`. -/
def CallsBack (engine : Engine) (id : Ident) (make : Routine) (s : Session)
    (ending : Outcome Cause Instance) (t : Session) : Prop :=
  s.registry.finished.get? id = none ∧ s.registry.lifecycle.allowsCreation = true ∧
    ∃ outermost r, s.registry.openCreation id = .ok (outermost, r) ∧
      engine.construct make ((s.note (.noticed (.creating id))).put r) = some (ending, t)

/-- A creation whose callback ended closes from there. -/
theorem CallsBack.closes (h : CallsBack engine id make s ending t)
    (hrun : getOrCreate engine id make s = some (outcome, u)) :
    ∃ outermost, Closes id outermost t ending outcome u := by
  obtain ⟨hfree, hopen, outermost, r, hmark, hcallback⟩ := h
  rcases getOrCreate_inv hrun with ⟨_, hfound, _⟩ | ⟨_, ⟨hclosed, _⟩ | ⟨_, hconstruct⟩⟩
  · rw [hfree] at hfound
    cases hfound
  · rw [hopen] at hclosed
    cases hclosed
  rcases construct_inv hconstruct with ⟨_, hrefused, _⟩ | ⟨_, _, _, _, hmark', hcallback', hclose⟩
  · rw [hmark] at hrefused
    cases hrefused
  · rw [hmark] at hmark'
    cases hmark'
    rw [hcallback] at hcallback'
    cases hcallback'
    exact ⟨outermost, hclose⟩

/-- Throughout a callback its identifier is underway, if it is subject to the check. -/
theorem CallsBack.underway (h : CallsBack engine id make s ending t) (hengine : engine.OnCourse)
    (hcalm : t.Calm) (hchecked : s.registry.marks.isExcluded id = false) :
    Throughout (fun r => r.finished.get? id = none) s t ∧ t.registry.Underway id := by
  obtain ⟨hfree, hopen, outermost, r, hmark, hcallback⟩ := h
  have hcourse := hengine.construct make _ ⟨id, _, _, rfl⟩ _ _ hcallback
  have hopened : r.Underway id := .opened hmark hfree hchecked
  have hactive : r.lifecycle = .active :=
    (Registry.openCreation_inv hmark).2.2.trans (Lifecycle.allowsCreation_iff.1 hopen)
  have hinside := hcourse.underway hcalm hactive hopened
  have hopening : Throughout (fun r => r.finished.get? id = none)
      (s.note (.noticed (.creating id))) ((s.note (.noticed (.creating id))).put r) :=
    .of_eq hopened.free rfl
  exact ⟨(Throughout.note hfree _).trans (hopening.trans (hinside.imp fun _ hr => hr.free)),
    hinside.2⟩

/-- A creation closes as its callback ended if its identifier is underway then. -/
theorem Closes.retained {outermost : Bool} (h : Closes id outermost t ending outcome u)
    (ht : t.registry.Underway id) :
    (∀ y, outcome ≠ .error (.alreadyBound y)) ∧
      ∀ v, ending = .ok v → outcome = .ok v ∧ u.registry.finished.get? id = some v := by
  cases h with
  | stuck hleave =>
    rw [Marks.leave, ht.checked, ht.active] at hleave
    cases hleave
  | occupied _ hcommit =>
    have hbound := (commit_refused hcommit).2
    rw [Registry.finished_abandonCreation, Store.contains, ht.free] at hbound
    cases hbound
  | bound hleave hcommit =>
    constructor
    · intro y hy
      cases hy
    · intro v hv
      cases hv
      exact ⟨rfl, (Closes.bound hleave hcommit).finished⟩
  | recovered _ | failed _ _ | mismatched _ _ | unwound =>
    constructor
    · intro y hy
      cases hy
    · intro v hv
      cases hv

/-- A creation that runs no callback does not find its place taken. -/
theorem getOrCreate_cases (h : getOrCreate engine id make s = some (outcome, u)) :
    (∃ ending t, CallsBack engine id make s ending t) ∨
      ∀ y, outcome ≠ .error (.alreadyBound y) := by
  rcases getOrCreate_inv h with ⟨_, _, rfl, _⟩ | ⟨hfree, ⟨_, rfl, _⟩ | ⟨hopen, hconstruct⟩⟩
  · exact .inr nofun
  · exact .inr nofun
  rcases construct_inv hconstruct with ⟨_, hrefused, rfl, _⟩ |
      ⟨outermost, r, ending, t, hmark, hcallback, -⟩
  · rw [openCreation_refused hrefused]
    exact .inr nofun
  · exact .inl ⟨ending, t, hfree, hopen, outermost, r, hmark, hcallback⟩

/-- **A creation retains what its callback made**, if its identifier is subject to the check. -/
theorem getOrCreate_retained (hengine : engine.OnCourse) (hcalm : u.Calm)
    (hchecked : s.registry.marks.isExcluded id = false)
    (h : getOrCreate engine id make s = some (outcome, u)) :
    (∀ y, outcome ≠ .error (.alreadyBound y)) ∧
      ∀ ending t, CallsBack engine id make s ending t →
        Throughout (fun r => r.finished.get? id = none) s t ∧
        ∀ v, ending = .ok v → outcome = .ok v ∧ u.registry.finished.get? id = some v := by
  -- whatever the callback ended with, its identifier was underway all the time
  have hcallback : ∀ ending t, CallsBack engine id make s ending t →
      Throughout (fun r => r.finished.get? id = none) s t ∧
        (∀ y, outcome ≠ .error (.alreadyBound y)) ∧
        ∀ v, ending = .ok v → outcome = .ok v ∧ u.registry.finished.get? id = some v := by
    intro ending t hcalls
    obtain ⟨outermost, hclose⟩ := hcalls.closes h
    obtain ⟨hunfinished, hunderway⟩ :=
      hcalls.underway hengine (hcalm.mono hclose.suffix) hchecked
    exact ⟨hunfinished, hclose.retained hunderway⟩
  constructor
  · rcases getOrCreate_cases h with ⟨ending, t, hcalls⟩ | hfree
    · exact (hcallback ending t hcalls).2.1
    · exact hfree
  · intro ending t hcalls
    obtain ⟨hunfinished, -, hyields⟩ := hcallback ending t hcalls
    exact ⟨hunfinished, hyields⟩

end Creation

/-! ## Whole runs -/

open Operations (prepare)
open Creation (CallsBack)

/-- In a calm session preparing a request leaves the marks as they were. -/
theorem Call.marks_prepared {c : Call} {request : Request} {make : Routine} {id : Ident}
    {s : Session} (hop : c.op.creation? = some (request, make)) (hcalm : c.stop.Calm)
    (hprepared : Operations.Prepared request id (c.start.note (.began c.op)) s) :
    s.registry.marks = c.start.registry.marks := by
  rw [hprepared.marks]
  cases hexcluded : request.excluded with
  | false => rfl
  | true =>
    have haccepted : c.start.registry.accept request.id = .ok id := hprepared.accepted
    have hexclusion : c.op.exclusion? c.start.registry = some (id, true) := by
      rw [Op.exclusion?_creation hop, hexcluded, haccepted]
      rfl
    exact (hcalm.mono c.course.suffix).regular.excludes (Session.begins_note _ _) hexclusion

/-- **No construction is lost.**  In a calm script, while the callback of a creation runs whose
    identifier is subject to the check, nothing is finished under that identifier at any moment.  If
    the callback returns an instance, the creation binds it and hands it out, and no such creation
    ever fails because an instance is bound already. -/
theorem construction_retained {script : Script} {depth : Nat} {outcome : Outcome Cause Unit}
    {s : Session} (h : script.runWithin depth = some (outcome, s)) (hcalm : s.Calm) :
    s.EveryCall fun c _ => ∀ request make, c.op.creation? = some (request, make) →
      c.start.registry.marks.isExcluded (c.start.registry.canonical request.id) = false →
      (∀ y, c.result ≠ .error (.alreadyBound y)) ∧
      ∀ id s₀ ending t, prepare request (c.start.note (.began c.op)) = some (.ok id, s₀) →
        CallsBack (.ofDepth c.depth) id make s₀ ending t →
          Throughout (fun r => r.finished.get? id = none) s₀ t ∧
          ∀ v, ending = .ok v → c.result = .ok (.found (some v)) ∧
            c.stop.registry.finished.get? id = some v := by
  refine Script.everyCall h fun c asStep later hjournal request make hop hchecked => ?_
  have hstop : c.stop.Calm := hcalm.mono ((List.suffix_cons _ _).trans ⟨later, hjournal.symm⟩)
  have hengine := onCourse_ofDepth c.depth
  rcases Call.creation_inv hop with ⟨id, s₀, ending, hprepare, hprepared, hcreation, hresult⟩ |
      ⟨failure, hrefused, hfailure, hrefusal⟩
  · have hchecked₀ : s₀.registry.marks.isExcluded id = false := by
      rw [Call.marks_prepared hop hstop hprepared, hprepared.canonical]
      exact hchecked
    obtain ⟨hnever, hretained⟩ :=
      Creation.getOrCreate_retained hengine hstop hchecked₀ hcreation
    constructor
    · intro y hy
      rw [hresult] at hy
      cases ending with
      | error failure =>
        cases hy
        exact hnever y rfl
      | ok _ | panic _ => cases hy
    · intro id' s₀' ending' t hprepare' hcalls
      rw [hprepare] at hprepare'
      cases hprepare'
      obtain ⟨hunfinished, hyields⟩ := hretained ending' t hcalls
      refine ⟨hunfinished, fun v hv => ?_⟩
      obtain ⟨hending, hbound⟩ := hyields v hv
      rw [hresult, hending]
      exact ⟨rfl, hbound⟩
  · constructor
    · intro y hy
      rw [hfailure] at hy
      cases hy
      cases hrefusal
    · intro id s₀ ending t hprepare hcalls
      rw [hrefused] at hprepare
      cases hprepare

/-- A lamp whose construction does all it can to have the lamp bound or its mark cleared: it registers
    one, asks for one, removes it, destroys it, and lets a construction that needs it fail. -/
def stubborn : Script where
  registry := {}
  steps :=
    [.step (.create { id := "lamp", dependsOn := ["bulb"] } (.scripted "lamp"
        [.step (.registerInstance "lamp" (.fresh none)) false none,
          .step (.getOrCreate "lamp" (.scripted "lamp" [] .same)) false none,
          .step (.change (.remove "lamp")) true none,
          .step (.destroyOne "bulb") true none,
          .step (.getOrCreate "shade" (.scripted "shade"
            [.step (.getOrCreate "lamp" (.scripted "lamp" [] .same)) true none] .same)) false none]
        .same)) true none]

/-- The lamp is there in the end, and nobody was told that another one was. -/
theorem construction_retained_stubborn :
    ∃ outcome s, stubborn.runWithin 5 = some (outcome, s) ∧ s.Calm ∧
      s.registry.finished.contains "lamp" = true ∧
      s.EveryCall fun c _ => ∀ request make, c.op.creation? = some (request, make) →
        c.start.registry.marks.isExcluded (c.start.registry.canonical request.id) = false →
        ∀ y, c.result ≠ .error (.alreadyBound y) := by
  have hends : ∃ outcome s, stubborn.runWithin 5 = some (outcome, s) ∧ s.Calm ∧
      s.registry.finished.contains "lamp" = true :=
    Script.ends_of_check (by decide +kernel)
  obtain ⟨outcome, s, hrun, hcalm, hlamp⟩ := hends
  have hcalls := construction_retained hrun hcalm
  exact ⟨outcome, s, hrun, hcalm, hlamp,
    hcalls.imp fun c _ hc request make hop hchecked => (hc request make hop hchecked).1⟩

end InstanceRegistry
