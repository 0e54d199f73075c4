import InstanceRegistry.Proofs.Courses.Frames
import InstanceRegistry.Proofs.Courses.Shown

/-!
  Every run takes a course.

  Work is ON COURSE in a session if, whenever it ends, what it did is a course.  That is a property
  of each way of putting work together (`Run.OnCourse.bind` and its companions), of each operation
  for callbacks that are on course (`Engine.OnCourse`), and so, by induction on the depth, of the
  callbacks themselves (`onCourse_ofDepth`) and of whole scripts (`Script.course`).

  Work that is on course goes on.  Work that SERVES an operation may also end with what ends a call
  of the operation, such as a creation with the outcome that the call then has.

  Mathlib-free.
-/

namespace InstanceRegistry

/-- Whenever the work ends that begins in a session, what it did is a course. -/
def Run.OnCourse {ε α : Type} (work : Run ε α) (s : Session) : Prop :=
  ∀ outcome t, work s = some (outcome, t) → Course s t

/-- Whenever the work for an operation ends that begins in a session, what it did is a course that
    may end a call of the operation with the answer to it. -/
def Run.Serves {α : Type} (work : Run Failure α) (op : Op) (answer : α → Answer Instance)
    (s : Session) : Prop :=
  ∀ outcome t, work s = some (outcome, t) →
    ∃ exit : Course.Exit, exit.Fits op (outcome.map answer) ∧ Course s t exit

/-- Callbacks are on course in each of their roles; a construction is announced before it runs, and
    a hook starts as the course of its disposal says.  Callbacks that make something end right after
    an entry. -/
structure Engine.OnCourse (engine : Engine) : Prop where
  construct : ∀ make s, s.Announced → (engine.construct make).OnCourse s
  expose : ∀ factory s, (engine.expose factory).OnCourse s
  produce : ∀ step s, (engine.produce step).OnCourse s
  process : ∀ processor product id s, (engine.process processor product id).OnCourse s
  dispose : ∀ hook s outcome t, engine.dispose hook s = some (outcome, t) →
    Course (s.note (hook.entry .disposal)) t
  shows : engine.Shows

/-! ## Rules -/

namespace Run.OnCourse

variable {ε ε' α β : Type} {s : Session}

/-- Work whose end is known is on course if the way there is. -/
theorem of_eq {work : Run ε α} {t : Session} {outcome : Outcome ε α}
    (h : work s = some (outcome, t)) (hcourse : Course s t) : work.OnCourse s := by
  intro outcome' t' h'
  rw [h] at h'
  cases h'
  exact hcourse

theorem pure (value : α) : (Pure.pure value : Run ε α).OnCourse s := of_eq rfl (.rest s)

theorem conclude (outcome : Outcome ε α) : (Run.conclude outcome).OnCourse s := of_eq rfl (.rest s)

theorem ofExcept (result : Except ε α) : (Run.ofExcept result).OnCourse s := conclude _

theorem fail (failure : ε) : (Run.fail failure : Run ε α).OnCourse s := conclude _

theorem unwind (payload : Panic) : (Run.unwind payload : Run ε α).OnCourse s := conclude _

theorem read (f : Session → α) : (Run.read f : Run ε α).OnCourse s := of_eq rfl (.rest s)

theorem exhausted : (Run.exhausted : Run ε α).OnCourse s := by
  intro outcome t h
  cases h

/-- Work goes on from where its first part led. -/
theorem bind {work : Run ε α} {next : α → Run ε β} (h : work.OnCourse s)
    (hnext : ∀ value t, Course s t → (next value).OnCourse t) : (work >>= next).OnCourse s := by
  intro outcome u hrun
  rcases bind_inv hrun with ⟨value, t, hwork, hrest⟩ | ⟨failure, hwork, -⟩ | ⟨payload, hwork, -⟩
  · have hfirst := h _ _ hwork
    exact .next hfirst (hnext value t hfirst _ _ hrest)
  · exact h _ _ hwork
  · exact h _ _ hwork

/-- Work goes on from a first part whose end is known. -/
theorem bind_of {work : Run ε α} {next : α → Run ε β} {t : Session} {value : α}
    (h : work s = some (.ok value, t)) (hcourse : Course s t) (hnext : (next value).OnCourse t) :
    (work >>= next).OnCourse s := by
  intro outcome u hrun
  rw [bind_ok h] at hrun
  exact .next hcourse (hnext _ _ hrun)

/-- Looking at the registry leads nowhere. -/
theorem registry_bind {next : Registry → Run ε β} (h : (next s.registry).OnCourse s) :
    (Run.registry >>= next).OnCourse s :=
  bind_of rfl (.rest s) h

theorem attempt {work : Run ε α} (h : work.OnCourse s) :
    (work.attempt : Run ε' (Outcome ε α)).OnCourse s := by
  intro outcome t hrun
  obtain ⟨ending, hwork, -⟩ := attempt_inv hrun
  exact h _ _ hwork

theorem mapError {f : ε → ε'} {work : Run ε α} (h : work.OnCourse s) :
    (work.mapError f).OnCourse s := by
  intro outcome t hrun
  obtain ⟨ending, hwork, -⟩ := mapError_inv hrun
  exact h _ _ hwork

/-- Handing a value on in another form leads nowhere else. -/
theorem map {f : α → β} {work : Run ε α} (h : work.OnCourse s) :
    (work >>= fun value => Pure.pure (f value)).OnCourse s :=
  bind h fun _ _ _ => pure _

/-- A change of variables and the like. -/
theorem update {f : Session → Session} (hregistry : (f s).registry = s.registry)
    (hjournal : (f s).journal = s.journal) : (Run.update f : Run ε Unit).OnCourse s :=
  of_eq rfl (.aside hregistry hjournal)

theorem fresh (label : Option String) : (Run.fresh label : Run ε Instance).OnCourse s :=
  of_eq rfl (.aside rfl rfl)

theorem edit {f : Registry → Registry} (h : Course s (s.put (f s.registry))) :
    (Run.edit f : Run ε Unit).OnCourse s :=
  of_eq rfl h

theorem shift {f : Registry → Registry} (h : s.Shift (f s.registry)) :
    (Run.edit f : Run ε Unit).OnCourse s :=
  edit (.shift h)

theorem transact {f : Registry → α × Registry} (h : s.Shift (f s.registry).2) :
    (Run.transact f : Run ε α).OnCourse s :=
  of_eq rfl (.shift h)

theorem record {event : Event} (h : event.isAside = true) :
    (Run.record event : Run ε Unit).OnCourse s :=
  of_eq rfl (.note h)

theorem report {notice : Notice} (h : (Event.noticed notice).isAside = true) :
    (Run.report notice : Run ε Unit).OnCourse s :=
  record h

theorem enter {role : Role} {id : Ident} {passed : Option Instance} (h : role.constructs = false) :
    (Run.record (.entered role id passed) : Run ε Unit).OnCourse s :=
  of_eq rfl (.enter fun hrole => absurd hrole (Bool.eq_false_iff.1 h))

/-- Work for one identifier after another; the sessions that it may begin in are those that follow
    the first. -/
theorem collect {work : Ident → Run ε Report} (ids : List Ident)
    (h : ∀ id t, Course s t → (work id).OnCourse t) : (Run.collect work ids).OnCourse s := by
  induction ids generalizing s with
  | nil => exact pure _
  | cons id ids ih =>
    refine bind (h id s (.rest s)) fun first t hst => ?_
    exact map (ih fun id u htu => h id u (.next hst htu))

end Run.OnCourse

theorem Outcome.map_id {ε α : Type} (outcome : Outcome ε α) : outcome.map id = outcome := by
  cases outcome <;> rfl

namespace Run.Serves

variable {α β : Type} {s t : Session} {op : Op} {answer : α → Answer Instance}

theorem of_onCourse {work : Run Failure α} (h : work.OnCourse s) : work.Serves op answer s :=
  fun outcome t hrun => ⟨.onward, trivial, h outcome t hrun⟩

/-- Work that ends a call goes on from work that does not. -/
theorem bind {work : Run Failure β} {next : β → Run Failure α} (h : work.OnCourse s)
    (hnext : ∀ value t, Course s t → (next value).Serves op answer t) :
    (work >>= next).Serves op answer s := by
  intro outcome u hrun
  rcases bind_inv hrun with ⟨value, t, hwork, hrest⟩ | ⟨failure, hwork, -⟩ | ⟨payload, hwork, -⟩
  · have hfirst := h _ _ hwork
    obtain ⟨exit, hfits, hsecond⟩ := hnext value t hfirst _ _ hrest
    exact ⟨exit, hfits, .next hfirst hsecond⟩
  · exact ⟨.onward, trivial, h _ _ hwork⟩
  · exact ⟨.onward, trivial, h _ _ hwork⟩

/-- The same for work that ends right after an entry. -/
theorem bind_shown {work : Run Failure β} {next : β → Run Failure α} (h : work.OnCourse s)
    (hshown : ∀ outcome t, work s = some (outcome, t) → t.Shown)
    (hnext : ∀ value t, Course s t → t.Shown → (next value).Serves op answer t) :
    (work >>= next).Serves op answer s := by
  intro outcome u hrun
  rcases bind_inv hrun with ⟨value, t, hwork, hrest⟩ | ⟨failure, hwork, -⟩ | ⟨payload, hwork, -⟩
  · have hfirst := h _ _ hwork
    obtain ⟨exit, hfits, hsecond⟩ := hnext value t hfirst (hshown _ _ hwork) _ _ hrest
    exact ⟨exit, hfits, .next hfirst hsecond⟩
  · exact ⟨.onward, trivial, h _ _ hwork⟩
  · exact ⟨.onward, trivial, h _ _ hwork⟩

theorem registry_bind {next : Registry → Run Failure α}
    (h : (next s.registry).Serves op answer s) : (Run.registry >>= next).Serves op answer s := by
  intro outcome u hrun
  rw [bind_ok (registry_apply s)] at hrun
  exact h _ _ hrun

/-- Handing the answer on ends the call as well. -/
theorem map {work : Run Failure α} (h : work.Serves op answer s) :
    (work >>= fun value => Pure.pure (answer value)).Serves op id s := by
  intro outcome t hrun
  obtain ⟨ending, hwork, rfl⟩ := map_inv hrun
  rw [Outcome.map_id]
  exact h _ _ hwork

/-- **A call is bracketed** by the entries for its beginning and its end. -/
theorem noted (depth : Nat) {asStep : Bool} {work : Run Failure α}
    (h : work.Serves op answer (s.note (.began op)))
    (hop : ∀ t ending u, work t = some (ending, u) →
      op.run (.ofDepth depth) t = some (ending.map answer, u)) :
    (Run.noted op asStep answer work).OnCourse s := by
  intro outcome u hrun
  obtain ⟨t, hwork, rfl⟩ := noted_inv hrun
  obtain ⟨exit, hfits, hinside⟩ := h _ _ hwork
  exact .call ⟨depth, op, s, _, t, hop _ _ _ hwork⟩ asStep hfits hinside

end Run.Serves

/-- Work that goes on may be a call as well. -/
theorem Run.OnCourse.noted {α : Type} {s : Session} (depth : Nat) {op : Op} {asStep : Bool}
    {answer : α → Answer Instance} {work : Run Failure α} (h : work.OnCourse (s.note (.began op)))
    (hop : ∀ t ending u, work t = some (ending, u) →
      op.run (.ofDepth depth) t = some (ending.map answer, u)) :
    (Run.noted op asStep answer work).OnCourse s :=
  Run.Serves.noted depth (.of_onCourse h) hop

open Run (OnCourse Serves)

/-! ## Marks

A step that changes the marks is refused or taken as the change itself. -/

namespace Run

variable {f : Marks → Except Failure Marks} {s : Session}

theorem tryMarks_ok {marks : Marks} (h : f s.registry.marks = .ok marks) :
    tryEdit (fun r : Registry => (f r.marks).map fun marks => ((), { r with marks })) s =
      some (.ok (), s.put { s.registry with marks }) :=
  tryEdit_put (by rw [h]; rfl)

theorem tryMarks_refused {failure : Failure} (h : f s.registry.marks = .error failure) :
    tryEdit (fun r : Registry => (f r.marks).map fun marks => ((), { r with marks })) s =
      some (.error failure, s) :=
  tryEdit_refused (by rw [h]; rfl)

/-- An operation that sets marks may change them in any way that leaves the exclusions alone. -/
theorem tryMarks_onCourse (hdoing : s.Doing Op.setsMarks)
    (hf : ∀ {m m' : Marks}, f m = .ok m' → m'.excluded = m.excluded) :
    (tryEdit fun r : Registry => (f r.marks).map fun marks => ((), { r with marks })).OnCourse
      s := by
  cases hmarks : f s.registry.marks with
  | error failure => exact .of_eq (tryMarks_refused hmarks) (.rest s)
  | ok marks => exact .of_eq (tryMarks_ok hmarks) (.setMarks hdoing (hf hmarks))

end Run

/-! ## Creation -/

namespace Creation

variable {engine : Engine}

/-- How a lookup goes: with which outcome, and to which session. -/
inductive Looks (engine : Engine) (id : Ident) (s : Session) :
    Outcome Failure (Option Instance) → Session → Prop
  | finished {found : Instance} (hfound : s.registry.finished.get? id = some found) :
      Looks engine id s (.ok (some found)) (s.note (.noticed (.returning id)))
  | exposed {early : Instance} (hfound : s.registry.early.get? id = some early) :
      Looks engine id s (.ok (some early)) s
  | absent (hunripe : ¬ s.registry.Ripe id) : Looks engine id s (.ok none) s
  | tapped {factory : Routine} {early : Instance} {t : Session} (hripe : s.registry.Ripe id)
      (hfactory : engine.expose factory (s.put (s.registry.takeFactory id)) = some (.ok early, t)) :
      Looks engine id s (.ok (some early))
        ((t.note (.noticed (.exposing id))).put (t.registry.expose id early))
  | failed {factory : Routine} {cause : Cause} {t : Session} (hripe : s.registry.Ripe id)
      (hfactory : engine.expose factory (s.put (s.registry.takeFactory id)) =
        some (.error cause, t)) :
      Looks engine id s (.error (.construction id cause [])) t
  | unwound {factory : Routine} {payload : Panic} {t : Session} (hripe : s.registry.Ripe id)
      (hfactory : engine.expose factory (s.put (s.registry.takeFactory id)) =
        some (.panic payload, t)) :
      Looks engine id s (.panic payload) t

/-- A lookup that runs the factory ends as the factory does. -/
theorem exposeEarly_looks {id : Ident} {factory : Routine} {s u : Session}
    {outcome : Outcome Failure Instance} (hripe : s.registry.Ripe id)
    (h : exposeEarly engine id factory s = some (outcome, u)) :
    Looks engine id s (outcome.map some) u := by
  rw [exposeEarly, Run.bind_ok (Run.edit_put s _)] at h
  rcases Run.bind_inv h with ⟨early, t, hwork, hrest⟩ | ⟨failure, hwork, rfl⟩ | ⟨payload, hwork, rfl⟩
  · obtain ⟨ending, hfactory, hearly⟩ := Run.mapError_inv hwork
    cases hrest
    cases ending <;> cases hearly
    exact .tapped hripe hfactory
  · obtain ⟨ending, hfactory, hfailure⟩ := Run.mapError_inv hwork
    cases ending <;> cases hfailure
    exact .failed hripe hfactory
  · obtain ⟨ending, hfactory, hpayload⟩ := Run.mapError_inv hwork
    cases ending <;> cases hpayload
    exact .unwound hripe hfactory

theorem lookup_inv {id : Ident} {s u : Session} {outcome : Outcome Failure (Option Instance)}
    (h : lookup engine id s = some (outcome, u)) : Looks engine id s outcome u := by
  rw [lookup, Run.bind_ok (Run.registry_apply s)] at h
  cases hfinished : s.registry.finished.get? id with
  | some found =>
    rw [hfinished] at h
    cases h
    exact .finished hfinished
  | none =>
    simp only [hfinished] at h
    cases hactive : s.registry.marks.isActive id with
    | false =>
      simp only [hactive] at h
      cases h
      exact .absent fun hripe => by rw [hripe.active] at hactive; cases hactive
    | true =>
      simp only [hactive] at h
      cases hearly : s.registry.early.get? id with
      | some early =>
        simp only [hearly] at h
        cases h
        exact .exposed hearly
      | none =>
        simp only [hearly] at h
        cases henabled : s.registry.config.earlyReferences with
        | false =>
          simp only [henabled] at h
          cases h
          exact .absent fun hripe => by rw [hripe.enabled] at henabled; cases henabled
        | true =>
          simp only [henabled] at h
          cases hpending : s.registry.factories.get? id with
          | none =>
            simp only [hpending] at h
            cases h
            exact .absent fun hripe => by
              obtain ⟨factory, hfactory⟩ := hripe.pending
              rw [hpending] at hfactory
              cases hfactory
          | some factory =>
            simp only [hpending] at h
            obtain ⟨ending, hexpose, rfl⟩ := Run.map_inv h
            exact exposeEarly_looks ⟨hfinished, hactive, hearly, henabled, factory, hpending⟩ hexpose

/-- What a lookup that exposes an early reference does is all that its call does. -/
theorem lookup_serves (hengine : engine.OnCourse) {given : Ident} {s : Session}
    (hbegins : s.Begins (.get given)) :
    (lookup engine (s.registry.canonical given)).Serves (.get given) .found s := by
  intro outcome u h
  have htake : Course s (s.put (s.registry.takeFactory (s.registry.canonical given))) :=
    .shift (.takeFactory _)
  cases lookup_inv h with
  | finished _ => exact ⟨.onward, trivial, .note rfl⟩
  | exposed _ | absent _ => exact ⟨.onward, trivial, .rest s⟩
  | tapped hripe hfactory =>
    exact ⟨.exposed, trivial,
      .expose (hbegins.taps rfl hripe) (hengine.expose _ _ _ _ hfactory)⟩
  | failed _ hfactory | unwound _ hfactory =>
    exact ⟨.onward, trivial, .next htake (hengine.expose _ _ _ _ hfactory)⟩

/-! ### What closing leaves -/

/-- Closing a creation clears its mark as abandoning it does, and says whether the mark was found. -/
theorem closeCreation_eq (r : Registry) (outermost : Bool) (id : Ident) :
    r.closeCreation outermost id =
      (⟨(r.takeSuppressed outermost).1, (r.marks.leave id).map fun _ => ()⟩,
        r.abandonCreation outermost id) := by
  rw [Registry.closeCreation, Registry.abandonCreation]
  cases outermost with
  | true =>
    simp only [Registry.takeSuppressed, if_true, Marks.leaveQuietly]
    cases r.marks.leave id <;> rfl
  | false =>
    simp only [Registry.takeSuppressed, Bool.false_eq_true, if_false, Marks.leaveQuietly]
    cases r.marks.leave id <;> rfl

/-- A callback that returned an instance closes its creation. -/
theorem conclude_closes {id : Ident} {outermost : Bool} {made : Instance} {t u : Session}
    {outcome : Outcome Failure Instance}
    (h : (Run.transact (·.closeCreation outermost id) >>= conclude id made) t = some (outcome, u)) :
    Closes id outermost t (.ok made) outcome u := by
  rw [Run.bind_ok (Run.transact_put _ _), closeCreation_eq, conclude] at h
  cases hleave : t.registry.marks.leave id with
  | error failure =>
    rw [hleave] at h
    cases h
    exact .stuck hleave
  | ok marks =>
    have hended : (Run.ofExcept ((Except.ok marks : Except Failure Marks).map fun _ => ()))
        (t.put (t.registry.abandonCreation outermost id)) =
          some (.ok (), t.put (t.registry.abandonCreation outermost id)) := rfl
    rw [hleave, Run.bind_ok hended] at h
    cases hcommit : (t.registry.abandonCreation outermost id).commit id made with
    | error failure =>
      have hrefused : commit id made (t.put (t.registry.abandonCreation outermost id)) =
          some (.error failure, t.put (t.registry.abandonCreation outermost id)) :=
        Run.tryEdit_refused (congrArg (Except.map ((), ·)) hcommit)
      rw [Run.bind_error hrefused] at h
      cases h
      exact .occupied hleave hcommit
    | ok r =>
      have hbound : commit id made (t.put (t.registry.abandonCreation outermost id)) =
          some (.ok (), t.put r) :=
        Run.tryEdit_put (congrArg (Except.map ((), ·)) hcommit)
      rw [Run.bind_ok hbound] at h
      cases h
      exact .bound hleave hcommit

/-- A callback that failed closes its creation. -/
theorem giveUp_closes {id : Ident} {outermost : Bool} {cause : Cause} {t u : Session}
    {outcome : Outcome Failure Instance}
    (h : (Run.transact (·.closeCreation outermost id) >>= giveUp id cause) t = some (outcome, u)) :
    Closes id outermost t (.error cause) outcome u := by
  rw [Run.bind_ok (Run.transact_put _ _), closeCreation_eq, giveUp, Run.bind_ok (Run.edit_put _ _),
    Run.bind_ok (Run.registry_apply _)] at h
  -- what is taken back is no finished instance
  cases hfound : (t.registry.abandonCreation outermost id).finished.get? id with
  | some existing =>
    have hthere : ((t.registry.abandonCreation outermost id).retract id).finished.get? id =
        some existing := hfound
    simp only [Session.registry_put, hthere] at h
    cases h
    exact .recovered hfound
  | none =>
    have hfree : ((t.registry.abandonCreation outermost id).retract id).finished.get? id = none :=
      hfound
    simp only [Session.registry_put, hfree] at h
    cases hleave : t.registry.marks.leave id with
    | error failure =>
      rw [hleave] at h
      cases h
      exact .mismatched hfound hleave
    | ok marks =>
      rw [hleave] at h
      cases h
      exact .failed hfound hleave

/-- **A construction** is refused, or it is opened, left to its callback and closed. -/
theorem construct_inv {id : Ident} {make : Routine} {s u : Session}
    {outcome : Outcome Failure Instance} (h : construct engine id make s = some (outcome, u)) :
    (∃ failure, s.registry.openCreation id = .error failure ∧ outcome = .error failure ∧
        u = s.note (.noticed (.creating id))) ∨
      ∃ outermost r ending t, s.registry.openCreation id = .ok (outermost, r) ∧
        engine.construct make ((s.note (.noticed (.creating id))).put r) = some (ending, t) ∧
        Closes id outermost t ending outcome u := by
  rw [construct, Run.bind_ok (Run.report_note s _)] at h
  cases hmark : s.registry.openCreation id with
  | error failure =>
    rw [Run.bind_error (Run.tryEdit_refused hmark)] at h
    cases h
    exact .inl ⟨failure, rfl, rfl, rfl⟩
  | ok opened =>
    obtain ⟨outermost, r⟩ := opened
    rw [Run.bind_ok (Run.tryEdit_put hmark)] at h
    obtain ⟨ending, t, hcallback, hrest⟩ := Run.attempt_bind_inv h
    refine .inr ⟨outermost, r, ending, t, rfl, hcallback, ?_⟩
    cases ending with
    | ok made => exact conclude_closes hrest
    | error cause => exact giveUp_closes hrest
    | panic payload =>
      cases hrest
      exact .unwound

/-- **Creating** yields the finished instance, is refused, or constructs. -/
theorem getOrCreate_inv {id : Ident} {make : Routine} {s u : Session}
    {outcome : Outcome Failure Instance} (h : getOrCreate engine id make s = some (outcome, u)) :
    (∃ found, s.registry.finished.get? id = some found ∧ outcome = .ok found ∧ u = s) ∨
      s.registry.finished.get? id = none ∧
        ((s.registry.lifecycle.allowsCreation = false ∧ outcome = .error (.creationClosed id) ∧
            u = s) ∨
          (s.registry.lifecycle.allowsCreation = true ∧
            construct engine id make s = some (outcome, u))) := by
  rw [getOrCreate, Run.bind_ok (Run.registry_apply s)] at h
  cases hfound : s.registry.finished.get? id with
  | some found =>
    simp only [hfound] at h
    cases h
    exact .inl ⟨found, rfl, rfl, rfl⟩
  | none =>
    simp only [hfound] at h
    cases hopen : s.registry.lifecycle.allowsCreation with
    | false =>
      rw [hopen] at h
      cases h
      exact .inr ⟨rfl, .inl ⟨rfl, rfl, rfl⟩⟩
    | true =>
      rw [hopen] at h
      exact .inr ⟨rfl, .inr ⟨rfl, h⟩⟩

/-- A creation is all that is left of the call that it is made in. -/
theorem getOrCreate_serves (hengine : engine.OnCourse) (id : Ident) (make : Routine) {op : Op}
    (hop : op.creation?.isSome = true) {s : Session} (hasked : s.Asked id) :
    (getOrCreate engine id make).Serves op (.found <| some ·) s := by
  intro outcome u h
  rcases getOrCreate_inv h with ⟨_, _, _, rfl⟩ | ⟨hfree, ⟨_, _, rfl⟩ | ⟨hopen, h⟩⟩
  · exact ⟨.onward, trivial, .rest _⟩
  · exact ⟨.onward, trivial, .rest _⟩
  · refine ⟨.created outcome, ⟨hop, rfl⟩, ?_⟩
    rcases construct_inv h with ⟨_, hrefused, rfl, rfl⟩ |
        ⟨outermost, r, ending, t, hmark, hcallback, hclose⟩
    · exact .announce hfree hopen hrefused
    · have hannounced : ((s.note (.noticed (.creating id))).put r).Announced := ⟨id, _, _, rfl⟩
      have hinside := hengine.construct make _ hannounced _ _ hcallback
      have hshown := hengine.shows.construct make _ _ _ hcallback
      exact .create hasked hfree hopen hmark hinside hshown hclose

/-- **Registering** binds an instance in an active registry, under an identifier that is neither
    finished nor in creation. -/
theorem registerInstance_inv {id : Ident} {made : Instance} {s u : Session}
    {outcome : Outcome Failure Unit} (h : registerInstance id made s = some (outcome, u)) :
    (∃ r, s.registry.lifecycle.allowsCreation = true ∧ s.registry.marks.isChecked id = false ∧
        s.registry.commit id made = .ok r ∧ outcome = .ok () ∧ u = s.put r) ∨
      u = s ∧ outcome ≠ .ok () ∧ ∀ problem, outcome ≠ .error (.inconsistent problem) := by
  rw [registerInstance, Run.bind_ok (Run.registry_apply s)] at h
  cases hopen : s.registry.lifecycle.allowsCreation with
  | false =>
    rw [hopen] at h
    cases h
    exact .inr ⟨rfl, nofun, nofun⟩
  | true =>
    cases hchecked : s.registry.marks.isChecked id with
    | true =>
      rw [hopen, hchecked] at h
      cases h
      exact .inr ⟨rfl, nofun, nofun⟩
    | false =>
      simp only [hopen, hchecked, Bool.not_true, Bool.false_eq_true, if_false] at h
      rcases Run.tryEdit_inv h with ⟨value, r, hf, rfl, rfl⟩ | ⟨failure, hf, rfl, rfl⟩
      · cases hcommit : s.registry.commit id made with
        | error failure =>
          rw [hcommit] at hf
          cases hf
        | ok r' =>
          rw [hcommit] at hf
          cases hf
          exact .inl ⟨r, rfl, rfl, rfl, rfl, rfl⟩
      · refine .inr ⟨rfl, nofun, fun problem hproblem => ?_⟩
        cases hproblem
        rw [Registry.commit] at hf
        split at hf <;> cases hf

theorem registerInstance_onCourse {given id : Ident} {origin : Source} (made : Instance)
    {s : Session} (hbegins : s.Begins (.registerInstance given origin))
    (haccept : s.registry.accept given = .ok id) : (registerInstance id made).OnCourse s := by
  intro outcome u h
  rcases registerInstance_inv h with ⟨r, hopen, hchecked, hcommit, _, rfl⟩ | ⟨rfl, _⟩
  · exact .register hbegins haccept hopen hchecked hcommit
  · exact .rest _

/-- A non-fatal error is kept if there is a buffer that has room for it.  If the buffer is full, the
    error is reported as dropped; if there is none, nothing happens. -/
theorem suppress_inv {ε : Type} {text : String} {s t : Session} {outcome : Outcome ε Unit}
    (h : suppress text s = some (outcome, t)) :
    (s.registry.suppressed = none ∧ t = s) ∨
      ∃ texts, s.registry.suppressed = some texts ∧
        ((texts.length < s.registry.config.suppressedLimit ∧
            t = s.put { s.registry with suppressed := some (texts ++ [text]) }) ∨
          (s.registry.config.suppressedLimit ≤ texts.length ∧
            t = s.note (.noticed (.errorDropped text)))) := by
  rw [suppress, Run.bind_ok (Run.registry_apply s)] at h
  cases hbuffer : s.registry.suppressed with
  | none =>
    simp only [hbuffer] at h
    cases h
    exact .inl ⟨rfl, rfl⟩
  | some texts =>
    simp only [hbuffer] at h
    by_cases hroom : texts.length < s.registry.config.suppressedLimit
    · simp only [if_pos hroom] at h
      cases h
      exact .inr ⟨texts, rfl, .inl ⟨hroom, rfl⟩⟩
    · simp only [if_neg hroom] at h
      cases h
      exact .inr ⟨texts, rfl, .inr ⟨Nat.le_of_not_lt hroom, rfl⟩⟩

theorem suppress_onCourse {ε : Type} {text : String} {s : Session}
    (hbegins : s.Begins (.change (.suppress text))) :
    (suppress text : Run ε Unit).OnCourse s := by
  intro outcome t h
  rcases suppress_inv h with ⟨-, rfl⟩ | ⟨texts, hbuffer, ⟨-, rfl⟩ | ⟨-, rfl⟩⟩
  · exact .rest _
  · exact .shift (.suppress hbegins hbuffer)
  · exact .note rfl

end Creation

/-! ## Production -/

namespace Production

variable {engine : Engine}

theorem produce_onCourse (hengine : engine.OnCourse) (id : Ident) (step : Routine) (s : Session) :
    (produce engine id step).OnCourse s := by
  refine .bind (.mapError (hengine.produce step s)) fun product t _ => ?_
  cases product with
  | some product => exact .pure _
  | none =>
    refine .registry_bind ?_
    cases t.registry.marks.isActive id with
    | true => exact .fail _
    | false => exact .fresh none

/-- A step ends right after an entry, whatever is made of what it yields. -/
theorem produce_shown (hengine : engine.OnCourse) {id : Ident} {step : Routine} {s t : Session}
    {outcome : Outcome Failure Instance} (h : produce engine id step s = some (outcome, t)) :
    t.Shown := by
  refine Run.Shows.after (fun product => ?_) (fun ending u hwork => ?_) h
  · cases product with
    | some product => exact .pure _
    | none =>
      refine .bind (.read _) fun r => ?_
      cases r.marks.isActive id with
      | true => exact .fail _
      | false => exact .fresh none
  · obtain ⟨ending, hstep, -⟩ := Run.mapError_inv hwork
    exact hengine.shows.produce step _ _ _ hstep

theorem postProcess_onCourse (hengine : engine.OnCourse) (id : Ident) (product : Instance)
    (s : Session) : (postProcess engine id product).OnCourse s := by
  refine .registry_bind ?_
  cases s.registry.postProcessor with
  | none => exact .pure _
  | some processor => exact .mapError (hengine.process processor product id s)

/-- Processing ends right after an entry, if only the one that it began after. -/
theorem postProcess_shown (hengine : engine.OnCourse) {id : Ident} {product : Instance}
    {s t : Session} {outcome : Outcome Failure Instance} (hs : s.Shown)
    (h : postProcess engine id product s = some (outcome, t)) : t.Shown := by
  rw [postProcess, Run.bind_ok (Run.registry_apply s)] at h
  cases hprocessor : s.registry.postProcessor with
  | none =>
    rw [hprocessor] at h
    cases h
    exact hs
  | some processor =>
    rw [hprocessor] at h
    obtain ⟨ending, hprocess, -⟩ := Run.mapError_inv h
    exact hengine.shows.process processor product id _ _ _ hprocess

/-- Clearing the mark once the processing ended by itself changes the outcome only if the mark is
    gone. -/
theorem unmark_inv {id : Ident} (ending : Outcome Failure Instance) {t u : Session}
    {outcome : Outcome Failure Instance}
    (h : (Run.tryEdit (fun r : Registry => (r.marks.leave id).map fun marks =>
      ((), { r with marks })) >>= fun _ => Run.conclude ending) t = some (outcome, u)) :
    u = t.put { t.registry with marks := t.registry.marks.leaveQuietly id } ∧
      (outcome = ending ∨
        ∃ failure, t.registry.marks.leave id = .error failure ∧ outcome = .error failure) := by
  cases hleave : t.registry.marks.leave id with
  | error failure =>
    rw [Run.bind_error (Run.tryMarks_refused (f := (·.leave id)) hleave)] at h
    cases h
    rw [Marks.leaveQuietly, hleave]
    exact ⟨rfl, .inr ⟨failure, rfl, rfl⟩⟩
  | ok left =>
    rw [Run.bind_ok (Run.tryMarks_ok (f := (·.leave id)) hleave)] at h
    cases h
    rw [Marks.leaveQuietly, hleave]
    exact ⟨rfl, .inl rfl⟩

/-- **Processing under the mark** is refused, or it is done between setting the mark and clearing
    it, and fails in the end if the mark is gone. -/
theorem postProcessMarked_inv {id : Ident} {product : Instance} {s u : Session}
    {outcome : Outcome Failure Instance}
    (h : postProcessMarked engine id product s = some (outcome, u)) :
    (∃ failure, s.registry.marks.enter id = .error failure ∧ outcome = .error failure ∧ u = s) ∨
      ∃ marks ending t, s.registry.marks.enter id = .ok marks ∧
        postProcess engine id product (s.put { s.registry with marks }) = some (ending, t) ∧
        u = t.put { t.registry with marks := t.registry.marks.leaveQuietly id } ∧
        (outcome = ending ∨
          ∃ failure, t.registry.marks.leave id = .error failure ∧ outcome = .error failure) := by
  rw [postProcessMarked] at h
  cases hmark : s.registry.marks.enter id with
  | error failure =>
    rw [Run.bind_error (Run.tryMarks_refused (f := (·.enter id)) hmark)] at h
    cases h
    exact .inl ⟨failure, rfl, rfl, rfl⟩
  | ok marks =>
    rw [Run.bind_ok (Run.tryMarks_ok (f := (·.enter id)) hmark)] at h
    obtain ⟨ending, t, hwork, hrest⟩ := Run.attempt_bind_inv h
    refine .inr ⟨marks, ending, t, rfl, hwork, ?_⟩
    cases ending with
    | ok processed => exact unmark_inv (.ok processed) hrest
    | error failure => exact unmark_inv (.error failure) hrest
    | panic payload =>
      cases hrest
      exact ⟨rfl, .inl rfl⟩

/-- Processing under the mark, and keeping what comes of it, is all that is left of a call. -/
theorem keepProcessed_serves (hengine : engine.OnCourse) (id : Ident) (product : Instance) {op : Op}
    (hop : op.resolves = true) (answer : Instance → Answer Instance) {s : Session}
    (hshown : s.Shown) : (postProcessMarked engine id product >>= keep id).Serves op answer s := by
  have hcourse : ∀ {marks ending t products}, s.registry.marks.enter id = .ok marks →
      postProcess engine id product (s.put { s.registry with marks }) = some (ending, t) →
      (products = t.registry.products ∨
        ∃ processed, products = (t.registry.storeProduct id processed).products) →
      Course s (t.put { t.registry with marks := t.registry.marks.leaveQuietly id, products })
        .processed := by
    intro marks ending t products hmark hpost hproducts
    exact .process hmark (postProcess_onCourse hengine id product _ _ _ hpost)
      (postProcess_shown hengine (hshown.put_marks marks) hpost) hproducts
  intro outcome v h
  rcases Run.bind_inv h with ⟨processed, u, hwork, hkeep⟩ | ⟨failure, hwork, -⟩ | ⟨payload, hwork, -⟩
  · rcases postProcessMarked_inv hwork with ⟨_, _, hrefused, _⟩ | ⟨marks, ending, t, hmark, hpost, rfl, _⟩
    · cases hrefused
    · cases hkeep
      have hkept : ({ t.registry with
          marks := t.registry.marks.leaveQuietly id }).storeProduct id processed =
            { t.registry with
              marks := t.registry.marks.leaveQuietly id
              products := (t.registry.storeProduct id processed).products } := by
        simp only [Registry.storeProduct]
        cases t.registry.finished.contains id <;> rfl
      have hkeeping := congrArg (fun r => Course s (t.put r) .processed) hkept
      exact ⟨.processed, hop, hkeeping.mpr (hcourse hmark hpost (.inr ⟨processed, rfl⟩))⟩
  · rcases postProcessMarked_inv hwork with ⟨_, _, _, rfl⟩ | ⟨marks, ending, t, hmark, hpost, rfl, _⟩
    · exact ⟨.onward, trivial, .rest _⟩
    · exact ⟨.processed, hop, hcourse hmark hpost (.inl rfl)⟩
  · rcases postProcessMarked_inv hwork with ⟨_, _, _, rfl⟩ | ⟨marks, ending, t, hmark, hpost, rfl, _⟩
    · exact ⟨.onward, trivial, .rest _⟩
    · exact ⟨.processed, hop, hcourse hmark hpost (.inl rfl)⟩

theorem keep_onCourse {id : Ident} (product : Instance) {s : Session} (hshown : s.Shown)
    (hnone : s.registry.products.get? id = none) : (keep id product).OnCourse s :=
  .bind (.shift (.storeProduct product hshown hnone)) fun _ _ _ => .pure _

theorem resolveShared_serves (hengine : engine.OnCourse) (id : Ident) (step : Routine) (post : Bool)
    {op : Op} (hop : op.resolves = true) (answer : Instance → Answer Instance) (s : Session) :
    (resolveShared engine id step post).Serves op answer s := by
  refine .registry_bind ?_
  cases s.registry.products.get? id with
  | some kept => exact .of_onCourse (.pure _)
  | none =>
    refine .bind_shown (produce_onCourse hengine id step s) (fun _ _ h => produce_shown hengine h)
      fun product t _ hshown => ?_
    refine .registry_bind ?_
    cases hnone : t.registry.products.get? id with
    | some kept => exact .of_onCourse (.pure _)
    | none =>
      cases post with
      | false => exact .of_onCourse (keep_onCourse product hshown hnone)
      | true =>
        cases t.registry.marks.isActive id with
        | true => exact .of_onCourse (.bind (.report rfl) fun _ _ _ => .pure _)
        | false => exact keepProcessed_serves hengine id product hop answer hshown

theorem resolve_serves (hengine : engine.OnCourse) (id : Ident) (step : Routine)
    (shared post : Bool) {op : Op} (hop : op.resolves = true)
    (answer : Instance → Answer Instance) (s : Session) :
    (resolve engine id step shared post).Serves op answer s := by
  refine .registry_bind ?_
  cases (shared && s.registry.finished.contains id) with
  | true => exact resolveShared_serves hengine id step post hop answer s
  | false =>
    refine .of_onCourse (.bind (produce_onCourse hengine id step s) fun product t _ => ?_)
    cases post with
    | true => exact postProcess_onCourse hengine id product t
    | false => exact .pure _

theorem productType_onCourse {ε : Type} (type : ProductType) (s : Session) :
    (productType type : Run ε (Option String)).OnCourse s := by
  cases type with
  | declared name => exact .pure _
  | failing text => exact .bind (.report rfl) fun _ _ _ => .pure _

end Production

/-! ## Destruction -/

namespace Destruction

variable {ε : Type} {engine : Engine}

/-! ### Destruction always succeeds -/

/-- Whenever the work ends, it ends well. -/
def Succeeds {ε α : Type} (work : Run ε α) : Prop :=
  ∀ s outcome t, work s = some (outcome, t) → ∃ value, outcome = .ok value

theorem Succeeds.pure {α : Type} (value : α) : Succeeds (Pure.pure value : Run ε α) := by
  intro s outcome t h
  cases h
  exact ⟨value, rfl⟩

theorem Succeeds.bind {α β : Type} {work : Run ε α} {next : α → Run ε β} (h : Succeeds work)
    (hnext : ∀ value, Succeeds (next value)) : Succeeds (work >>= next) := by
  intro s outcome t hrun
  rcases Run.bind_inv hrun with ⟨value, s', -, hrest⟩ | ⟨failure, hwork, -⟩ | ⟨payload, hwork, -⟩
  · exact hnext value _ _ _ hrest
  · obtain ⟨value, hvalue⟩ := h _ _ _ hwork
    cases hvalue
  · obtain ⟨value, hvalue⟩ := h _ _ _ hwork
    cases hvalue

/-- Work that succeeds hands its value on. -/
theorem Succeeds.bind_inv {α β : Type} {work : Run ε α} {next : α → Run ε β} (h : Succeeds work)
    {s u : Session} {outcome : Outcome ε β} (hrun : (work >>= next) s = some (outcome, u)) :
    ∃ value t, work s = some (.ok value, t) ∧ next value t = some (outcome, u) := by
  rcases Run.bind_inv hrun with ⟨value, t, hwork, hrest⟩ | ⟨failure, hwork, -⟩ | ⟨payload, hwork, -⟩
  · exact ⟨value, t, hwork, hrest⟩
  · obtain ⟨_, hvalue⟩ := h _ _ _ hwork
    cases hvalue
  · obtain ⟨_, hvalue⟩ := h _ _ _ hwork
    cases hvalue

theorem Succeeds.collect {work : Ident → Run ε Report} (h : ∀ id, Succeeds (work id))
    (ids : List Ident) : Succeeds (Run.collect work ids) := by
  induction ids with
  | nil => exact .pure _
  | cons id ids ih => exact .bind (h id) fun first => .bind ih fun others => .pure _

/-- A change that cannot be refused succeeds. -/
theorem succeeds_transact {α : Type} (f : Registry → α × Registry) :
    Succeeds (Run.transact f : Run ε α) := by
  intro s outcome t h
  cases h
  exact ⟨_, rfl⟩

theorem succeeds_edit (f : Registry → Registry) : Succeeds (Run.edit f : Run ε Unit) := by
  intro s outcome t h
  cases h
  exact ⟨_, rfl⟩

theorem succeeds_report (notice : Notice) : Succeeds (Run.report notice : Run ε Unit) := by
  intro s outcome t h
  cases h
  exact ⟨_, rfl⟩

theorem succeeds_takeDependents (id : Ident) :
    Succeeds (takeDependents id : Run ε Roster) := by
  refine .bind (succeeds_transact _) fun dependents => ?_
  cases dependents.isEmpty with
  | true => exact .pure _
  | false => exact .bind (succeeds_report _) fun _ => .pure _

/-- However many hooks there are, another one is kept. -/
theorem succeeds_registerHook (id : Ident) (hook : Routine) :
    Succeeds (registerHook id hook : Run ε Unit) := by
  intro s outcome t h
  rw [registerHook, Run.bind_ok (Run.registry_apply s)] at h
  refine Succeeds.bind (succeeds_edit _) (fun _ => ?_) s outcome t h
  cases s.registry.hooks.contains id with
  | true => exact succeeds_report _
  | false => exact .pure _

/-- However a hook ends, the destruction goes on. -/
theorem succeeds_disposeIf (id : Ident) (hook : Option Routine) :
    Succeeds (disposeIf engine id hook : Run ε Report) := by
  cases hook with
  | none => exact .pure _
  | some hook =>
    refine .bind (succeeds_report _) fun _ => ?_
    intro s outcome t h
    obtain ⟨ending, s', -, hrest⟩ := Run.attempt_bind_inv h
    cases ending <;> cases hrest <;> exact ⟨_, rfl⟩

theorem succeeds_destroyWithin (depth : Nat) (id : Ident) :
    Succeeds (destroyWithin engine depth id : Run ε Report) := by
  induction depth generalizing id with
  | zero =>
    intro s outcome t h
    cases h
  | succ depth ih =>
    refine .bind (succeeds_edit _) fun _ => .bind (succeeds_transact _) fun hook => ?_
    refine .bind (succeeds_takeDependents id) fun dependents => ?_
    refine .bind (.collect ih dependents) fun before => ?_
    refine .bind (succeeds_disposeIf id hook) fun own =>
      .bind (succeeds_transact _) fun contained => ?_
    exact .bind (.collect ih contained) fun after => .bind (succeeds_edit _) fun _ => .pure _

/-! ### What it does is a course -/

theorem registerHook_onCourse {given : Ident} (id : Ident) {hook : Routine} {s : Session}
    (hbegins : s.Begins (.registerHook given hook)) :
    (registerHook id hook : Run ε Unit).OnCourse s := by
  refine .registry_bind (.bind (.shift (.keepHook id hbegins)) fun _ t _ => ?_)
  cases s.registry.hooks.contains id with
  | true => exact .report rfl
  | false => exact .pure _

theorem takeDependents_onCourse (id : Ident) (s : Session) :
    (takeDependents id : Run ε Roster).OnCourse s := by
  refine .bind (.transact (.graph _)) fun dependents t _ => ?_
  cases dependents.isEmpty with
  | true => exact .pure _
  | false => exact .bind (.report rfl) fun _ _ _ => .pure _

theorem takeContained_onCourse (id : Ident) (s : Session) :
    (takeContained id : Run ε Roster).OnCourse s :=
  .transact (.graph _)

/-- What comes of the hook of an identifier before that is destroyed itself: there is none, or it is
    taken out and starts when what is destroyed before it is gone. -/
inductive Disposes (id : Ident) (s : Session) : Session → Prop
  | nothing (hnone : s.registry.hooks.get? id = none) : Disposes id s s
  | hook {t : Session} {hook : Routine} (hpending : s.registry.hooks.get? id = some hook)
      (inside : Course (s.put { s.registry with hooks := s.registry.hooks.erase id }) t) :
      Disposes id s ((t.note (.noticed (.disposing id))).note (hook.entry .disposal))

theorem Disposes.course {id : Ident} {s t : Session} (h : Disposes id s t) : Course s t := by
  cases h with
  | nothing _ => exact .rest s
  | hook hpending inside => exact .dispose hpending inside

/-- A hook is announced and started, and runs to its end in whatever way. -/
theorem dispose_course (hengine : engine.OnCourse) {id : Ident} {hook : Routine} {s t : Session}
    {outcome : Outcome ε Report} (h : dispose engine id hook s = some (outcome, t)) :
    Course ((s.note (.noticed (.disposing id))).note (hook.entry .disposal)) t := by
  rw [dispose, Run.bind_ok (Run.report_note s _)] at h
  obtain ⟨ending, u, hrun, hrest⟩ := Run.attempt_bind_inv h
  have hhook := hengine.dispose hook _ _ _ hrun
  cases ending with
  | ok _ =>
    cases hrest
    exact hhook
  | error cause =>
    cases hrest
    exact .next hhook (.note rfl)
  | panic payload =>
    cases hrest
    exact .next hhook (.note rfl)

/-- Taking a hook out that is not there changes nothing. -/
theorem takeHook_none {id : Ident} {s : Session} (h : s.registry.hooks.get? id = none) :
    (takeHook id : Run ε (Option Routine)) s = some (.ok none, s) := by
  rw [takeHook, Run.transact_put, h, Store.erase_of_get?_eq_none h]
  rfl

theorem takeHook_some {id : Ident} {hook : Routine} {s : Session}
    (h : s.registry.hooks.get? id = some hook) :
    (takeHook id : Run ε (Option Routine)) s =
      some (.ok (some hook), s.put { s.registry with hooks := s.registry.hooks.erase id }) := by
  rw [takeHook, Run.transact_put, h]

/-- Destroying one identifier takes its hook before anything else is destroyed, if the cascades
    below are on course. -/
theorem destroyWithin_succ (hengine : engine.OnCourse) {depth : Nat} {id : Ident} {s u : Session}
    {outcome : Outcome ε Report} (hdoing : s.Doing Op.drops)
    (hbelow : ∀ id t, t.Doing Op.drops → (destroyWithin engine depth id : Run ε Report).OnCourse t)
    (h : destroyWithin engine (depth + 1) id s = some (outcome, u)) :
    ∃ s₁ s₂, Course s s₁ ∧ Disposes id s₁ s₂ ∧ Course s₂ u := by
  have hcollect : ∀ ids t, t.Doing Op.drops →
      (Run.collect (destroyWithin engine depth) ids : Run ε Report).OnCourse t :=
    fun ids t ht => .collect ids fun id u htu => hbelow id u (htu.doing.2 ht)
  have hafter : ∀ before own : Report, ∀ t, t.Doing Op.drops →
      (takeContained id >>= fun contained =>
        Run.collect (destroyWithin engine depth) contained >>= fun after =>
        Run.edit (fun r => { r with graph := r.graph.forget id }) >>= fun _ =>
        Pure.pure (before ++ own ++ after) : Run ε Report).OnCourse t := by
    intro before own t ht
    refine .bind (takeContained_onCourse id t) fun contained u htu => ?_
    refine .bind (hcollect contained u (htu.doing.2 ht)) fun after v _ => ?_
    exact .bind (.shift (.graph _)) fun _ _ _ => .pure _
  have h₁ : Course s (s.put (s.registry.purge id)) := .drop hdoing (.one id)
  have hdoing₁ := h₁.doing.2 hdoing
  rw [destroyWithin, Run.bind_ok (Run.edit_put s _)] at h
  cases hhook : (s.put (s.registry.purge id)).registry.hooks.get? id with
  | none =>
    rw [Run.bind_ok (takeHook_none hhook)] at h
    refine ⟨_, _, h₁, .nothing hhook, ?_⟩
    refine OnCourse.bind (takeDependents_onCourse id _) (fun dependents s₂ h₂ => ?_) _ _ h
    refine .bind (hcollect dependents s₂ (h₂.doing.2 hdoing₁)) fun before s₃ h₃ => ?_
    exact .bind_of rfl (.rest s₃) (hafter before {} s₃ (h₃.doing.2 (h₂.doing.2 hdoing₁)))
  | some hook =>
    -- nothing in the bracket around the hook can fail, so the bracket closes
    rw [Run.bind_ok (takeHook_some hhook)] at h
    obtain ⟨dependents, s₂, hdependents, h⟩ := (succeeds_takeDependents id).bind_inv h
    obtain ⟨before, s₃, hbefore, h⟩ :=
      (Succeeds.collect (succeeds_destroyWithin depth) dependents).bind_inv h
    obtain ⟨own, s₄, hdispose, h⟩ := (succeeds_disposeIf id (some hook)).bind_inv h
    have h₂ := takeDependents_onCourse id _ _ _ hdependents
    have hdoing₂ := h₂.doing.2 hdoing₁
    have h₃ := hcollect dependents s₂ hdoing₂ _ _ hbefore
    have hbracket : Disposes id (s.put (s.registry.purge id)) _ := .hook hhook (.next h₂ h₃)
    have hown := dispose_course hengine hdispose
    have hdoing₄ := hown.doing.2 (hbracket.course.doing.2 hdoing₁)
    exact ⟨_, _, h₁, hbracket, .next hown (hafter before own s₄ hdoing₄ _ _ h)⟩

theorem destroyWithin_onCourse (hengine : engine.OnCourse) (depth : Nat) (id : Ident)
    {s : Session} (hdoing : s.Doing Op.drops) :
    (destroyWithin engine depth id : Run ε Report).OnCourse s := by
  induction depth generalizing id s with
  | zero => exact .exhausted
  | succ depth ih =>
    intro outcome u h
    obtain ⟨s₁, s₂, hbefore, hdisposes, hafter⟩ :=
      destroyWithin_succ hengine hdoing (fun id t ht => ih id ht) h
    exact .next hbefore (.next hdisposes.course hafter)

/-- **Destroying one identifier** is a course in which its hook, if it has one, is taken and runs. -/
theorem destroyOne_disposes (hengine : engine.OnCourse) {id : Ident} {s u : Session}
    {outcome : Outcome ε Report} (hdoing : s.Doing Op.drops)
    (h : destroyOne engine id s = some (outcome, u)) :
    ∃ s₁ s₂, Course s s₁ ∧ Disposes id s₁ s₂ ∧ Course s₂ u := by
  rw [destroyOne] at h
  cases hdepth : engine.depth with
  | zero =>
    rw [hdepth] at h
    cases h
  | succ depth =>
    rw [hdepth] at h
    exact destroyWithin_succ hengine hdoing
      (fun id t ht => destroyWithin_onCourse hengine depth id ht) h

theorem destroyOne_onCourse (hengine : engine.OnCourse) (id : Ident) {s : Session}
    (hdoing : s.Doing Op.drops) : (destroyOne engine id : Run ε Report).OnCourse s :=
  destroyWithin_onCourse hengine engine.depth id hdoing

/-! ### The whole registry -/

/-- Finishing drops what is left, reports hooks that never ran, and ends the lifecycle. -/
theorem finish_eq (s : Session) :
    ∃ u, (finish : Run ε Unit) s = some (.ok (), u.put { u.registry with lifecycle := .destroyed }) ∧
      Empties s u := by
  rw [finish, Run.bind_ok (Run.registry_apply s), Run.bind_ok (Run.edit_put _ _)]
  cases hnone : s.registry.hooks.isEmpty with
  | true => exact ⟨s.put s.registry.empty, rfl, .silently⟩
  | false => exact ⟨_, rfl, .reporting _⟩

/-- An active registry at the moment when its destruction begins: it is closed, and says so. -/
def begin (s : Session) : Session :=
  (s.put { s.registry with lifecycle := .destroying }).note
    (.noticed (.destroying { s.registry.census with lifecycle := .destroying }))

/-- **Destroying the whole registry** runs every hook, drops what is left and succeeds; it does
    nothing if the registry is not active. -/
theorem destroyAll_inv {s v : Session} {outcome : Outcome ε Report}
    (h : destroyAll engine s = some (outcome, v)) :
    (s.registry.lifecycle ≠ .active ∧ outcome = .ok {} ∧
        v = s.note (.noticed (.alreadyOver s.registry.lifecycle))) ∨
      s.registry.lifecycle = .active ∧ ∃ report t u,
        Run.collect (destroyOne engine) s.registry.hooks.keys.reverse (begin s) =
          some ((.ok report : Outcome ε Report), t) ∧
        outcome = .ok report ∧ Empties t u ∧
        (v = u.put { u.registry with lifecycle := .destroyed } ∨
          ∃ count, v = (u.put { u.registry with lifecycle := .destroyed }).note
            (.noticed (.unclean count))) := by
  rw [destroyAll, Run.bind_ok (Run.registry_apply s)] at h
  by_cases hactive : s.registry.lifecycle = .active
  · rw [if_pos hactive, Run.bind_ok (Run.edit_put _ _), Run.bind_ok (Run.report_note _ _)] at h
    have hsucceeds : Succeeds
        (Run.collect (destroyOne engine) s.registry.hooks.keys.reverse : Run ε Report) :=
      .collect (fun id => succeeds_destroyWithin engine.depth id) _
    obtain ⟨report, t, hwork, hrest⟩ := hsucceeds.bind_inv h
    obtain ⟨u, hfinish, hempties⟩ := finish_eq (ε := ε) t
    rw [Run.bind_ok hfinish] at hrest
    refine .inr ⟨hactive, report, t, u, hwork, ?_⟩
    cases hclean : report.isClean with
    | true =>
      rw [hclean] at hrest
      cases hrest
      exact ⟨rfl, hempties, .inl rfl⟩
    | false =>
      rw [hclean] at hrest
      cases hrest
      exact ⟨rfl, hempties, .inr ⟨_, rfl⟩⟩
  · rw [if_neg hactive, Run.bind_ok (Run.report_note _ _)] at h
    cases h
    exact .inl ⟨hactive, rfl, rfl⟩

/-- It takes a course: what the hooks do stands between the closing of an active registry and its
    end. -/
theorem destroyAll_onCourse (hengine : engine.OnCourse) {s : Session}
    (hends : s.Doing Op.endsAll) (hdrops : s.Doing Op.drops) :
    (destroyAll engine : Run ε Report).OnCourse s := by
  intro outcome v h
  rcases destroyAll_inv h with ⟨_, _, rfl⟩ | ⟨hactive, report, t, u, hwork, _, hempties, hend⟩
  · exact .note rfl
  · have hbegin : Course (s.put { s.registry with lifecycle := .destroying }) (begin s) := .note rfl
    have hhooks := OnCourse.collect s.registry.hooks.keys.reverse
      (fun id u hu => destroyOne_onCourse hengine id
        (hu.doing.2 (hbegin.doing.2 hdrops))) _ _ hwork
    have hdestroyed := Course.destroy hends hactive (.next hbegin hhooks) hempties
    rcases hend with rfl | ⟨count, rfl⟩
    · exact hdestroyed
    · exact .next hdestroyed (.note rfl)

theorem shutdown_onCourse (hengine : engine.OnCourse) {s : Session} (hends : s.Doing Op.endsAll)
    (hdrops : s.Doing Op.drops) : (shutdown engine : Run ε Report).OnCourse s :=
  .bind (.report rfl) fun _ _ ht =>
    destroyAll_onCourse hengine (ht.doing.2 hends) (ht.doing.2 hdrops)

end Destruction

end InstanceRegistry
