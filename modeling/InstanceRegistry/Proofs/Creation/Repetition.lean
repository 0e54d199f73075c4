import InstanceRegistry.Proofs.Creation.Dependencies
import InstanceRegistry.Proofs.Creation.Identity

/-!
  Asking again.

  A run in which nobody does anything but ask for creations only EXTENDS its registry: what is
  finished, excluded or recorded stays so, and a graph in which no two identifiers depend on each
  other stays such a graph, since every dependency is looked at before it is recorded
  (`Script.accrues`).  So whatever a request found out when it was answered is still true when it
  is repeated, at whatever depth: its edges are there, and no later request can have put one of its
  dependencies downstream of it.

  The exception is an identifier that is listed among its own dependencies.  The look finds nothing
  the first time, for there is no edge yet; then the edge is recorded, and the next look finds that
  one.  The law says that this is the only exception (`repeated_creation_iff`).
-/

namespace InstanceRegistry

variable {r r' r'' : Registry} {s t u : Session} {id : Ident}

/-! ## Extension -/

/-- Nothing but creations began. -/
def Session.OnlyCreates (s : Session) : Prop := s.Never fun op => op.creation?.isNone

instance (s : Session) : Decidable s.OnlyCreates := inferInstanceAs (Decidable (s.Never _))

theorem Session.OnlyCreates.mono (h : t.OnlyCreates) (hst : s.journal <:+ t.journal) :
    s.OnlyCreates :=
  Never.mono h hst

/-- What a registry was asked to keep is kept, and names go on to mean what they meant. -/
structure Registry.Extends (r r' : Registry) : Prop where
  config : r'.config = r.config
  guarded : r'.guarded = r.guarded
  aliases : r'.aliases = r.aliases
  grows : r.Grows r'
  excluded : ∀ x, r.marks.isExcluded x = true → r'.marks.isExcluded x = true
  edges : ∀ x y, y ∈ r.graph.dependentsOf x → y ∈ r'.graph.dependentsOf x
  layered : r.graph.Layered → r'.graph.Layered

namespace Registry.Extends

theorem refl (r : Registry) : r.Extends r :=
  ⟨rfl, rfl, rfl, .refl r, fun _ h => h, fun _ _ h => h, fun h => h⟩

theorem trans (h : r.Extends r') (h' : r'.Extends r'') : r.Extends r'' where
  config := h'.config.trans h.config
  guarded := h'.guarded.trans h.guarded
  aliases := h'.aliases.trans h.aliases
  grows := h.grows.trans h'.grows
  excluded x hx := h'.excluded x (h.excluded x hx)
  edges x y hy := h'.edges x y (h.edges x y hy)
  layered hr := h'.layered (h.layered hr)

theorem canonical (h : r.Extends r') (id : Ident) : r'.canonical id = r.canonical id := by
  rw [Registry.canonical, h.aliases]
  rfl

theorem accept (h : r.Extends r') (id : Ident) : r'.accept id = r.accept id := by
  rw [Registry.accept, h.config, h.guarded, h.canonical]
  rfl

/-- Opening a creation sets a mark and no exclusion. -/
theorem openCreation {outermost : Bool} (h : r.openCreation id = .ok (outermost, r')) :
    r.Extends r' := by
  have hexcluded := Marks.enter_excluded (Registry.openCreation_inv h).1
  have hmarks : ∀ x, r.marks.isExcluded x = true → r'.marks.isExcluded x = true := by
    intro x hx
    rwa [Marks.isExcluded_congr hexcluded]
  obtain ⟨marks, -, ⟨-, -, rfl⟩ | ⟨_, -, -, rfl⟩⟩ := Registry.openCreation_eq h
  · exact ⟨rfl, rfl, rfl, .of_eq rfl, hmarks, fun _ _ h => h, fun h => h⟩
  · exact ⟨rfl, rfl, rfl, .of_eq rfl, hmarks, fun _ _ h => h, fun h => h⟩

theorem abandonCreation (r : Registry) (outermost : Bool) (id : Ident) :
    r.Extends (r.abandonCreation outermost id) := by
  rw [Registry.abandonCreation_eq]
  refine ⟨rfl, rfl, rfl, .of_eq rfl, fun x hx => ?_, fun _ _ h => h, fun h => h⟩
  rwa [Marks.isExcluded_congr (Marks.excluded_leaveQuietly r.marks id)]

theorem commit {made : Instance} (h : r.commit id made = .ok r') : r.Extends r' := by
  have hgrows := Registry.Grows.commit h
  obtain ⟨-, rfl⟩ := Registry.commit_eq h
  exact ⟨rfl, rfl, rfl, hgrows, fun _ h => h, fun _ _ h => h, fun h => h⟩

/-- What is provisional is not asked to be kept. -/
theorem retract (r : Registry) (id : Ident) : r.Extends (r.retract id) :=
  ⟨rfl, rfl, rfl, .of_eq rfl, fun _ h => h, fun _ _ h => h, fun h => h⟩

theorem unlist (r : Registry) (id : Ident) : r.Extends (r.unlist id) :=
  ⟨rfl, rfl, rfl, .of_eq rfl, fun _ h => h, fun _ _ h => h, fun h => h⟩

/-- Dependencies that are admitted leave the graph as layered as it was. -/
theorem recording (request : Request) {listed : List Ident}
    (h : s.registry.Admitted id listed) :
    s.registry.Extends (s.recording request id listed).registry where
  config := rfl
  guarded := rfl
  aliases := rfl
  grows := .of_eq rfl
  excluded x hx := by
    change (if request.excluded then s.registry.marks.setExcluded id true
      else s.registry.marks).isExcluded x = true
    cases request.excluded with
    | false => exact hx
    | true => exact decide_eq_true (Roster.mem_add.2 (.inl (of_decide_eq_true hx)))
  edges x y hy := Graph.mem_dependentsOf_addDependencies.2 (.inl hy)
  layered hr := hr.addDependencies h.admits

end Registry.Extends

/-- However a creation closes, what its registry was asked to keep is kept. -/
theorem Creation.Closes.extending {outermost : Bool} {ending : Outcome Cause Instance}
    {outcome : Outcome Failure Instance} (h : Creation.Closes id outermost t ending outcome u) :
    t.registry.Extends u.registry := by
  have habandon := Registry.Extends.abandonCreation t.registry outermost id
  have hretract := habandon.trans (.retract _ id)
  cases h with
  | stuck _ | occupied _ _ | unwound => exact habandon
  | bound _ hcommit => exact habandon.trans (.commit hcommit)
  | recovered _ => exact hretract
  | failed _ _ | mismatched _ _ => exact hretract.trans (.unlist _ id)

/-! ## Work that only creates -/

/-- If nothing but creations begins, the registry is extended from one moment to the next. -/
def Run.Accrues {ε α : Type} (work : Run ε α) : Prop :=
  ∀ s outcome t, work s = some (outcome, t) → t.OnlyCreates → Through Registry.Extends s t

theorem Through.suffix {R : Registry → Registry → Prop} (h : Through R s t) :
    s.journal <:+ t.journal := by
  obtain ⟨new, hjournal, -⟩ := h
  exact ⟨new, hjournal.symm⟩

namespace Run.Accrues

variable {ε ε' α β : Type}

theorem conclude (outcome : Outcome ε α) : (Run.conclude outcome).Accrues := by
  intro s outcome' t h _
  cases h
  exact .of_eq (.refl _) rfl

theorem pure (value : α) : (Pure.pure value : Run ε α).Accrues := conclude (.ok value)

theorem fail (failure : ε) : (Run.fail failure : Run ε α).Accrues := conclude _

theorem unwind (payload : Panic) : (Run.unwind payload : Run ε α).Accrues := conclude _

/-- A change of variables and the like, or none. -/
theorem aside {work : Run ε α} (h : ∀ s outcome t, work s = some (outcome, t) →
    t.registry = s.registry ∧ t.journal = s.journal) : work.Accrues := by
  intro s outcome t hrun _
  obtain ⟨hregistry, hjournal⟩ := h _ _ _ hrun
  exact .of_eq (hregistry ▸ .refl _) hjournal

theorem read (f : Session → α) : (Run.read f : Run ε α).Accrues :=
  aside fun _ _ _ h => by cases h; exact ⟨rfl, rfl⟩

theorem fresh (label : Option String) : (Run.fresh label : Run ε Instance).Accrues :=
  aside fun _ _ _ h => by cases h; exact ⟨rfl, rfl⟩

theorem record (event : Event) : (Run.record event : Run ε Unit).Accrues := by
  intro s outcome t h _
  cases h
  exact .note .refl event

theorem bind {work : Run ε α} {next : α → Run ε β} (h : work.Accrues)
    (hnext : ∀ value, (next value).Accrues) : (work >>= next).Accrues := by
  intro s outcome u hrun honly
  rcases bind_inv hrun with ⟨value, t, hwork, hrest⟩ | ⟨failure, hwork, -⟩ | ⟨payload, hwork, -⟩
  · have hsecond := hnext value _ _ _ hrest honly
    exact .trans .trans (h _ _ _ hwork (honly.mono hsecond.suffix)) hsecond
  · exact h _ _ _ hwork honly
  · exact h _ _ _ hwork honly

theorem map {f : α → β} {work : Run ε α} (h : work.Accrues) :
    (work >>= fun value => Pure.pure (f value)).Accrues :=
  bind h fun _ => pure _

theorem attempt {work : Run ε α} (h : work.Accrues) :
    (work.attempt : Run ε' (Outcome ε α)).Accrues := by
  intro s outcome t hrun
  obtain ⟨ending, hwork, -⟩ := attempt_inv hrun
  exact h _ _ _ hwork

theorem mapError {f : ε → ε'} {work : Run ε α} (h : work.Accrues) : (work.mapError f).Accrues := by
  intro s outcome t hrun
  obtain ⟨ending, hwork, -⟩ := mapError_inv hrun
  exact h _ _ _ hwork

/-- An operation that creates has to be looked into. -/
theorem noted {op : Op} {asStep : Bool} {answer : α → Answer Instance} {work : Run Failure α}
    (depth : Nat)
    (hserves : ∀ s ending u, work s = some (ending, u) →
      op.run (.ofDepth depth) s = some (ending.map answer, u))
    (h : ∀ request make, op.creation? = some (request, make) → work.Accrues) :
    (Run.noted op asStep answer work).Accrues := by
  intro s outcome u hrun honly
  obtain ⟨t, hwork, rfl⟩ := noted_inv hrun
  have hsuffix := t.suffix_note (.done op asStep (outcome.map answer))
  have hbegan := (Call.course ⟨depth, op, s, _, t, hserves _ _ _ hwork⟩).suffix
  have hcreates := honly.mono (hbegan.trans hsuffix) _ List.mem_cons_self op rfl
  obtain ⟨⟨request, make⟩, hop⟩ :=
    Option.isSome_iff_exists.1 (Option.isNone_eq_false_iff.1 hcreates)
  exact .trans .trans (.note .refl _)
    (.trans .trans (h request make hop _ _ _ hwork (honly.mono hsuffix)) (.note .refl _))

/-- Any other operation does not begin. -/
theorem other {op : Op} {asStep : Bool} {answer : α → Answer Instance} {work : Run Failure α}
    (depth : Nat)
    (hserves : ∀ s ending u, work s = some (ending, u) →
      op.run (.ofDepth depth) s = some (ending.map answer, u))
    (hop : op.creation? = none) : (Run.noted op asStep answer work).Accrues := by
  refine noted depth hserves fun request make hcreation => ?_
  rw [hop] at hcreation
  cases hcreation

end Run.Accrues

open Run (Accrues)

variable {engine : Engine}

/-! ### Creating -/

/-- Preparing extends the registry, however far it comes. -/
theorem Operations.prepare_accrues (request : Request) : (prepare request).Accrues := by
  intro s outcome t h _
  rcases s.registry.accept_inv request.id with hid | ⟨failure, hid, -⟩
  · rcases prepare_cases hid with ⟨hall, hrun⟩ | ⟨before, d, after, failure, -, hbefore, -, hrun⟩
    · rw [hrun] at h
      cases h
      exact .of_eq (.recording request hall) rfl
    · rw [hrun] at h
      cases h
      exact .of_eq (.recording request hbefore) rfl
  · rw [prepare, Run.bind_error (accept_eq hid)] at h
    cases h
    exact .of_eq (.refl _) rfl

theorem Creation.getOrCreate_accrues (hengine : ∀ make, (engine.construct make).Accrues)
    (id : Ident) (make : Routine) : (getOrCreate engine id make).Accrues := by
  intro s outcome u h honly
  rcases getOrCreate_inv h with ⟨_, _, _, rfl⟩ | ⟨_, ⟨_, _, rfl⟩ | ⟨_, hconstruct⟩⟩
  · exact .of_eq (.refl _) rfl
  · exact .of_eq (.refl _) rfl
  rcases construct_inv hconstruct with ⟨_, _, _, rfl⟩ |
      ⟨outermost, r, ending, t, hmark, hcallback, hclose⟩
  · exact .note .refl _
  · have hinside := hengine make _ _ _ hcallback (honly.mono hclose.suffix)
    have hopened : Through Registry.Extends s ((s.note (.noticed (.creating id))).put r) :=
      .trans .trans (.note .refl _) (.of_eq (.openCreation hmark) rfl)
    have hchange : Through Registry.Extends t (t.put u.registry) := .of_eq hclose.extending rfl
    refine .trans .trans hopened (.trans .trans hinside ?_)
    rcases hclose.split with hput | ⟨event, hnote⟩
    · rw [hput]
      exact hchange
    · rw [hnote]
      exact .trans .trans hchange (.note .refl _)

theorem Operations.create_accrues (hengine : ∀ make, (engine.construct make).Accrues)
    (request : Request) (make : Routine) : (create engine request make).Accrues := by
  rw [create_eq]
  exact .bind (prepare_accrues request) fun id => Creation.getOrCreate_accrues hengine id make

theorem Op.run_accrues {op : Op} {request : Request} {make : Routine}
    (hengine : ∀ make, (engine.construct make).Accrues)
    (hop : op.creation? = some (request, make)) : (op.run engine).Accrues := by
  rw [Op.run_creation hop]
  exact .map (Operations.create_accrues hengine request make)

/-! ### Assembling -/

namespace Assembly

variable {depth : Nat}

/-- A component asks by looking up first, so nothing that only creates assembles with needs. -/
theorem supply_accrues (hengine : ∀ make, ((Engine.ofDepth depth).construct make).Accrues)
    (id need : Ident) : (supply (.ofDepth depth) id need).Accrues := by
  have hget : (Inner.get (.ofDepth depth) need).Accrues :=
    .other depth (fun _ _ _ h => Run.map_of h) rfl
  have hcreate : (Inner.getOrCreate (.ofDepth depth) need (.assembly need)).Accrues :=
    .noted depth (fun _ _ _ h => Run.map_of h) fun _ _ _ =>
      Operations.create_accrues hengine { id := need } _
  have hrest : ∀ given, (Run.record (.wired id need given) >>= fun _ =>
      Inner.addDependency need id : Run Failure Unit).Accrues := by
    refine fun given => .bind (.record _) fun _ => .map ?_
    refine .other 0 (fun _ _ _ h => ?_) rfl
    rw [Outcome.map_id]
    exact h
  refine .bind hget fun there => ?_
  cases there with
  | some there => exact .bind (.pure there) hrest
  | none => exact .bind hcreate hrest

theorem supplyNeeds_accrues (hengine : ∀ make, ((Engine.ofDepth depth).construct make).Accrues)
    (id : Ident) (needs : List Ident) : (supplyNeeds (.ofDepth depth) id needs).Accrues := by
  induction needs with
  | nil => exact .pure _
  | cons need rest ih => exact .bind (supply_accrues hengine id need) fun _ => ih

theorem supplyWishes_accrues (hengine : ∀ make, ((Engine.ofDepth depth).construct make).Accrues)
    (id : Ident) (wishes : List Ident) : (supplyWishes (.ofDepth depth) id wishes).Accrues := by
  induction wishes with
  | nil => exact .pure _
  | cons wish rest ih =>
    refine .bind (.attempt (supply_accrues hengine id wish)) fun ending => ?_
    cases ending with
    | ok _ => exact ih
    | error failure =>
      exact .bind (.other 0 (fun _ _ _ h => Run.map_of h) rfl) fun _ => ih
    | panic payload => exact .unwind payload

theorem assemble_accrues (hengine : ∀ make, ((Engine.ofDepth depth).construct make).Accrues)
    (id : Ident) : (assemble (.ofDepth depth) id).Accrues := by
  refine .bind (.read _) fun component => ?_
  cases component with
  | none => exact .fail _
  | some component =>
    have hannounce : ∀ me, (announce component id me).Accrues := by
      intro me
      rw [announce]
      split
      · exact .other 0 (fun _ _ _ h => Run.map_of h) rfl
      · exact .pure _
    have hattach : (attach component id).Accrues := by
      rw [attach]
      split
      · exact .pure _
      · exact .other 0 (fun _ _ _ h => Run.map_of h) rfl
    have hfurnish : ∀ me, (furnish (.ofDepth depth) component id me).Accrues := fun me =>
      .bind (hannounce me) fun _ => .bind hattach fun _ =>
        .bind (supplyNeeds_accrues hengine id component.needs) fun _ =>
          supplyWishes_accrues hengine id component.wishes
    refine .bind (.fresh _) fun me => .bind (.mapError (hfurnish me)) fun _ => ?_
    cases component.fault with
    | none => exact .pure _
    | some text => exact .fail _

end Assembly

/-! ### Steps and routines -/

theorem Settle.yield_accrues (id : Ident) (passed : Option Instance) (settle : Settle) :
    (settle.yield id passed).Accrues := by
  cases settle with
  | fail text => exact .fail _
  | panic payload => exact .unwind payload
  | wrap title =>
    cases passed with
    | some p => exact .bind (.read _) fun _ => .fresh _
    | none => exact .fresh _
  | same =>
    cases passed with
    | some p => exact .pure _
    | none => exact .fresh _
  | fresh label => exact .fresh _
  | nothing => exact .fresh _
  | _ =>
    -- what a variable holds
    refine .bind (.read _) fun held => ?_
    cases held with
    | some held => exact .pure _
    | none => exact .fail _

variable {depth : Nat}

theorem Step.bind_accrues {ε : Type} (binding : Option String) (answer : Answer Instance) :
    (bind binding answer : Run ε Unit).Accrues := by
  unfold Step.bind
  split
  · exact .aside fun _ _ _ h => by cases h; exact ⟨rfl, rfl⟩
  · exact .aside fun _ _ _ h => by cases h; exact ⟨rfl, rfl⟩
  · exact .pure _

theorem Step.take_accrues (hengine : ∀ make, ((Engine.ofDepth depth).construct make).Accrues)
    (step : Step) : (step.take (.ofDepth depth)).Accrues := by
  obtain ⟨op, must, binding⟩ := step
  have hop : (Run.noted op true id (op.run (.ofDepth depth))).Accrues := by
    refine .noted depth (fun _ _ _ h => ?_) fun _ _ hop => Op.run_accrues hengine hop
    rw [Outcome.map_id]
    exact h
  refine .bind (.attempt hop) fun ending => ?_
  cases ending with
  | ok answer => exact Step.bind_accrues binding answer
  | error failure =>
    cases must with
    | true => exact .fail _
    | false => exact .pure _
  | panic payload =>
    cases must with
    | true => exact .unwind payload
    | false => exact .pure _

theorem Step.takeAll_accrues (hengine : ∀ make, ((Engine.ofDepth depth).construct make).Accrues)
    (steps : List Step) : (takeAll (.ofDepth depth) steps).Accrues := by
  induction steps with
  | nil => exact .pure _
  | cons first rest ih => exact .bind (first.take_accrues hengine) fun _ => ih

theorem Routine.run_accrues (hengine : ∀ make, ((Engine.ofDepth depth).construct make).Accrues)
    (role : Role) (routine : Routine) : (routine.run (.ofDepth depth) role).Accrues := by
  cases routine with
  | scripted id body settle =>
    exact .bind (.record _) fun _ => .bind (Step.takeAll_accrues hengine body) fun _ =>
      settle.yield_accrues id none
  | contender id settle => exact .bind (.record _) fun _ => settle.yield_accrues id none
  | assembly id => exact .bind (.record _) fun _ => Assembly.assemble_accrues hengine id
  | handover id held => exact .bind (.record _) fun _ => .pure _

/-- Constructions accrue, however deep they nest. -/
theorem construct_accrues (depth : Nat) (make : Routine) :
    ((Engine.ofDepth depth).construct make).Accrues := by
  induction depth generalizing make with
  | zero =>
    intro s outcome t h
    cases h
  | succ depth ih => exact make.run_accrues ih .construction

namespace Script

theorem takeStep_accrues (step : Step) : (takeStep (.ofDepth depth) step).Accrues := by
  have hfetch : ∀ waiting, (fetchWaiting (.ofDepth depth) waiting).Accrues := by
    intro waiting
    induction waiting with
    | nil => exact .pure _
    | cons id rest ih =>
      have hget : (Inner.get (.ofDepth depth) id).Accrues :=
        .other depth (fun _ _ _ h => Run.map_of h) rfl
      exact .bind (.attempt hget) fun _ => .bind (.record _) fun _ => ih
  refine .bind (.attempt (step.take_accrues (construct_accrues depth))) fun outcome => ?_
  refine .bind (.read _) fun waiting => .bind (.aside fun _ _ _ h => ?_) fun _ =>
    .bind (hfetch waiting) fun _ => .conclude outcome
  cases h
  exact ⟨rfl, rfl⟩

/-- **A script that only creates extends its registry**, from every moment to every later one. -/
theorem accrues {script : Script} {outcome : Outcome Cause Unit}
    (h : script.runWithin depth = some (outcome, s)) (honly : s.OnlyCreates) :
    Through Registry.Extends script.start s := by
  have hsteps : ∀ steps, (takeSteps (.ofDepth depth) steps).Accrues := by
    intro steps
    induction steps with
    | nil => exact .pure _
    | cons first rest ih => exact .bind (takeStep_accrues first) fun _ => ih
  exact hsteps script.steps _ _ _ h honly

end Script

/-! ## Answered requests -/

/-- Where all the edges of a request are recorded in a layered graph, its dependencies pass again
    exactly if `id` is not among them. -/
theorem Graph.Layered.admits_iff {g : Graph} {targets : List Ident} (h : g.Layered)
    (hthere : ∀ target ∈ targets, id ∈ g.dependentsOf target) :
    g.Admits id targets ↔ ∀ target ∈ targets, target ≠ id := by
  induction targets with
  | nil => simp [Graph.Admits]
  | cons target rest ih =>
    obtain ⟨hfirst, hrest⟩ := List.forall_mem_cons.1 hthere
    have hforth : g.Depends target id := .single hfirst
    have hback : ¬ g.Depends id target ↔ target ≠ id := by
      refine not_congr ⟨fun hback => h target id hforth hback, ?_⟩
      rintro rfl
      exact hforth
    rw [Graph.Admits, Graph.addDependency, if_pos hfirst, ih hrest, hback, List.forall_mem_cons]

/-- What a registry knows of a request that it answered with `v`. -/
structure Registry.Answered (r : Registry) (request : Request) (v : Instance) : Prop where
  accepted : r.accept request.id = .ok (r.canonical request.id)
  listed : ∀ d ∈ request.dependsOn, r.accept d = .ok (r.canonical d)
  excluded : request.excluded = true → r.marks.isExcluded (r.canonical request.id) = true
  recorded : ∀ d ∈ request.dependsOn,
    r.canonical request.id ∈ r.graph.dependentsOf (r.canonical d)
  finished : r.finished.get? (r.canonical request.id) = some v
  layered : r.graph.Layered

namespace Registry.Answered

variable {request : Request} {v : Instance}

theorem mono (h : r.Answered request v) (hr : r.Extends r') : r'.Answered request v where
  accepted := by rw [hr.accept, hr.canonical]; exact h.accepted
  listed d hd := by rw [hr.accept, hr.canonical]; exact h.listed d hd
  excluded hrequest := by rw [hr.canonical]; exact hr.excluded _ (h.excluded hrequest)
  recorded d hd := by
    rw [hr.canonical, hr.canonical]
    exact hr.edges _ _ (h.recorded d hd)
  finished := by rw [hr.canonical]; exact hr.grows _ _ h.finished
  layered := hr.layered h.layered

/-- What is known already is not recorded again. -/
theorem recording_eq (h : s.registry.Answered request v) {listed : List Ident}
    (hsub : listed ⊆ request.dependsOn) :
    s.recording request (s.registry.canonical request.id) listed = s := by
  have hgraph : s.registry.graph.addDependencies (s.registry.canonical request.id)
      (listed.map s.registry.canonical) = s.registry.graph :=
    Graph.addDependencies_eq_self (List.forall_mem_map.2 fun d hd => h.recorded d (hsub hd))
  have hmarks : (if request.excluded then
      s.registry.marks.setExcluded (s.registry.canonical request.id) true
        else s.registry.marks) = s.registry.marks := by
    cases hexcluded : request.excluded with
    | false => rfl
    | true =>
      have hself := s.registry.marks.setExcluded_self (s.registry.canonical request.id)
      rwa [h.excluded hexcluded] at hself
  rw [Session.recording, hgraph, hmarks]
  rfl

/-- **A request that was answered** is answered alike, or refused for its own identifier if that is
    among its dependencies.  Nothing changes. -/
theorem again (h : s.registry.Answered request v) (engine : Engine) (make : Routine) :
    ((∀ d ∈ request.dependsOn, s.registry.canonical d ≠ s.registry.canonical request.id) →
      Operations.create engine request make s = some (.ok v, s)) ∧
    ((∃ d ∈ request.dependsOn, s.registry.canonical d = s.registry.canonical request.id) →
      Operations.create engine request make s =
        some (.error (.circularDependency (s.registry.canonical request.id)
          (s.registry.canonical request.id)), s)) := by
  have hthere : ∀ {listed : List Ident}, listed ⊆ request.dependsOn →
      ∀ target ∈ listed.map s.registry.canonical,
        s.registry.canonical request.id ∈ s.registry.graph.dependentsOf target :=
    fun hsub => List.forall_mem_map.2 fun d hd => h.recorded d (hsub hd)
  rcases Operations.prepare_cases h.accepted with
    ⟨hall, hrun⟩ | ⟨before, d, after, failure, hsplit, hbefore, hd, hrun⟩
  · have hothers := (h.layered.admits_iff (hthere (List.Subset.refl _))).1 hall.admits
    rw [List.forall_mem_map] at hothers
    refine ⟨fun _ => ?_, fun ⟨d, hd, heq⟩ => absurd heq (hothers d hd)⟩
    rw [Operations.create_eq, Run.bind_ok hrun, h.recording_eq (List.Subset.refl _),
      Creation.getOrCreate, Run.bind_ok (Run.registry_apply s), h.finished]
    rfl
  · have hmem : d ∈ request.dependsOn := hsplit ▸ List.mem_append_right _ List.mem_cons_self
    have hsub : before ⊆ request.dependsOn := hsplit ▸ List.subset_append_left before _
    cases hd with
    | unusable hunusable =>
      rw [h.listed d hmem] at hunusable
      cases hunusable
    | circular _ hback =>
      -- its own edge is there, so in a layered graph it can only be the identifier itself
      rw [Graph.addDependencies_eq_self (hthere hsub)] at hback
      have hself := h.layered _ _ (.single (h.recorded d hmem)) hback
      refine ⟨fun hothers => absurd hself (hothers d hmem), fun _ => ?_⟩
      rw [Operations.create_eq, Run.bind_error hrun, h.recording_eq hsub, hself]

end Registry.Answered

/-- What a call that only creates was handed out is an answer that its registry knows of. -/
theorem Call.answered {c : Call} {request : Request} {make : Routine} {v : Instance}
    (hop : c.op.creation? = some (request, make)) (hresult : c.result = .ok (.found (some v)))
    (honly : c.stop.OnlyCreates) (hlayered : c.start.registry.graph.Layered) :
    c.stop.registry.Answered request v := by
  rcases Call.creation_inv hop with ⟨id, t, ending, hprepare, hprepared, hcreation, -⟩ |
      ⟨failure, -, hrefused, -⟩
  · have hfinished := Call.creation_finished hop hresult
    have hextends := (Creation.getOrCreate_accrues (construct_accrues c.depth) id make _ _ _
      hcreation honly).whole
    obtain rfl := hprepared.canonical
    rcases Operations.prepare_cases hprepared.accepted with
      ⟨hall, hrun⟩ | ⟨_, _, _, _, -, -, -, hrun⟩
    · rw [hrun] at hprepare
      cases hprepare
      -- everything but the instance is known when the request is prepared
      have hrecorded := Registry.Extends.recording request hall
      have hstop := hrecorded.trans hextends
      refine
        { accepted := ?_
          listed := fun d hd => ?_
          excluded := fun hrequest => ?_
          recorded := fun d hd => ?_
          finished := ?_
          layered := hstop.layered hlayered }
      · rw [hstop.accept, hstop.canonical]
        exact hprepared.accepted
      · rw [hstop.accept, hstop.canonical]
        exact hall.accepted d hd
      · rw [hstop.canonical]
        refine hextends.excluded _ ?_
        change (if request.excluded then _ else _ : Marks).isExcluded _ = true
        rw [if_pos hrequest]
        exact decide_eq_true (Roster.mem_add.2 (.inr rfl))
      · rw [hstop.canonical, hstop.canonical]
        exact hextends.edges _ _ (Graph.mem_dependentsOf_addDependencies.2
          (.inr ⟨List.mem_map_of_mem hd, rfl⟩))
      · rw [hstop.canonical]
        exact hfinished
    · rw [hrun] at hprepare
      cases hprepare
  · rw [hresult] at hrefused
    cases hrefused

/-! ## Asking again -/

/-- **Asking again is harmless, unless it is for what needs itself.**  Take a script that does
    nothing but ask for creations, in whatever callbacks, from a registry in whose graph no two
    identifiers depend on each other.  At every moment after a request was answered with an instance
    the same request is answered with it again, by any engine and whatever callback it brings, and
    changes nothing, exactly if its identifier is not among its dependencies.  If it is, the request
    is refused from then on, and that changes nothing either. -/
theorem repeated_creation_iff {script : Script} {outcome : Outcome Cause Unit}
    (h : script.runWithin depth = some (outcome, s)) (honly : s.OnlyCreates)
    (hlayered : script.registry.graph.Layered) :
    s.EveryCall fun c later => ∀ request make v, c.op.creation? = some (request, make) →
      c.result = .ok (.found (some v)) →
      ∀ u : Session, u.registry ∈ s.registry :: later.map Entry.registry → ∀ engine again,
        let id := u.registry.canonical request.id
        (Operations.create engine request again u = some (.ok v, u) ↔
          ∀ d ∈ request.dependsOn, u.registry.canonical d ≠ id) ∧
        ((∃ d ∈ request.dependsOn, u.registry.canonical d = id) →
          Operations.create engine request again u =
            some (.error (.circularDependency id id), u)) := by
  have hmoments := (Script.accrues h honly).moments rfl
  have hsince := (Script.accrues h honly).since rfl
  refine Script.everyCall h fun c asStep later hjournal => ?_
  intro request make v hop hresult u hu engine again id
  have hdone : (c.stop.note (.done c.op asStep c.result)).journal <:+ s.journal :=
    ⟨later, hjournal.symm⟩
  have hstop : c.stop.journal <:+ s.journal := (List.suffix_cons _ _).trans hdone
  have hstart : script.registry.Extends c.start.registry :=
    hsince _ (Session.moment_of_suffix (c.course.suffix.trans hstop))
  have hanswered : c.stop.registry.Answered request v :=
    Call.answered hop hresult (honly.mono hstop) (hstart.layered hlayered)
  have hlater : c.stop.registry.Extends u.registry := by
    rw [Session.moments, hjournal, List.map_append, ← List.cons_append] at hmoments
    exact (List.pairwise_append.1 hmoments).2.2 _ hu _ List.mem_cons_self
  obtain ⟨hsame, hself⟩ := (hanswered.mono hlater).again engine again
  refine ⟨⟨fun hagain d hd heq => ?_, hsame⟩, hself⟩
  rw [hself ⟨d, hd, heq⟩] at hagain
  cases hagain

/-- A request for a lamp, as a step of a program. -/
def askForLamp (dependsOn : List Ident) : Step :=
  .step (.create { id := "lamp", dependsOn } (.scripted "lamp" [] .same)) false none

/-- A shop is made, and for it a lamp; then somebody else asks for the lamp. -/
def lampsOnly : Script where
  registry := {}
  steps :=
    [.step (.create { id := "shop", dependsOn := ["oil", "lamp"], excluded := true }
        (.scripted "shop" [askForLamp ["oil"]] .same)) true none,
      askForLamp ["wick", "lamp"]]

/-- Whoever was answered may ask again, but for the lamp that needs itself. -/
theorem repeated_creation_iff_lamps :
    ∃ outcome s, lampsOnly.runWithin 3 = some (outcome, s) ∧ s.OnlyCreates ∧
      lampsOnly.registry.graph.Layered ∧ s.registry.finished.contains "shop" = true ∧
      s.EveryCall fun c _ => ∀ request make v, c.op.creation? = some (request, make) →
        c.result = .ok (.found (some v)) →
        (Operations.create .idle request make s = some (.ok v, s) ↔
          ∀ d ∈ request.dependsOn,
            s.registry.canonical d ≠ s.registry.canonical request.id) := by
  have hends : ∃ outcome s, lampsOnly.runWithin 3 = some (outcome, s) ∧ s.OnlyCreates ∧
      s.registry.finished.contains "shop" = true := Script.ends_of_check (by decide +kernel)
  obtain ⟨outcome, s, hrun, honly, hshop⟩ := hends
  have hlayered : lampsOnly.registry.graph.Layered :=
    (Graph.acyclic_of_rank (fun _ => 0) (by decide)).layered
  refine ⟨outcome, s, hrun, honly, hlayered, hshop, ?_⟩
  refine (repeated_creation_iff hrun honly hlayered).imp fun c later hc => ?_
  intro request make v hop hresult
  exact (hc request make v hop hresult s List.mem_cons_self .idle make).1

/-- What the calls in a session's past ended with, the last first. -/
def Session.results (s : Session) : List (Outcome Failure (Answer Instance)) :=
  s.journal.filterMap fun e => match e.event with
    | .done _ _ result => some result
    | _ => none

/-- A lamp that needs itself is created, and refused when it is asked for again in the same way. -/
theorem repeated_self_refused :
    ∃ outcome s, ({ registry := {}, steps := [askForLamp ["lamp"], askForLamp ["lamp"]] } :
        Script).runWithin 2 = some (outcome, s) ∧ s.OnlyCreates ∧
      s.results = [.error (.circularDependency "lamp" "lamp"),
        .ok (.found (some ⟨0, some "lamp"⟩))] ∧
      s.registry.finished.get? "lamp" = some ⟨0, some "lamp"⟩ :=
  Script.ends_of_check (by decide +kernel)

end InstanceRegistry
