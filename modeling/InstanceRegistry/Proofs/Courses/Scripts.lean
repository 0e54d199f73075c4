import InstanceRegistry.Proofs.Courses.OnCourse
import InstanceRegistry.Proofs.Courses.Preparing
import InstanceRegistry.Proofs.Marks

/-!
  Operations, routines and scripts take courses.

  An operation serves itself if it is carried out right after its beginning was noted, which is how
  every operation is carried out.  A routine is on course if the operations in it are, with engines
  of the depth below its own, so engines of every depth are on course by induction.  `Script.course`
  draws the conclusion for whole scripts.

  Mathlib-free.
-/

namespace InstanceRegistry

open Run (OnCourse Serves)

/-! ## Operations -/

namespace Operations

variable {engine : Engine} {s : Session}

theorem canonical_onCourse {ε : Type} (id : Ident) (s : Session) :
    (canonical id : Run ε Ident).OnCourse s :=
  .read _

theorem accept_onCourse (id : Ident) (s : Session) : (accept id).OnCourse s :=
  .registry_bind (.ofExcept _)

theorem addDependencies_onCourse (id : Ident) (dependencies : List Ident) (s : Session) :
    (addDependencies id dependencies).OnCourse s := by
  induction dependencies generalizing s with
  | nil => exact .pure _
  | cons dependency rest ih =>
    refine .bind (accept_onCourse dependency s) fun dependency t _ => .registry_bind ?_
    cases t.registry.graph.isDependent id dependency with
    | true => exact .fail _
    | false => exact .bind (.shift (.graph _)) fun _ u _ => ih u

/-- Excluding an identifier is what the operation that began says. -/
theorem exclude_onCourse {ε : Type} {op : Op} {id : Ident} {value : Bool} (hbegins : s.Begins op)
    (h : op.exclusion? s.registry = some (id, value)) :
    (Run.edit (fun r => { r with marks := r.marks.setExcluded id value }) : Run ε Unit).OnCourse s :=
  .edit (.exclude hbegins h)

/-- Preparing a request is on course if it is what an operation that began asks for. -/
theorem prepare_onCourse {request : Request} {make : Routine} {op : Op}
    (hop : op.creation? = some (request, make)) (hbegins : s.Begins op) :
    (prepare request).OnCourse s := by
  cases haccept : s.registry.accept request.id with
  | error failure => exact .of_eq (Run.bind_error (accept_eq haccept)) (.rest s)
  | ok id =>
    have hexclude : (excludeIf request.excluded id).OnCourse s := by
      rw [excludeIf]
      cases hexcluded : request.excluded with
      | false => exact .pure _
      | true =>
        refine exclude_onCourse hbegins ?_
        rw [Op.exclusion?_creation hop, hexcluded, haccept]
        rfl
    refine .bind_of (accept_eq haccept) (.rest s) (.bind hexclude fun _ t _ => ?_)
    exact .bind (addDependencies_onCourse id request.dependsOn t) fun _ _ _ => .pure _

/-- A request that was prepared is created in the call that asks for it. -/
theorem create_serves (hengine : engine.OnCourse) {request : Request} {make : Routine} {op : Op}
    (hop : op.creation? = some (request, make)) (hbegins : s.Begins op) :
    (create engine request make).Serves op (.found <| some ·) s := by
  intro outcome u h
  rw [create_eq] at h
  rcases Run.bind_inv h with ⟨id, t, hwork, hrest⟩ | ⟨failure, hwork, -⟩ | ⟨payload, hwork, -⟩
  · have hcourse := prepare_onCourse hop hbegins _ _ hwork
    obtain ⟨outer, houter⟩ := hbegins.frames
    have hasked : t.Asked id := by
      refine ⟨⟨op, none⟩, by rw [hcourse.frames, houter]; rfl, request, make, hop, ?_⟩
      rcases prepare_inv hwork with ⟨_, hid, hprepared⟩ | ⟨_, hid, -⟩
      · cases hid
        exact hprepared.acceptable
      · cases hid
    have hsome : op.creation?.isSome = true := by
      rw [hop]
      rfl
    obtain ⟨exit, hfits, hcreated⟩ :=
      Creation.getOrCreate_serves hengine id make hsome hasked _ _ hrest
    exact ⟨exit, hfits, .next hcourse hcreated⟩
  · exact ⟨.onward, trivial, prepare_onCourse hop hbegins _ _ hwork⟩
  · exact ⟨.onward, trivial, prepare_onCourse hop hbegins _ _ hwork⟩

theorem getOrCreate_serves (hengine : engine.OnCourse) {id : Ident} {make : Routine}
    (hbegins : s.Begins (.getOrCreate id make)) :
    (getOrCreate engine id make).Serves (.getOrCreate id make) (.found <| some ·) s := by
  rw [getOrCreate_eq]
  exact create_serves hengine rfl hbegins

theorem onGraph_onCourse {ε : Type} (command : Graph.Command) (s : Session) :
    (onGraph command : Run ε (Answer Instance)).OnCourse s :=
  .transact (.graph _)

theorem reportBinding_onCourse {ε : Type} (name nick : Ident) (decision : AliasTable.Decision)
    (s : Session) : (reportBinding name nick decision : Run ε Unit).OnCourse s := by
  cases decision with
  | bind => exact .report rfl
  | _ => exact .pure _

theorem onAliases_onCourse (command : AliasTable.Command) (s : Session) :
    (onAliases command).OnCourse s := by
  cases command with
  | register name nick =>
    refine .registry_bind (.bind (.ofExcept _) fun decision t _ => ?_)
    refine .bind (reportBinding_onCourse name nick decision t) fun _ u _ => ?_
    exact .bind (.shift (.aliases _)) fun _ _ _ => .pure _
  | _ => exact .registry_bind (.bind (.shift (.aliases _)) fun _ _ _ => .ofExcept _)

theorem change_onCourse {c : Change} (hbegins : s.Begins (.change c)) : (change c).OnCourse s := by
  cases c with
  | remove id => exact .bind_of rfl (.rest s) (.edit (.drop (hbegins.doing rfl) (.one _)))
  | clear => exact .edit (.drop (hbegins.doing rfl) .all)
  | suppress text => exact Creation.suppress_onCourse hbegins
  | setExcluded id value => exact .bind_of rfl (.rest s) (exclude_onCourse hbegins rfl)
  | setChecked id value => exact .bind_of rfl (.rest s) (exclude_onCourse hbegins rfl)
  | enter id =>
    exact .bind_of rfl (.rest s) (Run.tryMarks_onCourse (hbegins.doing rfl) Marks.enter_excluded)
  | leave id =>
    exact .bind_of rfl (.rest s) (Run.tryMarks_onCourse (hbegins.doing rfl) Marks.leave_excluded)
  | clearMarks =>
    have hclear : Course s (s.put { s.registry with marks := s.registry.marks.clear }) :=
      .setMarks (hbegins.doing rfl) rfl
    exact .of_eq rfl hclear

theorem registerInstance_onCourse {id : Ident} {origin : Source} (made : Instance)
    (hbegins : s.Begins (.registerInstance id origin)) : (registerInstance id made).OnCourse s := by
  cases haccept : s.registry.accept id with
  | error failure => exact .of_eq (Run.bind_error (accept_eq haccept)) (.rest s)
  | ok accepted =>
    exact .bind_of (accept_eq haccept) (.rest s)
      (Creation.registerInstance_onCourse made hbegins haccept)

theorem registerFactory_onCourse {id : Ident} {factory : Routine}
    (hbegins : s.Begins (.registerFactory id factory)) : (registerFactory id factory).OnCourse s := by
  cases haccept : s.registry.accept id with
  | error failure => exact .of_eq (Run.bind_error (accept_eq haccept)) (.rest s)
  | ok accepted =>
    exact .bind_of (accept_eq haccept) (.rest s) (.shift (.offerFactory hbegins haccept))

theorem registerHook_onCourse {id : Ident} {hook : Routine}
    (hbegins : s.Begins (.registerHook id hook)) : (registerHook id hook).OnCourse s := by
  cases haccept : s.registry.accept id with
  | error failure => exact .of_eq (Run.bind_error (accept_eq haccept)) (.rest s)
  | ok accepted =>
    exact .bind_of (accept_eq haccept) (.rest s) (Destruction.registerHook_onCourse accepted hbegins)

theorem get_serves (hengine : engine.OnCourse) {id : Ident} (hbegins : s.Begins (.get id)) :
    (get engine id).Serves (.get id) .found s := by
  intro outcome u h
  exact Creation.lookup_serves hengine hbegins outcome u h

theorem resolveProduct_serves (hengine : engine.OnCourse) (id : Ident) (step : Routine)
    (shared post : Bool) {op : Op} (hop : op.resolves = true)
    (answer : Instance → Answer Instance) (s : Session) :
    (resolveProduct engine id step shared post).Serves op answer s :=
  .bind (accept_onCourse id s) fun id t _ =>
    Production.resolve_serves hengine id step shared post hop answer t

end Operations

/-! ## Operations inside operations -/

namespace Inner

variable {depth : Nat}

theorem get_onCourse (hengine : (Engine.ofDepth depth).OnCourse) (id : Ident) (s : Session) :
    (get (.ofDepth depth) id).OnCourse s :=
  Serves.noted depth (Operations.get_serves hengine (Session.begins_note s _))
    fun _ _ _ h => Run.map_of h

theorem getOrCreate_onCourse (hengine : (Engine.ofDepth depth).OnCourse) (id : Ident)
    (make : Routine) (s : Session) : (getOrCreate (.ofDepth depth) id make).OnCourse s :=
  Serves.noted depth (Operations.getOrCreate_serves hengine (Session.begins_note s _))
    fun _ _ _ h => Run.map_of h

theorem registerFactory_onCourse (id : Ident) (factory : Routine) (s : Session) :
    (registerFactory id factory).OnCourse s :=
  .noted 0 (Operations.registerFactory_onCourse (Session.begins_note s _))
    fun _ _ _ h => Run.map_of h

theorem registerHook_onCourse (id : Ident) (hook : Routine) (s : Session) :
    (registerHook id hook).OnCourse s :=
  .noted 0 (Operations.registerHook_onCourse (Session.begins_note s _))
    fun _ _ _ h => Run.map_of h

theorem addDependency_onCourse (dependency dependent : Ident) (s : Session) :
    (addDependency dependency dependent).OnCourse s := by
  refine .bind (.noted 0 (Operations.onGraph_onCourse _ _) fun t ending u h => ?_)
    fun _ _ _ => .pure _
  rw [Outcome.map_id]
  exact h

theorem suppress_onCourse (text : String) (s : Session) : (suppress text).OnCourse s :=
  .noted 0 (Operations.change_onCourse (Session.begins_note s _))
    fun _ _ _ h => Run.map_of h

end Inner

/-! ## Assembling components -/

namespace Assembly

variable {depth : Nat}

theorem supply_onCourse (hengine : (Engine.ofDepth depth).OnCourse) (id need : Ident)
    (s : Session) : (supply (.ofDepth depth) id need).OnCourse s := by
  refine .bind (Inner.get_onCourse hengine need s) fun there t _ => ?_
  cases there with
  | some there =>
    refine .bind (.pure there) fun given u _ => ?_
    exact .bind (.record rfl) fun _ v _ => Inner.addDependency_onCourse need id v
  | none =>
    refine .bind (Inner.getOrCreate_onCourse hengine need (.assembly need) t) fun given u _ => ?_
    exact .bind (.record rfl) fun _ v _ => Inner.addDependency_onCourse need id v

theorem supplyNeeds_onCourse (hengine : (Engine.ofDepth depth).OnCourse) (id : Ident)
    (needs : List Ident) (s : Session) : (supplyNeeds (.ofDepth depth) id needs).OnCourse s := by
  induction needs generalizing s with
  | nil => exact .pure _
  | cons need rest ih => exact .bind (supply_onCourse hengine id need s) fun _ t _ => ih t

theorem supplyWishes_onCourse (hengine : (Engine.ofDepth depth).OnCourse) (id : Ident)
    (wishes : List Ident) (s : Session) : (supplyWishes (.ofDepth depth) id wishes).OnCourse s := by
  induction wishes generalizing s with
  | nil => exact .pure _
  | cons wish rest ih =>
    refine .bind (.attempt (supply_onCourse hengine id wish s)) fun ending t _ => ?_
    cases ending with
    | ok _ => exact ih t
    | error failure => exact .bind (Inner.suppress_onCourse failure.message t) fun _ u _ => ih u
    | panic payload => exact .unwind payload

theorem furnish_onCourse (hengine : (Engine.ofDepth depth).OnCourse) (component : Component)
    (id : Ident) (me : Instance) (s : Session) :
    (furnish (.ofDepth depth) component id me).OnCourse s := by
  have hannounce : (announce component id me).OnCourse s := by
    rw [announce]
    split
    · exact Inner.registerFactory_onCourse id _ s
    · exact .pure _
  have hattach : ∀ t, (attach component id).OnCourse t := by
    intro t
    rw [attach]
    split
    · exact .pure _
    · exact Inner.registerHook_onCourse id _ t
  refine .bind hannounce fun _ t _ => .bind (hattach t) fun _ u _ => ?_
  exact .bind (supplyNeeds_onCourse hengine id component.needs u) fun _ v _ =>
    supplyWishes_onCourse hengine id component.wishes v

theorem assemble_onCourse (hengine : (Engine.ofDepth depth).OnCourse) (id : Ident) (s : Session) :
    (assemble (.ofDepth depth) id).OnCourse s := by
  refine .bind (.read _) fun component t _ => ?_
  cases component with
  | none => exact .fail _
  | some component =>
    refine .bind (.fresh _) fun me u _ => ?_
    refine .bind (.mapError (furnish_onCourse hengine component id me u)) fun _ v _ => ?_
    cases component.fault with
    | none => exact .pure _
    | some text => exact .fail _

end Assembly

/-! ## Asking at once -/

namespace Contention

variable {depth : Nat}

theorem callers_onCourse {ε : Type} (hengine : (Engine.ofDepth depth).OnCourse) (id : Ident)
    (settles : List Settle) (tally : Tally) (seen : List Instance) (s : Session) :
    (callers (.ofDepth depth) id settles tally seen : Run ε _).OnCourse s := by
  induction settles generalizing tally seen s with
  | nil => exact .pure _
  | cons settle rest ih =>
    exact .bind (.attempt (Inner.getOrCreate_onCourse hengine id (.contender id settle) s))
      fun _ t _ => ih _ _ t

theorem race_onCourse {ε : Type} (hengine : (Engine.ofDepth depth).OnCourse) (id : Ident)
    (settles : List Settle) (s : Session) :
    (race (.ofDepth depth) id settles : Run ε Tally).OnCourse s := by
  refine .bind (.read _) fun before t _ => ?_
  refine .bind (callers_onCourse hengine id settles _ _ t) fun result u _ => ?_
  exact .bind (.read _) fun _ _ _ => .pure _

end Contention

/-! ## Carrying an operation out -/

/-- **An operation takes a course** when it is carried out right after its beginning was noted. -/
theorem Op.run_serves {depth : Nat} (hengine : (Engine.ofDepth depth).OnCourse) {op : Op}
    {s : Session} (hbegins : s.Begins op) : (op.run (.ofDepth depth)).Serves op id s := by
  cases op with
  | ask query => exact .of_onCourse (.read _)
  | change c => exact .of_onCourse (.map (Operations.change_onCourse hbegins))
  | graph command => exact .of_onCourse (Operations.onGraph_onCourse command s)
  | aliases command => exact .of_onCourse (Operations.onAliases_onCourse command s)
  | make label => exact .of_onCourse (.map (.fresh _))
  | get id => exact .map (Operations.get_serves hengine hbegins)
  | getLater id => exact .of_onCourse (.map (.update rfl rfl))
  | getOrCreate id make => exact .map (Operations.getOrCreate_serves hengine hbegins)
  | create request make => exact .map (Operations.create_serves hengine rfl hbegins)
  | registerInstance id origin =>
    refine .of_onCourse ?_
    cases origin with
    | fresh label =>
      refine .bind_of rfl (.aside rfl rfl) (.map ?_)
      exact Operations.registerInstance_onCourse _ (hbegins.congr rfl rfl)
    | recalled name =>
      have hsource : Op.source id (.recalled name) s = some (.ok (s.bindings.get? name), s) := rfl
      refine .bind_of hsource (.rest s) ?_
      cases s.bindings.get? name with
      | none => exact .pure _
      | some made => exact .map (Operations.registerInstance_onCourse made hbegins)
  | registerFactory id factory =>
    exact .of_onCourse (.map (Operations.registerFactory_onCourse hbegins))
  | registerHook id hook => exact .of_onCourse (.map (Operations.registerHook_onCourse hbegins))
  | destroyOne id =>
    exact .of_onCourse (.map (.bind (Operations.canonical_onCourse id s) fun id _ ht =>
      Destruction.destroyOne_onCourse hengine id (ht.doing.2 (hbegins.doing rfl))))
  | destroyAll =>
    exact .of_onCourse
      (.map (Destruction.destroyAll_onCourse hengine (hbegins.doing rfl) (hbegins.doing rfl)))
  | shutdown =>
    exact .of_onCourse
      (.map (Destruction.shutdown_onCourse hengine (hbegins.doing rfl) (hbegins.doing rfl)))
  | resolveProduct id step shared post =>
    exact .map (Operations.resolveProduct_serves hengine id step shared post rfl _ s)
  | productType type => exact .of_onCourse (.map (Production.productType_onCourse type s))
  | wire id => exact .of_onCourse (.map (Inner.getOrCreate_onCourse hengine id (.assembly id) s))
  | race id number settle => exact .of_onCourse (.map (Contention.race_onCourse hengine id _ s))

/-! ## Steps and routines -/

namespace Settle

theorem yield_onCourse (id : Ident) (passed : Option Instance) (settle : Settle) (s : Session) :
    (settle.yield id passed).OnCourse s := by
  cases settle with
  | fail text => exact .fail _
  | panic payload => exact .unwind payload
  | wrap title =>
    cases passed with
    | some p => exact .bind (.read _) fun _ _ _ => .fresh _
    | none => exact .fresh _
  | same =>
    cases passed with
    | some p => exact .pure _
    | none => exact .fresh _
  | fresh label => exact .fresh _
  | nothing => exact .fresh _
  | _ =>
    -- what a variable holds
    refine .bind (.read _) fun held t _ => ?_
    cases held with
    | some held => exact .pure _
    | none => exact .fail _

theorem produce_onCourse (id : Ident) (settle : Settle) (s : Session) :
    (settle.produce id).OnCourse s := by
  cases settle with
  | nothing => exact .pure _
  | _ => exact .map (yield_onCourse id none _ s)

end Settle

namespace Step

variable {depth : Nat}

theorem bind_onCourse {ε : Type} (binding : Option String) (answer : Answer Instance)
    (s : Session) : (bind binding answer : Run ε Unit).OnCourse s := by
  unfold bind
  split
  · exact .update rfl rfl
  · exact .update rfl rfl
  · exact .pure _

theorem take_onCourse (hengine : (Engine.ofDepth depth).OnCourse) (step : Step) (s : Session) :
    (step.take (.ofDepth depth)).OnCourse s := by
  obtain ⟨op, must, binding⟩ := step
  have hop : (Run.noted op true id (op.run (.ofDepth depth))).OnCourse s := by
    refine Serves.noted depth (Op.run_serves hengine (Session.begins_note s op)) fun t ending u h => ?_
    rw [Outcome.map_id]
    exact h
  refine .bind (.attempt hop) fun ending t _ => ?_
  cases ending with
  | ok answer => exact bind_onCourse binding answer t
  | error failure =>
    cases must with
    | true => exact .fail _
    | false => exact .pure _
  | panic payload =>
    cases must with
    | true => exact .unwind payload
    | false => exact .pure _

theorem takeAll_onCourse (hengine : (Engine.ofDepth depth).OnCourse) (steps : List Step)
    (s : Session) : (takeAll (.ofDepth depth) steps).OnCourse s := by
  induction steps generalizing s with
  | nil => exact .pure _
  | cons first rest ih => exact .bind (take_onCourse hengine first s) fun _ t _ => ih t

end Step

namespace Routine

variable {depth : Nat}

/-- A routine that was entered takes a course. -/
theorem run_course (hengine : (Engine.ofDepth depth).OnCourse) (role : Role) (routine : Routine)
    {s t : Session} {outcome : Outcome Cause Instance}
    (h : routine.run (.ofDepth depth) role s = some (outcome, t)) :
    Course (s.note (routine.entry role)) t := by
  cases routine with
  | scripted id body settle =>
    rw [run, Run.bind_ok (Run.record_note s _)] at h
    exact OnCourse.bind (Step.takeAll_onCourse hengine body _)
      (fun _ u _ => Settle.yield_onCourse id none settle u) _ _ h
  | contender id settle =>
    rw [run, Run.bind_ok (Run.record_note s _)] at h
    exact Settle.yield_onCourse id none settle _ _ _ h
  | assembly id =>
    rw [run, Run.bind_ok (Run.record_note s _)] at h
    exact Assembly.assemble_onCourse hengine id _ _ _ h
  | handover id held =>
    cases h
    exact .rest _

/-- A routine takes a course; as a construction, if that was announced. -/
theorem run_onCourse (hengine : (Engine.ofDepth depth).OnCourse) (role : Role) (routine : Routine)
    {s : Session} (hannounced : role.constructs = true → s.Announced) :
    (routine.run (.ofDepth depth) role).OnCourse s := by
  intro outcome t h
  have henter : Course s (s.note (routine.entry role)) := by
    cases routine with
    | contender id settle => exact .enter fun h => hannounced (role.constructs_contended ▸ h)
    | _ => exact .enter hannounced
  exact .next henter (run_course hengine role routine h)

theorem produce_onCourse (hengine : (Engine.ofDepth depth).OnCourse) (routine : Routine)
    (s : Session) : (routine.produce (.ofDepth depth)).OnCourse s := by
  cases routine with
  | scripted id body settle =>
    refine .bind (.enter rfl) fun _ t _ => ?_
    exact .bind (Step.takeAll_onCourse hengine body t) fun _ u _ =>
      Settle.produce_onCourse id settle u
  | _ => exact .map (run_onCourse hengine .production _ nofun)

theorem process_onCourse (hengine : (Engine.ofDepth depth).OnCourse) (routine : Routine)
    (product : Instance) (id : Ident) (s : Session) :
    (routine.process (.ofDepth depth) product id).OnCourse s := by
  have hplain := fun routine => run_onCourse (s := s) hengine .postProcessing routine nofun
  cases routine with
  | scripted _ body settle =>
    refine .bind (.enter rfl) fun _ t _ => ?_
    exact .bind (Step.takeAll_onCourse hengine body t) fun _ u _ =>
      Settle.yield_onCourse id (some product) settle u
  | contender name settle => exact hplain (.contender name settle)
  | assembly name => exact hplain (.assembly name)
  | handover name held => exact hplain (.handover name held)

end Routine

/-! ## Engines and scripts -/

/-- **Callbacks take courses**, however deep they nest. -/
theorem onCourse_ofDepth (depth : Nat) : (Engine.ofDepth depth).OnCourse := by
  induction depth with
  | zero =>
    exact ⟨fun _ _ _ => .exhausted, fun _ _ => .exhausted, fun _ _ => .exhausted,
      fun _ _ _ _ => .exhausted, fun _ _ _ _ h => absurd h (Option.some_ne_none _).symm,
      shows_ofDepth 0⟩
  | succ depth ih =>
    exact
      { construct := fun make _ hannounced =>
          Routine.run_onCourse ih .construction make fun _ => hannounced
        expose := fun factory _ => Routine.run_onCourse ih .earlyFactory factory nofun
        produce := fun step s => Routine.produce_onCourse ih step s
        process := fun processor product id s =>
          Routine.process_onCourse ih processor product id s
        shows := shows_ofDepth _
        dispose := fun hook s _ _ h => by
          obtain ⟨_, hrun, -⟩ := Run.map_inv h
          exact Routine.run_course ih .disposal hook hrun }

namespace Script

variable {depth : Nat}

theorem fetchWaiting_onCourse (waiting : List Ident) (s : Session) :
    (fetchWaiting (.ofDepth depth) waiting).OnCourse s := by
  induction waiting generalizing s with
  | nil => exact .pure _
  | cons id rest ih =>
    refine .bind (.attempt (Inner.get_onCourse (onCourse_ofDepth depth) id s)) fun _ t _ => ?_
    exact .bind (.record rfl) fun _ u _ => ih u

theorem takeStep_onCourse (step : Step) (s : Session) :
    (takeStep (.ofDepth depth) step).OnCourse s := by
  refine .bind (.attempt (Step.take_onCourse (onCourse_ofDepth depth) step s)) fun _ t _ => ?_
  refine .bind (.read _) fun waiting u _ => .bind (.update rfl rfl) fun _ v _ => ?_
  exact .bind (fetchWaiting_onCourse waiting v) fun _ _ _ => .conclude _

theorem takeSteps_onCourse (steps : List Step) (s : Session) :
    (takeSteps (.ofDepth depth) steps).OnCourse s := by
  induction steps generalizing s with
  | nil => exact .pure _
  | cons first rest ih => exact .bind (takeStep_onCourse first s) fun _ t _ => ih t

/-- **Every script takes a course** from its start to its end. -/
theorem course {script : Script} {outcome : Outcome Cause Unit} {s : Session}
    (h : script.runWithin depth = some (outcome, s)) : Course script.start s :=
  takeSteps_onCourse script.steps script.start _ _ h

/-- A script whose end passes a check has an end, and that is as the check says. -/
theorem ends_of_check {script : Script} {P : Session → Prop} [DecidablePred P]
    (h : (script.runWithin depth).any (fun result => decide (P result.2)) = true) :
    ∃ outcome s, script.runWithin depth = some (outcome, s) ∧ P s := by
  cases hrun : script.runWithin depth with
  | none =>
    rw [hrun] at h
    cases h
  | some result =>
    rw [hrun] at h
    exact ⟨result.1, result.2, rfl, of_decide_eq_true h⟩

end Script

end InstanceRegistry
