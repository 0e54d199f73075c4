import InstanceRegistry.Proofs.Creation.Requests
import InstanceRegistry.Proofs.Destruction.Teardown
import InstanceRegistry.Proofs.Lockstep.Operations

/-!
  Scripts side by side.

  Programs that are alike go in lockstep.  For what takes no callback this is a case for each
  constructor; for callbacks it is an induction on the depth to which they may nest, in which each
  level uses nothing but that the engine below it runs routines that are alike in lockstep.

  Several callers that ask at once are the one operation whose answer depends on whether two
  instances are the same: it counts the different ones.  Labels may differ on the two sides, so that
  they are the same is not carried over from one to the other.  It need not be: callers of one
  identifier are all given the instance that is bound, so whoever got any got the same.
-/

namespace InstanceRegistry

variable {c : Comparison} {engine engine' : Engine} {ε : Type}

open Run (Lockstep)

/-! ## Settling -/

namespace Settle

theorem yield_lockstep {id id' : Ident} (htags : c.view.Tags id id') {passed passed' : Option Instance}
    (hpassed : Instance.FoundAlike c.view passed passed') (settle : Settle) :
    Lockstep c (Instance.Alike c.view) (settle.yield id passed) (settle.yield id' passed') := by
  have hown : Lockstep c (Instance.Alike c.view) (Run.fresh (some id) : Run Cause Instance)
      (Run.fresh (some id')) :=
    .fresh rfl fun hlabelled => congrArg some (htags hlabelled)
  match settle with
  | .fail text => exact .fail _
  | .panic payload => exact .unwind payload
  | .nothing => exact hown
  | .fresh label =>
    refine .fresh rfl fun hlabelled => ?_
    rw [htags hlabelled]
  | .same =>
    cases hpassed with
    | some hpassed => exact .pure hpassed
    | none => exact hown
  | .wrap title =>
    cases hpassed with
    | some hpassed =>
      refine .fresh rfl fun hlabelled => ?_
      rw [htags hlabelled, hpassed.label hlabelled]
    | none => exact hown
  | .recall name =>
    refine (Lockstep.read fun s s' hs => hs.bindings.get? name).bind fun held held' hheld => ?_
    cases hheld with
    | some hheld => exact .pure hheld
    | none => exact .fail _

theorem produce_lockstep {id id' : Ident} (htags : c.view.Tags id id') (settle : Settle) :
    Lockstep c (Instance.FoundAlike c.view) (settle.produce id) (settle.produce id') := by
  cases settle with
  | nothing => exact .pure .none
  | _ => exact (yield_lockstep htags .none _).map fun _ _ hmade => .some hmade

end Settle

/-! ## Operations inside operations -/

namespace Inner

variable {a b : Ident}

theorem get_lockstep (hengine : engine.Lockstep c engine') (h : c.view.names a b) :
    Lockstep c (Instance.FoundAlike c.view) (get engine a) (get engine' b) :=
  .noted (.get h) (Operations.get_lockstep hengine h) fun _ _ hfound => .found hfound

theorem getOrCreate_lockstep (hengine : engine.Lockstep c engine') (h : c.view.Accepts a b)
    {make make' : Routine} (hmake : make.Alike c.view make') :
    Lockstep c (Instance.Alike c.view) (getOrCreate engine a make) (getOrCreate engine' b make') :=
  .noted (.getOrCreate h hmake) (Operations.getOrCreate_lockstep hengine h hmake)
    fun _ _ hmade => .found (.some hmade)

theorem registerFactory_lockstep (h : c.view.Accepts a b) {factory factory' : Routine}
    (hfactory : factory.Alike c.view factory') :
    Lockstep c Eq (registerFactory a factory) (registerFactory b factory') :=
  .noted (.registerFactory h hfactory) (Operations.registerFactory_lockstep h hfactory)
    fun _ _ _ => .same _

theorem registerHook_lockstep (h : c.view.Accepts a b) {hook hook' : Routine}
    (hhook : hook.Alike c.view hook') :
    Lockstep c Eq (registerHook a hook) (registerHook b hook') :=
  .noted (.registerHook h hhook) (Operations.registerHook_lockstep h hhook) fun _ _ _ => .same _

theorem addDependency_lockstep {dependency dependent : Ident}
    (h : c.view.names dependency dependency) (h' : c.view.names dependent dependent) :
    Lockstep c Eq (addDependency dependency dependent) (addDependency dependency dependent) := by
  have hcommand := Graph.Command.Alike.addDependency h h'
  refine Lockstep.bind (.noted (.graph hcommand) (Operations.onGraph_lockstep hcommand) ?_)
    fun _ _ _ => .pure rfl
  rintro answer _ rfl
  exact .same _

theorem suppress_lockstep (text : String) : Lockstep c Eq (suppress text) (suppress text) :=
  .noted (.change (.suppress text)) (Operations.change_lockstep (.suppress text))
    fun _ _ _ => .same _

end Inner

/-! ## Assembling components -/

namespace Assembly

variable {id : Ident}

theorem supply_lockstep (hengine : engine.Lockstep c engine') (hid : c.view.Accepts id id)
    {need : Ident} (hneed : c.view.Accepts need need) :
    Lockstep c Eq (supply engine id need) (supply engine' id need) := by
  have hgiven {given given' : Instance} (h : given.Alike c.view given') :
      Lockstep c Eq (do Run.record (.wired id need given); Inner.addDependency need id)
        (do Run.record (.wired id need given'); Inner.addDependency need id) :=
    (Lockstep.record (.wired h)).andThen (Inner.addDependency_lockstep hneed.names hid.names)
  refine (Inner.get_lockstep hengine hneed.names).bind fun found found' hfound => ?_
  cases hfound with
  | some hfound => exact hgiven hfound
  | none =>
    exact (Inner.getOrCreate_lockstep hengine hneed (.assembly hneed)).bind fun _ _ hmade =>
      hgiven hmade

theorem supplyNeeds_lockstep (hengine : engine.Lockstep c engine') (hid : c.view.Accepts id id) :
    ∀ {needs : List Ident}, (∀ need ∈ needs, c.view.Accepts need need) →
      Lockstep c Eq (supplyNeeds engine id needs) (supplyNeeds engine' id needs)
  | [], _ => .pure rfl
  | need :: _, h =>
    (supply_lockstep hengine hid (h need List.mem_cons_self)).andThen
      (supplyNeeds_lockstep hengine hid fun other hother => h other (List.mem_cons_of_mem need hother))

theorem supplyWishes_lockstep (hengine : engine.Lockstep c engine') (hid : c.view.Accepts id id) :
    ∀ {wishes : List Ident}, (∀ wish ∈ wishes, c.view.Accepts wish wish) →
      Lockstep c Eq (supplyWishes engine id wishes) (supplyWishes engine' id wishes)
  | [], _ => .pure rfl
  | wish :: rest, h => by
    have hrest := supplyWishes_lockstep hengine hid fun other hother =>
      h other (List.mem_cons_of_mem wish hother)
    refine (supply_lockstep hengine hid (h wish List.mem_cons_self)).attempt.bind
      fun ending ending' hending => ?_
    cases hending with
    | ok _ => exact hrest
    | error failure => exact (Inner.suppress_lockstep _).andThen hrest
    | panic payload => exact (Lockstep.unwind payload).andThen hrest

variable {component component' : Component}

theorem announce_lockstep (h : component.Alike c.view component') (hid : c.view.Accepts id id)
    {me me' : Instance} (hme : me.Alike c.view me') :
    Lockstep c Eq (announce component id me) (announce component' id me') := by
  rw [announce, announce, h.early]
  exact .ite (fun _ => Inner.registerFactory_lockstep hid (.handover (c.view.tags_self id) hme))
    fun _ => .pure rfl

theorem attach_lockstep (h : component.Alike c.view component') (hid : c.view.Accepts id id) :
    Lockstep c Eq (attach component id) (attach component' id) := by
  rw [attach, attach]
  rcases both_or_neither h.hook with ⟨hook, hook', hhook, hhook', halike⟩ | ⟨hhook, hhook'⟩
  · rw [hhook, hhook']
    exact Inner.registerHook_lockstep hid halike
  · rw [hhook, hhook']
    exact .pure rfl

theorem furnish_lockstep (hengine : engine.Lockstep c engine')
    (h : component.Alike c.view component') (hid : c.view.Accepts id id) {me me' : Instance}
    (hme : me.Alike c.view me') :
    Lockstep c Eq (furnish engine component id me) (furnish engine' component' id me') := by
  rw [furnish, furnish, ← h.needs, ← h.wishes]
  exact (announce_lockstep h hid hme).andThen <| (attach_lockstep h hid).andThen <|
    (supplyNeeds_lockstep hengine hid fun need hneed => h.accepts need (.inl hneed)).andThen
      (supplyWishes_lockstep hengine hid fun wish hwish => h.accepts wish (.inr hwish))

/-- **Assembling** the same component. -/
theorem assemble_lockstep (hengine : engine.Lockstep c engine') (hid : c.view.Accepts id id) :
    Lockstep c (Instance.Alike c.view) (assemble engine id) (assemble engine' id) := by
  refine (Lockstep.read fun s s' hs => hs.components id hid).bind fun found found' hfound => ?_
  cases hfound with
  | none => exact .fail _
  | @some component component' h =>
    refine (Lockstep.fresh rfl fun _ => rfl).bind fun me me' hme => ?_
    refine ((furnish_lockstep hengine h hid hme).mapError _).andThen ?_
    simp only [h.fault]
    cases component'.fault with
    | none => exact .pure hme
    | some text => exact .fail _

end Assembly

/-! ## Asking at once -/

/-- Asking by name is accepting the name and then creating. -/
theorem Operations.getOrCreate_inv {given : Ident} {make : Routine} {s t : Session}
    {outcome : Outcome Failure Instance}
    (h : Operations.getOrCreate engine given make s = some (outcome, t)) :
    (∃ id, s.registry.accept given = .ok id ∧
        Creation.getOrCreate engine id make s = some (outcome, t)) ∨
      ∃ failure, s.registry.accept given = .error failure ∧ outcome = .error failure ∧ t = s := by
  cases haccept : s.registry.accept given with
  | ok id =>
    rw [Operations.getOrCreate, Run.bind_ok (Operations.accept_eq haccept)] at h
    exact .inl ⟨id, rfl, h⟩
  | error failure =>
    rw [Operations.getOrCreate, Run.bind_error (Operations.accept_eq haccept)] at h
    cases h
    exact .inr ⟨failure, rfl, rfl, rfl⟩

namespace Contention

/-- What the callers of one identifier were given so far: nothing, or the instance that is bound. -/
inductive Given (given : Ident) (r : Registry) (tally : Tally) : List Instance → Prop where
  | nothing (hoks : tally.oks = 0) : Given given r tally []
  | bound {id : Ident} {made : Instance} (hoks : 0 < tally.oks) (haccept : r.accept given = .ok id)
      (hbound : r.finished.get? id = some made) : Given given r tally [made]

variable {given : Ident} {tally : Tally} {seen : List Instance} {s t : Session}

theorem Given.length_eq {r : Registry} (h : Given given r tally seen) :
    seen.length = min tally.oks 1 := by
  cases h with
  | nothing hoks => rw [hoks]; rfl
  | bound hoks => rw [List.length_singleton, Nat.min_eq_right hoks]

/-- Creations for callers leave the settings and aliases alone. -/
theorem accept_getOrCreate (hengine : engine.SparesContended) {id tag name : Ident} {settle : Settle}
    {outcome : Outcome Failure Instance}
    (h : Creation.getOrCreate engine id (.contender tag settle) s = some (outcome, t)) :
    t.registry.accept name = s.registry.accept name := by
  rcases Creation.getOrCreate_inv h with ⟨_, _, _, rfl⟩ | ⟨_, ⟨_, _, rfl⟩ | ⟨_, hconstruct⟩⟩
  · rfl
  · rfl
  · rcases Creation.construct_inv hconstruct with ⟨_, _, _, rfl⟩ |
        ⟨outermost, r, ending, u, hopen, hcall, hclose⟩
    · rfl
    · obtain ⟨_, _, _, _, hregistry⟩ := hclose.registry_eq
      rw [hregistry, hengine hcall]
      obtain ⟨marks, -, ⟨-, -, rfl⟩ | ⟨_, -, -, rfl⟩⟩ := Registry.openCreation_eq hopen
      · rfl
      · rfl

/-- The next caller is given the instance that is bound, if there is one, and what it is given is
    bound. -/
theorem Given.next (hengine : engine.SparesContended) (h : Given given s.registry tally seen)
    {settle : Settle} {outcome : Outcome Failure Instance}
    (hnoted : Inner.getOrCreate engine given (.contender given settle) s = some (outcome, t)) :
    Given given t.registry (count tally seen outcome).1 (count tally seen outcome).2 := by
  obtain ⟨u, hcall, rfl⟩ := Run.noted_inv hnoted
  show Given given u.registry _ _
  rcases Operations.getOrCreate_inv hcall with ⟨id, haccept, hcreate⟩ | ⟨failure, haccept, rfl, rfl⟩
  · have haccept' := (accept_getOrCreate hengine hcreate).trans haccept
    cases h with
    | nothing hoks =>
      cases outcome with
      | ok made =>
        exact .bound (Nat.succ_pos _) haccept' (Creation.getOrCreate_finished hcreate)
      | error failure => exact .nothing hoks
      | panic payload => exact .nothing hoks
    | @bound id' made hoks hid hbound =>
      obtain rfl : id = id' := Except.ok.inj (haccept.symm.trans hid)
      rcases Creation.getOrCreate_inv hcreate with ⟨found, hfound, rfl, rfl⟩ | ⟨hfree, -⟩
      · obtain rfl : found = made := Option.some.inj (hfound.symm.trans hbound)
        rw [count, if_pos List.mem_cons_self]
        exact .bound (Nat.succ_pos _) haccept' hbound
      · exact absurd (hfree.symm.trans hbound) nofun
  · cases h with
    | nothing hoks => exact .nothing hoks
    | bound _ hid _ => exact absurd (haccept.symm.trans hid) nofun

/-- **Callers who ask for one identifier** are all given the same instance. -/
theorem callers_given (hengine : engine.SparesContended) {settles : List Settle}
    {result : Tally × List Instance} (h : Given given s.registry tally seen)
    (hrun : (callers engine given settles tally seen : Run ε _) s = some (.ok result, t)) :
    result.2.length = min result.1.oks 1 := by
  induction settles generalizing s tally seen with
  | nil =>
    cases hrun
    exact h.length_eq
  | cons settle rest ih =>
    obtain ⟨outcome, u, hcall, hrest⟩ := Run.attempt_bind_inv hrun
    exact ih (h.next hengine hcall) hrest

/-- The callers on both sides fare alike. -/
theorem callers_lockstep (hengine : engine.Lockstep c engine') {a b : Ident} (h : c.view.Accepts a b)
    (htags : c.view.Tags a b) :
    ∀ (settles : List Settle) (tally : Tally) (seen seen' : List Instance),
      Lockstep c (fun p p' => p.1 = p'.1) (callers engine a settles tally seen : Run ε _)
        (callers engine' b settles tally seen')
  | [], _, _, _ => .pure rfl
  | settle :: rest, tally, seen, seen' => by
    refine (Inner.getOrCreate_lockstep hengine h (.contender htags)).attempt.bind
      fun outcome outcome' houtcome => ?_
    cases houtcome <;> exact callers_lockstep hengine h htags rest _ _ _

/-- As many constructions were started on either side since the runs began. -/
def StartedAlike (c : Comparison) (n n' : Nat) : Prop :=
  ∃ k, n = k + started c.left ∧ n' = k + started c.right

theorem started_lockstep : Lockstep c (StartedAlike c) (Run.read started : Run ε Nat)
    (Run.read started) := by
  refine .read fun s s' hs => ?_
  obtain ⟨new, new', hnew, hnew', halike⟩ := hs.journal
  rw [started, started, hnew, hnew', List.countP_append, List.countP_append]
  refine ⟨_, rfl, congrArg (· + _) ?_⟩
  clear hnew hnew'
  induction halike with
  | nil => rfl
  | @cons e e' _ _ he _ ih =>
    obtain ⟨event, r⟩ := e
    obtain ⟨event', r'⟩ := e'
    rw [List.countP_cons, List.countP_cons, ih]
    cases he.event with
    | @entered role => cases role <;> rfl
    | _ => rfl

/-- **Several callers at once** come to the same on both sides. -/
theorem race_lockstep (hengine : engine.Lockstep c engine') {a b : Ident} (h : c.view.Accepts a b)
    (htags : c.view.Tags a b) (settles : List Settle) :
    Lockstep c Eq (race engine a settles : Run ε Tally) (race engine' b settles) := by
  refine started_lockstep.bind fun before before' hbefore => ?_
  obtain ⟨k, rfl, rfl⟩ := hbefore
  refine ((callers_lockstep hengine h htags settles _ [] []).also
    (fun _ _ _ hrun => callers_given hengine.spares (.nothing rfl) hrun)
    (fun _ _ _ hrun => callers_given hengine.spares' (.nothing rfl) hrun)).bind
      fun fared fared' hfared => ?_
  obtain ⟨tally, seen⟩ := fared
  obtain ⟨tally', seen'⟩ := fared'
  obtain ⟨rfl, hseen, hseen'⟩ := hfared
  refine started_lockstep.map fun after after' hafter => ?_
  obtain ⟨l, rfl, rfl⟩ := hafter
  rw [hseen, hseen', Nat.add_sub_add_right, Nat.add_sub_add_right]

end Contention

/-! ## Operations -/

namespace Op

variable {a b : Ident}

theorem source_lockstep {origin : Source} (htags : origin = .fresh none → c.view.Tags a b) :
    Lockstep c (Instance.FoundAlike c.view) (source a origin) (source b origin) := by
  cases origin with
  | recalled name => exact .read fun s s' hs => hs.bindings.get? name
  | fresh label =>
    refine Lockstep.map (.fresh rfl fun hlabelled => ?_) fun _ _ hmade => .some hmade
    cases label with
    | none => exact congrArg some (htags rfl hlabelled)
    | some label => rfl

/-- An answer that is the same on both sides. -/
theorem answered {α : Type} {work work' : Run Failure α} (h : Lockstep c Eq work work')
    (answer : α → Answer Instance) :
    Lockstep c (Answer.Alike c.view) (work >>= fun value => pure (answer value))
      (work' >>= fun value => pure (answer value)) := by
  refine h.map fun value _ hvalue => ?_
  cases hvalue
  exact .same _

/-- An answer that is an instance. -/
theorem made {work work' : Run Failure Instance}
    (h : Lockstep c (Instance.Alike c.view) work work') :
    Lockstep c (Answer.Alike c.view) (work >>= fun value => pure (.found (some value)))
      (work' >>= fun value => pure (.found (some value))) :=
  h.map fun _ _ hmade => .found (.some hmade)

/-- **Operations that are alike** go in lockstep. -/
theorem run_lockstep (hengine : engine.Lockstep c engine') {op op' : Op} (h : op.Alike c.view op') :
    Lockstep c (Answer.Alike c.view) (op.run engine) (op'.run engine') := by
  cases h with
  | ask h => exact .read fun s s' hs => hs.registry.answer h
  | change h => exact answered (Operations.change_lockstep h) _
  | graph h =>
    refine (Operations.onGraph_lockstep h).mono ?_
    rintro answer _ rfl
    exact .same _
  | aliases h =>
    refine (Operations.onAliases_lockstep h).mono ?_
    rintro answer _ rfl
    exact .same _
  | make label => exact made (.fresh rfl fun _ => rfl)
  | get h => exact (Operations.get_lockstep hengine h).map fun _ _ hfound => .found hfound
  | getLater h =>
    refine Lockstep.andThen (.update fun s s' hs => ?_) (.pure (.same _))
    exact { hs with waiting := List.rel_append hs.waiting (.cons h .nil) }
  | getOrCreate h hmake => exact made (Operations.getOrCreate_lockstep hengine h hmake)
  | create h hmake => exact made (Operations.create_lockstep hengine h hmake)
  | registerInstance h htags =>
    refine (source_lockstep htags).bind fun found found' hfound => ?_
    cases hfound with
    | none => exact .pure (.same _)
    | some hmade => exact answered (Operations.registerInstance_lockstep h hmade) _
  | registerFactory h hfactory => exact answered (Operations.registerFactory_lockstep h hfactory) _
  | registerHook h hhook => exact answered (Operations.registerHook_lockstep h hhook) _
  | destroyOne h => exact answered (Operations.destroyOne_lockstep hengine h) _
  | destroyAll hwhole => exact answered (Destruction.destroyAll_lockstep hengine hwhole) _
  | shutdown hwhole => exact answered (Destruction.shutdown_lockstep hengine hwhole) _
  | resolveProduct h hstep => exact made (Operations.resolveProduct_lockstep hengine h hstep _ _)
  | productType type => exact answered (Production.productType_lockstep type) _
  | wire h => exact made (Inner.getOrCreate_lockstep hengine h (.assembly h))
  | race h htags => exact answered (Contention.race_lockstep hengine h htags _) _

end Op

/-! ## Steps and routines -/

theorem Answer.Alike.yielded {answer answer' : Answer Instance} (h : answer.Alike c.view answer') :
    Option.Rel (Instance.FoundAlike c.view) answer.yielded? answer'.yielded? := by
  cases h with
  | found h => exact .some h
  | same answer =>
    cases answer with
    | found found =>
      refine .some ?_
      cases found with
      | none => exact .none
      | some i => exact .some (.refl i)
    | _ => exact .none

namespace Step

theorem bind_lockstep (binding : Option String) {answer answer' : Answer Instance}
    (h : answer.Alike c.view answer') :
    Lockstep c Eq (bind binding answer : Run ε Unit) (bind binding answer') := by
  have hyielded := h.yielded
  unfold Step.bind
  generalize answer.yielded? = found at hyielded ⊢
  generalize answer'.yielded? = found' at hyielded ⊢
  cases binding with
  | none => exact .pure rfl
  | some name =>
    cases hyielded with
    | none => exact .pure rfl
    | some hfound =>
      cases hfound with
      | some hheld =>
        exact .update fun s s' hs => { hs with bindings := hs.bindings.insert name hheld }
      | none => exact .update fun s s' hs => { hs with bindings := hs.bindings.erase name }

theorem take_lockstep (hengine : engine.Lockstep c engine') {step step' : Step}
    (h : step.Alike c.view step') :
    Lockstep c Eq (step.take engine) (step'.take engine') := by
  cases h with
  | step h =>
    refine (Lockstep.noted h (Op.run_lockstep hengine h) fun _ _ hanswer => hanswer).attempt.bind
      fun ending ending' hending => ?_
    cases hending with
    | ok hanswer => exact bind_lockstep _ hanswer
    | error failure => exact .ite (fun _ => .fail _) fun _ => .pure rfl
    | panic payload => exact .ite (fun _ => .unwind payload) fun _ => .pure rfl

theorem takeAll_lockstep (hengine : engine.Lockstep c engine') :
    ∀ {steps steps' : List Step}, AllAlike c.view steps steps' →
      Lockstep c Eq (takeAll engine steps) (takeAll engine' steps')
  | _, _, .nil => .pure rfl
  | _, _, .cons h hrest => (take_lockstep hengine h).andThen (takeAll_lockstep hengine hrest)

end Step

namespace Routine

variable {r r' : Routine}

/-- **Routines that are alike** go in lockstep. -/
theorem run_lockstep (hengine : engine.Lockstep c engine') (role : Role) (h : r.Alike c.view r') :
    Lockstep c (Instance.Alike c.view) (r.run engine role) (r'.run engine' role) := by
  cases h with
  | scripted htags hbody =>
    exact (Lockstep.record (.entered htags .none)).andThen <|
      (Step.takeAll_lockstep hengine hbody).andThen (Settle.yield_lockstep htags .none _)
  | contender htags =>
    exact (Lockstep.record (.entered htags .none)).andThen (Settle.yield_lockstep htags .none _)
  | @assembly id h =>
    exact (Lockstep.record (.entered (c.view.tags_self id) .none)).andThen
      (Assembly.assemble_lockstep hengine h)
  | handover htags hheld => exact (Lockstep.record (.entered htags .none)).andThen (.pure hheld)

theorem produce_lockstep (hengine : engine.Lockstep c engine') (h : r.Alike c.view r') :
    Lockstep c (Instance.FoundAlike c.view) (r.produce engine) (r'.produce engine') := by
  have hrun : Lockstep c (Instance.FoundAlike c.view)
      (do return some (← r.run engine .production)) (do return some (← r'.run engine' .production)) :=
    (run_lockstep hengine .production h).map fun _ _ hmade => .some hmade
  cases h with
  | scripted htags hbody =>
    exact (Lockstep.record (.entered htags .none)).andThen <|
      (Step.takeAll_lockstep hengine hbody).andThen (Settle.produce_lockstep htags _)
  | _ => exact hrun

theorem process_lockstep (hengine : engine.Lockstep c engine') (h : r.Alike c.view r')
    {product product' : Instance} (hproduct : product.Alike c.view product') (id : Ident) :
    Lockstep c (Instance.Alike c.view) (r.process engine product id)
      (r'.process engine' product' id) := by
  have hrun := run_lockstep hengine .postProcessing h
  have htags := c.view.tags_self id
  cases h with
  | scripted _ hbody =>
    exact (Lockstep.record (.entered htags (.some hproduct))).andThen <|
      (Step.takeAll_lockstep hengine hbody).andThen
        (Settle.yield_lockstep htags (.some hproduct) _)
  | _ => exact hrun

end Routine

/-! ## Engines by depth -/

/-- At no depth is the registry touched for a contender. -/
theorem Engine.ofDepth_spares (depth : Nat) : (Engine.ofDepth depth).SparesContended := by
  intro id settle s ending t hcall
  cases depth with
  | zero => cases hcall
  | succ depth =>
    obtain ⟨ending', t', hyield, hkept, -⟩ :=
      Destruction.yield_apart id settle (s.note (.entered .contention id none))
    have hrun : (Engine.ofDepth (depth + 1)).construct (.contender id settle) s =
        some (ending', t') := hyield
    rw [hrun] at hcall
    cases hcall
    exact hkept

/-- **Engines of the same depth** run routines that are alike in lockstep. -/
theorem Engine.ofDepth_lockstep (c : Comparison) (depth : Nat) :
    (Engine.ofDepth depth).Lockstep c (.ofDepth depth) := by
  induction depth with
  | zero =>
    exact
      { depth := rfl
        construct := fun _ => .exhausted
        expose := fun _ => .exhausted
        produce := fun _ => .exhausted
        process := fun _ _ _ _ _ => .exhausted
        dispose := fun _ => .exhausted
        spares := ofDepth_spares 0
        spares' := ofDepth_spares 0 }
  | succ depth ih =>
    exact
      { depth := rfl
        construct := fun h => Routine.run_lockstep ih .construction h
        expose := fun h => Routine.run_lockstep ih .earlyFactory h
        produce := fun h => Routine.produce_lockstep ih h
        process := fun h _ _ hproduct id => Routine.process_lockstep ih h hproduct id
        dispose := fun h => (Routine.run_lockstep ih .disposal h).bind fun _ _ _ => .pure rfl
        spares := ofDepth_spares (depth + 1)
        spares' := ofDepth_spares (depth + 1) }

/-! ## Scripts -/

namespace Script

theorem fetchWaiting_lockstep (hengine : engine.Lockstep c engine') {ids ids' : List Ident}
    (h : List.Forall₂ c.view.names ids ids') :
    Lockstep c Eq (fetchWaiting engine ids) (fetchWaiting engine' ids') := by
  induction h with
  | nil => exact .pure rfl
  | cons hname _ ih =>
    refine (Inner.get_lockstep hengine hname).attempt.bind fun result result' hresult => ?_
    exact (Lockstep.record (.fetched hname hresult)).andThen ih

theorem takeStep_lockstep (hengine : engine.Lockstep c engine') {step step' : Step}
    (h : step.Alike c.view step') :
    Lockstep c Eq (takeStep engine step) (takeStep engine' step') := by
  refine (Step.take_lockstep hengine h).attempt.bind fun outcome outcome' houtcome => ?_
  refine (Lockstep.read fun s s' hs => hs.waiting).bind fun waiting waiting' hwaiting => ?_
  refine Lockstep.andThen (.update fun s s' hs => { hs with waiting := .nil }) ?_
  exact (fetchWaiting_lockstep hengine hwaiting).andThen (.conclude houtcome)

/-- **Scripts that are alike** go in lockstep. -/
theorem takeSteps_lockstep (hengine : engine.Lockstep c engine') :
    ∀ {steps steps' : List Step}, Step.AllAlike c.view steps steps' →
      Lockstep c Eq (takeSteps engine steps) (takeSteps engine' steps')
  | _, _, .nil => .pure rfl
  | _, _, .cons h hrest => (takeStep_lockstep hengine h).andThen (takeSteps_lockstep hengine hrest)

end Script

end InstanceRegistry
