import InstanceRegistry.Proofs.Lockstep.Runs

/-!
  Operations side by side.

  Looking up, creating, destroying and producing go in lockstep for an identifier in view, as long
  as callbacks do.  Each proof goes along the operation, with the rule for the way in which it is put
  together; what is found on the way is the same on both sides up to labels, so both take the same
  branches.

  What is destroyed along with an identifier in view is in view as well, since no edge leads out.

  The operations that callers use come first to the canonical name, and this is where two names that
  stand for the same identifier become one.
-/

namespace InstanceRegistry

variable {c : Comparison} {engine engine' : Engine} {id : Ident} {ε : Type}

open Run (Lockstep)

/-! ## Creation -/

namespace Creation

theorem exposeEarly_lockstep (hengine : engine.Lockstep c engine') (hid : c.inside id = true)
    {factory factory' : Routine} (hfactory : factory.Alike c.view factory') :
    Lockstep c (Instance.Alike c.view) (exposeEarly engine id factory)
      (exposeEarly engine' id factory') := by
  refine (Lockstep.edit fun r r' hr => hr.takeFactory hid).andThen ?_
  refine ((hengine.expose hfactory).mapError _).bind fun early early' hearly => ?_
  refine (Lockstep.report _).andThen ?_
  exact (Lockstep.edit fun r r' hr => hr.expose hid hearly).andThen (.pure hearly)

/-- **Looking up** an identifier in view. -/
theorem lookup_lockstep (hengine : engine.Lockstep c engine') (hid : c.inside id = true) :
    Lockstep c (Instance.FoundAlike c.view) (lookup engine id) (lookup engine' id) := by
  refine Lockstep.registry.bind fun r r' hr => ?_
  rcases both_or_neither (hr.finished.get? hid) with ⟨found, found', h, h', hfound⟩ | ⟨h, h'⟩
  · simp only [h, h']
    exact (Lockstep.report _).andThen (.pure (.some hfound))
  · simp only [h, h', hr.marks.isActive_eq hid, hr.config, hr.config']
    refine .ite (fun _ => .pure .none) fun _ => ?_
    rcases both_or_neither (hr.early.get? hid) with ⟨early, early', h, h', hearly⟩ | ⟨h, h'⟩
    · simp only [h, h']
      exact .pure (.some hearly)
    · simp only [h, h']
      refine .ite (fun _ => .pure .none) fun _ => ?_
      rcases both_or_neither (hr.factories.get? hid) with ⟨factory, factory', h, h', hfactory⟩ | ⟨h, h'⟩
      · simp only [h, h']
        exact (exposeEarly_lockstep hengine hid hfactory).map fun _ _ hearly => .some hearly
      · simp only [h, h']
        exact .pure .none

theorem commit_lockstep (hid : c.inside id = true) {made made' : Instance}
    (hmade : made.Alike c.view made') : Lockstep c Eq (commit id made) (commit id made') :=
  .tryEdit fun _ _ hr => (hr.commit hid hmade).map fun _ _ hcommitted => ⟨rfl, hcommitted⟩

theorem conclude_lockstep (hid : c.inside id = true) {made made' : Instance}
    (hmade : made.Alike c.view made') (closing : Registry.Closing) :
    Lockstep c (Instance.Alike c.view) (conclude id made closing) (conclude id made' closing) := by
  have hended : Lockstep c Eq (Run.ofExcept closing.ended) (Run.ofExcept closing.ended) := by
    cases closing.ended with
    | ok _ => exact .pure rfl
    | error failure => exact .fail failure
  exact hended.andThen ((commit_lockstep hid hmade).andThen (.pure hmade))

theorem reportMismatch_lockstep (id : Ident) (ended : Except Failure Unit) :
    Lockstep c Eq (reportMismatch id ended) (reportMismatch id ended) := by
  cases ended with
  | ok _ => exact .pure rfl
  | error failure => exact .report _

theorem giveUp_lockstep (hid : c.inside id = true) (cause : Cause)
    (closing : Registry.Closing) :
    Lockstep c (Instance.Alike c.view) (giveUp id cause closing) (giveUp id cause closing) := by
  refine (Lockstep.edit fun r r' hr => hr.retract hid).andThen ?_
  refine Lockstep.registry.bind fun r r' hr => ?_
  rcases both_or_neither (hr.finished.get? hid) with ⟨found, found', h, h', hfound⟩ | ⟨h, h'⟩
  · simp only [h, h']
    exact (Lockstep.report _).andThen (.pure hfound)
  · simp only [h, h']
    refine (Lockstep.edit fun r r' hr => hr.unlist hid).andThen ?_
    exact (reportMismatch_lockstep id _).andThen (.fail _)

theorem construct_lockstep (hengine : engine.Lockstep c engine') (hid : c.inside id = true)
    {make make' : Routine} (hmake : make.Alike c.view make') :
    Lockstep c (Instance.Alike c.view) (construct engine id make) (construct engine' id make') := by
  refine (Lockstep.report _).andThen ?_
  refine (Lockstep.tryEdit fun r r' hr => hr.openCreation hid).bind fun outermost _ houtermost => ?_
  cases houtermost
  have hclose : Lockstep c Eq
      (Run.transact (·.closeCreation outermost id) : Run Failure Registry.Closing)
      (Run.transact (·.closeCreation outermost id)) :=
    .transact fun r r' hr => hr.closeCreation outermost hid
  refine (hengine.construct hmake).attempt.bind fun ending ending' hending => ?_
  cases hending with
  | ok hmade =>
    refine hclose.bind fun closing _ hclosing => ?_
    cases hclosing
    exact conclude_lockstep hid hmade closing
  | error cause =>
    refine hclose.bind fun closing _ hclosing => ?_
    cases hclosing
    exact giveUp_lockstep hid cause closing
  | panic payload =>
    exact (Lockstep.edit fun r r' hr => hr.abandonCreation outermost hid).andThen (.unwind payload)

/-- **Creating** an identifier in view. -/
theorem getOrCreate_lockstep (hengine : engine.Lockstep c engine') (hid : c.inside id = true)
    {make make' : Routine} (hmake : make.Alike c.view make') :
    Lockstep c (Instance.Alike c.view) (getOrCreate engine id make)
      (getOrCreate engine' id make') := by
  refine Lockstep.registry.bind fun r r' hr => ?_
  rcases both_or_neither (hr.finished.get? hid) with ⟨found, found', h, h', hfound⟩ | ⟨h, h'⟩
  · simp only [h, h']
    exact .pure hfound
  · simp only [h, h', hr.lifecycle]
    exact .ite (fun _ => construct_lockstep hengine hid hmake) fun _ => .fail _

theorem registerInstance_lockstep (hid : c.inside id = true) {made made' : Instance}
    (hmade : made.Alike c.view made') :
    Lockstep c Eq (registerInstance id made) (registerInstance id made') := by
  refine Lockstep.registry.bind fun r r' hr => ?_
  simp only [hr.lifecycle, hr.marks.isChecked_eq hid]
  exact .ite (fun _ => .fail _) fun _ => .ite (fun _ => .fail _) fun _ => commit_lockstep hid hmade

theorem suppress_lockstep (text : String) :
    Lockstep c Eq (suppress text : Run ε Unit) (suppress text) := by
  refine Lockstep.registry.bind fun r r' hr => ?_
  simp only [hr.suppressed, hr.config, hr.config']
  cases r'.suppressed with
  | none => exact .pure rfl
  | some texts =>
    exact .ite (fun _ => .edit fun r r' hr => { hr with suppressed := rfl }) fun _ => .report _

end Creation

/-! ## Destruction -/

namespace Destruction

theorem registerHook_lockstep (hid : c.inside id = true) {hook hook' : Routine}
    (hhook : hook.Alike c.view hook') :
    Lockstep c Eq (registerHook id hook : Run ε Unit) (registerHook id hook') := by
  refine Lockstep.registry.bind fun r r' hr => ?_
  refine Lockstep.andThen (.edit fun r r' hr => ?_) ?_
  · exact { hr with hooks := hr.hooks.insert hid hhook }
  rw [hr.hooks.contains_eq hid]
  exact .ite (fun _ => .report _) fun _ => .pure rfl

theorem dispose_lockstep (hengine : engine.Lockstep c engine') (id : Ident) {hook hook' : Routine}
    (hhook : hook.Alike c.view hook') :
    Lockstep c Eq (dispose engine id hook : Run ε Report) (dispose engine' id hook') := by
  refine (Lockstep.report _).andThen ?_
  refine (hengine.dispose hhook).attempt.bind fun ending ending' hending => ?_
  cases hending with
  | ok _ => exact .pure rfl
  | error cause => exact (Lockstep.report _).andThen (.pure rfl)
  | panic payload => exact (Lockstep.report _).andThen (.pure rfl)

theorem disposeIf_lockstep (hengine : engine.Lockstep c engine') (id : Ident)
    {hook hook' : Option Routine} (hhook : Option.Rel (Routine.Alike c.view) hook hook') :
    Lockstep c Eq (disposeIf engine id hook : Run ε Report) (disposeIf engine' id hook') := by
  cases hhook with
  | none => exact .pure rfl
  | some hhook => exact dispose_lockstep hengine id hhook

/-- Identifiers that are the same on both sides and all in view. -/
def Shared (c : Comparison) (ids ids' : List Ident) : Prop :=
  ids = ids' ∧ ∀ x ∈ ids, c.inside x = true

theorem takeDependents_lockstep (hid : c.inside id = true) :
    Lockstep c (Shared c) (takeDependents id : Run ε Roster) (takeDependents id) := by
  have htake : Lockstep c (Shared c)
      (Run.transact fun r => ((r.graph.takeDependents id).1,
        { r with graph := (r.graph.takeDependents id).2 }) : Run ε Roster)
      (Run.transact fun r => ((r.graph.takeDependents id).1,
        { r with graph := (r.graph.takeDependents id).2 })) :=
    .transact fun r r' hr => hr.takeDependents hid
  refine htake.bind fun dependents dependents' hdependents => ?_
  obtain ⟨rfl, hinside⟩ := hdependents
  exact .reportIf _ (.pure ⟨rfl, hinside⟩)

theorem takeContained_lockstep (hid : c.inside id = true) :
    Lockstep c (Shared c) (takeContained id : Run ε Roster) (takeContained id) :=
  .transact fun _ _ hr => hr.takeContained hid

/-- **Destroying** an identifier in view, along with all that has to go with it. -/
theorem destroyWithin_lockstep (hengine : engine.Lockstep c engine') :
    ∀ (depth : Nat) {id : Ident}, c.inside id = true →
      Lockstep c Eq (destroyWithin engine depth id : Run ε Report) (destroyWithin engine' depth id)
  | 0, _, _ => .exhausted
  | depth + 1, id, hid => by
    refine (Lockstep.edit fun r r' hr => hr.purge hid).andThen ?_
    refine (Lockstep.transact fun r r' hr => hr.takeHook hid).bind fun hook hook' hhook => ?_
    refine (takeDependents_lockstep hid).bind fun dependents _ hdependents => ?_
    obtain ⟨rfl, hdependents⟩ := hdependents
    refine (Lockstep.collect fun x hx =>
      destroyWithin_lockstep hengine depth (hdependents x hx)).bind fun before _ hbefore => ?_
    cases hbefore
    refine (disposeIf_lockstep hengine id hhook).bind fun own _ hown => ?_
    cases hown
    refine (takeContained_lockstep hid).bind fun contained _ hcontained => ?_
    obtain ⟨rfl, hcontained⟩ := hcontained
    refine (Lockstep.collect fun x hx =>
      destroyWithin_lockstep hengine depth (hcontained x hx)).bind fun after _ hafter => ?_
    cases hafter
    refine Lockstep.andThen (.edit fun r r' hr => ?_) (.pure rfl)
    exact { hr with graph := hr.graph.forget hid }

theorem destroyOne_lockstep (hengine : engine.Lockstep c engine') (hid : c.inside id = true) :
    Lockstep c Eq (destroyOne engine id : Run ε Report) (destroyOne engine' id) := by
  rw [destroyOne, destroyOne, hengine.depth]
  exact destroyWithin_lockstep hengine _ hid

theorem finish_lockstep (hwhole : c.view.whole) : Lockstep c Eq (finish : Run ε Unit) finish := by
  refine Lockstep.registry.bind fun r r' hr => ?_
  have hempty : r.hooks.isEmpty = r'.hooks.isEmpty := by
    have hlength := (hr.resembles hwhole).hooks.length_eq
    rw [Store.isEmpty, Store.isEmpty, Bool.eq_iff_iff, List.isEmpty_iff_length_eq_zero, hlength,
      ← List.isEmpty_iff_length_eq_zero]
  refine (Lockstep.edit fun r r' hr => hr.empty hwhole).andThen ?_
  rw [hempty, (hr.resembles hwhole).hooks.keys_eq]
  exact .reportIf _ (.edit fun r r' hr => { hr with lifecycle := rfl })

/-- **Destroying everything**, where everything is in view. -/
theorem destroyAll_lockstep (hengine : engine.Lockstep c engine') (hwhole : c.view.whole) :
    Lockstep c Eq (destroyAll engine : Run ε Report) (destroyAll engine') := by
  refine Lockstep.registry.bind fun r r' hr => ?_
  simp only [hr.lifecycle, hr.census_eq hwhole, (hr.resembles hwhole).hooks.keys_eq]
  refine .ite (fun _ => ?_) fun _ => (Lockstep.report _).andThen (.pure rfl)
  refine Lockstep.andThen (.edit fun r r' hr => { hr with lifecycle := rfl }) ?_
  refine (Lockstep.report _).andThen ?_
  have hkeys : ∀ x ∈ r'.hooks.keys.reverse, c.inside x = true := by
    intro x hx
    rw [List.mem_reverse, ← (hr.resembles hwhole).hooks.keys_eq] at hx
    exact (hr.confined hwhole).hooks x hx
  refine (Lockstep.collect fun x hx => destroyOne_lockstep hengine (hkeys x hx)).bind
    fun report _ hreport => ?_
  cases hreport
  exact (finish_lockstep hwhole).andThen (.reportIf _ (.pure rfl))

theorem shutdown_lockstep (hengine : engine.Lockstep c engine') (hwhole : c.view.whole) :
    Lockstep c Eq (shutdown engine : Run ε Report) (shutdown engine') :=
  (Lockstep.report _).andThen (destroyAll_lockstep hengine hwhole)

end Destruction

/-! ## Production -/

namespace Production

theorem produce_lockstep (hengine : engine.Lockstep c engine') (hid : c.inside id = true)
    {step step' : Routine} (hstep : step.Alike c.view step') :
    Lockstep c (Instance.Alike c.view) (produce engine id step) (produce engine' id step') := by
  refine ((hengine.produce hstep).mapError _).bind fun product product' hproduct => ?_
  cases hproduct with
  | some hproduct => exact .pure hproduct
  | none =>
    refine Lockstep.registry.bind fun r r' hr => ?_
    rw [hr.marks.isActive_eq hid]
    exact .ite (fun _ => .fail _) fun _ => .fresh rfl fun _ => rfl

theorem postProcess_lockstep (hengine : engine.Lockstep c engine') (id : Ident)
    {product product' : Instance} (hproduct : product.Alike c.view product') :
    Lockstep c (Instance.Alike c.view) (postProcess engine id product)
      (postProcess engine' id product') := by
  refine Lockstep.registry.bind fun r r' hr => ?_
  rcases both_or_neither hr.postProcessor with ⟨processor, processor', h, h', hprocessor⟩ | ⟨h, h'⟩
  · simp only [h, h']
    exact (hengine.process hprocessor hproduct id).mapError _
  · simp only [h, h']
    exact .pure hproduct

theorem postProcessMarked_lockstep (hengine : engine.Lockstep c engine')
    (hid : c.inside id = true) {product product' : Instance}
    (hproduct : product.Alike c.view product') :
    Lockstep c (Instance.Alike c.view) (postProcessMarked engine id product)
      (postProcessMarked engine' id product') := by
  refine (Lockstep.tryEdit fun r r' hr => hr.enter hid).bind fun _ _ _ => ?_
  refine (postProcess_lockstep hengine id hproduct).attempt.bind fun ending ending' hending => ?_
  cases hending with
  | panic payload =>
    refine Lockstep.andThen ?_ (.unwind payload)
    exact .edit fun r r' hr => { hr with marks := hr.marks.leaveQuietly hid }
  | ok hprocessed =>
    exact (Lockstep.tryEdit fun r r' hr => hr.leave hid).bind fun _ _ _ => .pure hprocessed
  | error failure =>
    exact (Lockstep.tryEdit fun r r' hr => hr.leave hid).bind fun _ _ _ => .fail failure

theorem keep_lockstep (hid : c.inside id = true) {product product' : Instance}
    (hproduct : product.Alike c.view product') :
    Lockstep c (Instance.Alike c.view) (keep id product) (keep id product') :=
  (Lockstep.edit fun _ _ hr => hr.storeProduct hid hproduct).andThen (.pure hproduct)

theorem resolveShared_lockstep (hengine : engine.Lockstep c engine') (hid : c.inside id = true)
    {step step' : Routine} (hstep : step.Alike c.view step') (post : Bool) :
    Lockstep c (Instance.Alike c.view) (resolveShared engine id step post)
      (resolveShared engine' id step' post) := by
  refine Lockstep.registry.bind fun r r' hr => ?_
  rcases both_or_neither (hr.products.get? hid) with ⟨kept, kept', h, h', hkept⟩ | ⟨h, h'⟩
  · simp only [h, h']
    exact .pure hkept
  · simp only [h, h']
    refine (produce_lockstep hengine hid hstep).bind fun product product' hproduct => ?_
    refine Lockstep.registry.bind fun t t' ht => ?_
    rcases both_or_neither (ht.products.get? hid) with ⟨kept, kept', h, h', hkept⟩ | ⟨h, h'⟩
    · simp only [h, h']
      exact .pure hkept
    · simp only [h, h', ht.marks.isActive_eq hid]
      refine .ite (fun _ => keep_lockstep hid hproduct) fun _ => ?_
      refine .ite (fun _ => (Lockstep.report _).andThen (.pure hproduct)) fun _ => ?_
      exact (postProcessMarked_lockstep hengine hid hproduct).bind fun _ _ hprocessed =>
        keep_lockstep hid hprocessed

/-- **Producing** for an identifier in view. -/
theorem resolve_lockstep (hengine : engine.Lockstep c engine') (hid : c.inside id = true)
    {step step' : Routine} (hstep : step.Alike c.view step') (shared post : Bool) :
    Lockstep c (Instance.Alike c.view) (resolve engine id step shared post)
      (resolve engine' id step' shared post) := by
  refine Lockstep.registry.bind fun r r' hr => ?_
  simp only [hr.finished.contains_eq hid]
  refine .ite (fun _ => resolveShared_lockstep hengine hid hstep post) fun _ => ?_
  refine (produce_lockstep hengine hid hstep).bind fun product product' hproduct => ?_
  exact .ite (fun _ => postProcess_lockstep hengine id hproduct) fun _ => .pure hproduct

theorem productType_lockstep (type : ProductType) :
    Lockstep c Eq (productType type : Run ε (Option String)) (productType type) := by
  cases type with
  | declared name => exact .pure rfl
  | failing text => exact (Lockstep.report _).andThen (.pure rfl)

end Production

/-! ## Operations in any names -/

namespace Operations

variable {a b : Ident}

/-- One canonical name, in view. -/
def Common (c : Comparison) (x y : Ident) : Prop := x = y ∧ c.inside x = true

theorem canonical_lockstep (h : c.view.names a b) :
    Lockstep c (Common c) (canonical a : Run ε Ident) (canonical b) :=
  .read fun _ _ hs => ⟨hs.registry.canonical_eq h, hs.registry.inside_canonical h⟩

theorem accept_lockstep (h : c.view.Accepts a b) : Lockstep c (Common c) (accept a) (accept b) :=
  Lockstep.registry.bind fun _ _ hr => .ofExcept (hr.accept h)

/-- Work on what two names stand for goes in lockstep if work on the canonical name does. -/
theorem resolved_lockstep {α : Type} {V : α → α → Prop} {name name' : Run ε Ident}
    {work work' : Ident → Run ε α} (hname : Lockstep c (Common c) name name')
    (h : ∀ id, c.inside id = true → Lockstep c V (work id) (work' id)) :
    Lockstep c V (name >>= work) (name' >>= work') := by
  refine hname.bind fun id _ hid => ?_
  obtain ⟨rfl, hid⟩ := hid
  exact h id hid

theorem get_lockstep (hengine : engine.Lockstep c engine') (h : c.view.names a b) :
    Lockstep c (Instance.FoundAlike c.view) (get engine a) (get engine' b) :=
  resolved_lockstep (canonical_lockstep h) fun _ hid => Creation.lookup_lockstep hengine hid

theorem getOrCreate_lockstep (hengine : engine.Lockstep c engine') (h : c.view.Accepts a b)
    {make make' : Routine} (hmake : make.Alike c.view make') :
    Lockstep c (Instance.Alike c.view) (getOrCreate engine a make) (getOrCreate engine' b make') :=
  resolved_lockstep (accept_lockstep h) fun _ hid =>
    Creation.getOrCreate_lockstep hengine hid hmake

/-- The dependencies of two requests are recorded one by one, and refused at the same place. -/
theorem addDependencies_lockstep (hid : c.inside id = true) {ids ids' : List Ident}
    (h : List.Forall₂ c.view.Accepts ids ids') :
    Lockstep c Eq (addDependencies id ids) (addDependencies id ids') := by
  induction h with
  | nil => exact .pure rfl
  | cons hname _ ih =>
    refine resolved_lockstep (accept_lockstep hname) fun dependency hdependency => ?_
    refine Lockstep.registry.bind fun r r' hr => ?_
    rw [hr.graph.isDependent_eq hid]
    refine .ite (fun _ => .fail _) fun _ => ?_
    refine Lockstep.andThen ?_ ih
    exact .edit fun r r' hr => { hr with graph := hr.graph.addDependency hdependency hid }

theorem create_lockstep (hengine : engine.Lockstep c engine') {request request' : Request}
    (h : request.Alike c.view request') {make make' : Routine} (hmake : make.Alike c.view make') :
    Lockstep c (Instance.Alike c.view) (create engine request make)
      (create engine' request' make') := by
  refine resolved_lockstep (accept_lockstep h.id) fun id hid => ?_
  have hrest := (addDependencies_lockstep hid h.dependsOn).andThen
    (Creation.getOrCreate_lockstep hengine hid hmake)
  rw [h.excluded]
  refine .ite (fun _ => ?_) fun _ => hrest
  refine Lockstep.andThen (.edit fun r r' hr => ?_) hrest
  exact { hr with marks := hr.marks.setExcluded hid true }

theorem registerInstance_lockstep (h : c.view.Accepts a b) {made made' : Instance}
    (hmade : made.Alike c.view made') :
    Lockstep c Eq (registerInstance a made) (registerInstance b made') :=
  resolved_lockstep (accept_lockstep h) fun _ hid => Creation.registerInstance_lockstep hid hmade

theorem registerFactory_lockstep (h : c.view.Accepts a b) {factory factory' : Routine}
    (hfactory : factory.Alike c.view factory') :
    Lockstep c Eq (registerFactory a factory) (registerFactory b factory') :=
  resolved_lockstep (accept_lockstep h) fun _ hid =>
    .edit fun _ _ hr => hr.offerFactory hid hfactory

theorem registerHook_lockstep (h : c.view.Accepts a b) {hook hook' : Routine}
    (hhook : hook.Alike c.view hook') :
    Lockstep c Eq (registerHook a hook) (registerHook b hook') :=
  resolved_lockstep (accept_lockstep h) fun _ hid => Destruction.registerHook_lockstep hid hhook

theorem destroyOne_lockstep (hengine : engine.Lockstep c engine') (h : c.view.names a b) :
    Lockstep c Eq (destroyOne engine a : Run ε Report) (destroyOne engine' b) :=
  resolved_lockstep (canonical_lockstep h) fun _ hid => Destruction.destroyOne_lockstep hengine hid

theorem resolveProduct_lockstep (hengine : engine.Lockstep c engine') (h : c.view.Accepts a b)
    {step step' : Routine} (hstep : step.Alike c.view step') (shared post : Bool) :
    Lockstep c (Instance.Alike c.view) (resolveProduct engine a step shared post)
      (resolveProduct engine' b step' shared post) :=
  resolved_lockstep (accept_lockstep h) fun _ hid =>
    Production.resolve_lockstep hengine hid hstep shared post

theorem onGraph_lockstep {command command' : Graph.Command} (h : command.Alike c.view command') :
    Lockstep c Eq (onGraph command : Run ε (Answer Instance)) (onGraph command') :=
  .transact fun _ _ hr => hr.onGraph h

theorem onAliases_eq {command : AliasTable.Command} (h : command.isQuery = true) :
    onAliases command = (do
      let (result, aliases) := (← Run.registry).aliases.run command
      Run.edit fun r => { r with aliases }
      Run.ofExcept result) := by
  cases command with
  | register | remove => cases h
  | _ => rfl

/-- Questions about aliases that are alike. -/
theorem onAliases_lockstep {command command' : AliasTable.Command}
    (h : command.Alike c.view command') :
    Lockstep c Eq (onAliases command) (onAliases command') := by
  have hquery : command.isQuery = true ∧ command'.isQuery = true := by
    cases h with
    | canonicalName => exact ⟨rfl, rfl⟩
    | same hquery _ => exact ⟨hquery, hquery⟩
  rw [onAliases_eq hquery.1, onAliases_eq hquery.2]
  refine Lockstep.registry.bind fun r r' hr => ?_
  obtain ⟨hresult, htable, htable'⟩ := hr.onAliases h
  generalize (r.aliases.run command : Except Failure (Answer Instance) × AliasTable) = ran at *
  generalize (r'.aliases.run command' : Except Failure (Answer Instance) × AliasTable) = ran' at *
  obtain ⟨result, table⟩ := ran
  obtain ⟨result', table'⟩ := ran'
  cases hresult
  refine Lockstep.andThen (.edit fun t t' ht => ?_) ?_
  · exact { ht with aliases := htable.trans hr.aliases, aliases' := htable'.trans hr.aliases' }
  · cases result with
    | ok answer => exact .pure rfl
    | error failure => exact .fail failure

/-- Changes that are alike. -/
theorem change_lockstep {change change' : Change} (h : change.Alike c.view change') :
    Lockstep c Eq (Operations.change change) (Operations.change change') := by
  cases h with
  | remove hnames =>
    exact resolved_lockstep (canonical_lockstep hnames) fun _ hid =>
      .edit fun _ _ hr => hr.purge hid
  | setExcluded hnames value =>
    exact resolved_lockstep (canonical_lockstep hnames) fun _ hid =>
      .edit fun _ _ hr => { hr with marks := hr.marks.setExcluded hid value }
  | setChecked hnames value =>
    exact resolved_lockstep (canonical_lockstep hnames) fun _ hid =>
      .edit fun _ _ hr => { hr with marks := hr.marks.setExcluded hid !value }
  | enter hnames =>
    exact resolved_lockstep (canonical_lockstep hnames) fun _ hid =>
      (Lockstep.tryEdit fun _ _ hr => hr.enter hid).mono fun _ _ _ => rfl
  | leave hnames =>
    exact resolved_lockstep (canonical_lockstep hnames) fun _ hid =>
      (Lockstep.tryEdit fun _ _ hr => hr.leave hid).mono fun _ _ _ => rfl
  | suppress text => exact Creation.suppress_lockstep text
  | clear hwhole => exact .edit fun _ _ hr => hr.purgeAll hwhole
  | clearMarks hwhole => exact .edit fun _ _ hr => hr.clearMarks hwhole

end Operations

end InstanceRegistry
