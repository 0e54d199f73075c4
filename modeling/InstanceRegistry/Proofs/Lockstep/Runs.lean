import InstanceRegistry.Proofs.Lockstep.Registries

/-!
  Runs side by side.

  Two sessions are abreast if their registries are and if the runs have used up the same serial
  numbers, hold the same in their variables and have entered the same in their journals since they
  began, always up to names that may stand for one another.

  Two pieces of work go in LOCKSTEP if from sessions that are abreast they come to an end both or
  neither, with the same ending, and leave sessions that are abreast.  There is one rule for each way
  in which work is put together, and one for each thing that work does at once; so whatever is put
  together in the same way from pieces in lockstep goes in lockstep.  Nothing is assumed of the two
  sessions beyond their being abreast, which is why the rules can be applied without executing
  anything.

  Callbacks go in lockstep if engines do: each runs routines that are alike in lockstep.
-/

namespace InstanceRegistry

/-- Of two values that are related if there are any, both are there or neither is. -/
theorem both_or_neither {α β : Type} {R : α → β → Prop} {a : Option α} {b : Option β}
    (h : Option.Rel R a b) :
    (∃ x y, a = some x ∧ b = some y ∧ R x y) ∨ a = none ∧ b = none := by
  cases h with
  | some h => exact .inl ⟨_, _, rfl, rfl, h⟩
  | none => exact .inr ⟨rfl, rfl⟩

theorem Outcome.Alike.map {ε α β : Type} {V : α → α → Prop} {W : β → β → Prop} {f g : α → β}
    {o o' : Outcome ε α} (h : o.Alike V o')
    (hmap : ∀ value value', V value value' → W (f value) (g value')) :
    (o.map f).Alike W (o'.map g) := by
  cases h with
  | ok h => exact .ok (hmap _ _ h)
  | error failure => exact .error failure
  | panic payload => exact .panic payload

theorem Outcome.Alike.mapError {ε ε' α : Type} {V : α → α → Prop} {f : ε → ε'}
    {o o' : Outcome ε α} (h : o.Alike V o') : (o.mapError f).Alike V (o'.mapError f) := by
  cases h with
  | ok h => exact .ok h
  | error failure => exact .error _
  | panic payload => exact .panic payload

/-! ## Sessions -/

/-- The same event, and registries that were abreast then. -/
structure Entry.Alike (c : Comparison) (e e' : Entry) : Prop where
  event : e.event.Alike c.view e'.event
  registry : e.registry.Abreast c e'.registry

/-- The journals have gone on alike since the runs began. -/
def Session.Tells (c : Comparison) (journal journal' : List Entry) : Prop :=
  ∃ new new', journal = new ++ c.left.journal ∧ journal' = new' ++ c.right.journal ∧
    List.Forall₂ (Entry.Alike c) new new'

/-- Two sessions as far as they are compared. -/
structure Session.Abreast (c : Comparison) (s s' : Session) : Prop where
  registry : s.registry.Abreast c s'.registry
  supply : s.supply = s'.supply
  bindings : s.bindings.Alike (Instance.Alike c.view) s'.bindings
  components : ∀ id, c.view.Accepts id id →
    Option.Rel (Component.Alike c.view) (s.components.get? id) (s'.components.get? id)
  waiting : List.Forall₂ c.view.names s.waiting s'.waiting
  journal : Session.Tells c s.journal s'.journal

variable {c : Comparison} {s s' : Session}

/-- One more event that both journals are told of. -/
theorem Session.Abreast.record (h : s.Abreast c s') {event event' : Event}
    (hevent : event.Alike c.view event') :
    Session.Tells c (⟨event, s.registry⟩ :: s.journal) (⟨event', s'.registry⟩ :: s'.journal) := by
  obtain ⟨new, new', hnew, hnew', halike⟩ := h.journal
  refine ⟨⟨event, s.registry⟩ :: new, ⟨event', s'.registry⟩ :: new', ?_, ?_,
    .cons ⟨hevent, h.registry⟩ halike⟩
  · rw [hnew, List.cons_append]
  · rw [hnew', List.cons_append]

/-! ## Work in lockstep -/

namespace Run

variable {ε ε' α β : Type} {V : α → α → Prop} {W : β → β → Prop}

/-- The same ending, and sessions that are abreast after it. -/
def Ended (c : Comparison) (V : α → α → Prop) (p p' : Outcome ε α × Session) : Prop :=
  p.1.Alike V p'.1 ∧ p.2.Abreast c p'.2

/-- From sessions that are abreast the two come to the same ending, or neither comes to an end. -/
def Lockstep (c : Comparison) (V : α → α → Prop) (work work' : Run ε α) : Prop :=
  ∀ s s', s.Abreast c s' → Option.Rel (Ended c V) (work s) (work' s')

namespace Lockstep

/-! ### Putting work together -/

theorem pure {value value' : α} (h : V value value') :
    Lockstep c V (Pure.pure value : Run ε α) (Pure.pure value') :=
  fun _ _ hs => .some ⟨.ok h, hs⟩

theorem exhausted : Lockstep c V (Run.exhausted : Run ε α) Run.exhausted := fun _ _ _ => .none

theorem conclude {outcome outcome' : Outcome ε α} (h : outcome.Alike V outcome') :
    Lockstep c V (Run.conclude outcome) (Run.conclude outcome') :=
  fun _ _ hs => .some ⟨h, hs⟩

theorem fail (failure : ε) : Lockstep c V (Run.fail failure) (Run.fail failure) :=
  conclude (.error failure)

theorem unwind (payload : Panic) :
    Lockstep c V (Run.unwind payload : Run ε α) (Run.unwind payload) :=
  conclude (.panic payload)

theorem ofExcept {result result' : Except ε α} (h : Except.Alike V result result') :
    Lockstep c V (Run.ofExcept result) (Run.ofExcept result') := by
  cases h with
  | ok h => exact conclude (.ok h)
  | error failure => exact conclude (.error failure)

theorem bind {work work' : Run ε α} {next next' : α → Run ε β} (h : Lockstep c V work work')
    (hnext : ∀ value value', V value value' → Lockstep c W (next value) (next' value')) :
    Lockstep c W (work >>= next) (work' >>= next') := by
  intro s s' hs
  rcases both_or_neither (h s s' hs) with
    ⟨⟨outcome, t⟩, ⟨outcome', t'⟩, hwork, hwork', houtcome, ht⟩ | ⟨hwork, hwork'⟩
  · cases houtcome with
    | ok hvalue =>
      rw [bind_ok hwork, bind_ok hwork']
      exact hnext _ _ hvalue t t' ht
    | error failure =>
      rw [bind_error hwork, bind_error hwork']
      exact .some ⟨.error failure, ht⟩
    | panic payload =>
      rw [bind_panic hwork, bind_panic hwork']
      exact .some ⟨.panic payload, ht⟩
  · show Option.Rel _ (Run.bind work next s) (Run.bind work' next' s')
    rw [Run.bind, hwork, Run.bind, hwork']
    exact .none

/-- Going on after work whose value says nothing. -/
theorem andThen {work work' : Run ε Unit} {next next' : Run ε β} (h : Lockstep c Eq work work')
    (hnext : Lockstep c W next next') :
    Lockstep c W (do work; next) (do work'; next') :=
  h.bind fun _ _ _ => hnext

theorem map {work work' : Run ε α} {f g : α → β} (h : Lockstep c V work work')
    (hmap : ∀ value value', V value value' → W (f value) (g value')) :
    Lockstep c W (work >>= fun value => Pure.pure (f value))
      (work' >>= fun value => Pure.pure (g value)) :=
  h.bind fun _ _ hvalue => pure (hmap _ _ hvalue)

theorem attempt {work work' : Run ε α} (h : Lockstep c V work work') :
    Lockstep c (Outcome.Alike V) (work.attempt : Run ε' (Outcome ε α)) work'.attempt := by
  intro s s' hs
  rcases both_or_neither (h s s' hs) with ⟨p, p', hwork, hwork', houtcome, ht⟩ | ⟨hwork, hwork'⟩
  · rw [Run.attempt, hwork, Run.attempt, hwork']
    exact .some ⟨.ok houtcome, ht⟩
  · rw [Run.attempt, hwork, Run.attempt, hwork']
    exact .none

theorem mapError {work work' : Run ε α} (f : ε → ε') (h : Lockstep c V work work') :
    Lockstep c V (work.mapError f) (work'.mapError f) := by
  intro s s' hs
  rcases both_or_neither (h s s' hs) with ⟨p, p', hwork, hwork', houtcome, ht⟩ | ⟨hwork, hwork'⟩
  · rw [Run.mapError, hwork, Run.mapError, hwork']
    exact .some ⟨houtcome.mapError, ht⟩
  · rw [Run.mapError, hwork, Run.mapError, hwork']
    exact .none

/-- Relations between values may be weakened. -/
theorem mono {V' : α → α → Prop} {work work' : Run ε α} (h : Lockstep c V work work')
    (hmono : ∀ value value', V value value' → V' value value') : Lockstep c V' work work' := by
  intro s s' hs
  rcases both_or_neither (h s s' hs) with
    ⟨⟨outcome, t⟩, ⟨outcome', t'⟩, hwork, hwork', houtcome, ht⟩ | ⟨hwork, hwork'⟩
  · rw [hwork, hwork']
    refine .some ⟨?_, ht⟩
    cases houtcome with
    | ok hvalue => exact .ok (hmono _ _ hvalue)
    | error failure => exact .error failure
    | panic payload => exact .panic payload
  · rw [hwork, hwork']
    exact .none

/-- What is known of the values of each side by itself. -/
theorem also {P P' : α → Prop} {work work' : Run ε α} (h : Lockstep c V work work')
    (hvalue : ∀ s t value, work s = some (.ok value, t) → P value)
    (hvalue' : ∀ s t value, work' s = some (.ok value, t) → P' value) :
    Lockstep c (fun value value' => V value value' ∧ P value ∧ P' value') work work' := by
  intro s s' hs
  rcases both_or_neither (h s s' hs) with
    ⟨⟨outcome, t⟩, ⟨outcome', t'⟩, hwork, hwork', houtcome, ht⟩ | ⟨hwork, hwork'⟩
  · rw [hwork, hwork']
    refine .some ⟨?_, ht⟩
    cases houtcome with
    | ok hV => exact .ok ⟨hV, hvalue s t _ hwork, hvalue' s' t' _ hwork'⟩
    | error failure => exact .error failure
    | panic payload => exact .panic payload
  · rw [hwork, hwork']
    exact .none

/-! ### What work does at once -/

theorem read {f g : Session → α} (h : ∀ s s', s.Abreast c s' → V (f s) (g s')) :
    Lockstep c V (Run.read f : Run ε α) (Run.read g) :=
  fun s s' hs => .some ⟨.ok (h s s' hs), hs⟩

theorem registry : Lockstep c (Registry.Abreast c) (Run.registry : Run ε Registry) Run.registry :=
  read fun _ _ hs => hs.registry

theorem update {f g : Session → Session} (h : ∀ s s', s.Abreast c s' → (f s).Abreast c (g s')) :
    Lockstep c Eq (Run.update f : Run ε Unit) (Run.update g) :=
  fun s s' hs => .some ⟨.ok rfl, h s s' hs⟩

theorem edit {f g : Registry → Registry} (h : ∀ r r', r.Abreast c r' → (f r).Abreast c (g r')) :
    Lockstep c Eq (Run.edit f : Run ε Unit) (Run.edit g) :=
  update fun _ _ hs => { hs with registry := h _ _ hs.registry }

theorem tryEdit {f g : Registry → Except ε (α × Registry)}
    (h : ∀ r r', r.Abreast c r' → Except.Alike (Registry.Stepped c V) (f r) (g r')) :
    Lockstep c V (Run.tryEdit f) (Run.tryEdit g) := by
  intro s s' hs
  have hstep := h _ _ hs.registry
  rw [Run.tryEdit, Run.tryEdit]
  generalize f s.registry = result at hstep ⊢
  generalize g s'.registry = result' at hstep ⊢
  cases hstep with
  | ok hvalue => exact .some ⟨.ok hvalue.1, { hs with registry := hvalue.2 }⟩
  | error failure => exact .some ⟨.error failure, hs⟩

theorem transact {f g : Registry → α × Registry}
    (h : ∀ r r', r.Abreast c r' → Registry.Stepped c V (f r) (g r')) :
    Lockstep c V (Run.transact f : Run ε α) (Run.transact g) :=
  fun _ _ hs => .some ⟨.ok (h _ _ hs.registry).1, { hs with registry := (h _ _ hs.registry).2 }⟩

theorem record {event event' : Event} (h : event.Alike c.view event') :
    Lockstep c Eq (Run.record event : Run ε Unit) (Run.record event') :=
  update fun _ _ hs => { hs with journal := hs.record h }

theorem report (notice : Notice) :
    Lockstep c Eq (Run.report notice : Run ε Unit) (Run.report notice) :=
  record (.noticed notice)

/-- Instances that are made at the same time have the same serial number. -/
theorem fresh {label label' : Option String} (hsentinel : label.isNone = label'.isNone)
    (hlabel : c.view.labelled → label = label') :
    Lockstep c (Instance.Alike c.view) (Run.fresh label : Run ε Instance) (Run.fresh label') :=
  fun _ _ hs => .some ⟨.ok ⟨hs.supply, hsentinel, hlabel⟩,
    { hs with supply := congrArg (· + 1) hs.supply }⟩

/-- Work between an entry for its beginning and one for its end. -/
theorem noted {op op' : Op} {asStep : Bool} {answer : α → Answer Instance}
    {work work' : Run Failure α} (hop : op.Alike c.view op') (h : Lockstep c V work work')
    (hanswer : ∀ value value', V value value' → (answer value).Alike c.view (answer value')) :
    Lockstep c V (Run.noted op asStep answer work) (Run.noted op' asStep answer work') :=
  (record (.began hop)).andThen (h.attempt.bind fun _ _ hresult =>
    (record (.done hop (hresult.map hanswer))).andThen (conclude hresult))

/-- The same work for each identifier in turn. -/
theorem collect {work work' : Ident → Run ε Report} :
    ∀ {ids : List Ident}, (∀ id ∈ ids, Lockstep c Eq (work id) (work' id)) →
      Lockstep c Eq (Run.collect work ids) (Run.collect work' ids)
  | [], _ => pure rfl
  | id :: rest, h => by
    refine (h id List.mem_cons_self).bind fun first first' hfirst => ?_
    cases hfirst
    refine (collect fun other hother => h other (List.mem_cons_of_mem id hother)).map
      fun others others' hothers => ?_
    cases hothers
    rfl

/-- A choice that is the same on both sides. -/
theorem ite {condition : Prop} [Decidable condition] {work work' other other' : Run ε α}
    (h : condition → Lockstep c V work work') (hother : ¬ condition → Lockstep c V other other') :
    Lockstep c V (if condition then work else other) (if condition then work' else other') := by
  split
  · exact h ‹_›
  · exact hother ‹_›

/-- Work that may be told of first. -/
theorem reportIf {condition : Prop} [Decidable condition] (notice : Notice) {next next' : Run ε β}
    (h : Lockstep c W next next') :
    Lockstep c W (if condition then do Run.report notice; next else next)
      (if condition then do Run.report notice; next' else next') :=
  .ite (fun _ => (report notice).andThen h) fun _ => h

end Lockstep

end Run

/-! ## Engines in lockstep -/

/-- The engine leaves the registry alone when it runs the construction of one of several callers,
    which takes no steps. -/
def Engine.SparesContended (engine : Engine) : Prop :=
  ∀ {id settle s ending t}, engine.construct (.contender id settle) s = some (ending, t) →
    t.registry = s.registry

/-- The two engines run routines that are alike in lockstep. -/
structure Engine.Lockstep (c : Comparison) (engine engine' : Engine) : Prop where
  depth : engine.depth = engine'.depth
  construct : ∀ {r r'}, r.Alike c.view r' →
    Run.Lockstep c (Instance.Alike c.view) (engine.construct r) (engine'.construct r')
  expose : ∀ {r r'}, r.Alike c.view r' →
    Run.Lockstep c (Instance.Alike c.view) (engine.expose r) (engine'.expose r')
  produce : ∀ {r r'}, r.Alike c.view r' →
    Run.Lockstep c (Instance.FoundAlike c.view) (engine.produce r) (engine'.produce r')
  process : ∀ {r r'}, r.Alike c.view r' → ∀ {i j : Instance}, i.Alike c.view j → ∀ id,
    Run.Lockstep c (Instance.Alike c.view) (engine.process r i id) (engine'.process r' j id)
  dispose : ∀ {r r'}, r.Alike c.view r' →
    Run.Lockstep c Eq (engine.dispose r) (engine'.dispose r')
  spares : engine.SparesContended
  spares' : engine'.SparesContended

end InstanceRegistry
