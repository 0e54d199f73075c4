import InstanceRegistry.Script
import InstanceRegistry.Proofs.Runs

/-!
  Scenes: what assembling components looks at and changes.

  Assembling goes through many small operations, each with entries in the journal, reports and
  edges that it does not care about.  A SCENE keeps what matters: the three tiers, the list and the
  marks, whose constructions were started in which order, and what each component was given.  A
  session shows one scene (`Shows`), and work that ends well leads from scene to scene (`Plays`),
  so that operations are run by rules, one for each way of putting work together.

  The second half goes through the operations that assembling uses and says to which scene each of
  them leads.
-/

namespace InstanceRegistry.Wiring

/-! ## What the journal tells -/

/-- The identifier whose construction starts with an event. -/
def construction? : Event → Option Ident
  | .entered .construction id _ => some id
  | _ => none

/-- What an event gives to a component, and for which of its needs. -/
def wiring? (id : Ident) : Event → Option (Ident × Instance)
  | .wired receiver need given => if receiver = id then some (need, given) else none
  | _ => none

/-- The identifiers whose constructions were started, in that order. -/
def constructions (s : Session) : List Ident :=
  (s.journal.filterMap fun e => construction? e.event).reverse

/-- What a component was given, in that order. -/
def wirings (s : Session) (id : Ident) : List (Ident × Instance) :=
  (s.journal.filterMap fun e => wiring? id e.event).reverse

/-- The latest entry comes last. -/
theorem reverse_filterMap_cons {α β : Type} (f : α → Option β) (x : α) (l : List α) :
    ((x :: l).filterMap f).reverse = (l.filterMap f).reverse ++ (f x).toList := by
  rw [List.filterMap_cons]
  cases f x with
  | none => exact (List.append_nil _).symm
  | some y => exact List.reverse_cons

/-! ## Scenes -/

/-- What assembling components looks at and changes. -/
structure Scene where
  finished : Store Instance := ∅
  early : Store Instance := ∅
  factories : Store Routine := ∅
  listed : Roster := []
  active : Roster := []
  /-- The identifiers whose constructions were started, in that order. -/
  started : List Ident := []
  /-- What each component was given, in that order. -/
  wired : Ident → List (Ident × Instance) := fun _ => []

namespace Scene

/-- Mark an identifier. -/
def mark (sc : Scene) (id : Ident) : Scene := { sc with active := sc.active ++ [id] }

/-- Clear its mark. -/
def unmark (sc : Scene) (id : Ident) : Scene := { sc with active := Roster.drop sc.active id }

/-- Start its construction. -/
def start (sc : Scene) (id : Ident) : Scene := { sc with started := sc.started ++ [id] }

/-- Offer an instance under an identifier, for those who ask early. -/
def offer (sc : Scene) (id : Ident) (me : Instance) : Scene :=
  { sc with
    factories := sc.factories.insert id (.handover id me)
    early := sc.early.erase id
    listed := Roster.add sc.listed id }

/-- Take the offer back. -/
def withdraw (sc : Scene) (id : Ident) : Scene := { sc with factories := sc.factories.erase id }

/-- Keep an early reference. -/
def expose (sc : Scene) (id : Ident) (me : Instance) : Scene :=
  { sc with early := sc.early.insert id me }

/-- Give something to a component. -/
def wire (sc : Scene) (id need : Ident) (given : Instance) : Scene :=
  { sc with wired := fun x => if x = id then sc.wired x ++ [(need, given)] else sc.wired x }

/-- Bind the finished instance. -/
def bind (sc : Scene) (id : Ident) (made : Instance) : Scene :=
  { sc with
    finished := sc.finished.insert id made
    factories := sc.factories.erase id
    early := sc.early.erase id
    listed := Roster.add sc.listed id }

end Scene

/-- The part of a scene that is a registry's.  The registry creates, knows no other names and
    excludes nobody. -/
structure Stages (c : Config) (r : Registry) (sc : Scene) : Prop where
  config : r.config = c
  aliases : r.aliases = {}
  lifecycle : r.lifecycle = .active
  excluded : r.marks.excluded = []
  active : r.marks.active = sc.active
  finished : r.finished = sc.finished
  early : r.early = sc.early
  factories : r.factories = sc.factories
  listed : r.listed = sc.listed

namespace Stages

variable {c : Config} {r : Registry} {sc : Scene} {id : Ident}

theorem isActive (h : Stages c r sc) : r.marks.isActive id = decide (id ∈ sc.active) := by
  rw [Marks.isActive, h.active]

theorem isExcluded (h : Stages c r sc) : r.marks.isExcluded id = false := by
  rw [Marks.isExcluded, h.excluded]
  rfl

theorem contains_finished (h : Stages c r sc) (hid : sc.finished.get? id = none) :
    r.finished.contains id = false := by
  rw [Store.contains, h.finished, hid]
  rfl

/-- Without aliases every identifier is its own canonical name. -/
theorem canonical (h : Stages c r sc) (id : Ident) : r.canonical id = id := by
  rw [Registry.canonical, h.aliases]
  rfl

theorem accept (h : Stages c r sc) (hid : c.validateIdentifier id = .ok ()) :
    r.accept id = .ok id := by
  rw [Registry.accept, h.config, hid, h.canonical]
  cases r.guarded <;> rfl

end Stages

/-- A session that shows a scene, with these settings and components. -/
structure Shows (c : Config) (comps : Store Component) (s : Session) (sc : Scene) : Prop where
  stages : Stages c s.registry sc
  components : s.components = comps
  started : constructions s = sc.started
  wired : ∀ id, wirings s id = sc.wired id

/-- Changing the registry changes the scene, the journal's part of it apart. -/
theorem Shows.change {c : Config} {comps : Store Component} {s : Session} {sc sc' : Scene}
    {r : Registry} (h : Shows c comps s sc) (hstages : Stages c r sc')
    (hstarted : sc'.started = sc.started) (hwired : sc'.wired = sc.wired) :
    Shows c comps { s with registry := r } sc' where
  stages := hstages
  components := h.components
  started := by
    rw [hstarted]
    exact h.started
  wired id := by
    rw [hwired]
    exact h.wired id

/-- Work that ends well wherever a scene is shown, and shows another one afterwards. -/
def Plays {ε α : Type} (c : Config) (comps : Store Component) (work : Run ε α) (sc : Scene)
    (post : α → Scene → Prop) : Prop :=
  ∀ s, Shows c comps s sc →
    ∃ value s' sc', work s = some (.ok value, s') ∧ Shows c comps s' sc' ∧ post value sc'

/-! ## Rules -/

namespace Plays

variable {ε ε' α β : Type} {c : Config} {comps : Store Component} {sc sc' : Scene}

theorem mono {work : Run ε α} {post post' : α → Scene → Prop} (h : Plays c comps work sc post)
    (himp : ∀ value sc', post value sc' → post' value sc') : Plays c comps work sc post' := by
  intro s hs
  obtain ⟨value, s', sc', hrun, hs', hpost⟩ := h s hs
  exact ⟨value, s', sc', hrun, hs', himp value sc' hpost⟩

theorem pure {value : α} {post : α → Scene → Prop} (h : post value sc) :
    Plays c comps (Pure.pure value : Run ε α) sc post :=
  fun s hs => ⟨value, s, sc, rfl, hs, h⟩

/-- Work that does nothing stays where it is. -/
theorem stay (value : α) :
    Plays c comps (Pure.pure value : Run ε α) sc fun _ sc' => sc' = sc := pure rfl

theorem bind {work : Run ε α} {next : α → Run ε β} {mid : α → Scene → Prop}
    {post : β → Scene → Prop} (h : Plays c comps work sc mid)
    (hnext : ∀ value sc', mid value sc' → Plays c comps (next value) sc' post) :
    Plays c comps (work >>= next) sc post := by
  intro s hs
  obtain ⟨value, s', sc', hrun, hs', hmid⟩ := h s hs
  rw [Run.bind_ok hrun]
  exact hnext value sc' hmid s' hs'

theorem attempt {work : Run ε α} {post : α → Scene → Prop} (h : Plays c comps work sc post) :
    Plays c comps (work.attempt : Run ε' (Outcome ε α)) sc
      fun outcome sc' => ∃ value, outcome = .ok value ∧ post value sc' := by
  intro s hs
  obtain ⟨value, s', sc', hrun, hs', hpost⟩ := h s hs
  exact ⟨.ok value, s', sc', Run.attempt_of hrun, hs', value, rfl, hpost⟩

theorem mapError {f : ε → ε'} {work : Run ε α} {post : α → Scene → Prop}
    (h : Plays c comps work sc post) : Plays c comps (work.mapError f) sc post := by
  intro s hs
  obtain ⟨value, s', sc', hrun, hs', hpost⟩ := h s hs
  exact ⟨value, s', sc', Run.mapError_of hrun, hs', hpost⟩

theorem ofExcept {result : Except ε α} {value : α} (h : result = .ok value) :
    Plays c comps (Run.ofExcept result) sc fun got sc' => got = value ∧ sc' = sc := by
  intro s hs
  rw [h]
  exact ⟨value, s, sc, rfl, hs, rfl, rfl⟩

/-- The registry that is looked at is one of the scene. -/
theorem registry :
    Plays c comps (Run.registry : Run ε Registry) sc fun r sc' => Stages c r sc ∧ sc' = sc :=
  fun s hs => ⟨s.registry, s, sc, rfl, hs, hs.stages, rfl⟩

/-- The component that is looked up is one of those there are. -/
theorem component (id : Ident) :
    Plays c comps (Run.read fun s => s.components.get? id : Run ε (Option Component)) sc
      fun found sc' => found = comps.get? id ∧ sc' = sc := by
  intro s hs
  refine ⟨_, s, sc, rfl, hs, ?_, rfl⟩
  show s.components.get? id = _
  rw [hs.components]

/-- A change of the registry changes the scene as it changes the registry. -/
theorem transact {f : Registry → α × Registry} {P : α → Prop}
    (h : ∀ r, Stages c r sc → Stages c (f r).2 sc' ∧ P (f r).1)
    (hstarted : sc'.started = sc.started) (hwired : sc'.wired = sc.wired) :
    Plays c comps (Run.transact f : Run ε α) sc fun value sc'' => sc'' = sc' ∧ P value := by
  intro s hs
  obtain ⟨hstages, hvalue⟩ := h s.registry hs.stages
  exact ⟨_, _, sc', rfl, hs.change hstages hstarted hwired, rfl, hvalue⟩

theorem edit {f : Registry → Registry}
    (h : ∀ r, Stages c r sc → Stages c (f r) sc')
    (hstarted : sc'.started = sc.started) (hwired : sc'.wired = sc.wired) :
    Plays c comps (Run.edit f : Run ε Unit) sc fun _ sc'' => sc'' = sc' := by
  intro s hs
  exact ⟨(), _, sc', rfl, hs.change (h _ hs.stages) hstarted hwired, rfl⟩

theorem tryEdit {f : Registry → Except ε (α × Registry)}
    (h : ∀ r, Stages c r sc → ∃ value r', f r = .ok (value, r') ∧ Stages c r' sc')
    (hstarted : sc'.started = sc.started) (hwired : sc'.wired = sc.wired) :
    Plays c comps (Run.tryEdit f : Run ε α) sc fun _ sc'' => sc'' = sc' := by
  intro s hs
  obtain ⟨value, r', hf, hstages⟩ := h s.registry hs.stages
  exact ⟨value, _, sc', Run.tryEdit_ok hf, hs.change hstages hstarted hwired, rfl⟩

/-- An entry of the journal is seen in the scene as far as it tells something. -/
theorem record {event : Event}
    (hstages : ∀ r, Stages c r sc → Stages c r sc')
    (hstarted : sc'.started = sc.started ++ (construction? event).toList)
    (hwired : ∀ id, sc'.wired id = sc.wired id ++ (wiring? id event).toList) :
    Plays c comps (Run.record event : Run ε Unit) sc fun _ sc'' => sc'' = sc' := by
  intro s hs
  refine ⟨(), _, sc', Run.record_apply s event, ⟨hstages _ hs.stages, hs.components, ?_, ?_⟩, rfl⟩
  · rw [hstarted, ← hs.started]
    exact reverse_filterMap_cons _ _ _
  · intro id
    rw [hwired, ← hs.wired]
    exact reverse_filterMap_cons _ _ _

/-- An entry that tells nothing is not seen. -/
theorem record_quiet {event : Event} (hstarted : construction? event = none)
    (hwired : ∀ id, wiring? id event = none) :
    Plays c comps (Run.record event : Run ε Unit) sc fun _ sc' => sc' = sc := by
  refine record (fun _ hr => hr) ?_ fun id => ?_
  · rw [hstarted]
    exact (List.append_nil _).symm
  · rw [hwired]
    exact (List.append_nil _).symm

theorem report (notice : Notice) :
    Plays c comps (Run.report notice : Run ε Unit) sc fun _ sc' => sc' = sc :=
  record_quiet rfl fun _ => rfl

/-- The entries around an operation are not seen. -/
theorem noted {op : Op} {asStep : Bool} {answer : α → Answer Instance} {work : Run Failure α}
    {post : α → Scene → Prop} (h : Plays c comps work sc post) :
    Plays c comps (Run.noted op asStep answer work) sc post := by
  refine bind (record_quiet rfl fun _ => rfl) ?_
  rintro _ _ rfl
  refine bind h.attempt ?_
  rintro _ sc' ⟨value, rfl, hpost⟩
  refine bind (record_quiet rfl fun _ => rfl) ?_
  rintro _ _ rfl
  exact pure hpost

/-- A new instance is not seen as long as nobody is given it. -/
theorem fresh (label : Option String) :
    Plays c comps (Run.fresh label : Run ε Instance) sc fun _ sc' => sc' = sc :=
  fun _ hs => ⟨_, _, sc, rfl, ⟨hs.stages, hs.components, hs.started, hs.wired⟩, rfl⟩

end Plays

/-! ## Names -/

section Names

variable {ε : Type} {c : Config} {comps : Store Component} {sc : Scene}

theorem canonical_plays (id : Ident) : Plays c comps (Operations.canonical id : Run ε Ident) sc
    fun name sc' => name = id ∧ sc' = sc :=
  fun s hs => ⟨_, s, sc, rfl, hs, hs.stages.canonical id, rfl⟩

theorem accept_plays {id : Ident} (hid : c.validateIdentifier id = .ok ()) :
    Plays c comps (Operations.accept id) sc fun name sc' => name = id ∧ sc' = sc := by
  refine Plays.bind Plays.registry ?_
  rintro r sc ⟨hr, rfl⟩
  exact Plays.ofExcept (hr.accept hid)

end Names

/-! ## Looking up -/

section Lookups

variable {c : Config} {comps : Store Component} {sc : Scene} {id : Ident} {i : Instance}

theorem lookup_finished (engine : Engine) (h : sc.finished.get? id = some i) :
    Plays c comps (Creation.lookup engine id) sc fun found sc' => found = some i ∧ sc' = sc := by
  refine Plays.bind Plays.registry ?_
  rintro r sc ⟨hr, rfl⟩
  simp only [hr.finished, h]
  refine Plays.bind (Plays.report _) ?_
  rintro _ _ rfl
  exact Plays.pure ⟨rfl, rfl⟩

/-- Nothing is found under an identifier that is neither finished nor being created. -/
theorem lookup_absent (engine : Engine) (h : sc.finished.get? id = none)
    (hactive : id ∉ sc.active) :
    Plays c comps (Creation.lookup engine id) sc fun found sc' => found = none ∧ sc' = sc := by
  refine Plays.bind Plays.registry ?_
  rintro r sc ⟨hr, rfl⟩
  have hmark : r.marks.isActive id = false := hr.isActive.trans (decide_eq_false hactive)
  simp only [hr.finished, h, hmark]
  exact Plays.pure ⟨rfl, rfl⟩

theorem lookup_early (engine : Engine) (h : sc.finished.get? id = none) (hactive : id ∈ sc.active)
    (hearly : sc.early.get? id = some i) :
    Plays c comps (Creation.lookup engine id) sc fun found sc' => found = some i ∧ sc' = sc := by
  refine Plays.bind Plays.registry ?_
  rintro r sc ⟨hr, rfl⟩
  have hmark : r.marks.isActive id = true := hr.isActive.trans (decide_eq_true hactive)
  simp only [hr.finished, h, hmark, hr.early, hearly]
  exact Plays.pure ⟨rfl, rfl⟩

/-- Handing an instance out takes no more than one level of depth. -/
theorem handover_plays (depth : Nat) :
    Plays c comps ((Engine.ofDepth (depth + 1)).expose (.handover id i)) sc
      fun given sc' => given = i ∧ sc' = sc := by
  refine Plays.bind (Plays.record_quiet rfl fun _ => rfl) ?_
  rintro _ _ rfl
  exact Plays.pure ⟨rfl, rfl⟩

theorem exposeEarly_plays (depth : Nat) :
    Plays c comps (Creation.exposeEarly (.ofDepth (depth + 1)) id (.handover id i)) sc
      fun given sc' => given = i ∧ sc' = (sc.withdraw id).expose id i := by
  have htake : ∀ r, Stages c r sc → Stages c (r.takeFactory id) (sc.withdraw id) :=
    fun r hr => { hr with factories := congrArg (Store.erase · id) hr.factories }
  have hexpose : ∀ r, Stages c r (sc.withdraw id) →
      Stages c (r.expose id i) ((sc.withdraw id).expose id i) :=
    fun r hr => { hr with early := congrArg (Store.insert · id i) hr.early }
  refine Plays.bind (Plays.edit htake rfl rfl) ?_
  rintro _ _ rfl
  refine Plays.bind (handover_plays depth).mapError ?_
  rintro given _ ⟨rfl, rfl⟩
  refine Plays.bind (Plays.report _) ?_
  rintro _ _ rfl
  refine Plays.bind (Plays.edit hexpose rfl rfl) ?_
  rintro _ _ rfl
  exact Plays.pure ⟨rfl, rfl⟩

/-- The first lookup of an offer turns it into an early reference. -/
theorem lookup_offered (depth : Nat) (hallowed : c.earlyReferences = true)
    (h : sc.finished.get? id = none) (hactive : id ∈ sc.active)
    (hearly : sc.early.get? id = none) (hoffer : sc.factories.get? id = some (.handover id i)) :
    Plays c comps (Creation.lookup (.ofDepth (depth + 1)) id) sc
      fun found sc' => found = some i ∧ sc' = (sc.withdraw id).expose id i := by
  refine Plays.bind Plays.registry ?_
  rintro r sc ⟨hr, rfl⟩
  have hmark : r.marks.isActive id = true := hr.isActive.trans (decide_eq_true hactive)
  simp only [hr.finished, h, hmark, hr.early, hearly, hr.config, hallowed, hr.factories, hoffer]
  refine Plays.bind (exposeEarly_plays depth) ?_
  rintro given _ ⟨rfl, rfl⟩
  exact Plays.pure ⟨rfl, rfl⟩

end Lookups

/-! ## Offering and giving -/

section Offers

variable {c : Config} {comps : Store Component} {sc : Scene} {id : Ident} {i : Instance}

theorem registerFactory_plays (hid : c.validateIdentifier id = .ok ())
    (h : sc.finished.get? id = none) :
    Plays c comps (Inner.registerFactory id (.handover id i)) sc
      fun _ sc' => sc' = sc.offer id i := by
  have hoffer : ∀ r, Stages c r sc →
      Stages c (r.offerFactory id (.handover id i)) (sc.offer id i) := by
    intro r hr
    rw [Registry.offerFactory, hr.contains_finished h, if_neg Bool.false_ne_true]
    exact { hr with
      factories := congrArg (Store.insert · id (.handover id i)) hr.factories
      early := congrArg (Store.erase · id) hr.early
      listed := congrArg (Roster.add · id) hr.listed }
  refine Plays.noted (Plays.bind (accept_plays hid) ?_)
  rintro _ sc ⟨rfl, rfl⟩
  exact Plays.edit hoffer rfl rfl

/-- What a component is given is noted. -/
theorem wired_plays {ε : Type} (need : Ident) :
    Plays c comps (Run.record (.wired id need i) : Run ε Unit) sc
      fun _ sc' => sc' = sc.wire id need i := by
  refine Plays.record (fun _ hr => { hr with }) (List.append_nil _).symm fun x => ?_
  show (if x = id then _ else _) = sc.wired x ++ (if id = x then _ else _ : Option _).toList
  by_cases hx : x = id
  · rw [if_pos hx, if_pos hx.symm]
    rfl
  · rw [if_neg hx, if_neg (Ne.symm hx)]
    exact (List.append_nil _).symm

/-- Edges are not seen. -/
theorem addDependency_plays (dependency dependent : Ident) :
    Plays c comps (Inner.addDependency dependency dependent) sc fun _ sc' => sc' = sc := by
  refine Plays.bind (Plays.noted (Plays.transact (P := fun _ => True) (fun r hr => ⟨?_, trivial⟩)
    rfl rfl)) ?_
  · exact { hr with }
  · rintro _ _ ⟨rfl, -⟩
    exact Plays.pure rfl

end Offers

/-! ## Constructing -/

section Construct

variable {c : Config} {comps : Store Component} {sc : Scene} {id : Ident}

theorem openCreation_plays (hactive : id ∉ sc.active) :
    Plays c comps (Run.tryEdit (·.openCreation id) : Run Failure Bool) sc
      fun _ sc' => sc' = sc.mark id := by
  refine Plays.tryEdit (fun r hr => ?_) rfl rfl
  have henter : r.marks.enter id = .ok { r.marks with active := r.marks.active ++ [id] } := by
    have hmark : id ∉ r.marks.active := by rw [hr.active]; exact hactive
    have hfree : r.marks.isActive id = false := decide_eq_false hmark
    rw [Marks.enter, hr.isExcluded, hfree, Roster.add, if_neg hmark]
    rfl
  have hstages : ∀ suppressed, Stages c
      { r with marks := { r.marks with active := r.marks.active ++ [id] }, suppressed }
      (sc.mark id) :=
    fun _ => { hr with active := congrArg (· ++ [id]) hr.active }
  rw [Registry.openCreation, henter]
  cases hbuffer : r.suppressed with
  | none => exact ⟨_, _, rfl, hstages _⟩
  | some texts => exact ⟨_, _, rfl, hbuffer ▸ hstages r.suppressed⟩

theorem closeCreation_plays (outermost : Bool) (hactive : id ∈ sc.active) :
    Plays c comps (Run.transact (·.closeCreation outermost id) : Run Failure Registry.Closing) sc
      fun closing sc' => sc' = sc.unmark id ∧ closing.ended = .ok () := by
  refine Plays.transact (fun r hr => ?_) rfl rfl
  have hleave : r.marks.leave id = .ok { r.marks with active := Roster.drop r.marks.active id } := by
    rw [Marks.leave, hr.isExcluded, hr.isActive, decide_eq_true hactive]
    rfl
  have hclose : ∃ texts suppressed, r.closeCreation outermost id =
      (⟨texts, .ok ()⟩,
        { r with marks := { r.marks with active := Roster.drop r.marks.active id }, suppressed }) := by
    cases outermost with
    | true =>
      rw [Registry.closeCreation, Registry.takeSuppressed, if_pos rfl]
      simp only [hleave]
      exact ⟨_, _, rfl⟩
    | false =>
      rw [Registry.closeCreation, Registry.takeSuppressed, if_neg Bool.false_ne_true]
      simp only [hleave]
      exact ⟨_, _, rfl⟩
  obtain ⟨texts, suppressed, hclose⟩ := hclose
  rw [hclose]
  exact ⟨{ hr with active := congrArg (Roster.drop · id) hr.active }, rfl⟩

theorem commit_plays {made : Instance} (h : sc.finished.get? id = none) :
    Plays c comps (Creation.commit id made) sc fun _ sc' => sc' = sc.bind id made := by
  refine Plays.tryEdit (fun r hr => ?_) rfl rfl
  rw [Registry.commit, hr.contains_finished h, if_neg Bool.false_ne_true]
  exact ⟨_, _, rfl, { hr with
    finished := congrArg (Store.insert · id made) hr.finished
    factories := congrArg (Store.erase · id) hr.factories
    early := congrArg (Store.erase · id) hr.early
    listed := congrArg (Roster.add · id) hr.listed }⟩

/-- **A construction** is marked while its callback runs, and what the callback yields is bound. -/
theorem construct_plays {engine : Engine} {make : Routine} {post : Instance → Scene → Prop}
    (hactive : id ∉ sc.active)
    (hmake : Plays c comps (engine.construct make) (sc.mark id) fun made sc' =>
      id ∈ sc'.active ∧ sc'.finished.get? id = none ∧ post made ((sc'.unmark id).bind id made)) :
    Plays c comps (Creation.construct engine id make) sc post := by
  refine Plays.bind (Plays.report _) ?_
  rintro _ sc rfl
  refine Plays.bind (openCreation_plays hactive) ?_
  rintro outermost _ rfl
  refine Plays.bind hmake.attempt ?_
  rintro _ sc' ⟨made, rfl, hmark, hfree, hpost⟩
  refine Plays.bind (closeCreation_plays outermost hmark) ?_
  rintro closing _ ⟨rfl, hended⟩
  refine Plays.bind (Plays.ofExcept hended) ?_
  rintro _ _ ⟨rfl, rfl⟩
  refine Plays.bind (commit_plays hfree) ?_
  rintro _ _ rfl
  exact Plays.pure hpost

/-- What is not finished is constructed. -/
theorem getOrCreate_plays {engine : Engine} {make : Routine} {post : Instance → Scene → Prop}
    (hfree : sc.finished.get? id = none)
    (h : Plays c comps (Creation.construct engine id make) sc post) :
    Plays c comps (Creation.getOrCreate engine id make) sc post := by
  refine Plays.bind Plays.registry ?_
  rintro r sc ⟨hr, rfl⟩
  simp only [hr.finished, hfree, hr.lifecycle]
  exact h

end Construct

end InstanceRegistry.Wiring
