import InstanceRegistry.Proofs.Wiring.Assembly

/-!
  Strict assembly: without early references, cycles are found out and leave nothing behind.

  The walk along needs is the one of assembly, but an identifier that is being created is no longer
  handed out: whoever needs it asks for it to be created once more, and that is refused.  The
  refusal travels up, through a failed construction for every component that was being created, to
  whoever asked for the root.

  Two facts carry the proof.  Whoever is in creation needs, along some path, whatever is asked for
  next; so a request for something IN CREATION closes a cycle, and the refusal names an identifier
  on it.  And whatever is finished was finished after all it needs, so nothing finished is on a
  cycle or leads to one.

  Work may now end in two ways, well or with an error, and each has its own condition (`Turns`).  A
  scene in which what is listed is what is in creation or finished is STEADY, and a creation keeps
  scenes steady whichever way it ends (`create_turns`).
-/

namespace InstanceRegistry.Wiring

open Relation

/-! ## Two ways to end -/

/-- Work that ends well or with an error wherever a scene is shown, and shows another one
    afterwards. -/
def Turns {ε α : Type} (c : Config) (comps : Store Component) (work : Run ε α) (sc : Scene)
    (post : α → Scene → Prop) (fault : ε → Scene → Prop) : Prop :=
  ∀ s, Shows c comps s sc →
    (∃ value s' sc', work s = some (.ok value, s') ∧ Shows c comps s' sc' ∧ post value sc') ∨
    (∃ failure s' sc', work s = some (.error failure, s') ∧ Shows c comps s' sc' ∧
      fault failure sc')

section Rules

variable {ε ε' α β : Type} {c : Config} {comps : Store Component} {sc : Scene}

/-- What ends well cannot end with an error. -/
theorem Plays.turns {work : Run ε α} {post : α → Scene → Prop} (h : Plays c comps work sc post)
    (fault : ε → Scene → Prop) : Turns c comps work sc post fault :=
  fun s hs => .inl (h s hs)

/-- What follows on work that ends well. -/
theorem Plays.bindTurns {work : Run ε α} {next : α → Run ε β} {mid : α → Scene → Prop}
    {post : β → Scene → Prop} {fault : ε → Scene → Prop} (h : Plays c comps work sc mid)
    (hnext : ∀ value sc', mid value sc' → Turns c comps (next value) sc' post fault) :
    Turns c comps (work >>= next) sc post fault := by
  intro s hs
  obtain ⟨value, s', sc', hrun, hs', hmid⟩ := h s hs
  rw [Run.bind_ok hrun]
  exact hnext value sc' hmid s' hs'

namespace Turns

theorem mono {work : Run ε α} {post post' : α → Scene → Prop} {fault fault' : ε → Scene → Prop}
    (h : Turns c comps work sc post fault)
    (hpost : ∀ value sc', post value sc' → post' value sc')
    (hfault : ∀ failure sc', fault failure sc' → fault' failure sc') :
    Turns c comps work sc post' fault' := by
  intro s hs
  rcases h s hs with ⟨value, s', sc', hrun, hs', hp⟩ | ⟨failure, s', sc', hrun, hs', hf⟩
  · exact .inl ⟨value, s', sc', hrun, hs', hpost value sc' hp⟩
  · exact .inr ⟨failure, s', sc', hrun, hs', hfault failure sc' hf⟩

theorem fail {failure : ε} {post : α → Scene → Prop} {fault : ε → Scene → Prop}
    (h : fault failure sc) : Turns c comps (Run.fail failure : Run ε α) sc post fault :=
  fun s hs => .inr ⟨failure, s, sc, rfl, hs, h⟩

/-- An error ends the whole. -/
theorem bind {work : Run ε α} {next : α → Run ε β} {mid : α → Scene → Prop}
    {post : β → Scene → Prop} {fault : ε → Scene → Prop} (h : Turns c comps work sc mid fault)
    (hnext : ∀ value sc', mid value sc' → Turns c comps (next value) sc' post fault) :
    Turns c comps (work >>= next) sc post fault := by
  intro s hs
  rcases h s hs with ⟨value, s', sc', hrun, hs', hmid⟩ | ⟨failure, s', sc', hrun, hs', hfault⟩
  · rw [Run.bind_ok hrun]
    exact hnext value sc' hmid s' hs'
  · exact .inr ⟨failure, s', sc', Run.bind_error hrun, hs', hfault⟩

theorem attempt {work : Run ε α} {post : α → Scene → Prop} {fault : ε → Scene → Prop}
    (h : Turns c comps work sc post fault) :
    Plays c comps (work.attempt : Run ε' (Outcome ε α)) sc fun outcome sc' =>
      (∃ value, outcome = .ok value ∧ post value sc') ∨
        (∃ failure, outcome = .error failure ∧ fault failure sc') := by
  intro s hs
  rcases h s hs with ⟨value, s', sc', hrun, hs', hpost⟩ | ⟨failure, s', sc', hrun, hs', hfault⟩
  · exact ⟨_, s', sc', Run.attempt_of hrun, hs', .inl ⟨value, rfl, hpost⟩⟩
  · exact ⟨_, s', sc', Run.attempt_of hrun, hs', .inr ⟨failure, rfl, hfault⟩⟩

theorem mapError {f : ε → ε'} {work : Run ε α} {post : α → Scene → Prop}
    {fault : ε' → Scene → Prop}
    (h : Turns c comps work sc post fun failure sc' => fault (f failure) sc') :
    Turns c comps (work.mapError f) sc post fault := by
  intro s hs
  rcases h s hs with ⟨value, s', sc', hrun, hs', hpost⟩ | ⟨failure, s', sc', hrun, hs', hfault⟩
  · exact .inl ⟨value, s', sc', Run.mapError_of hrun, hs', hpost⟩
  · exact .inr ⟨f failure, s', sc', Run.mapError_of hrun, hs', hfault⟩

/-- A change that is refused changes nothing. -/
theorem tryEdit_refused {f : Registry → Except ε (α × Registry)} {failure : ε}
    {post : α → Scene → Prop} {fault : ε → Scene → Prop}
    (h : ∀ r, Stages c r sc → f r = .error failure) (hfault : fault failure sc) :
    Turns c comps (Run.tryEdit f) sc post fault := by
  intro s hs
  refine .inr ⟨failure, s, sc, ?_, hs, hfault⟩
  rw [Run.tryEdit, h _ hs.stages]

/-- The entries around an operation are not seen. -/
theorem noted {op : Op} {asStep : Bool} {answer : α → Answer Instance} {work : Run Failure α}
    {post : α → Scene → Prop} {fault : Failure → Scene → Prop}
    (h : Turns c comps work sc post fault) :
    Turns c comps (Run.noted op asStep answer work) sc post fault := by
  refine Plays.bindTurns (Plays.record_quiet rfl fun _ => rfl) ?_
  rintro _ _ rfl
  refine Plays.bindTurns h.attempt ?_
  rintro _ sc' (⟨value, rfl, hpost⟩ | ⟨failure, rfl, hfault⟩)
  · refine Plays.bindTurns (Plays.record_quiet rfl fun _ => rfl) ?_
    rintro _ _ rfl
    exact (Plays.pure hpost).turns _
  · refine Plays.bindTurns (Plays.record_quiet rfl fun _ => rfl) ?_
    rintro _ _ rfl
    exact .fail hfault

end Turns

end Rules

/-! ## Operations that may fail -/

/-- The scene in which a component that could not be assembled was given up. -/
def Scene.abandoned (sc : Scene) (id : Ident) : Scene :=
  { sc.unmark id with
    early := sc.early.erase id
    factories := sc.factories.erase id
    listed := Roster.drop sc.listed id }

section Operations

variable {c : Config} {comps : Store Component} {sc : Scene} {id : Ident}

/-- Without early references nothing is found under what is not finished. -/
theorem lookup_strict (engine : Engine) (hstrict : c.earlyReferences = false)
    (hfree : sc.finished.get? id = none) (hearly : sc.early.get? id = none) :
    Plays c comps (Creation.lookup engine id) sc fun found sc' => found = none ∧ sc' = sc := by
  by_cases hactive : id ∈ sc.active
  · refine Plays.bind Plays.registry ?_
    rintro r sc ⟨hr, rfl⟩
    have hmark : r.marks.isActive id = true := hr.isActive.trans (decide_eq_true hactive)
    simp only [hr.finished, hfree, hmark, hr.early, hearly, hr.config, hstrict]
    exact Plays.pure ⟨rfl, rfl⟩
  · exact lookup_absent engine hfree hactive

/-- **Who is in creation is not created once more.** -/
theorem construct_refused (engine : Engine) (make : Routine) (hactive : id ∈ sc.active)
    {post : Instance → Scene → Prop} {fault : Failure → Scene → Prop}
    (hfault : fault (.inCreation id) sc) :
    Turns c comps (Creation.construct engine id make) sc post fault := by
  refine Plays.bindTurns (Plays.report _) ?_
  rintro _ sc rfl
  have hrefused : Turns c comps (Run.tryEdit (·.openCreation id) : Run Failure Bool) sc
      (fun _ _ => False) fault := by
    refine Turns.tryEdit_refused (fun r hr => ?_) hfault
    have hmark : r.marks.isActive id = true := hr.isActive.trans (decide_eq_true hactive)
    rw [Registry.openCreation, Marks.enter, hr.isExcluded, hmark]
    rfl
  exact Turns.bind hrefused fun _ _ h => h.elim

/-- Giving up takes back whatever was exposed, and reports what stood in the way. -/
theorem giveUp_turns {cause : Cause} {closing : Registry.Closing}
    (hended : closing.ended = .ok ()) (hfree : sc.finished.get? id = none)
    {post : Instance → Scene → Prop} {fault : Failure → Scene → Prop}
    (hfault : ∀ texts, fault (.construction id cause texts) (sc.abandoned id)) :
    Turns c comps (Creation.giveUp id cause closing) (sc.unmark id) post fault := by
  have hretract : ∀ r, Stages c r (sc.unmark id) → Stages c (r.retract id)
      { sc.unmark id with early := sc.early.erase id, factories := sc.factories.erase id } :=
    fun r hr => { hr with
      early := congrArg (Store.erase · id) hr.early
      factories := congrArg (Store.erase · id) hr.factories }
  have hunlist : ∀ r, Stages c r
      { sc.unmark id with early := sc.early.erase id, factories := sc.factories.erase id } →
      Stages c (r.unlist id) (sc.abandoned id) :=
    fun r hr => { hr with listed := congrArg (Roster.drop · id) hr.listed }
  refine Plays.bindTurns (Plays.edit hretract rfl rfl) ?_
  rintro _ _ rfl
  refine Plays.bindTurns Plays.registry ?_
  rintro r _ ⟨hr, rfl⟩
  have hnone : r.finished.get? id = none := by
    rw [hr.finished]
    exact hfree
  simp only [hnone, hended]
  refine Plays.bindTurns (Plays.edit hunlist rfl rfl) ?_
  rintro _ _ rfl
  refine Plays.bindTurns (Plays.stay ()) ?_
  rintro _ _ rfl
  exact .fail (hfault _)

/-- **A construction** is marked while its callback runs; what the callback yields is bound, and if
    it fails, nothing of the construction stays. -/
theorem construct_turns {engine : Engine} {make : Routine} {post : Instance → Scene → Prop}
    {fault : Failure → Scene → Prop} (hactive : id ∉ sc.active)
    (hmake : Turns c comps (engine.construct make) (sc.mark id)
      (fun made sc' => (id ∈ sc'.active ∧ sc'.finished.get? id = none) ∧
        post made (sc'.closed id made))
      (fun cause sc' => (id ∈ sc'.active ∧ sc'.finished.get? id = none) ∧
        ∀ texts, fault (.construction id cause texts) (sc'.abandoned id))) :
    Turns c comps (Creation.construct engine id make) sc post fault := by
  refine Plays.bindTurns (Plays.report _) ?_
  rintro _ sc rfl
  refine Plays.bindTurns (openCreation_plays hactive) ?_
  rintro outermost _ rfl
  refine Plays.bindTurns hmake.attempt ?_
  rintro _ sc' (⟨made, rfl, ⟨hmark, hfree⟩, hpost⟩ | ⟨cause, rfl, ⟨hmark, hfree⟩, hfault⟩)
  · refine Plays.bindTurns (closeCreation_plays outermost hmark) ?_
    rintro closing _ ⟨rfl, hended⟩
    refine Plays.bindTurns (Plays.ofExcept hended) ?_
    rintro _ _ ⟨rfl, rfl⟩
    refine Plays.bindTurns (commit_plays hfree) ?_
    rintro _ _ rfl
    exact (Plays.pure hpost).turns _
  · refine Plays.bindTurns (closeCreation_plays outermost hmark) ?_
    rintro closing _ ⟨rfl, hended⟩
    exact giveUp_turns hended hfree hfault

/-- What is not finished is constructed. -/
theorem getOrCreate_turns {engine : Engine} {make : Routine} {post : Instance → Scene → Prop}
    {fault : Failure → Scene → Prop} (hfree : sc.finished.get? id = none)
    (h : Turns c comps (Creation.construct engine id make) sc post fault) :
    Turns c comps (Creation.getOrCreate engine id make) sc post fault := by
  refine Plays.bindTurns Plays.registry ?_
  rintro r sc ⟨hr, rfl⟩
  simp only [hr.finished, hfree, hr.lifecycle]
  exact h

end Operations

/-! ## Steady scenes -/

/-- One identifier needs another. -/
abbrev Needs (needs : Ident → List Ident) (x y : Ident) : Prop := y ∈ needs x

/-- A scene in which what is listed is in creation or finished, nothing is kept for later but the
    offers of those in creation, and whatever is finished was finished after all it needs. -/
structure Steady (needs : Ident → List Ident) (sc : Scene) : Prop where
  listed : ∀ x, x ∈ sc.listed ↔ x ∈ sc.active ∨ x ∈ sc.finished.keys
  busy : ∀ x ∈ sc.active, x ∉ sc.finished.keys
  early : ∀ x, x ∉ sc.early.keys
  offers : ∀ x ∈ sc.factories.keys, x ∈ sc.active
  closed : ∀ x ∈ sc.finished.keys, ∀ y ∈ needs x, y ∈ sc.finished.keys
  /-- What is finished needs itself along no path. -/
  sound : ∀ x ∈ sc.finished.keys, ¬ TransGen (Needs needs) x x

/-- A scene that has become steady again: the marks are balanced, and what was finished is. -/
structure Settles (needs : Ident → List Ident) (sc sc' : Scene) : Prop where
  steady : Steady needs sc'
  active : sc'.active = sc.active
  kept : ∀ x ∈ sc.finished.keys, x ∈ sc'.finished.keys

theorem Settles.trans {needs : Ident → List Ident} {sc mid sc' : Scene}
    (h : Settles needs sc mid) (h' : Settles needs mid sc') : Settles needs sc sc' :=
  ⟨h'.steady, h'.active.trans h.active, fun x hx => h'.kept x (h.kept x hx)⟩

/-- A failure that goes back to a cycle: some of the work leads to an identifier on a cycle, and the
    creation of that one was refused. -/
def Blocks (needs : Ident → List Ident) (work : List Ident) (failure : Failure) : Prop :=
  ∃ x ∈ work, ∃ y, ReflTransGen (Needs needs) x y ∧ TransGen (Needs needs) y y ∧
    failure.innermost = .inCreation y

section Steps

variable {needs : Ident → List Ident} {sc sc' : Scene} {id : Ident} {me : Instance}

/-- What is finished has all that can be reached from it finished. -/
theorem Steady.reached {x y : Ident} (h : Steady needs sc) (hx : x ∈ sc.finished.keys)
    (hpath : ReflTransGen (Needs needs) x y) : y ∈ sc.finished.keys := by
  induction hpath with
  | refl => exact hx
  | tail _ hstep ih => exact h.closed _ ih _ hstep

/-- More of the same work fails for the same reason. -/
theorem Blocks.mono {work work' : List Ident} {failure : Failure} (h : Blocks needs work failure)
    (hsub : ∀ x ∈ work, x ∈ work') : Blocks needs work' failure := by
  obtain ⟨x, hx, hrest⟩ := h
  exact ⟨x, hsub x hx, hrest⟩

/-- A component that fails for one of its needs fails for the same reason. -/
theorem Blocks.construction {failure : Failure} (h : Blocks needs (needs id) failure)
    (texts : List String) : Blocks needs [id] (.construction id (.nested failure) texts) := by
  obtain ⟨x, hx, y, hpath, hcycle, hinner⟩ := h
  refine ⟨id, List.mem_cons_self, y, .head hx hpath, hcycle, ?_⟩
  rw [← hinner]
  rfl

/-- **Opening** keeps a scene steady. -/
theorem Steady.opened (h : Steady needs sc) (hfree : id ∉ sc.finished.keys) (me : Instance) :
    Steady needs (sc.opened id me) where
  listed x := by
    show x ∈ Roster.add sc.listed id ↔ x ∈ sc.active ++ [id] ∨ x ∈ sc.finished.keys
    rw [Roster.mem_add, h.listed, List.mem_append, List.mem_singleton]
    exact or_right_comm
  busy x hx := by
    rcases List.mem_append.1 hx with hx | hx
    · exact h.busy x hx
    · rw [List.mem_singleton.1 hx]
      exact hfree
  early x hx := h.early x (Store.mem_keys_erase.1 hx).1
  offers x hx := by
    rcases Store.mem_keys_insert.1 hx with hx | rfl
    · exact List.mem_append_left _ (h.offers x hx)
    · exact List.mem_append_right _ List.mem_cons_self
  closed := h.closed
  sound := h.sound

/-- **Closing** keeps a scene steady, if all that the component needs is finished. -/
theorem Steady.closing (h : Steady needs sc) (hid : id ∈ sc.active)
    (hall : ∀ y ∈ needs id, y ∈ sc.finished.keys) : Steady needs (sc.closed id me) where
  listed x := by
    show x ∈ Roster.add sc.listed id ↔
      x ∈ Roster.drop sc.active id ∨ x ∈ (sc.finished.insert id me).keys
    rw [Roster.mem_add, h.listed, Roster.mem_drop, Store.mem_keys_insert]
    by_cases hx : x = id <;> simp [hx]
  busy x hx := by
    obtain ⟨hx, hne⟩ := Roster.mem_drop.1 hx
    exact fun hm => (Store.mem_keys_insert.1 hm).elim (h.busy x hx) hne
  early x hx := h.early x (Store.mem_keys_erase.1 hx).1
  offers x hx := by
    obtain ⟨hx, hne⟩ := Store.mem_keys_erase.1 hx
    exact Roster.mem_drop.2 ⟨h.offers x hx, hne⟩
  closed x hx y hy := by
    refine Store.mem_keys_insert.2 (.inl ?_)
    rcases Store.mem_keys_insert.1 hx with hx | rfl
    · exact h.closed x hx y hy
    · exact hall y hy
  sound x hx := by
    rcases Store.mem_keys_insert.1 hx with hx | rfl
    · exact h.sound x hx
    · -- all the way round the component was finished before it was closed
      intro hcycle
      obtain ⟨y, hy, hpath⟩ := TransGen.head'_iff.1 hcycle
      exact h.busy x hid (h.reached (hall y hy) hpath)

/-- **Giving up** keeps a scene steady. -/
theorem Steady.abandoned (h : Steady needs sc) (hid : id ∈ sc.active) :
    Steady needs (sc.abandoned id) where
  listed x := by
    show x ∈ Roster.drop sc.listed id ↔ x ∈ Roster.drop sc.active id ∨ x ∈ sc.finished.keys
    rw [Roster.mem_drop, h.listed, Roster.mem_drop, or_and_right]
    refine or_congr_right (and_iff_left_of_imp fun hx => ?_)
    rintro rfl
    exact h.busy _ hid hx
  busy x hx := h.busy x (Roster.mem_drop.1 hx).1
  early x hx := h.early x (Store.mem_keys_erase.1 hx).1
  offers x hx := by
    obtain ⟨hx, hne⟩ := Store.mem_keys_erase.1 hx
    exact Roster.mem_drop.2 ⟨h.offers x hx, hne⟩
  closed := h.closed
  sound := h.sound

/-- Whoever was opened is marked until it is closed or given up. -/
theorem Settles.marked (h : Settles needs (sc.mark id) sc') : id ∈ sc'.active := by
  rw [h.active]
  exact List.mem_append_right _ List.mem_cons_self

/-- A round that went well. -/
theorem Settles.closing (h : Settles needs (sc.mark id) sc') (hid : id ∉ sc.active)
    (hall : ∀ y ∈ needs id, y ∈ sc'.finished.keys) : Settles needs sc (sc'.closed id me) where
  steady := h.steady.closing h.marked hall
  active := active_closed hid h.active
  kept x hx := Store.mem_keys_insert.2 (.inl (h.kept x hx))

/-- A round that failed. -/
theorem Settles.abandoned (h : Settles needs (sc.mark id) sc') (hid : id ∉ sc.active) :
    Settles needs sc (sc'.abandoned id) where
  steady := h.steady.abandoned h.marked
  active := (active_closed hid h.active : (sc'.closed id ⟨0, none⟩).active = sc.active)
  kept x hx := h.kept x hx

end Steps

/-! ## The recursion -/

section Recursion

variable {c : Config} {comps : Store Component} {sc : Scene} {id need : Ident} {depth : Nat}

/-- What is finished is found. -/
theorem get_finished (engine : Engine) (hneed : need ∈ sc.finished.keys) :
    Plays c comps (Inner.get engine need) sc fun found sc' =>
      ∃ there, found = some there ∧ sc' = sc := by
  obtain ⟨there, hthere⟩ := Store.exists_get?_of_mem_keys hneed
  refine Plays.noted (Plays.bind (canonical_plays need) ?_)
  rintro _ sc ⟨rfl, rfl⟩
  refine (lookup_finished engine hthere).mono ?_
  rintro _ _ ⟨rfl, rfl⟩
  exact ⟨there, rfl, rfl⟩

/-- Nothing else is. -/
theorem get_unfinished (engine : Engine) (hstrict : c.earlyReferences = false)
    (h : Steady (needsIn comps) sc) (hneed : need ∉ sc.finished.keys) :
    Plays c comps (Inner.get engine need) sc fun found sc' => found = none ∧ sc' = sc := by
  refine Plays.noted (Plays.bind (canonical_plays need) ?_)
  rintro _ sc ⟨rfl, rfl⟩
  exact lookup_strict engine hstrict (Store.get?_eq_none_iff.2 hneed)
    (Store.get?_eq_none_iff.2 (h.early _))

/-- Creating with this depth settles, as long as there is no more room than that and whoever is in
    creation needs, along some path, what is created. -/
def Tries (c : Config) (comps : Store Component) (depth : Nat) : Prop :=
  ∀ sc id, Steady (needsIn comps) sc → id ∉ sc.finished.keys → comps.contains id = true →
    (∀ a ∈ sc.active, TransGen (Needs (needsIn comps)) a id) → room comps sc < depth →
    Turns c comps (Creation.getOrCreate (.ofDepth depth) id (.assembly id)) sc
      (fun made sc' => Settles (needsIn comps) sc sc' ∧ sc'.finished.get? id = some made)
      (fun failure sc' => Settles (needsIn comps) sc sc' ∧ Blocks (needsIn comps) [id] failure)

/-- The same for the operation that accepts the identifier first. -/
theorem Tries.inner (htry : Tries c comps depth) (hplan : Blueprint c comps)
    (h : Steady (needsIn comps) sc) (hid : id ∉ sc.finished.keys)
    (hcomponent : comps.contains id = true)
    (hactive : ∀ a ∈ sc.active, TransGen (Needs (needsIn comps)) a id)
    (hroom : room comps sc < depth) :
    Turns c comps (Inner.getOrCreate (.ofDepth depth) id (.assembly id)) sc
      (fun made sc' => Settles (needsIn comps) sc sc' ∧ sc'.finished.get? id = some made)
      (fun failure sc' => Settles (needsIn comps) sc sc' ∧ Blocks (needsIn comps) [id] failure) := by
  refine Turns.noted (Plays.bindTurns (accept_plays (hplan.usable id hcomponent)) ?_)
  rintro _ sc ⟨rfl, rfl⟩
  exact htry sc _ h hid hcomponent hactive hroom

/-- Giving comes last and changes nothing that matters here. -/
theorem give_settles {sc' : Scene} {given : Instance} (h : Settles (needsIn comps) sc sc')
    (hneed : need ∈ sc'.finished.keys) :
    Plays c comps (do Run.record (.wired id need given); Inner.addDependency need id) sc'
      fun _ sc'' => Settles (needsIn comps) sc sc'' ∧ need ∈ sc''.finished.keys := by
  refine Plays.bind (wired_plays need) ?_
  rintro _ _ rfl
  refine (addDependency_plays need id).mono ?_
  rintro _ _ rfl
  exact ⟨⟨{ h.steady with }, h.active, h.kept⟩, hneed⟩

/-- A component is given one of its needs, unless that leads to a cycle. -/
theorem supply_turns (id : Ident) (hplan : Blueprint c comps)
    (hstrict : c.earlyReferences = false) (htry : Tries c comps depth) (h : Steady (needsIn comps) sc)
    (hneed : comps.contains need = true)
    (hactive : ∀ a ∈ sc.active, TransGen (Needs (needsIn comps)) a need)
    (hroom : room comps sc < depth) :
    Turns c comps (Assembly.supply (.ofDepth depth) id need) sc
      (fun _ sc' => Settles (needsIn comps) sc sc' ∧ need ∈ sc'.finished.keys)
      (fun failure sc' => Settles (needsIn comps) sc sc' ∧
        Blocks (needsIn comps) [need] failure) := by
  by_cases hfinished : need ∈ sc.finished.keys
  · refine Plays.bindTurns (get_finished _ hfinished) ?_
    rintro _ sc ⟨there, rfl, rfl⟩
    exact (give_settles ⟨h, rfl, fun _ hx => hx⟩ hfinished).turns _
  · refine Plays.bindTurns (get_unfinished _ hstrict h hfinished) ?_
    rintro _ sc ⟨rfl, rfl⟩
    refine Turns.bind (htry.inner hplan h hfinished hneed hactive hroom) ?_
    rintro made sc' ⟨hsettles, hmade⟩
    exact (give_settles hsettles (Store.mem_keys_of_get? hmade)).turns _

/-- What is listed before something settles is listed afterwards. -/
theorem Settles.listed {needs : Ident → List Ident} {sc' : Scene} (h : Steady needs sc)
    (hsettles : Settles needs sc sc') : ∀ x ∈ sc.listed, x ∈ sc'.listed := by
  intro x hx
  rw [hsettles.steady.listed, hsettles.active]
  exact ((h.listed x).1 hx).imp_right (hsettles.kept x)

theorem supplyNeeds_turns (id : Ident) (hplan : Blueprint c comps)
    (hstrict : c.earlyReferences = false) (htry : Tries c comps depth) (rest : List Ident) (h : Steady (needsIn comps) sc)
    (hrest : ∀ need ∈ rest, comps.contains need = true)
    (hactive : ∀ a ∈ sc.active, ∀ need ∈ rest, TransGen (Needs (needsIn comps)) a need)
    (hroom : room comps sc < depth) :
    Turns c comps (Assembly.supplyNeeds (.ofDepth depth) id rest) sc
      (fun _ sc' => Settles (needsIn comps) sc sc' ∧ ∀ need ∈ rest, need ∈ sc'.finished.keys)
      (fun failure sc' => Settles (needsIn comps) sc sc' ∧
        Blocks (needsIn comps) rest failure) := by
  induction rest generalizing sc with
  | nil =>
    exact (Plays.pure ⟨⟨h, rfl, fun _ hx => hx⟩, fun _ hx => absurd hx List.not_mem_nil⟩).turns _
  | cons need rest ih =>
    have hfirst := supply_turns id hplan hstrict htry h (hrest need List.mem_cons_self)
      (fun a ha => hactive a ha need List.mem_cons_self) hroom
    refine Turns.bind (hfirst.mono (fun _ _ hp => hp) ?_) ?_
    · rintro failure sc' ⟨hsettles, hblocks⟩
      exact ⟨hsettles, hblocks.mono fun x hx => List.mem_singleton.1 hx ▸ List.mem_cons_self⟩
    · rintro _ mid ⟨hsettles, hneed⟩
      -- the list has only become longer, so the rest has room enough
      have hrest' := ih hsettles.steady (fun x hx => hrest x (List.mem_cons_of_mem _ hx))
        (fun a ha x hx => hactive a (hsettles.active ▸ ha) x (List.mem_cons_of_mem _ hx))
        (Nat.lt_of_le_of_lt (room_le (hsettles.listed h)) hroom)
      refine hrest'.mono ?_ ?_
      · rintro _ sc' ⟨hlast, hall⟩
        refine ⟨hsettles.trans hlast, fun x hx => ?_⟩
        rcases List.mem_cons.1 hx with rfl | hx
        · exact hlast.kept x hneed
        · exact hall x hx
      · rintro failure sc' ⟨hlast, hblocks⟩
        exact ⟨hsettles.trans hlast, hblocks.mono fun x hx => List.mem_cons_of_mem _ hx⟩

/-- Opening a component takes room. -/
theorem room_opened (me : Instance) (hcomponent : comps.contains id = true) (hid : id ∉ sc.listed) :
    room comps (sc.opened id me) < room comps sc := by
  have hopened : (sc.opened id me).listed = sc.listed ++ [id] := listed_opened hid
  refine room_lt (fun x hx => ?_) hcomponent hid ?_
  · rw [hopened]
    exact List.mem_append_left _ hx
  · rw [hopened]
    exact List.mem_append_right _ List.mem_cons_self

/-- Furnishing a component that has just been started. -/
theorem furnish_turns (me : Instance) {needs : List Ident} (hplan : Blueprint c comps)
    (hstrict : c.earlyReferences = false) (htry : Tries c comps depth)
    (h : Steady (needsIn comps) sc) (hid : id ∉ sc.listed) (hcomponent : comps.contains id = true)
    (hneeds : ∀ need ∈ needs, comps.contains need = true)
    (hactive : ∀ a ∈ sc.active ++ [id], ∀ need ∈ needs,
      TransGen (Needs (needsIn comps)) a need)
    (hroom : room comps sc < depth + 1) :
    Turns c comps (Assembly.furnish (.ofDepth depth) { needs := needs } id me)
      ((sc.mark id).start id)
      (fun _ sc' => Settles (needsIn comps) (sc.mark id) sc' ∧
        ∀ need ∈ needs, need ∈ sc'.finished.keys)
      (fun failure sc' => Settles (needsIn comps) (sc.mark id) sc' ∧
        Blocks (needsIn comps) needs failure) := by
  have hfree : id ∉ sc.finished.keys := fun hx => hid ((h.listed id).2 (.inr hx))
  refine Plays.bindTurns (registerFactory_plays (hplan.usable id hcomponent)
    (Store.get?_eq_none_iff.2 hfree)) ?_
  rintro _ _ rfl
  refine Plays.bindTurns (Plays.stay ()) ?_
  rintro _ _ rfl
  -- the component that is listed now takes the room that the deeper level must do without
  have hless : room comps (sc.opened id me) < depth := by
    have hlt := room_opened me hcomponent hid
    omega
  have hsupply :=
    supplyNeeds_turns id hplan hstrict htry needs (h.opened hfree me) hneeds hactive hless
  refine Turns.bind (hsupply.mono (fun _ _ hp => hp) ?_) ?_
  · rintro failure sc' ⟨hsettles, hblocks⟩
    exact ⟨⟨hsettles.steady, hsettles.active, hsettles.kept⟩, hblocks⟩
  · rintro _ sc' ⟨hsettles, hall⟩
    exact (Plays.pure ⟨⟨hsettles.steady, hsettles.active, hsettles.kept⟩, hall⟩).turns _

/-- Assembling a component that has just been started. -/
theorem assemble_turns (hplan : Blueprint c comps) (hstrict : c.earlyReferences = false)
    (htry : Tries c comps depth) (h : Steady (needsIn comps) sc) (hid : id ∉ sc.listed)
    (hcomponent : comps.contains id = true)
    (hactive : ∀ a ∈ sc.active, TransGen (Needs (needsIn comps)) a id)
    (hroom : room comps sc < depth + 1) :
    Turns c comps (Assembly.assemble (.ofDepth depth) id) ((sc.mark id).start id)
      (fun _ sc' => Settles (needsIn comps) (sc.mark id) sc' ∧
        ∀ need ∈ needsIn comps id, need ∈ sc'.finished.keys)
      (fun cause sc' => Settles (needsIn comps) (sc.mark id) sc' ∧
        ∃ failure, cause = .nested failure ∧
          Blocks (needsIn comps) (needsIn comps id) failure) := by
  obtain ⟨component, hget⟩ := Option.isSome_iff_exists.1 hcomponent
  have hneeds : needsIn comps id = component.needs := by rw [needsIn, hget]; rfl
  have hclosed := hplan.closed id
  -- whoever is in creation needs the component, and so what the component needs
  have hbelow : ∀ a ∈ sc.active ++ [id], ∀ need ∈ needsIn comps id,
      TransGen (Needs (needsIn comps)) a need := by
    intro a ha need hneed
    rcases List.mem_append.1 ha with ha | ha
    · exact .tail (hactive a ha) hneed
    · rw [List.mem_singleton.1 ha]
      exact .single hneed
  rw [hneeds] at hclosed hbelow ⊢
  refine Plays.bindTurns (Plays.component id) ?_
  rintro _ _ ⟨rfl, rfl⟩
  rw [hget, hplan.plain id component hget]
  refine Plays.bindTurns (Plays.fresh _) ?_
  rintro me _ rfl
  have hfurnish := furnish_turns me hplan hstrict htry h hid hcomponent hclosed hbelow hroom
  refine Turns.bind (Turns.mapError (hfurnish.mono (fun _ _ hp => hp) ?_)) ?_
  · rintro failure sc' ⟨hsettles, hblocks⟩
    exact ⟨hsettles, failure, rfl, hblocks⟩
  · rintro _ sc' hpost
    exact (Plays.pure hpost).turns _

/-- **Creating settles**, at any depth: it is refused to whoever is in creation, and anyone else is
    opened, given what it needs one level deeper, and closed or given up. -/
theorem create_turns (hplan : Blueprint c comps) (hstrict : c.earlyReferences = false)
    (depth : Nat) : Tries c comps depth := by
  induction depth with
  | zero => exact fun _ _ _ _ _ _ hroom => absurd hroom (Nat.not_lt_zero _)
  | succ depth ih =>
    intro sc id h hid hcomponent hactive hroom
    refine getOrCreate_turns (Store.get?_eq_none_iff.2 hid) ?_
    by_cases hbusy : id ∈ sc.active
    · -- it needs itself, as does everyone in creation
      exact construct_refused _ _ hbusy ⟨⟨h, rfl, fun _ hx => hx⟩,
        id, List.mem_cons_self, id, .refl, hactive id hbusy, rfl⟩
    · have hunlisted : id ∉ sc.listed := fun hx => ((h.listed id).1 hx).elim hbusy hid
      have hstart : Plays c comps
          (Run.record (.entered .construction id none) : Run Cause Unit) (sc.mark id)
          fun _ sc' => sc' = (sc.mark id).start id :=
        Plays.record (fun _ hr => { hr with }) rfl fun _ => (List.append_nil _).symm
      refine construct_turns hbusy (Plays.bindTurns hstart ?_)
      rintro _ _ rfl
      refine (assemble_turns hplan hstrict ih h hunlisted hcomponent hactive hroom).mono ?_ ?_
      · rintro made sc' ⟨hsettles, hall⟩
        have hfree := Store.get?_eq_none_iff.2 (hsettles.steady.busy id hsettles.marked)
        exact ⟨⟨hsettles.marked, hfree⟩, hsettles.closing hbusy hall,
          Store.get?_insert_self _ _ _⟩
      · rintro _ sc' ⟨hsettles, failure, rfl, hblocks⟩
        have hfree := Store.get?_eq_none_iff.2 (hsettles.steady.busy id hsettles.marked)
        exact ⟨⟨hsettles.marked, hfree⟩,
          fun texts => ⟨hsettles.abandoned hbusy, hblocks.construction texts⟩⟩

end Recursion

/-! ## Whole assemblies -/

/-- Nothing was assembled yet. -/
theorem steady_fresh (needs : Ident → List Ident) : Steady needs {} where
  listed _ := (or_self_iff).symm
  busy _ h := absurd h List.not_mem_nil
  early _ := List.not_mem_nil
  offers _ h := absurd h List.not_mem_nil
  closed _ h := absurd h List.not_mem_nil
  sound _ h := absurd h List.not_mem_nil

/-- What is left of an assembly that has settled, whichever way it ended: nobody is in creation,
    nothing is early or on offer, and those are listed that are finished, with all they need. -/
theorem Settles.left {c : Config} {comps : Store Component} {s : Session} {sc : Scene}
    (hshows : Shows c comps s sc) (h : Settles (needsIn comps) {} sc) :
    s.registry.marks.active = [] ∧
      (∀ id, s.registry.early.get? id = none ∧ s.registry.factories.get? id = none) ∧
      (∀ id, id ∈ s.registry.listed ↔ s.registry.stage id = .finished) ∧
      (∀ id need, s.registry.stage id = .finished → ReflTransGen (Needs (needsIn comps)) id need →
        s.registry.stage need = .finished) := by
  obtain ⟨_, _, _, _, hactive, hfinished, hearly, hfactories, hlisted⟩ := hshows.stages
  have hrest : sc.active = [] := h.active
  have hstage : ∀ x, s.registry.stage x = .finished ↔ x ∈ sc.finished.keys := by
    intro x
    rw [stage_eq_finished_iff, hfinished, Store.contains_iff_mem_keys]
  have hfree : ∀ x, x ∉ sc.active := fun x => hrest ▸ List.not_mem_nil
  refine ⟨hactive.trans hrest, fun x => ⟨?_, ?_⟩, fun x => ?_, fun x y hx hpath => ?_⟩
  · rw [hearly]
    exact Store.get?_eq_none_iff.2 (h.steady.early x)
  · rw [hfactories]
    exact Store.get?_eq_none_iff.2 fun hx => hfree x (h.steady.offers x hx)
  · rw [hstage, hlisted, h.steady.listed]
    exact or_iff_right (hfree x)
  · rw [hstage] at hx ⊢
    exact h.steady.reached hx hpath

/-- **Cycles are found out.**  Take any components that need one another in any way, under usable
    identifiers, and a fresh registry that does not allow early references.  Assembling any of them
    comes to an end, and it succeeds exactly if no cycle can be reached along needs.  If it does
    not, it fails with an error at whose bottom some identifier is in creation already, and this one
    is on a cycle that was reached.  Either way nothing is left in creation, as an early reference
    or as an offer, exactly those are listed that are finished, and whoever is finished has all that
    it needs, at any distance, finished. -/
theorem wire_strict {c : Config} {comps : Store Component} {root : Ident} {depth : Nat}
    (hplan : Blueprint c comps) (hstrict : c.earlyReferences = false)
    (hroot : comps.contains root = true) (hdepth : comps.size < depth) :
    ∃ outcome s', (Op.wire root).run (.ofDepth depth)
        { registry := { config := c }, components := comps } = some (outcome, s') ∧
      ((∃ made, outcome = .ok (.found (some made))) ↔
        ∀ x, ReflTransGen (Needs (needsIn comps)) root x →
          ¬ TransGen (Needs (needsIn comps)) x x) ∧
      (∀ made, outcome = .ok (.found (some made)) →
        s'.registry.finished.get? root = some made) ∧
      ((¬ ∃ made, outcome = .ok (.found (some made))) →
        ∃ failure x, outcome = .error failure ∧ failure.innermost = .inCreation x ∧
          ReflTransGen (Needs (needsIn comps)) root x ∧ TransGen (Needs (needsIn comps)) x x) ∧
      s'.registry.marks.active = [] ∧
      (∀ id, s'.registry.early.get? id = none ∧ s'.registry.factories.get? id = none) ∧
      (∀ id, id ∈ s'.registry.listed ↔ s'.registry.stage id = .finished) ∧
      (∀ id need, s'.registry.stage id = .finished →
        ReflTransGen (Needs (needsIn comps)) id need → s'.registry.stage need = .finished) := by
  have hroom : room comps {} < depth := by
    refine Nat.lt_of_le_of_lt List.countP_le_length ?_
    rw [Store.keys, List.length_map]
    exact hdepth
  have hwork := (create_turns hplan hstrict depth).inner hplan (steady_fresh _) List.not_mem_nil
    hroot (fun _ ha => absurd ha List.not_mem_nil) hroom
  rcases hwork _ (shows_fresh c comps) with
    ⟨made, s', sc', hrun, hshows, hsettles, hmade⟩ |
    ⟨failure, s', sc', hrun, hshows, hsettles, x, hx, y, hpath, hcycle, hinner⟩
  · have hkey : root ∈ sc'.finished.keys := Store.mem_keys_of_get? hmade
    refine ⟨.ok (.found (some made)), s', ?_, ⟨fun _ x hpath => ?_, fun _ => ⟨made, rfl⟩⟩, ?_, ?_,
      hsettles.left hshows⟩
    · rw [Op.run, Run.bind_ok hrun]
      rfl
    · exact hsettles.steady.sound x (hsettles.steady.reached hkey hpath)
    · rintro _ ⟨⟩
      rw [hshows.stages.finished]
      exact hmade
    · exact fun hnot => absurd ⟨made, rfl⟩ hnot
  · rw [List.mem_singleton.1 hx] at hpath
    refine ⟨.error failure, s', ?_, ⟨?_, fun hacyclic => ?_⟩, ?_, fun _ => ?_, hsettles.left hshows⟩
    · rw [Op.run, Run.bind_error hrun]
    · rintro ⟨_, ⟨⟩⟩
    · exact absurd hcycle (hacyclic y hpath)
    · rintro _ ⟨⟩
    · exact ⟨failure, y, rfl, hinner, hpath, hcycle⟩

theorem blueprint_knot_strict : Blueprint { earlyReferences := false } knot :=
  ⟨blueprint_knot.plain, blueprint_knot.closed, blueprint_knot.usable⟩

/-- The knot cannot be tied without early references; what is not part of it can still be had. -/
theorem wire_strict_knot :
    (Blueprint { earlyReferences := false } knot ∧ knot.contains "a" = true ∧
      knot.contains "c" = true ∧ knot.size < 5) ∧
    (∃ failure x s', (Op.wire "a").run (.ofDepth 5)
        { registry := { config := { earlyReferences := false } }, components := knot } =
          some (.error failure, s') ∧
      failure.innermost = .inCreation x ∧ s'.registry.marks.active = []) ∧
    ∃ made s', (Op.wire "c").run (.ofDepth 5)
        { registry := { config := { earlyReferences := false } }, components := knot } =
          some (.ok (.found (some made)), s') ∧
      "c" ∈ s'.registry.listed := by
  have ha : knot.contains "a" = true := by decide
  have hc : knot.contains "c" = true := by decide
  have hdepth : knot.size < 5 := by decide
  refine ⟨⟨blueprint_knot_strict, ha, hc, hdepth⟩, ?_, ?_⟩
  · obtain ⟨outcome, s', hrun, hiff, -, hfails, hactive, -⟩ :=
      wire_strict blueprint_knot_strict rfl ha hdepth
    have hself : TransGen (Needs (needsIn knot)) "a" "a" := .single (by decide)
    obtain ⟨failure, x, rfl, hinner, -⟩ := hfails fun hok => hiff.1 hok "a" .refl hself
    exact ⟨failure, x, s', hrun, hinner, hactive⟩
  · obtain ⟨outcome, s', hrun, hiff, hmade, -, -, -, hlisted, -⟩ :=
      wire_strict blueprint_knot_strict rfl hc hdepth
    have hnone : ∀ x, ¬ Needs (needsIn knot) "c" x := fun x => List.not_mem_nil
    have hleaf : ∀ x, ReflTransGen (Needs (needsIn knot)) "c" x →
        ¬ TransGen (Needs (needsIn knot)) x x := by
      intro x hpath hcycle
      rcases ReflTransGen.cases_head hpath with rfl | ⟨y, hy, -⟩
      · obtain ⟨y, hy, -⟩ := TransGen.head'_iff.1 hcycle
        exact hnone y hy
      · exact hnone y hy
    obtain ⟨made, rfl⟩ := hiff.2 hleaf
    refine ⟨made, s', hrun, (hlisted "c").2 ?_⟩
    rw [stage_eq_finished_iff, Store.contains, hmade made rfl]
    rfl

end InstanceRegistry.Wiring
