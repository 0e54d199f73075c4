import InstanceRegistry.Proofs.Destruction.Teardown

/-!
  Order: which hook a destruction runs before which.

  A hook is run when its identifier is SETTLED, which is after its dependents were destroyed.  So
  everyone who depends on `x` is settled before `x`, with one exception: a dependent that is in the
  middle of its own destruction when the walk comes to `x`.  Then `x` is reached from a dependent
  of that dependent (`Graph.ReachesEarly`).  Both halves are invariants of a walk:

    * Who stands above an identifier whose first visit is due is reached early from it
      (`Waiting`).
    * Whoever is settled has its dependents settled before it, or is reached early from them
      (`Ordered`).

  Without containment, being reached early is depending, so the exception needs a cycle: along an
  edge that is on no cycle, dependents go first (`dependents_first`).  With containment it does
  not: from a dependent of an owner, the walk may go down a contained edge to what the owner
  contains.  Owners go first exactly where that is not so (`owner_first_iff`).

  The order is that of the runs themselves.  A destruction DISPOSES hooks in an order if they are
  run one after another in it on the way from the session before to the session after
  (`Scope.Disposes`); the journal announces them in that order, and the report repeats it.
-/

namespace InstanceRegistry

open Relation

namespace Destruction

/-! ## Two in order -/

/-- What stands before an element of a list comes before it. -/
theorem pair_sublist {α : Type} {before after : List α} {x y : α} (h : x ∈ before) :
    [x, y].Sublist (before ++ y :: after) :=
  List.Sublist.append (List.singleton_sublist.2 h) (List.singleton_sublist.2 List.mem_cons_self)

/-- Two elements of a list without duplicates come in one order only. -/
theorem pair_sublist_asymm {α : Type} {l : List α} {x y : α} (hnodup : l.Nodup)
    (hxy : [x, y].Sublist l) : ¬ [y, x].Sublist l := by
  intro hyx
  induction l with
  | nil => cases hxy
  | cons z l ih =>
    obtain ⟨hz, hnodup⟩ := List.nodup_cons.1 hnodup
    -- the head can begin one of the two pairs only, as it is not found again
    cases hxy with
    | cons _ hxy =>
      cases hyx with
      | cons _ hyx => exact ih hnodup hxy hyx
      | cons_cons _ _ => exact hz (hxy.subset (List.mem_cons_of_mem _ List.mem_cons_self))
    | cons_cons _ hy =>
      cases hyx with
      | cons _ hyx => exact hz (hyx.subset (List.mem_cons_of_mem _ List.mem_cons_self))
      | cons_cons _ _ => exact hz (List.singleton_sublist.1 hy)

/-! ## Waiting -/

/-- While the first visit of an identifier is due, only those are visited who are reached from its
    dependents. -/
def Waiting (start : Graph) (todo : List Task) : Prop :=
  todo.Pairwise fun above below => ∀ x, below.due? = some x → start.ReachesEarly x above.id

/-- Nothing waits for something that is to be entered. -/
theorem waiting_enters (start : Graph) (ids : List Ident) : Waiting start (ids.map .enter) := by
  refine List.pairwise_map.2 (List.pairwise_of_forall fun _ _ x hx => ?_)
  cases hx

/-- An identifier gives way to those it leads to and to itself. -/
theorem Waiting.replace {start : Graph} {task task' : Task} {rest : List Task} {ids : List Ident}
    (h : Waiting start (task :: rest)) (hid : task'.id = task.id)
    (hlead : ∀ y ∈ ids, start.Leads task.id y)
    (hdue : ∀ x, task'.due? = some x → ∀ y ∈ ids, start.ReachesEarly x y) :
    Waiting start (ids.map .enter ++ task' :: rest) := by
  obtain ⟨hhead, hrest⟩ := List.pairwise_cons.1 h
  refine List.pairwise_append.2 ⟨waiting_enters start ids, List.pairwise_cons.2 ⟨?_, hrest⟩, ?_⟩
  · intro below hbelow x hx
    rw [hid]
    exact hhead below hbelow x hx
  · intro above habove below hbelow x hx
    obtain ⟨y, hy, rfl⟩ := List.mem_map.1 habove
    rcases List.mem_cons.1 hbelow with rfl | hbelow
    · exact hdue x hx y hy
    · exact (hhead below hbelow x hx).tail (hlead y hy)

theorem Step.waiting {start : Graph} {w w' : Walk} (hs : Step w w') (hp : Pruned start w)
    (h : Waiting start w.todo) : Waiting start w'.todo := by
  cases hs with
  | @enter id rest htodo =>
    rw [htodo] at h
    refine h.replace rfl (fun y hy => Or.inl (hp.dependents.subset id hy)) fun x hx y hy => ?_
    have hxid : x = id := by
      revert hx
      by_cases hid : id ∈ w.entered <;> simp [hid, Task.due?, eq_comm]
    rw [hxid]
    exact .of_dependent (hp.dependents.subset id hy)
  | @settle id hook first rest own htodo _ =>
    rw [htodo] at h
    refine h.replace rfl (fun y hy => Or.inr (hp.contained.subset id hy)) fun x hx => ?_
    cases hx
  | @close id first rest htodo =>
    rw [htodo] at h
    exact (List.pairwise_cons.1 h).2

/-! ## The order of settling -/

/-- Whoever is settled has its dependents settled before it, apart from those that it is reached
    from early. -/
def Ordered (start : Graph) (settled : List Ident) : Prop :=
  ∀ before x after, settled = before ++ x :: after →
    ∀ y ∈ start.dependentsOf x, start.ReachesEarly y x ∨ y ∈ before

/-- One more in order. -/
theorem Ordered.append {start : Graph} {settled : List Ident} {id : Ident}
    (h : Ordered start settled)
    (hid : ∀ y ∈ start.dependentsOf id, start.ReachesEarly y id ∨ y ∈ settled) :
    Ordered start (settled ++ [id]) := by
  intro before x after heq
  rcases List.eq_nil_or_concat after with rfl | ⟨after, last, rfl⟩
  · obtain ⟨rfl, hx⟩ := List.append_inj' heq rfl
    rw [List.singleton_inj] at hx
    exact hx ▸ hid
  · rw [List.concat_eq_append, ← List.cons_append, ← List.append_assoc] at heq
    exact h before x after (List.append_inj' heq rfl).1

/-- A first visit is settled when its dependents are closed, and these are settled or waiting. -/
theorem settled_or_early {start : Registry} {roots : List Ident} {w : Walk} {id y : Ident}
    {hook : Option Routine} {rest : List Task} (h : Sound start roots w)
    (hw : Waiting start.graph w.todo) (htodo : w.todo = .settle id hook true :: rest)
    (hy : y ∈ start.graph.dependentsOf id) :
    start.graph.ReachesEarly y id ∨ y ∈ w.settled := by
  have hframes := h.paying.frames
  rw [htodo] at hframes hw
  have hclosed : y ∈ w.closed := ((hframes.1 rfl).1 y hy).resolve_right List.not_mem_nil
  rcases (h.firsts.entered y).1 (h.pruned.closed y hclosed) with hdue | hsettled
  · rw [htodo] at hdue
    rcases List.mem_cons.1 hdue with rfl | hdue
    · exact Or.inl (.of_dependent hy)
    · obtain ⟨task, htask, hx⟩ := List.mem_filterMap.1 hdue
      exact Or.inl ((List.pairwise_cons.1 hw).1 task htask y hx)
  · exact Or.inr hsettled

/-- What is known of the order in which a walk settles. -/
structure Sequenced (start : Registry) (roots : List Ident) (w : Walk) : Prop where
  sound : Sound start roots w
  waiting : Waiting start.graph w.todo
  ordered : Ordered start.graph w.settled

theorem Step.sequenced {start : Registry} {roots : List Ident} {w w' : Walk} (hs : Step w w')
    (h : Sequenced start roots w) : Sequenced start roots w' := by
  refine ⟨hs.sound h.sound, hs.waiting h.sound.pruned h.waiting, ?_⟩
  cases hs with
  | enter _ => exact h.ordered
  | @settle id hook first rest own htodo _ =>
    cases first with
    | false => exact h.ordered
    | true => exact h.ordered.append fun y hy => settled_or_early h.sound h.waiting htodo hy
  | close _ => exact h.ordered

/-- **A walk settles in order** from its start to its end. -/
theorem Steps.sequenced {r : Registry} {roots : List Ident} {w : Walk}
    (hs : Steps (.start r roots) w) : Sequenced r roots w := by
  refine Steps.keep (fun _ _ hs h => hs.sequenced h) hs
    ⟨sound_start r roots, waiting_enters r.graph roots, fun before x after heq => ?_⟩
  exact absurd heq.symm (List.append_ne_nil_of_right_ne_nil before (List.cons_ne_nil x after))

/-! ## The order of the hooks -/

/-- Whoever has a hook and is settled before another has its hook run before it. -/
theorem Firsts.pair_sublist_disposed {start : Registry} {w : Walk} {before after : List Ident}
    {x y : Ident} (h : Firsts start w) (hsettled : w.settled = before ++ y :: after)
    (hx : x ∈ before) (hookx : start.hooks.contains x = true)
    (hooky : start.hooks.contains y = true) : [x, y].Sublist (w.endings.map Prod.fst) := by
  rw [h.disposed, hsettled, List.filter_append, List.filter_cons_of_pos hooky]
  exact pair_sublist (List.mem_filter.2 ⟨hx, hookx⟩)

/-- Where a hook that was run comes in the order of settling. -/
theorem Firsts.settled_of_disposed {start : Registry} {w : Walk} {x : Ident}
    (h : Firsts start w) (hx : x ∈ w.endings.map Prod.fst) :
    start.hooks.contains x = true ∧ ∃ before after, w.settled = before ++ x :: after := by
  rw [h.disposed, List.mem_filter] at hx
  exact ⟨hx.2, List.append_of_mem hx.1⟩

/-- **Dependents first.**  The hook of a dependent is run before the hook of what it depends on,
    unless the latter is reached early from it. -/
theorem Sequenced.dependent_first {start : Registry} {roots : List Ident} {w : Walk} {d e : Ident}
    (h : Sequenced start roots w) (he : e ∈ start.graph.dependentsOf d)
    (hearly : ¬ start.graph.ReachesEarly e d) (hook : start.hooks.contains e = true)
    (hd : d ∈ w.endings.map Prod.fst) : [e, d].Sublist (w.endings.map Prod.fst) := by
  obtain ⟨hookd, before, after, hsettled⟩ := h.sound.firsts.settled_of_disposed hd
  have hmem : e ∈ before := (h.ordered before d after hsettled e he).resolve_left hearly
  exact h.sound.firsts.pair_sublist_disposed hsettled hmem hook hookd

/-! ## What is destroyed -/

/-- What a destruction is asked for. -/
inductive Scope where
  /-- One identifier, with what depends on it and what it contains. -/
  | one (id : Ident)
  /-- The whole registry. -/
  | all

/-- Destroy what is asked for. -/
def Scope.destroy {ε : Type} (engine : Engine) : Scope → Run ε Report
  | one id => destroyOne engine id
  | all => destroyAll engine

/-- What is asked for is destroyed, and on the way the pending hooks of these identifiers are run,
    each once and in this order.  The journal announces them and the report names them in the same
    order. -/
def Scope.Disposes (ε : Type) (engine : Engine) (scope : Scope) (s : Session) (ran : List Ident) :
    Prop :=
  ∃ endings t, (scope.destroy engine : Run ε Report) s = some (.ok (reportOf endings), t) ∧
    HooksRun engine s.registry s endings t ∧ ran = endings.map Prod.fst ∧
    t.disposed = s.disposed ++ ran ∧ ran.Nodup

section Disposing

variable {ε : Type} {engine : Engine} {s : Session} {scope : Scope}

/-- What a destruction adds to the announcements in the journal. -/
theorem Scope.Disposes.journal {ran : List Ident} (h : scope.Disposes ε engine s ran) :
    ((scope.destroy engine : Run ε Report) s).map (fun r => r.2.disposed) =
      some (s.disposed ++ ran) := by
  obtain ⟨_, t, hrun, -, -, hjournal, -⟩ := h
  rw [hrun, ← hjournal]
  rfl

/-- There is one order in which a destruction runs the hooks: the one in the journal. -/
theorem Scope.Disposes.unique {ran ran' : List Ident} (h : scope.Disposes ε engine s ran)
    (h' : scope.Disposes ε engine s ran') : ran = ran' :=
  List.append_cancel_left (Option.some.inj (h.journal.symm.trans h'.journal))

/-- A destruction that goes the way of a walk runs the hooks that the walk notes. -/
theorem Scope.disposes_of_walk {start : Registry} {roots : List Ident} {w : Walk} {t : Session}
    (hrun : (scope.destroy engine : Run ε Report) s = some (.ok (reportOf w.endings), t))
    (hran : HooksRun engine s.registry s w.endings t) (halone : engine.RunsAlone s.registry)
    (hsteps : Steps (.start start roots) w) :
    scope.Disposes ε engine s (w.endings.map Prod.fst) :=
  ⟨w.endings, t, hrun, hran, rfl, hran.disposed halone, hsteps.sound.disposed_nodup⟩

/-- Whatever is asked for, a walk does it, on the graph and with the hooks that the registry has
    at the call. -/
theorem Scope.destroy_walk (scope : Scope)
    (hready : Ready engine s.registry engine.depth s.registry)
    (halone : engine.RunsAlone s.registry) :
    ∃ start roots w, scope.Disposes ε engine s (w.endings.map Prod.fst) ∧
      Steps (.start start roots) w ∧
      start.graph = s.registry.graph ∧ start.hooks = s.registry.hooks := by
  cases scope with
  | one id =>
    obtain ⟨w, t, hrun, hran, hsteps, _⟩ := destroyOne_walk (ε := ε) hready id
    exact ⟨s.registry, [id], w, disposes_of_walk hrun hran halone hsteps, hsteps, rfl, rfl⟩
  | all =>
    by_cases hactive : s.registry.lifecycle = .active
    · obtain ⟨w, t, hrun, hran, hsteps, _⟩ := destroyAll_walk (ε := ε) hready hactive
      exact ⟨_, _, w, disposes_of_walk hrun hran halone hsteps, hsteps, rfl, rfl⟩
    · -- nothing is left to be destroyed, which is the walk without tasks
      obtain ⟨t, hrun, hsilent, _⟩ : ∃ t, (destroyAll engine : Run ε Report) s = some (.ok {}, t) ∧
          Interlude s t ∧ t.registry = s.registry := destroyAll_over hactive
      have hsteps : Steps (.start s.registry []) (.start s.registry []) := .refl
      exact ⟨s.registry, [], .start s.registry [],
        disposes_of_walk hrun (.interlude hsilent) halone hsteps, hsteps, rfl, rfl⟩

end Disposing

/-! ## Without containment -/

/-- Where nobody depends on itself, all that depends on something is settled before it, also
    through others. -/
theorem Sequenced.settled_of_depends {start : Registry} {roots : List Ident} {w : Walk}
    (h : Sequenced start roots w) (hflat : ∀ x, start.graph.containedIn x = [])
    (hacyclic : ∀ x, ¬ start.graph.Depends x x) {d e : Ident} (hdep : start.graph.Depends d e) :
    ∀ before after, w.settled = before ++ d :: after → e ∈ before := by
  have hdirect : ∀ x y before after, y ∈ start.graph.dependentsOf x →
      w.settled = before ++ x :: after → y ∈ before := by
    intro x y before after hy hsettled
    refine (h.ordered before x after hsettled y hy).resolve_left fun hearly => ?_
    exact hacyclic x (TransGen.head hy ((Graph.reachesEarly_iff_depends hflat).1 hearly))
  -- along the path, the nearest dependent first: it is settled before `d`, the others before it
  induction hdep using TransGen.head_induction_on with
  | single hy => exact fun before after => hdirect _ _ before after hy
  | head hy _ ih =>
    intro before after hsettled
    obtain ⟨before', after', rfl⟩ := List.append_of_mem (hdirect _ _ before after hy hsettled)
    have he := ih before' (after' ++ _ :: after) (by rw [hsettled, List.append_assoc]; rfl)
    exact List.mem_append_left _ he

/-- **Dependents die first.**  Let nothing be contained in anything, and let the pending hooks keep
    to themselves, each of them running alone.  Then whatever is asked for, the destruction comes to
    an end and runs every hook at most once; the hook of a dependent is run strictly before the hook
    of what it depends on directly, unless the latter depends on it as well; and where nobody depends
    on itself, this holds of everything that depends on it, also through others and past those
    without hooks. -/
theorem dependents_first {ε : Type} {engine : Engine} {s : Session} (scope : Scope)
    (hdepth : s.registry.graph.nesting < engine.depth) (hapart : engine.Leaves s.registry)
    (halone : engine.RunsAlone s.registry) (hflat : ∀ x, s.registry.graph.containedIn x = []) :
    ∃ ran, scope.Disposes ε engine s ran ∧
      (∀ d e, e ∈ s.registry.graph.dependentsOf d → s.registry.graph.isDependent e d = false →
        s.registry.hooks.contains e = true → d ∈ ran → [e, d].Sublist ran) ∧
      ((∀ x, s.registry.graph.isDependent x x = false) →
        ∀ d e, s.registry.graph.isDependent d e = true → s.registry.hooks.contains e = true →
          d ∈ ran → [e, d].Sublist ran) := by
  obtain ⟨start, roots, w, hdisposes, hsteps, hgraph, hhooks⟩ :=
    scope.destroy_walk (ε := ε) (.of_leaves hapart hdepth) halone
  have h := hsteps.sequenced
  rw [← hgraph] at hflat
  rw [← hgraph, ← hhooks]
  refine ⟨w.endings.map Prod.fst, hdisposes, fun d e he hback hook hd => ?_,
    fun hacyclic d e hdep hook hd => ?_⟩
  · refine h.dependent_first he (fun hearly => ?_) hook hd
    exact Graph.not_depends_of_isDependent_eq_false hback
      ((Graph.reachesEarly_iff_depends hflat).1 hearly)
  · obtain ⟨hookd, before, after, hsettled⟩ := h.sound.firsts.settled_of_disposed hd
    have hmem : e ∈ before := h.settled_of_depends hflat
      (fun x => Graph.not_depends_of_isDependent_eq_false (hacyclic x))
      (Graph.isDependent_iff.1 hdep) before after hsettled
    exact h.sound.firsts.pair_sublist_disposed hsettled hmem hook hookd

/-- A shop that depends on a database, and a site that depends on the shop, which has no hook. -/
def chain : Session where
  registry :=
    { graph := (({} : Graph).addDependency "db" "shop").addDependency "shop" "web"
      hooks := ⟨[("web", .scripted "web" [] (.fail "stuck")), ("db", .scripted "db" [] .same)],
        by decide⟩ }

theorem leaves_chain : (Engine.ofDepth 5).Leaves chain.registry := leaves_of_stepless rfl

theorem runsAlone_chain : (Engine.ofDepth 5).RunsAlone chain.registry := runsAlone_of_stepless rfl

/-- The site is destroyed before the database, past the shop and against the order in which the
    hooks would be run by themselves. -/
theorem dependents_first_chain :
    (chain.registry.graph.nesting < (Engine.ofDepth 5).depth ∧
      (Engine.ofDepth 5).Leaves chain.registry ∧ (Engine.ofDepth 5).RunsAlone chain.registry ∧
      ∀ x, chain.registry.graph.containedIn x = []) ∧
    ∃ ran, Scope.all.Disposes Failure (.ofDepth 5) chain ran ∧ ["web", "db"].Sublist ran := by
  have hflat : ∀ x, chain.registry.graph.containedIn x = [] := fun _ => rfl
  refine ⟨⟨by decide, leaves_chain, runsAlone_chain, hflat⟩, ?_⟩
  obtain ⟨ran, hdisposes, -, hfirst⟩ :=
    dependents_first (ε := Failure) .all (by decide) leaves_chain runsAlone_chain hflat
  have hacyclic : ∀ x, chain.registry.graph.isDependent x x = false :=
    Graph.isDependent_self_eq_false
      (fun x => if x = "db" then 0 else if x = "shop" then 1 else 2) (by decide)
  -- both hooks are run, as the journal shows
  have hjournal : ((Scope.all.destroy (.ofDepth 5) : Run Failure Report) chain).map
      (fun r => r.2.disposed) = some ["web", "db"] := by decide +kernel
  have hran : ran = ["web", "db"] := Option.some.inj (hdisposes.journal.symm.trans hjournal)
  have hdb : "db" ∈ ran := by
    rw [hran]
    decide
  exact ⟨ran, hdisposes, hfirst hacyclic "db" "web" (by decide +kernel) rfl hdb⟩

/-! ## With containment -/

/-- A walk to its end gets through what stands above some tasks before it comes to them. -/
theorem Steps.through {w w' : Walk} {above rest : List Task} (hs : Steps w w')
    (htodo : w.todo = above ++ rest) (hdone : w'.todo = []) :
    ∃ mid, Steps w mid ∧ Steps mid w' ∧ mid.todo = rest := by
  induction hs using ReflTransGen.head_induction_on generalizing above with
  | refl =>
    rw [hdone] at htodo
    exact ⟨w', .refl, .refl, hdone.trans (List.append_eq_nil_iff.1 htodo.symm).2.symm⟩
  | @head w w₁ hstep hs ih =>
    cases above with
    | nil => exact ⟨w, .refl, .head hstep hs, htodo⟩
    | cons task above =>
      -- the step replaces the first task, and the rest stays where it is
      have hkept : ∃ above₁, w₁.todo = above₁ ++ rest := by
        cases hstep with
        | enter h =>
          obtain ⟨-, rfl⟩ := List.cons.inj (h.symm.trans htodo)
          exact ⟨_ ++ _ :: above, by rw [List.append_assoc]; rfl⟩
        | settle h _ =>
          obtain ⟨-, rfl⟩ := List.cons.inj (h.symm.trans htodo)
          exact ⟨_ ++ _ :: above, by rw [List.append_assoc]; rfl⟩
        | close h =>
          obtain ⟨-, rfl⟩ := List.cons.inj (h.symm.trans htodo)
          exact ⟨above, rfl⟩
      obtain ⟨above₁, htodo₁⟩ := hkept
      obtain ⟨mid, hfirst, hlast, hmid⟩ := ih htodo₁
      exact ⟨mid, .head hstep hfirst, hlast, hmid⟩

/-- Who was settled stays settled, and in the same place. -/
theorem Steps.settled_prefix {w w' : Walk} (hs : Steps w w') :
    ∃ later, w'.settled = w.settled ++ later := by
  refine Steps.keep (P := fun v => ∃ later, v.settled = w.settled ++ later) ?_ hs
    ⟨[], (List.append_nil _).symm⟩
  rintro v v' hstep ⟨later, hlater⟩
  cases hstep with
  | enter _ => exact ⟨later, hlater⟩
  | @settle id _ first _ _ _ _ =>
    cases first with
    | false => exact ⟨later, hlater⟩
    | true =>
      refine ⟨later ++ [id], ?_⟩
      show v.settled ++ [id] = _
      rw [hlater, List.append_assoc]
  | close _ => exact ⟨later, hlater⟩

/-- When only the first visit of the root is left to be settled, everything that is reached early
    from it is closed. -/
theorem Sound.closed_of_early {start : Registry} {roots : List Ident} {w : Walk} {id : Ident}
    {hook : Option Routine} (h : Sound start roots w)
    (htodo : w.todo = [.settle id hook true]) {y : Ident}
    (hy : start.graph.ReachesEarly id y) : y ∈ w.closed := by
  obtain ⟨hdependents, hcontained⟩ : (∀ y ∈ start.graph.dependentsOf id, y ∈ w.closed) ∧
      ∀ y ∈ start.graph.containedIn id, id ∈ w.closed → y ∈ w.closed := by
    have hframes := h.paying.frames
    rw [htodo] at hframes
    refine ⟨fun y hy => ((hframes.1 rfl).1 y hy).resolve_right List.not_mem_nil,
      fun y hy hclosed => ?_⟩
    -- an identifier that is closed has nothing left that it contains
    have hnil : w.registry.graph.containedIn id = [] := h.pruned.contained.within id hclosed
    rcases (hframes.1 rfl).2 y hy with hy | hy | hy
    · rw [hnil] at hy
      exact absurd hy List.not_mem_nil
    · exact hy
    · exact absurd hy List.not_mem_nil
  -- along the path: only the root is open, and all that the others lead to is closed
  obtain ⟨d, hd, hpath⟩ := hy
  induction hpath with
  | refl => exact hdependents d hd
  | @tail x y _ hl ih =>
    rcases h.paying.covered x (h.pruned.closed x ih) with hopen | ⟨_, hall⟩
    · rw [htodo] at hopen
      have hx : x = id := List.mem_singleton.1 hopen
      rw [hx] at hl ih
      exact hl.elim (hdependents y) fun hy => hcontained y hy ih
    · exact hall y hl

/-- What is reached early from the root of a walk is settled before the root. -/
theorem Steps.settled_of_early {r : Registry} {id : Ident} {w : Walk}
    (hs : Steps (.start r [id]) w) (hdone : w.todo = []) :
    ∃ before after, w.settled = before ++ id :: after ∧
      ∀ y, r.graph.ReachesEarly id y → y = id ∨ y ∈ before := by
  -- the first step enters the root, and then the walk comes to its settling
  have henter : Step (.start r [id]) ((Walk.start r [id]).enter id []) := .enter rfl
  obtain ⟨mid, hfirst, hlast, hmid⟩ : ∃ mid, Steps (.start r [id]) mid ∧
      Steps mid w ∧ mid.todo = [.settle id (r.hooks.get? id) true] := by
    rcases ReflTransGen.cases_head hs with rfl | ⟨w₁, hstep, hrest⟩
    · cases hdone
    · obtain rfl : w₁ = (Walk.start r [id]).enter id [] := by
        cases hstep with
        | enter h => obtain ⟨hid, rfl⟩ := List.cons.inj h; cases hid; rfl
        | settle h _ => cases (List.cons.inj h).1
        | close h => cases (List.cons.inj h).1
      obtain ⟨mid, hto, hfrom, hmid⟩ := Steps.through hrest rfl hdone
      exact ⟨mid, .head henter hto, hfrom, hmid⟩
  have hsound := hfirst.sound
  obtain ⟨w₂, hstep, hrest⟩ : ∃ w₂, Step mid w₂ ∧ Steps w₂ w := by
    rcases ReflTransGen.cases_head hlast with rfl | hstep
    · rw [hdone] at hmid
      cases hmid
    · exact hstep
  -- the only step from there settles the root
  have hsettled : w₂.settled = mid.settled ++ [id] := by
    cases hstep with
    | enter h => rw [hmid] at h; cases (List.cons.inj h).1
    | settle h _ => rw [hmid] at h; cases (List.cons.inj h).1; rfl
    | close h => rw [hmid] at h; cases (List.cons.inj h).1
  obtain ⟨after, hafter⟩ := hrest.settled_prefix
  refine ⟨mid.settled, after, by rw [hafter, hsettled, List.append_assoc]; rfl, fun y hy => ?_⟩
  have hentered := hsound.pruned.closed y (hsound.closed_of_early hmid hy)
  rcases (hsound.firsts.entered y).1 hentered with hdue | hy
  · rw [hmid] at hdue
    exact Or.inl (List.mem_singleton.1 hdue)
  · exact Or.inr hy

/-- The hook of what is reached early from the root of a walk is run before that of the root. -/
theorem Steps.early_disposed {r : Registry} {id y : Ident} {w : Walk}
    (hs : Steps (.start r [id]) w) (hdone : w.todo = []) (hearly : r.graph.ReachesEarly id y)
    (hookid : r.hooks.contains id = true) (hooky : r.hooks.contains y = true) :
    id ∈ w.endings.map Prod.fst ∧ y ∈ w.endings.map Prod.fst ∧
      (y = id ∨ [y, id].Sublist (w.endings.map Prod.fst)) := by
  obtain ⟨before, after, hsettled, hbefore⟩ := hs.settled_of_early hdone
  have hfirsts := hs.sound.firsts
  have hdisposed : ∀ x ∈ w.settled, r.hooks.contains x = true → x ∈ w.endings.map Prod.fst := by
    intro x hx hook
    rw [hfirsts.disposed]
    exact List.mem_filter.2 ⟨hx, hook⟩
  have hid : id ∈ w.endings.map Prod.fst := by
    refine hdisposed id ?_ hookid
    rw [hsettled]
    exact List.mem_append_right _ List.mem_cons_self
  rcases hbefore y hearly with heq | hy
  · exact ⟨hid, heq.symm ▸ hid, Or.inl heq⟩
  · refine ⟨hid, hdisposed y ?_ hooky, Or.inr ?_⟩
    · rw [hsettled]
      exact List.mem_append_left _ hy
    · exact hfirsts.pair_sublist_disposed hsettled hy hooky hookid

/-- **Owners first, exactly.**  Let the edges have been recorded one by one, in any order, and let
    the pending hooks keep to themselves, each of them running alone.  An owner and something it
    contains have their hooks run in this order by every destruction that runs both, if and only if
    no dependent of the owner leads to what it contains.  Where one does, destroying the owner itself
    runs the two hooks the other way round. -/
theorem owner_first_iff {ε : Type} {engine : Engine} {s : Session}
    (hdepth : s.registry.graph.nesting < engine.depth) (hapart : engine.Leaves s.registry)
    (halone : engine.RunsAlone s.registry) (hbuilt : s.registry.graph.Built) {inner outer : Ident}
    (hcontained : inner ∈ s.registry.graph.containedIn outer)
    (hookinner : s.registry.hooks.contains inner = true)
    (hookouter : s.registry.hooks.contains outer = true) :
    (∀ scope : Scope, ∃ ran, scope.Disposes ε engine s ran ∧
        (outer ∈ ran → inner ∈ ran → [outer, inner].Sublist ran)) ↔
      ¬ s.registry.graph.ReachesEarly outer inner := by
  have hready := Ready.of_leaves hapart hdepth
  constructor
  · intro hfirst hearly
    obtain ⟨w, t, hrun, hran, hsteps, hdone, _⟩ := destroyOne_walk (ε := ε) hready outer
    have hdisposes : (Scope.one outer).Disposes ε engine s (w.endings.map Prod.fst) :=
      Scope.disposes_of_walk hrun hran halone hsteps
    obtain ⟨ran, hdisposes', horder⟩ := hfirst (.one outer)
    rw [hdisposes'.unique hdisposes] at horder
    have hnodup : (w.endings.map Prod.fst).Nodup := hsteps.sound.disposed_nodup
    obtain ⟨houter, hinner, hbefore⟩ := hsteps.early_disposed hdone hearly hookouter hookinner
    have hpair := horder houter hinner
    rcases hbefore with rfl | hback
    · -- an owner of itself would have to be run twice
      exact pair_sublist_asymm hnodup hpair hpair
    · exact pair_sublist_asymm hnodup hpair hback
  · intro hlate scope
    obtain ⟨start, roots, w, hdisposes, hsteps, hgraph, hhooks⟩ :=
      scope.destroy_walk (ε := ε) hready halone
    have h := hsteps.sequenced
    refine ⟨w.endings.map Prod.fst, hdisposes, fun _ hinner => ?_⟩
    rw [← hgraph] at hbuilt hcontained hlate
    rw [← hhooks] at hookouter
    exact h.dependent_first (hbuilt.owner_depends hcontained) hlate hookouter hinner

/-- A box and a desk that both contain a lamp, and the desk depends on the box. -/
def shared : Session where
  registry :=
    { graph := ((({} : Graph).addContainment "lamp" "box").addContainment "lamp" "desk").addDependency
        "box" "desk"
      hooks := ⟨[("box", .scripted "box" [] .same), ("lamp", .scripted "lamp" [] .same),
        ("desk", .scripted "desk" [] .same)], by decide⟩ }

theorem leaves_shared : (Engine.ofDepth 6).Leaves shared.registry := leaves_of_stepless rfl

theorem runsAlone_shared : (Engine.ofDepth 6).RunsAlone shared.registry := runsAlone_of_stepless rfl

theorem built_shared : shared.registry.graph.Built :=
  .dependency (.containment (.containment .empty "lamp" "box") "lamp" "desk") "box" "desk"

/-- The box goes first by some destructions only: from the desk, which depends on it, the walk goes
    down to the lamp. -/
theorem owner_first_iff_shared :
    (shared.registry.graph.nesting < (Engine.ofDepth 6).depth ∧
      (Engine.ofDepth 6).Leaves shared.registry ∧ (Engine.ofDepth 6).RunsAlone shared.registry ∧
      shared.registry.graph.Built ∧ "lamp" ∈ shared.registry.graph.containedIn "box" ∧
      shared.registry.hooks.contains "lamp" = true ∧
      shared.registry.hooks.contains "box" = true) ∧
    ¬ ∀ scope : Scope, ∃ ran, scope.Disposes Failure (.ofDepth 6) shared ran ∧
      ("box" ∈ ran → "lamp" ∈ ran → ["box", "lamp"].Sublist ran) := by
  refine ⟨⟨by decide, leaves_shared, runsAlone_shared, built_shared, by decide, rfl, rfl⟩,
    fun hfirst => ?_⟩
  have hlamp : shared.registry.graph.Leads "desk" "lamp" := Or.inr (by decide)
  have hearly : shared.registry.graph.ReachesEarly "box" "lamp" :=
    (Graph.ReachesEarly.of_dependent (by decide)).tail hlamp
  exact (owner_first_iff (ε := Failure) (by decide) leaves_shared runsAlone_shared built_shared
    (by decide) rfl rfl).1 hfirst hearly

/-- Nobody depends on itself here, and still the hook of the lamp is run before that of the box that
    contains it. -/
theorem owner_last_shared :
    (∀ x, shared.registry.graph.isDependent x x = false) ∧
    shared.registry.graph.Built ∧ (Engine.ofDepth 6).Leaves shared.registry ∧
    (Engine.ofDepth 6).RunsAlone shared.registry ∧
    "lamp" ∈ shared.registry.graph.containedIn "box" ∧
    (Scope.one "box").Disposes Failure (.ofDepth 6) shared ["desk", "lamp", "box"] ∧
    ¬ ["box", "lamp"].Sublist ["desk", "lamp", "box"] := by
  refine ⟨Graph.isDependent_self_eq_false
      (fun x => if x = "lamp" then 0 else if x = "box" then 1 else 2) (by decide),
    built_shared, leaves_shared, runsAlone_shared, by decide, ?_,
    pair_sublist_asymm (by decide) (by decide)⟩
  obtain ⟨_, _, w, hdisposes, -⟩ := (Scope.one "box").destroy_walk (ε := Failure)
    (.of_leaves leaves_shared (by decide)) runsAlone_shared
  -- which hooks these are is read off the journal
  have hjournal : (((Scope.one "box").destroy (.ofDepth 6) : Run Failure Report) shared).map
      (fun r => r.2.disposed) = some ["desk", "lamp", "box"] := by decide +kernel
  have hran : w.endings.map Prod.fst = ["desk", "lamp", "box"] :=
    Option.some.inj (hdisposes.journal.symm.trans hjournal)
  exact hran ▸ hdisposes

end Destruction

end InstanceRegistry
