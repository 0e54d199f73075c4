import InstanceRegistry.Proofs.Creation.Requests

/-!
  An identifier has one instance for good.

  As long as nothing is removed or destroyed, what is finished only GROWS: no move of a course
  takes a finished instance away or puts another in its place.  Whatever an operation hands out as
  finished is therefore what every later operation finds, and nothing is left to be constructed.

  Callbacks may do what they like in this, fail and panic included, and exclusions may change at any
  time.

  Mathlib-free.
-/

namespace InstanceRegistry

/-! ## Growth -/

/-- Every finished instance is still the finished one. -/
def Registry.Grows (r r' : Registry) : Prop :=
  ∀ x v, r.finished.get? x = some v → r'.finished.get? x = some v

namespace Registry.Grows

variable {r r' r'' : Registry}

theorem of_eq (h : r'.finished = r.finished) : r.Grows r' := by
  intro x v hx
  rw [h]
  exact hx

theorem refl (r : Registry) : r.Grows r := of_eq rfl

theorem trans (h : r.Grows r') (h' : r'.Grows r'') : r.Grows r'' :=
  fun x v hx => h' x v (h x v hx)

/-- What is bound takes nobody's place. -/
theorem commit {id : Ident} {made : Instance} (h : r.commit id made = .ok r') : r.Grows r' := by
  obtain ⟨hfree, hfinished, -, -⟩ := Registry.commit_inv h
  intro x v hx
  have hne : x ≠ id := by
    rintro rfl
    rw [hfree] at hx
    cases hx
  rw [hfinished, Store.get?_insert_of_ne _ hne]
  exact hx

end Registry.Grows

/-- A move takes nothing away unless an operation that does has begun. -/
theorem Course.Move.grows {s : Session} {r : Registry} (h : Course.Move s r)
    (hnever : s.Never Op.drops) : s.registry.Grows r := by
  cases h with
  | still h => exact .of_eq h.finished
  | drop hbegan _ => exact absurd hbegan hnever.not_began
  | exclude _ _ | setMarks _ _ => exact .of_eq rfl
  | mark _ hfinished _ | unmark _ hfinished _ => exact .of_eq hfinished
  | register _ _ hcommit => exact .commit hcommit
  | create _ _ _ _ hcommit =>
    exact .trans (.of_eq (Registry.finished_abandonCreation ..)) (.commit hcommit)
  | close _ _ => exact .of_eq rfl
  | empty hbegan => exact absurd hbegan.drops_of_endsAll hnever.not_began
  | finish _ _ => exact .of_eq rfl

/-- **What is finished only grows** in a course that takes nothing away. -/
theorem Course.grows {s t : Session} (h : Course s t) (hnever : t.Never Op.drops) :
    Through Registry.Grows s t :=
  h.through .refl .trans fun _ _ hu hmove => hmove.grows (hnever.mono hu)

/-! ## What operations find and bind -/

/-- A lookup of what is finished finds it. -/
theorem Call.get_inv {c : Call} {id : Ident} {v : Instance} (hop : c.op = .get id)
    (hfound : c.start.registry.finished.get? (c.start.registry.canonical id) = some v) :
    c.result = .ok (.found (some v)) ∧ c.stop.registry = c.start.registry := by
  have hrun := c.run
  rw [hop] at hrun
  have hlookup : Creation.lookup (.ofDepth c.depth) (c.start.registry.canonical id)
      (c.start.note (.began (.get id))) =
        some (.ok (some v), (c.start.note (.began (.get id))).note
          (.noticed (.returning (c.start.registry.canonical id)))) := by
    rw [Creation.lookup, Run.bind_ok (Run.registry_apply _), Session.registry_note, hfound]
    rfl
  have hget : (Op.get id).run (.ofDepth c.depth) (c.start.note (.began (.get id))) =
      some (.ok (.found (some v)), (c.start.note (.began (.get id))).note
        (.noticed (.returning (c.start.registry.canonical id)))) := Run.map_of hlookup
  rw [hget] at hrun
  obtain ⟨hresult, hstop⟩ := Prod.mk.inj (Option.some.inj hrun)
  exact ⟨hresult.symm, hstop ▸ rfl⟩

/-- An instance that was registered is the finished one. -/
theorem Call.registerInstance_finished {c : Call} {id : Ident} {origin : Source} {made : Instance}
    {t : Session} (hop : c.op = .registerInstance id origin)
    (hsource : Op.source id origin (c.start.note (.began c.op)) = some (.ok (some made), t))
    (hresult : c.result = .ok .unit) :
    c.stop.registry.finished.get? (c.start.registry.canonical id) = some made := by
  rcases (Call.registerInstance_inv hop).2 with ⟨x, made', ⟨t', hsource'⟩, haccept, -, hcommit⟩ |
      ⟨-, hno, -⟩
  · rw [hsource] at hsource'
    cases hsource'
    rw [(Registry.commit_inv hcommit).2.1, ← Registry.canonical_of_accept haccept]
    exact Store.get?_insert_self _ _ made
  · exact absurd hresult hno

/-! ## Whole runs -/

/-- An instance is the finished one of `x` in the end, and no construction of `x` was announced
    among the entries in `later`. -/
def Session.Settled (s : Session) (x : Ident) (v : Instance) (later : List Entry) : Prop :=
  s.registry.finished.get? x = some v ∧ ∀ e ∈ later, e.event ≠ .noticed (.creating x)

/-- What is finished at one moment of a script that takes nothing away is settled from there on. -/
theorem Script.settled {script : Script} {depth : Nat} {outcome : Outcome Cause Unit} {s : Session}
    (h : script.runWithin depth = some (outcome, s)) (hnever : s.Never Op.drops)
    {later earlier : List Entry} {e : Entry} (he : s.journal = later ++ e :: earlier) {x : Ident}
    {v : Instance} (hx : e.registry.finished.get? x = some v) : s.Settled x v later := by
  have hmoments := ((Script.course h).grows hnever).moments rfl
  rw [Session.moments, he, List.map_append, List.map_cons] at hmoments
  obtain ⟨hfinal, hrest⟩ := List.pairwise_cons.1 hmoments
  have hend : e.registry.Grows s.registry := hfinal _ (by simp)
  refine ⟨hend x v hx, fun e' he' hevent => ?_⟩
  -- a construction would have been announced when nothing was finished
  obtain ⟨rest, between, rfl⟩ := List.append_of_mem he'
  have haccounted : e'.Accounted (between ++ e :: earlier) :=
    Script.accounted h (by rw [he, List.append_assoc, List.cons_append])
  have hgrown : e.registry.Grows e'.registry :=
    (List.pairwise_append.1 hrest).2.2 _ (by simp) _ (by simp)
  obtain ⟨event, r⟩ := e'
  cases hevent
  have hfree : r.finished.get? x = none := haccounted.1
  rw [hgrown x v hx] at hfree
  cases hfree

/-- **One instance for good.**  In a script that removes and destroys nothing, whatever is handed
    out for an identifier by an operation that creates, bound under it by a registration, or found
    under it once it is finished is the instance that is finished under it in the end, and after
    that no construction is announced for it, without which no construction starts, neither one that
    was asked for alone nor one that several callers asked for at once. -/
theorem one_instance {script : Script} {depth : Nat} {outcome : Outcome Cause Unit} {s : Session}
    (h : script.runWithin depth = some (outcome, s)) (hnever : s.Never Op.drops) :
    (s.EveryCall fun c later =>
      (∀ request make v, c.op.creation? = some (request, make) →
        c.result = .ok (.found (some v)) →
        s.Settled (c.start.registry.canonical request.id) v later) ∧
      (∀ id origin made t, c.op = .registerInstance id origin →
        Op.source id origin (c.start.note (.began c.op)) = some (.ok (some made), t) →
        c.result = .ok .unit → s.Settled (c.start.registry.canonical id) made later) ∧
      ∀ id v, c.op = .get id →
        c.start.registry.finished.get? (c.start.registry.canonical id) = some v →
        c.result = .ok (.found (some v)) ∧ s.Settled (c.start.registry.canonical id) v later) ∧
    ∀ later earlier role id passed r, role.constructs = true →
      s.journal = later ++ ⟨.entered role id passed, r⟩ :: earlier →
        ∃ x r' rest, earlier = ⟨.noticed (.creating x), r'⟩ :: rest := by
  constructor
  · refine Script.everyCall h fun c asStep later hjournal => ⟨?_, ?_, ?_⟩
    · intro request make v hop hresult
      exact Script.settled h hnever hjournal (Call.creation_finished hop hresult)
    · intro id origin made t hop hsource hresult
      exact Script.settled h hnever hjournal
        (Call.registerInstance_finished hop hsource hresult)
    · intro id v hop hfound
      obtain ⟨hresult, hregistry⟩ := Call.get_inv hop hfound
      refine ⟨hresult, Script.settled h hnever hjournal ?_⟩
      rw [← hregistry] at hfound ⊢
      exact hfound
  · intro later earlier role id passed r hrole hjournal
    exact Script.accounted h hjournal hrole

/-- A lamp whose construction binds one and then fails.  It is asked for again and looked up. -/
def rescue : Script where
  registry := {}
  steps :=
    [.step (.create { id := "lamp", excluded := true }
        (.scripted "lamp" [.step (.registerInstance "lamp" (.fresh none)) true none]
          (.fail "no bulb"))) true none,
      .step (.getOrCreate "lamp" (.scripted "lamp" [] .same)) true none,
      .step (.get "lamp") true none]

/-- The lamp that appeared is handed out from then on. -/
theorem one_instance_rescue :
    ∃ outcome s, rescue.runWithin 3 = some (outcome, s) ∧ s.Never Op.drops ∧
      s.registry.finished.contains "lamp" = true ∧
      s.EveryCall fun c later => ∀ request make v, c.op.creation? = some (request, make) →
        c.result = .ok (.found (some v)) →
        s.Settled (c.start.registry.canonical request.id) v later := by
  have hends : ∃ outcome s, rescue.runWithin 3 = some (outcome, s) ∧
      s.Never Op.drops ∧ s.registry.finished.contains "lamp" = true :=
    Script.ends_of_check (by decide +kernel)
  obtain ⟨outcome, s, hrun, hnever, hlamp⟩ := hends
  exact ⟨outcome, s, hrun, hnever, hlamp, (one_instance hrun hnever).1.imp fun _ _ h => h.1⟩

end InstanceRegistry
