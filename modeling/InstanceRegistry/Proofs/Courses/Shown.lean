import InstanceRegistry.Script
import InstanceRegistry.Proofs.Courses.Course

/-!
  A callback ends where its journal ends.

  The journal tells only what stood at each entry.  What happens to the registry between two entries
  can be told from them if there is little enough of it, and for changes that add something there is:
  each of them follows immediately upon an entry.  For the changes at the end of a callback this is so
  because a callback itself does nothing to the registry.  It enters itself, it carries out operations,
  each with an entry at its end, and it settles, which touches variables and serial numbers only.

  No recursion on depths is needed for that, as the operations inside bring their own entries.

  Mathlib-free.
-/

namespace InstanceRegistry

/-- Work that begins right after an entry ends right after an entry. -/
def Run.Shows {ε α : Type} (work : Run ε α) : Prop :=
  ∀ s outcome t, work s = some (outcome, t) → s.Shown → t.Shown

/-- Callbacks that are to make something end right after an entry. -/
structure Engine.Shows (engine : Engine) : Prop where
  construct : ∀ make s outcome t, engine.construct make s = some (outcome, t) → t.Shown
  produce : ∀ step s outcome t, engine.produce step s = some (outcome, t) → t.Shown
  process : ∀ processor product id s outcome t,
    engine.process processor product id s = some (outcome, t) → t.Shown

/-! ## Rules -/

namespace Run.Shows

variable {ε ε' α β : Type}

theorem conclude (outcome : Outcome ε α) : (Run.conclude outcome).Shows := by
  intro s outcome' t h hs
  cases h
  exact hs

theorem pure (value : α) : (Pure.pure value : Run ε α).Shows := conclude (.ok value)

theorem fail (failure : ε) : (Run.fail failure : Run ε α).Shows := conclude _

theorem unwind (payload : Panic) : (Run.unwind payload : Run ε α).Shows := conclude _

theorem read (f : Session → α) : (Run.read f : Run ε α).Shows := by
  intro s outcome t h hs
  cases h
  exact hs

/-- Work whose first part ends right after an entry ends right after one from wherever it begins. -/
theorem after {work : Run ε α} {next : α → Run ε β} (hnext : ∀ value, (next value).Shows)
    {s u : Session} {outcome : Outcome ε β}
    (hwork : ∀ ending t, work s = some (ending, t) → t.Shown)
    (hrun : (work >>= next) s = some (outcome, u)) : u.Shown := by
  rcases bind_inv hrun with ⟨value, t, hfirst, hrest⟩ | ⟨failure, hfirst, -⟩ | ⟨payload, hfirst, -⟩
  · exact hnext value _ _ _ hrest (hwork _ _ hfirst)
  · exact hwork _ _ hfirst
  · exact hwork _ _ hfirst

theorem bind {work : Run ε α} {next : α → Run ε β} (h : work.Shows)
    (hnext : ∀ value, (next value).Shows) : (work >>= next).Shows := by
  intro s outcome u hrun hs
  exact after hnext (fun ending t hwork => h _ _ _ hwork hs) hrun

theorem map {f : α → β} {work : Run ε α} (h : work.Shows) :
    (work >>= fun value => Pure.pure (f value)).Shows :=
  bind h fun _ => pure _

theorem attempt {work : Run ε α} (h : work.Shows) :
    (work.attempt : Run ε' (Outcome ε α)).Shows := by
  intro s outcome t hrun
  obtain ⟨ending, hwork, -⟩ := attempt_inv hrun
  exact h _ _ _ hwork

theorem mapError {f : ε → ε'} {work : Run ε α} (h : work.Shows) : (work.mapError f).Shows := by
  intro s outcome t hrun
  obtain ⟨ending, hwork, -⟩ := mapError_inv hrun
  exact h _ _ _ hwork

/-- A change of variables and the like. -/
theorem update {f : Session → Session} (hregistry : ∀ s, (f s).registry = s.registry)
    (hjournal : ∀ s, (f s).journal = s.journal) : (Run.update f : Run ε Unit).Shows := by
  intro s outcome t h hs
  cases h
  exact hs.congr (hregistry s) (hjournal s)

theorem fresh (label : Option String) : (Run.fresh label : Run ε Instance).Shows := by
  intro s outcome t h hs
  cases h
  exact hs.congr rfl rfl

theorem record (event : Event) : (Run.record event : Run ε Unit).Shows := by
  intro s outcome t h _
  cases h
  exact s.shown_note event

/-- An operation ends with an entry, whatever it does. -/
theorem noted {op : Op} {asStep : Bool} {answer : α → Answer Instance} {work : Run Failure α} :
    (Run.noted op asStep answer work).Shows := by
  intro s outcome u h _
  obtain ⟨t, -, rfl⟩ := noted_inv h
  exact t.shown_note _

theorem entered {event : Event} {work : Run ε α} (h : work.Shows) {s t : Session}
    {outcome : Outcome ε α}
    (hrun : (Run.record event >>= fun _ => work) s = some (outcome, t)) : t.Shown := by
  refine after (fun _ => h) (fun ending u hrecord => ?_) hrun
  cases hrecord
  exact s.shown_note event

end Run.Shows

/-! ## Assembling -/

namespace Assembly

variable {engine : Engine}

theorem supply_shows (id need : Ident) : (supply engine id need).Shows := by
  refine .bind .noted fun there => ?_
  have hrest : ∀ given, (Run.record (.wired id need given) >>= fun _ =>
      Inner.addDependency need id : Run Failure Unit).Shows :=
    fun given => .bind (.record _) fun _ => .map .noted
  cases there with
  | some there => exact .bind (.pure there) hrest
  | none => exact .bind .noted hrest

theorem supplyNeeds_shows (id : Ident) (needs : List Ident) :
    (supplyNeeds engine id needs).Shows := by
  induction needs with
  | nil => exact .pure _
  | cons need rest ih => exact .bind (supply_shows id need) fun _ => ih

theorem supplyWishes_shows (id : Ident) (wishes : List Ident) :
    (supplyWishes engine id wishes).Shows := by
  induction wishes with
  | nil => exact .pure _
  | cons wish rest ih =>
    refine .bind (.attempt (supply_shows id wish)) fun ending => ?_
    cases ending with
    | ok _ => exact ih
    | error failure => exact .bind .noted fun _ => ih
    | panic payload => exact .unwind payload

theorem furnish_shows (component : Component) (id : Ident) (me : Instance) :
    (furnish engine component id me).Shows := by
  have hannounce : (announce component id me).Shows := by
    rw [announce]
    split
    · exact .noted
    · exact .pure _
  have hattach : (attach component id).Shows := by
    rw [attach]
    split
    · exact .pure _
    · exact .noted
  exact .bind hannounce fun _ => .bind hattach fun _ =>
    .bind (supplyNeeds_shows id component.needs) fun _ => supplyWishes_shows id component.wishes

theorem assemble_shows (id : Ident) : (assemble engine id).Shows := by
  refine .bind (.read _) fun component => ?_
  cases component with
  | none => exact .fail _
  | some component =>
    refine .bind (.fresh _) fun me => .bind (.mapError (furnish_shows component id me)) fun _ => ?_
    cases component.fault with
    | none => exact .pure _
    | some text => exact .fail _

end Assembly

/-! ## Steps and routines -/

theorem Settle.yield_shows (id : Ident) (passed : Option Instance) (settle : Settle) :
    (settle.yield id passed).Shows := by
  match settle with
  | .fail text => exact .fail _
  | .panic payload => exact .unwind payload
  | .wrap title =>
    cases passed with
    | some p => exact .fresh _
    | none => exact .fresh _
  | .same =>
    cases passed with
    | some p => exact .pure _
    | none => exact .fresh _
  | .fresh label => exact .fresh _
  | .nothing => exact .fresh _
  | .recall name =>
    refine .bind (.read _) fun held => ?_
    cases held with
    | some held => exact .pure _
    | none => exact .fail _

theorem Settle.produce_shows (id : Ident) (settle : Settle) : (settle.produce id).Shows := by
  cases settle with
  | nothing => exact .pure _
  | _ => exact .map (yield_shows id none _)

namespace Step

variable {engine : Engine}

theorem bind_shows {ε : Type} (binding : Option String) (answer : Answer Instance) :
    (bind binding answer : Run ε Unit).Shows := by
  unfold bind
  split
  · exact .update (fun _ => rfl) fun _ => rfl
  · exact .update (fun _ => rfl) fun _ => rfl
  · exact .pure _

theorem take_shows (step : Step) : (step.take engine).Shows := by
  obtain ⟨op, must, binding⟩ := step
  refine .bind (.attempt .noted) fun ending => ?_
  cases ending with
  | ok answer => exact bind_shows binding answer
  | error failure => cases must <;> exact .conclude _
  | panic payload => cases must <;> exact .conclude _

theorem takeAll_shows (steps : List Step) : (takeAll engine steps).Shows := by
  induction steps with
  | nil => exact .pure _
  | cons first rest ih => exact .bind (take_shows first) fun _ => ih

end Step

namespace Routine

open Run (Shows)

variable {engine : Engine} {s t : Session}

theorem run_shown (role : Role) (routine : Routine) {outcome : Outcome Cause Instance}
    (h : routine.run engine role s = some (outcome, t)) : t.Shown := by
  cases routine with
  | scripted id body settle =>
    exact Shows.entered (.bind (Step.takeAll_shows body) fun _ => Settle.yield_shows id none settle) h
  | contender id settle => exact Shows.entered (Settle.yield_shows id none settle) h
  | assembly id => exact Shows.entered (Assembly.assemble_shows id) h
  | handover id held => exact Shows.entered (.pure held) h

theorem produce_shown (routine : Routine) {outcome : Outcome Cause (Option Instance)}
    (h : routine.produce engine s = some (outcome, t)) : t.Shown := by
  have hplain : ∀ {plain : Routine},
      (plain.run engine .production >>= fun made => pure (some made)) s = some (outcome, t) →
        t.Shown := by
    intro plain hrun
    obtain ⟨ending, hwork, -⟩ := Run.map_inv hrun
    exact run_shown .production plain hwork
  cases routine with
  | scripted id body settle =>
    exact Shows.entered (.bind (Step.takeAll_shows body) fun _ => Settle.produce_shows id settle) h
  | contender _ _ | assembly _ | handover _ _ => exact hplain h

theorem process_shown (routine : Routine) (product : Instance) (id : Ident)
    {outcome : Outcome Cause Instance}
    (h : routine.process engine product id s = some (outcome, t)) : t.Shown := by
  have hplain : ∀ plain : Routine,
      plain.run engine .postProcessing s = some (outcome, t) → t.Shown :=
    fun plain hrun => run_shown .postProcessing plain hrun
  cases routine with
  | scripted _ body settle =>
    exact Shows.entered
      (.bind (Step.takeAll_shows body) fun _ => Settle.yield_shows id (some product) settle) h
  | contender name settle => exact hplain (.contender name settle) h
  | assembly name => exact hplain (.assembly name) h
  | handover name held => exact hplain (.handover name held) h

end Routine

/-- **Every callback ends right after an entry** that is to make something. -/
theorem shows_ofDepth (depth : Nat) : (Engine.ofDepth depth).Shows := by
  cases depth with
  | zero =>
    exact
      { construct := fun _ _ _ _ h => absurd h (Option.some_ne_none _).symm
        produce := fun _ _ _ _ h => absurd h (Option.some_ne_none _).symm
        process := fun _ _ _ _ _ _ h => absurd h (Option.some_ne_none _).symm }
  | succ depth =>
    exact
      { construct := fun make _ _ _ h => Routine.run_shown .construction make h
        produce := fun step _ _ _ h => Routine.produce_shown step h
        process := fun processor product id _ _ _ h =>
          Routine.process_shown processor product id h }

end InstanceRegistry
