import InstanceRegistry.Proofs.Courses.Frames

/-!
  Upkeep: what a run does to the graph and to the disposal hooks.

  A course keeps what creations need to be understood; that the graph changes, and that hooks come
  and go, is all it says about these.  UPKEEP is the other view of a run.  Everything is left out of
  it that touches neither the graph nor the hooks, and what is left is kept in full:

    * each command on the graph;
    * each hook that is registered, under which identifier and in place of which other;
    * the three things a destruction does to one identifier: its hook is taken, and runs after what
      is destroyed before it; its dependents are detached, and every edge of it is removed in the
      end; what it contains is detached;
    * what is dropped at the end of the destruction of the whole registry;
    * the calls, those that destroy with the report that they answer.

  Upkeep says under which identifiers hooks ran, in that order, that no call inside ran.  So in a
  call that destroys these are the ones that its report lists.

  A moment is QUIET if no destruction is on the stack.  What brackets a destruction breaks and mends
  is whole at quiet moments, for the inside of the brackets is never quiet (`Upkeep.loud`).

  Mathlib-free.
-/

namespace InstanceRegistry

/-! ## Operations and events -/

/-- Whether an operation destroys instances, one or all. -/
def Op.destroys : Op → Bool
  | destroyOne _ | destroyAll | shutdown => true
  | _ => false

/-- The hook that an operation keeps, if it begins in a registry, and under which identifier. -/
def Op.hook? (r : Registry) : Op → Option (Ident × Routine)
  | registerHook given hook => (r.accept given).toOption.map (·, hook)
  | _ => none

namespace Event

/-- Whether an event is one end of a call. -/
def isBracket : Event → Bool
  | began _ | done .. => true
  | _ => false

/-- Whether an event is neither one end of a call nor says that a hook goes. -/
def isPlain : Event → Bool
  | began _ | done .. => false
  | noticed (.disposing _) | noticed (.hookReplaced _) | noticed (.hooksDiscarded _) => false
  | _ => true

theorem isBracket_of_isPlain {event : Event} (h : event.isPlain = true) :
    event.isBracket = false := by
  cases event with
  | began _ | done _ _ _ => cases h
  | _ => rfl

end Event

theorem Routine.isBracket_entry (role : Role) (routine : Routine) :
    (routine.entry role).isBracket = false := by
  cases routine <;> rfl

theorem Routine.isPlain_entry (role : Role) (routine : Routine) :
    (routine.entry role).isPlain = true := by
  cases routine <;> rfl

/-- A hook is filed under an identifier, and a hook that was there before is reported. -/
def Session.keep (s : Session) (id : Ident) (hook : Routine) : Session :=
  let t := s.put { s.registry with hooks := s.registry.hooks.insert id hook }
  if s.registry.hooks.contains id then t.note (.noticed (.hookReplaced id)) else t

/-- A hook that is filed makes one entry at most. -/
theorem Newly.keep {P : Entry → List Entry → Prop} {s : Session} {id : Ident} {hook : Routine}
    (h : s.registry.hooks.contains id = true →
      P ⟨.noticed (.hookReplaced id),
        { s.registry with hooks := s.registry.hooks.insert id hook }⟩ s.journal) :
    Newly P s (s.keep id hook) := by
  rw [Session.keep]
  split
  · rename_i hthere
    exact .note (s := s.put _) (h hthere)
  · exact .of_eq rfl

/-! ## Upkeep -/

/-- What can happen to the graph and the hooks from one session to a later one, and under which
    identifiers hooks ran meanwhile that no call inside ran. -/
inductive Upkeep : Session → Session → List Ident → Prop
  | rest (s : Session) : Upkeep s s []
  | next {s t u : Session} {ids ids' : List Ident} (first : Upkeep s t ids)
      (second : Upkeep t u ids') : Upkeep s u (ids ++ ids')
  /-- Something else changes. -/
  | apart {s t : Session} (hgraph : t.registry.graph = s.registry.graph)
      (hhooks : t.registry.hooks = s.registry.hooks) (hjournal : t.journal = s.journal) :
      Upkeep s t []
  | note {s : Session} {event : Event} (hplain : event.isPlain = true) : Upkeep s (s.note event) []
  | graph {s : Session} (command : Graph.Command) :
      Upkeep s (s.put { s.registry with graph := (@Graph.run Unit s.registry.graph command).2 }) []
  /-- A call that neither destroys nor keeps a hook. -/
  | call {s t : Session} {op : Op} {asStep : Bool} {result : Outcome Failure (Answer Instance)}
      (hop : op.destroys = false) (hhook : op.hook? s.registry = none)
      (inside : Upkeep (s.note (.began op)) t []) : Upkeep s (t.note (.done op asStep result)) []
  /-- A call that keeps a hook. -/
  | keep {s : Session} {op : Op} {asStep : Bool} {id : Ident} {hook : Routine}
      (hhook : op.hook? s.registry = some (id, hook)) :
      Upkeep s (((s.note (.began op)).keep id hook).note (.done op asStep (.ok .unit))) []
  /-- A hook is taken out; what is destroyed before it follows, and then it runs. -/
  | dispose {s t u : Session} {ids : List Ident} {id : Ident} {hook : Routine}
      (hdoing : s.Doing Op.destroys) (hpending : s.registry.hooks.get? id = some hook)
      (before : Upkeep (s.put { s.registry with hooks := s.registry.hooks.erase id }) t ids)
      (run : Upkeep ((t.note (.noticed (.disposing id))).note (hook.entry .disposal)) u []) :
      Upkeep s u (ids ++ [id])
  /-- The dependents of an identifier are detached, and in the end every edge of it is removed. -/
  | detach {s t : Session} {ids : List Ident} {id : Ident} (hdoing : s.Doing Op.destroys)
      (inside : Upkeep
        (s.put { s.registry with graph := (s.registry.graph.takeDependents id).2 }) t ids) :
      Upkeep s (t.put { t.registry with graph := t.registry.graph.forget id }) ids
  /-- What an identifier contains is detached. -/
  | release {s : Session} {id : Ident} (hdoing : s.Doing Op.destroys) :
      Upkeep s (s.put { s.registry with graph := (s.registry.graph.takeContained id).2 }) []
  /-- Everything is dropped, and hooks that never ran are reported. -/
  | empty (s : Session) :
      Upkeep s
        ((s.put s.registry.empty).note (.noticed (.hooksDiscarded s.registry.hooks.keys))) []
  /-- A call that destroys; its report lists the hooks that it ran. -/
  | destroy {s t : Session} {op : Op} {asStep : Bool} {report : Report}
      (hop : op.destroys = true) (inside : Upkeep (s.note (.began op)) t report.disposed) :
      Upkeep s (t.note (.done op asStep (.ok (.report report)))) []

/-! ## The calls under way -/

/-- An entry that is no end of a call leaves the operations under way. -/
theorem Frame.map_op_after_cons {e : Entry} (h : e.event.isBracket = false) (earlier : List Entry) :
    (after (e :: earlier)).map op = (after earlier).map op := by
  obtain ⟨event, r⟩ := e
  cases event with
  | began _ | done _ _ _ => cases h
  | entered _ _ _ | wired _ _ _ | fetched _ _ => rfl
  | noticed notice =>
    cases notice with
    | creating id => exact map_op_announce id _
    | _ => rfl

theorem Session.map_op_frames_note (s : Session) {event : Event} (h : event.isBracket = false) :
    (s.note event).frames.map Frame.op = s.frames.map Frame.op :=
  Frame.map_op_after_cons h s.journal

theorem Session.map_op_frames_keep (s : Session) (id : Ident) (hook : Routine) :
    (s.keep id hook).frames.map Frame.op = s.frames.map Frame.op := by
  rw [keep]
  split <;> rfl

namespace Upkeep

variable {s t : Session} {ids : List Ident}

/-- In the end the same operations are under way as in the beginning. -/
theorem map_op_frames (h : Upkeep s t ids) : t.frames.map Frame.op = s.frames.map Frame.op := by
  induction h with
  | rest s => rfl
  | next _ _ ih ih' => exact ih'.trans ih
  | apart _ _ hjournal => rw [Session.frames_congr hjournal]
  | @note s event hplain => exact s.map_op_frames_note (Event.isBracket_of_isPlain hplain)
  | graph _ | release _ | empty _ => rfl
  | call _ _ _ ih | destroy _ _ ih =>
    rw [Session.frames_note_done, List.map_tail, ih]
    rfl
  | @keep s op asStep id hook _ =>
    rw [Session.frames_note_done, List.map_tail, Session.map_op_frames_keep]
    rfl
  | @dispose s t u ids id hook _ _ _ _ ih ih' =>
    rw [ih', Session.map_op_frames_note _ (Routine.isBracket_entry _ hook)]
    exact ih
  | detach _ _ ih => exact ih

theorem doing {kind : Op → Bool} (h : Upkeep s t ids) : t.Doing kind ↔ s.Doing kind := by
  have hiff : ∀ u : Session,
      u.Doing kind ↔ ∃ op ∈ (u.frames.map Frame.op).head?, kind op = true := by
    intro u
    rw [Session.Doing, List.head?_map]
    cases u.frames.head? <;> simp
  rw [hiff, hiff, h.map_op_frames]

end Upkeep

/-! ## Quiet moments -/

/-- No destruction is under way after a journal. -/
def Undisturbed (journal : List Entry) : Prop := ∀ f ∈ Frame.after journal, f.op.destroys = false

/-- No destruction is on the stack at an entry: none is under way when it is made, or none
    afterwards. -/
def Quiet (e : Entry) (earlier : List Entry) : Prop := Undisturbed earlier ∨ Undisturbed (e :: earlier)

/-- A destruction is under way if some operation that destroys is. -/
theorem Session.Within.not_undisturbed {s : Session} (h : s.Within Op.destroys) {journal : List Entry}
    (hops : s.frames.map Frame.op <:+ (Frame.after journal).map Frame.op) : ¬ Undisturbed journal := by
  intro hundisturbed
  obtain ⟨f, hf, hdestroys⟩ := h
  obtain ⟨g, hg, hop⟩ := List.mem_map.1 (hops.subset (List.mem_map_of_mem hf))
  rw [← hop, hundisturbed g hg] at hdestroys
  cases hdestroys

/-- The operations of a session under way are under way at an entry, when it is made and
    afterwards. -/
def Around (s : Session) (e : Entry) (earlier : List Entry) : Prop :=
  Course.Under s earlier ∧ Course.Under s (e :: earlier)

namespace Around

variable {s t : Session}

theorem note {event : Event} (hops : t.frames.map Frame.op = s.frames.map Frame.op)
    (h : event.isBracket = false) : Newly (Around s) t (t.note event) :=
  .note ⟨.of_eq hops, .of_eq ((t.map_op_frames_note h).trans hops)⟩

theorem mono (hops : t.frames.map Frame.op = s.frames.map Frame.op) :
    ∀ e earlier, Around t e earlier → Around s e earlier := by
  intro e earlier h
  rwa [Around, Course.Under, Course.Under, hops] at h

/-- Inside a call one more operation is under way; after its end the same as before. -/
theorem call {op : Op} {asStep : Bool} {result : Outcome Failure (Answer Instance)}
    (hops : t.frames.map Frame.op = op :: s.frames.map Frame.op)
    (h : Newly (Around (s.note (.began op))) (s.note (.began op)) t) :
    Newly (Around s) s (t.note (.done op asStep result)) := by
  have hmore : s.frames.map Frame.op <:+ op :: s.frames.map Frame.op := List.suffix_cons _ _
  have hbegan : Newly (Around s) s (s.note (.began op)) := .note ⟨.of_eq rfl, hmore⟩
  have hinside := h.imp (Q := Around s) fun _ _ hunder =>
    ⟨hmore.trans hunder.1, hmore.trans hunder.2⟩
  refine hbegan.trans (hinside.trans (.note ⟨?_, ?_⟩))
  · show _ <:+ t.frames.map Frame.op
    rw [hops]
    exact hmore
  · show _ <:+ (t.note (.done op asStep result)).frames.map Frame.op
    rw [Session.frames_note_done, List.map_tail, hops]
    exact List.suffix_rfl

end Around

namespace Upkeep

variable {s t : Session} {ids : List Ident}

/-- What is under way in the beginning is under way around each entry. -/
theorem around (h : Upkeep s t ids) : Newly (Around s) s t := by
  induction h with
  | rest s => exact .of_eq rfl
  | next first _ ih ih' => exact ih.trans (ih'.imp (Around.mono first.map_op_frames))
  | apart _ _ hjournal => exact .of_eq hjournal
  | note hplain => exact Around.note rfl (Event.isBracket_of_isPlain hplain)
  | graph _ | release _ => exact .of_eq rfl
  | call _ _ inside ih | destroy _ inside ih => exact Around.call inside.map_op_frames ih
  | @keep s op asStep id hook _ =>
    exact Around.call (Session.map_op_frames_keep _ id hook) (.keep fun _ => ⟨.of_eq rfl, .of_eq rfl⟩)
  | @dispose s t u ids id hook _ _ before run ih ih' =>
    have hdisposing : Newly (Around s) t (t.note (.noticed (.disposing id))) :=
      Around.note before.map_op_frames rfl
    have hops : (t.note (.noticed (.disposing id))).frames.map Frame.op = s.frames.map Frame.op :=
      before.map_op_frames
    have hentry := Routine.isBracket_entry .disposal hook
    have hstarted := ih'.imp (Around.mono ((Session.map_op_frames_note _ hentry).trans hops))
    exact .trans ih (hdisposing.trans ((Around.note hops hentry).trans hstarted))
  | detach _ _ ih => exact ih
  | empty s => exact Around.note (t := s.put _) rfl rfl

/-- **No moment is quiet inside a destruction**, so whatever is said of quiet moments holds there. -/
theorem loud (h : Upkeep s t ids) (hs : s.Within Op.destroys) {P : Entry → List Entry → Prop} :
    Newly (fun e earlier => Quiet e earlier → P e earlier) s t := by
  refine h.around.imp fun e earlier hunder => ?_
  rintro (hundisturbed | hundisturbed)
  · exact absurd hundisturbed (hs.not_undisturbed hunder.1)
  · exact absurd hundisturbed (hs.not_undisturbed hunder.2)

end Upkeep

end InstanceRegistry
