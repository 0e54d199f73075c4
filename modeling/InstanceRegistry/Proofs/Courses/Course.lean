import InstanceRegistry.Script
import InstanceRegistry.Proofs.Runs

/-!
  Courses: what can happen between two moments of a run.

  A run is a recursion over programs, callbacks and engines.  What it does to the registry is far
  simpler: a handful of changes, of which five take a stretch of other things between their
  beginning and their end.  A COURSE keeps just that.  Its constructors are

    * moments put one after another, entries of the journal that stand for themselves, and the
      brackets `began` and `done` around a call;
    * the changes that are made at one go, each with what is known when it is made;
    * the changes that let others happen in the middle: a creation around its callback, the mark
      around a post-processor, a hook that is taken before it runs, and the destruction of the whole
      registry around its hooks.

  Whatever is to hold of every run is proved by one induction over courses, with the call stack in
  the derivation instead of in a depth of engines.  That every run takes a course is shown elsewhere.

  A change that only certain operations make says that such an operation just began, or is under way
  in the innermost call, which the journal tells.  So a run that never begins one makes no such change.
  A change that adds something says that the last entry SHOWS what it is added to.

  Some changes are the last that their call makes.  A course that ends with one says so by its EXIT,
  and then nothing follows but the entry for the end of the call, whose result fits the exit.

  Mathlib-free.
-/

namespace InstanceRegistry

/-! ## Kinds of operations -/

namespace Op

/-- Whether an operation takes finished instances away. -/
def drops : Op → Bool
  | change (.remove _) | change .clear | destroyOne _ | destroyAll | shutdown => true
  | _ => false

/-- Whether an operation destroys the whole registry. -/
def endsAll : Op → Bool
  | destroyAll | shutdown => true
  | _ => false

/-- Only operations that take something away end the registry. -/
theorem drops_of_endsAll {op : Op} (h : op.endsAll = true) : op.drops = true := by
  cases op with
  | destroyAll | shutdown => rfl
  | _ => cases h

/-- Whether an operation sets or clears marks itself.  Only a registry's parts offer these. -/
def setsMarks : Op → Bool
  | change (.enter _) | change (.leave _) | change .clearMarks => true
  | _ => false

/-- Whom an operation excludes from the check for re-entrant creation, or, with `false`, subjects
    to it again. -/
def exclusion? (r : Registry) : Op → Option (Ident × Bool)
  | change (.setExcluded id value) => some (r.canonical id, value)
  | change (.setChecked id value) => some (r.canonical id, !value)
  | create request _ =>
    if request.excluded then (r.accept request.id).toOption.map (·, true) else none
  | _ => none

/-- The request and the construction of an operation that asks for an instance and has it made if
    there is none. -/
def creation? : Op → Option (Request × Routine)
  | getOrCreate id construct => some ({ id }, construct)
  | create request construct => some (request, construct)
  | _ => none

/-- Whether an operation registers a disposal hook. -/
def registersHook : Op → Bool
  | registerHook .. => true
  | _ => false

/-- Whether an operation has a production step make a product. -/
def resolves : Op → Bool
  | resolveProduct .. => true
  | _ => false

end Op

/-! ## Calls under way -/

/-- A call that is under way: its operation, and whose construction it announced, if it did. -/
structure Frame where
  op : Op
  creating : Option Ident := none

namespace Frame

/-- A construction is announced in a call. -/
def announce (id : Ident) (f : Frame) : Frame := { f with creating := some id }

/-- Whether a construction was announced in a call. -/
def creates (f : Frame) : Bool := f.creating.isSome

/-- The calls that are under way after a journal, the innermost first. -/
def after : List Entry → List Frame
  | [] => []
  | e :: earlier =>
    match e.event with
    | .began op => ⟨op, none⟩ :: after earlier
    | .done .. => (after earlier).tail
    | .noticed (.creating id) => (after earlier).modifyHead (announce id)
    | _ => after earlier

end Frame

/-! ## Sessions -/

namespace Session

/-- Enter an event in the journal. -/
def note (s : Session) (event : Event) : Session :=
  { s with journal := ⟨event, s.registry⟩ :: s.journal }

/-- Put another registry in the place of the one there is. -/
def put (s : Session) (r : Registry) : Session := { s with registry := r }

@[simp] theorem registry_note (s : Session) (event : Event) :
    (s.note event).registry = s.registry := rfl

@[simp] theorem registry_put (s : Session) (r : Registry) : (s.put r).registry = r := rfl

theorem suffix_note (s : Session) (event : Event) : s.journal <:+ (s.note event).journal :=
  List.suffix_cons _ _

theorem suffix_note_note (s : Session) (event event' : Event) :
    s.journal <:+ ((s.note event).note event').journal :=
  (s.suffix_note event).trans ((s.note event).suffix_note event')

/-- Some operation of a kind has begun. -/
def Began (s : Session) (kind : Op → Bool) : Prop :=
  ∃ e ∈ s.journal, ∃ op, e.event = .began op ∧ kind op = true

/-- No operation of a kind has begun. -/
def Never (s : Session) (kind : Op → Bool) : Prop :=
  ∀ e ∈ s.journal, ∀ op, e.event = .began op → kind op = false

/-- The last thing that happened is that an operation began. -/
def Begins (s : Session) (op : Op) : Prop :=
  ∃ rest, s.journal = ⟨.began op, s.registry⟩ :: rest

/-- The calls that are under way, the innermost first. -/
def frames (s : Session) : List Frame := Frame.after s.journal

/-- A call of a kind of operation is under way. -/
def Within (s : Session) (kind : Op → Bool) : Prop := ∃ f ∈ s.frames, kind f.op = true

/-- The innermost call under way is of a kind of operation. -/
def Doing (s : Session) (kind : Op → Bool) : Prop := ∃ f ∈ s.frames.head?, kind f.op = true

/-- The innermost call under way asks for an instance of an identifier, under whatever name. -/
def Asked (s : Session) (id : Ident) : Prop :=
  ∃ f ∈ s.frames.head?, ∃ request make, f.op.creation? = some (request, make) ∧
    s.registry.accept request.id = .ok id

/-- The last entry shows the registry as it is now, its marks apart. -/
def Shown (s : Session) : Prop :=
  ∃ e rest, s.journal = e :: rest ∧ ∃ marks, s.registry = { e.registry with marks }

/-- The last thing that happened is that a construction was announced. -/
def Announced (s : Session) : Prop :=
  ∃ id r rest, s.journal = ⟨.noticed (.creating id), r⟩ :: rest

instance (s : Session) (kind : Op → Bool) : Decidable (s.Never kind) :=
  decidable_of_iff
    (s.journal.all fun e => match e.event with
      | .began op => !kind op
      | _ => true) (by
    rw [List.all_eq_true]
    refine forall_congr' fun e => imp_congr_right fun _ => ?_
    obtain ⟨event, r⟩ := e
    cases event <;> simp)

theorem Began.mono {s t : Session} {kind : Op → Bool} (h : s.Began kind)
    (hst : s.journal <:+ t.journal) : t.Began kind := by
  obtain ⟨e, he, hop⟩ := h
  exact ⟨e, hst.subset he, hop⟩

theorem Never.mono {s t : Session} {kind : Op → Bool} (h : t.Never kind)
    (hst : s.journal <:+ t.journal) : s.Never kind :=
  fun e he => h e (hst.subset he)

/-- What never began has not begun. -/
theorem Never.not_began {s : Session} {kind : Op → Bool} (h : s.Never kind) : ¬ s.Began kind := by
  rintro ⟨e, he, op, hop, hkind⟩
  rw [h e he op hop] at hkind
  cases hkind

theorem Began.drops_of_endsAll {s : Session} (h : s.Began Op.endsAll) : s.Began Op.drops := by
  obtain ⟨e, he, op, hop, hends⟩ := h
  exact ⟨e, he, op, hop, op.drops_of_endsAll hends⟩

theorem begins_note (s : Session) (op : Op) : (s.note (.began op)).Begins op := ⟨s.journal, rfl⟩

theorem shown_note (s : Session) (event : Event) : (s.note event).Shown :=
  ⟨_, s.journal, rfl, s.registry.marks, rfl⟩

theorem Begins.shown {s : Session} {op : Op} (h : s.Begins op) : s.Shown := by
  obtain ⟨rest, hrest⟩ := h
  exact ⟨_, rest, hrest, s.registry.marks, rfl⟩

/-- Neither what an entry shows nor that an operation just began depends on variables and the
    like. -/
theorem Begins.congr {s t : Session} {op : Op} (h : s.Begins op)
    (hregistry : t.registry = s.registry) (hjournal : t.journal = s.journal) : t.Begins op := by
  rw [Begins, hregistry, hjournal]
  exact h

theorem Shown.congr {s t : Session} (h : s.Shown) (hregistry : t.registry = s.registry)
    (hjournal : t.journal = s.journal) : t.Shown := by
  rw [Shown, hregistry, hjournal]
  exact h

/-- An entry does not show the marks, so they may change. -/
theorem Shown.put_marks {s : Session} (h : s.Shown) (marks : Marks) :
    (s.put { s.registry with marks }).Shown := by
  obtain ⟨e, rest, hjournal, m, hregistry⟩ := h
  refine ⟨e, rest, hjournal, marks, ?_⟩
  show { s.registry with marks } = _
  rw [hregistry]

/-- An operation that just began is the innermost one under way. -/
theorem Begins.frames {s : Session} {op : Op} (h : s.Begins op) :
    ∃ outer, s.frames = ⟨op, none⟩ :: outer := by
  obtain ⟨rest, hrest⟩ := h
  refine ⟨Frame.after rest, ?_⟩
  rw [Session.frames, hrest]
  rfl

theorem Begins.doing {s : Session} {op : Op} {kind : Op → Bool} (h : s.Begins op)
    (hkind : kind op = true) : s.Doing kind := by
  obtain ⟨outer, houter⟩ := h.frames
  exact ⟨⟨op, none⟩, houter ▸ rfl, hkind⟩

theorem Begins.within {s : Session} {op : Op} {kind : Op → Bool} (h : s.Begins op)
    (hkind : kind op = true) : s.Within kind := by
  obtain ⟨outer, houter⟩ := h.frames
  exact ⟨⟨op, none⟩, houter ▸ List.mem_cons_self, hkind⟩

end Session

/-- Who is under way has begun. -/
theorem Frame.began_of_mem {journal : List Entry} {f : Frame} (h : f ∈ after journal) :
    ∃ e ∈ journal, e.event = .began f.op := by
  induction journal generalizing f with
  | nil => exact absurd h List.not_mem_nil
  | cons e earlier ih =>
    have hearlier : ∀ g ∈ after earlier, ∃ e' ∈ e :: earlier, e'.event = .began g.op := by
      intro g hg
      obtain ⟨e', he', hop⟩ := ih hg
      exact ⟨e', List.mem_cons_of_mem _ he', hop⟩
    rw [after] at h
    split at h
    · rename_i op hevent
      rcases List.mem_cons.1 h with rfl | h
      · exact ⟨e, List.mem_cons_self, hevent⟩
      · exact hearlier f h
    · exact hearlier f (List.mem_of_mem_tail h)
    · -- an announcement leaves the operation of a call as it was
      cases hframes : after earlier with
      | nil =>
        rw [hframes] at h
        exact absurd h List.not_mem_nil
      | cons g outer =>
        rw [hframes] at h hearlier
        rcases List.mem_cons.1 h with rfl | h
        · exact hearlier g List.mem_cons_self
        · exact hearlier f (List.mem_cons_of_mem _ h)
    · exact hearlier f h

/-- The innermost call is under way. -/
theorem Session.Doing.within {s : Session} {kind : Op → Bool} (h : s.Doing kind) :
    s.Within kind := by
  obtain ⟨f, hf, hkind⟩ := h
  exact ⟨f, List.mem_of_head? hf, hkind⟩

theorem Session.Within.began {s : Session} {kind : Op → Bool} (h : s.Within kind) :
    s.Began kind := by
  obtain ⟨f, hf, hkind⟩ := h
  obtain ⟨e, he, hop⟩ := Frame.began_of_mem hf
  exact ⟨e, he, f.op, hop, hkind⟩

theorem Session.Doing.began {s : Session} {kind : Op → Bool} (h : s.Doing kind) : s.Began kind :=
  h.within.began

/-! ### What the primitives of a run do to them -/

namespace Run

variable {ε α : Type} (s : Session)

theorem record_note (event : Event) : (record event : Run ε Unit) s = some (.ok (), s.note event) :=
  rfl

theorem report_note (notice : Notice) :
    (report notice : Run ε Unit) s = some (.ok (), s.note (.noticed notice)) := rfl

theorem edit_put (f : Registry → Registry) :
    (edit f : Run ε Unit) s = some (.ok (), s.put (f s.registry)) := rfl

theorem transact_put (f : Registry → α × Registry) :
    (transact f : Run ε α) s = some (.ok (f s.registry).1, s.put (f s.registry).2) := rfl

variable {s}

theorem tryEdit_put {f : Registry → Except ε (α × Registry)} {value : α} {r : Registry}
    (h : f s.registry = .ok (value, r)) : tryEdit f s = some (.ok value, s.put r) := tryEdit_ok h

theorem tryEdit_refused {f : Registry → Except ε (α × Registry)} {failure : ε}
    (h : f s.registry = .error failure) : tryEdit f s = some (.error failure, s) := by
  rw [tryEdit, h]

/-- Work that is noted ends as it ends by itself, between the two entries. -/
theorem noted_inv {op : Op} {asStep : Bool} {answer : α → Answer Instance} {work : Run Failure α}
    {outcome : Outcome Failure α} {u : Session}
    (h : noted op asStep answer work s = some (outcome, u)) :
    ∃ t, work (s.note (.began op)) = some (outcome, t) ∧
      u = t.note (.done op asStep (outcome.map answer)) := by
  rw [noted, bind_ok (record_note s _)] at h
  obtain ⟨ending, t, hwork, hrest⟩ := attempt_bind_inv h
  cases hrest
  exact ⟨t, hwork, rfl⟩

end Run

/-- Whether an event stands for itself: it is no bracket of a call, and announces nothing that is to
    happen. -/
def Event.isAside : Event → Bool
  | .began _ | .done .. | .entered .. => false
  | .noticed (.creating _) | .noticed (.exposing _) | .noticed (.disposing _) => false
  | _ => true

/-- How the start of a callback is entered in the journal. -/
def Routine.entry (role : Role) : Routine → Event
  | scripted id _ _ | assembly id | handover id _ => .entered role id none
  | contender id _ => .entered role.contended id none

/-! ## Calls -/

/-- An operation that was carried out: the session in which it was called for, and how and in which
    session it ended. -/
structure Call where
  depth : Nat
  op : Op
  start : Session
  result : Outcome Failure (Answer Instance)
  stop : Session
  run : op.run (.ofDepth depth) (start.note (.began op)) = some (result, stop)

/-! ## Changes made at one go -/

/-- A change that leaves the finished instances, the marks and the lifecycle as they are. -/
inductive Session.Shift (s : Session) : Registry → Prop
  /-- A factory is offered when one is registered, under the name that is accepted. -/
  | offerFactory {given id : Ident} {factory : Routine}
      (hbegins : s.Begins (.registerFactory given factory))
      (haccept : s.registry.accept given = .ok id) : s.Shift (s.registry.offerFactory id factory)
  | takeFactory (id : Ident) : s.Shift (s.registry.takeFactory id)
  /-- A product is kept if there is none, right after the last entry. -/
  | storeProduct {id : Ident} (product : Instance) (hshown : s.Shown)
      (hnone : s.registry.products.get? id = none) : s.Shift (s.registry.storeProduct id product)
  /-- A non-fatal error is kept when it is reported, if there is a buffer. -/
  | suppress {text : String} {texts : List String} (hbegins : s.Begins (.change (.suppress text)))
      (hbuffer : s.registry.suppressed = some texts) :
      s.Shift { s.registry with suppressed := some (texts ++ [text]) }
  | graph (g : Graph) : s.Shift { s.registry with graph := g }
  | aliases (t : AliasTable) : s.Shift { s.registry with aliases := t }
  /-- A hook is kept when one is registered. -/
  | keepHook {given : Ident} {hook : Routine} (id : Ident)
      (hbegins : s.Begins (.registerHook given hook)) :
      s.Shift { s.registry with hooks := s.registry.hooks.insert id hook }

/-- What creation, destruction and the check for re-entrance go by is the same in two registries. -/
structure Registry.Still (r r' : Registry) : Prop where
  finished : r'.finished = r.finished
  marks : r'.marks = r.marks
  lifecycle : r'.lifecycle = r.lifecycle

theorem Session.Shift.still {s : Session} {r : Registry} (h : s.Shift r) : s.registry.Still r := by
  cases h with
  | @offerFactory _ id _ _ _ =>
    rw [Registry.offerFactory]
    cases s.registry.finished.contains id <;> exact ⟨rfl, rfl, rfl⟩
  | @storeProduct id _ _ _ =>
    rw [Registry.storeProduct]
    cases s.registry.finished.contains id <;> exact ⟨rfl, rfl, rfl⟩
  | takeFactory _ | suppress _ _ | graph _ | aliases _ | keepHook _ _ => exact ⟨rfl, rfl, rfl⟩

/-- Something is taken away: what is kept under one identifier, or under all of them. -/
inductive Registry.Drops (r : Registry) : Registry → Prop
  | one (id : Ident) : r.Drops (r.purge id)
  | all : r.Drops r.purgeAll

/-! ## Lookups that run a factory -/

/-- The next lookup of an identifier runs its factory: the identifier is being created, it is neither
    finished nor exposed, and its factory is pending. -/
structure Registry.Ripe (r : Registry) (id : Ident) : Prop where
  free : r.finished.get? id = none
  active : r.marks.isActive id = true
  unexposed : r.early.get? id = none
  enabled : r.config.earlyReferences = true
  pending : ∃ factory, r.factories.get? id = some factory

/-- Whether a lookup of an identifier begins, under whatever name. -/
def Entry.looksUp (id : Ident) (e : Entry) : Bool :=
  match e.event with
  | .began (.get given) => e.registry.canonical given == id
  | _ => false

/-- A lookup begins that runs the factory of an identifier. -/
def Entry.Taps (id : Ident) (e : Entry) : Prop := e.looksUp id = true ∧ e.registry.Ripe id

/-- The last thing that happened is that such a lookup began. -/
def Session.Taps (s : Session) (id : Ident) : Prop :=
  ∃ e rest, s.journal = e :: rest ∧ e.registry = s.registry ∧ e.Taps id

theorem Session.Begins.taps {s : Session} {given id : Ident} (h : s.Begins (.get given))
    (hcanonical : s.registry.canonical given = id) (hripe : s.registry.Ripe id) : s.Taps id := by
  obtain ⟨rest, hrest⟩ := h
  exact ⟨_, rest, hrest, rfl, beq_iff_eq.2 hcanonical, hripe⟩

theorem Session.Taps.ripe {s : Session} {id : Ident} (h : s.Taps id) : s.registry.Ripe id := by
  obtain ⟨e, rest, -, hregistry, -, hripe⟩ := h
  exact hregistry ▸ hripe

/-! ## How brackets close -/

/-- How a creation ends whose callback ended in some way in session `t`: with which outcome, and
    in which session. -/
inductive Creation.Closes (id : Ident) (outermost : Bool) (t : Session) :
    Outcome Cause Instance → Outcome Failure Instance → Session → Prop
  /-- The mark is gone. -/
  | stuck {made : Instance} {failure : Failure}
      (hleave : t.registry.marks.leave id = .error failure) :
      Closes id outermost t (.ok made) (.error failure)
        (t.put (t.registry.abandonCreation outermost id))
  /-- Somebody else's instance is bound. -/
  | occupied {made : Instance} {marks : Marks} {failure : Failure}
      (hleave : t.registry.marks.leave id = .ok marks)
      (hcommit : (t.registry.abandonCreation outermost id).commit id made = .error failure) :
      Closes id outermost t (.ok made) (.error failure)
        (t.put (t.registry.abandonCreation outermost id))
  /-- The new instance is bound. -/
  | bound {made : Instance} {marks : Marks} {r : Registry}
      (hleave : t.registry.marks.leave id = .ok marks)
      (hcommit : (t.registry.abandonCreation outermost id).commit id made = .ok r) :
      Closes id outermost t (.ok made) (.ok made) (t.put r)
  /-- The callback failed, and somebody else's instance is bound. -/
  | recovered {cause : Cause} {existing : Instance}
      (hfound : (t.registry.abandonCreation outermost id).finished.get? id = some existing) :
      Closes id outermost t (.error cause) (.ok existing)
        ((t.put ((t.registry.abandonCreation outermost id).retract id)).note
          (.noticed (.appeared id cause)))
  /-- The callback failed. -/
  | failed {cause : Cause} {marks : Marks}
      (hfree : (t.registry.abandonCreation outermost id).finished.get? id = none)
      (hleave : t.registry.marks.leave id = .ok marks) :
      Closes id outermost t (.error cause)
        (.error (.construction id cause (t.registry.takeSuppressed outermost).1))
        (t.put (((t.registry.abandonCreation outermost id).retract id).unlist id))
  /-- The callback failed, and the mark is gone. -/
  | mismatched {cause : Cause} {failure : Failure}
      (hfree : (t.registry.abandonCreation outermost id).finished.get? id = none)
      (hleave : t.registry.marks.leave id = .error failure) :
      Closes id outermost t (.error cause)
        (.error (.construction id cause (t.registry.takeSuppressed outermost).1))
        ((t.put (((t.registry.abandonCreation outermost id).retract id).unlist id)).note
          (.noticed (.mismatched id failure)))
  /-- The callback panicked. -/
  | unwound {payload : Panic} :
      Closes id outermost t (.panic payload) (.panic payload)
        (t.put (t.registry.abandonCreation outermost id))

/-- What is left when the hooks have run is dropped, and hooks that never ran are reported. -/
inductive Destruction.Empties (t : Session) : Session → Prop
  | silently : Empties t (t.put t.registry.empty)
  | reporting (ids : List Ident) :
      Empties t ((t.put t.registry.empty).note (.noticed (.hooksDiscarded ids)))

/-! ## Courses -/

/-- What a course ends with, as far as that ends its call. -/
inductive Course.Exit where
  /-- Nothing that ends the call: anything may follow. -/
  | onward
  /-- A creation, with an outcome. -/
  | created (outcome : Outcome Failure Instance)
  /-- An early reference that was exposed. -/
  | exposed
  /-- A product that was processed under a mark. -/
  | processed

/-- Whether a call of an operation may have a result when its course ends in a certain way. -/
def Course.Exit.Fits (op : Op) (result : Outcome Failure (Answer Instance)) : Course.Exit → Prop
  | onward | exposed => True
  | created outcome =>
    op.creation?.isSome = true ∧ result = outcome.map fun made => .found (some made)
  | processed => op.resolves = true

/-- What can happen from one session to a later one. -/
inductive Course : Session → Session → (exit : Course.Exit := .onward) → Prop
  | rest (s : Session) : Course s s
  | next {s t u : Session} {exit : Course.Exit} (first : Course s t) (second : Course t u exit) :
      Course s u exit
  /-- Variables, serial numbers and the like change, which neither the registry nor the journal
      notices. -/
  | aside {s t : Session} (hregistry : t.registry = s.registry) (hjournal : t.journal = s.journal) :
      Course s t
  | note {s : Session} {event : Event} (haside : event.isAside = true) : Course s (s.note event)
  /-- A callback starts; for a construction, right after that was announced. -/
  | enter {s : Session} {role : Role} {id : Ident} {passed : Option Instance}
      (hannounced : role.constructs = true → s.Announced) :
      Course s (s.note (.entered role id passed))
  | call (c : Call) (asStep : Bool) {exit : Course.Exit} (hfits : exit.Fits c.op c.result)
      (inside : Course (c.start.note (.began c.op)) c.stop exit) :
      Course c.start (c.stop.note (.done c.op asStep c.result))
  | shift {s : Session} {r : Registry} (h : s.Shift r) : Course s (s.put r)
  | drop {s : Session} {r : Registry} (hdoing : s.Doing Op.drops) (h : s.registry.Drops r) :
      Course s (s.put r)
  | exclude {s : Session} {op : Op} {id : Ident} {value : Bool} (hbegins : s.Begins op)
      (h : op.exclusion? s.registry = some (id, value)) :
      Course s (s.put { s.registry with marks := s.registry.marks.setExcluded id value })
  | setMarks {s : Session} {marks : Marks} (hdoing : s.Doing Op.setsMarks)
      (h : marks.excluded = s.registry.marks.excluded) :
      Course s (s.put { s.registry with marks })
  /-- An instance that was made elsewhere is bound, under the name that is accepted. -/
  | register {s : Session} {given id : Ident} {origin : Source} {made : Instance} {r : Registry}
      (hbegins : s.Begins (.registerInstance given origin))
      (haccept : s.registry.accept given = .ok id)
      (hopen : s.registry.lifecycle.allowsCreation = true)
      (hchecked : s.registry.marks.isChecked id = false)
      (hcommit : s.registry.commit id made = .ok r) : Course s (s.put r)
  /-- A lookup takes the factory of an identifier out and runs it; the early reference that it made
      is announced and kept. -/
  | expose {s t : Session} {id : Ident} {early : Instance} (htaps : s.Taps id)
      (inside : Course (s.put (s.registry.takeFactory id)) t) :
      Course s ((t.note (.noticed (.exposing id))).put (t.registry.expose id early)) .exposed
  /-- A construction is announced, and refused. -/
  | announce {s : Session} {id : Ident} {failure : Failure}
      (hfree : s.registry.finished.get? id = none)
      (hopen : s.registry.lifecycle.allowsCreation = true)
      (hrefused : s.registry.openCreation id = .error failure) :
      Course s (s.note (.noticed (.creating id))) (.created (.error failure))
  /-- A creation: announced in the call that asks for it, opened, left to its callback, and closed
      right after the callback's last entry. -/
  | create {s t u : Session} {id : Ident} {outermost : Bool} {r : Registry}
      {ending : Outcome Cause Instance} {outcome : Outcome Failure Instance}
      (hasked : s.Asked id)
      (hfree : s.registry.finished.get? id = none)
      (hopen : s.registry.lifecycle.allowsCreation = true)
      (hmark : s.registry.openCreation id = .ok (outermost, r))
      (inside : Course ((s.note (.noticed (.creating id))).put r) t) (hshown : t.Shown)
      (hclose : Creation.Closes id outermost t ending outcome u) : Course s u (.created outcome)
  /-- A product is processed under the mark of its identifier, and may be kept right after the last
      entry, whatever has been kept meanwhile. -/
  | process {s t : Session} {id : Ident} {marks : Marks} {products : Store Instance}
      (hmark : s.registry.marks.enter id = .ok marks)
      (inside : Course (s.put { s.registry with marks }) t) (hshown : t.Shown)
      (hproducts : products = t.registry.products ∨
        ∃ processed, products = (t.registry.storeProduct id processed).products) :
      Course s
        (t.put { t.registry with marks := t.registry.marks.leaveQuietly id, products }) .processed
  /-- A hook is taken out; what is destroyed before it follows, and then it is announced and
      starts. -/
  | dispose {s t : Session} {id : Ident} {hook : Routine}
      (hpending : s.registry.hooks.get? id = some hook)
      (inside : Course (s.put { s.registry with hooks := s.registry.hooks.erase id }) t) :
      Course s ((t.note (.noticed (.disposing id))).note (hook.entry .disposal))
  /-- The whole registry is destroyed: hooks run, and what is left goes. -/
  | destroy {s t u : Session} (hdoing : s.Doing Op.endsAll)
      (hactive : s.registry.lifecycle = .active)
      (inside : Course (s.put { s.registry with lifecycle := .destroying }) t)
      (hrest : Destruction.Empties t u) :
      Course s (u.put { u.registry with lifecycle := .destroyed })

/-! ## The journal only grows -/

theorem Creation.Closes.suffix {id : Ident} {outermost : Bool} {t u : Session}
    {ending : Outcome Cause Instance} {outcome : Outcome Failure Instance}
    (h : Creation.Closes id outermost t ending outcome u) : t.journal <:+ u.journal := by
  cases h with
  | recovered _ => exact List.suffix_cons _ _
  | mismatched _ _ => exact List.suffix_cons _ _
  | stuck _ | occupied _ _ | bound _ _ | failed _ _ | unwound => exact List.suffix_rfl

namespace Destruction.Empties

variable {t u : Session}

theorem suffix (h : Empties t u) : t.journal <:+ u.journal := by
  cases h with
  | silently => exact List.suffix_rfl
  | reporting _ => exact List.suffix_cons _ _

theorem registry (h : Empties t u) : u.registry = t.registry.empty := by
  cases h <;> rfl

end Destruction.Empties

namespace Course

variable {s t : Session} {exit : Exit}

/-- What a course leaves of the journal is what it found and new entries before that. -/
theorem suffix (h : Course s t exit) : s.journal <:+ t.journal := by
  induction h with
  | rest s => exact List.suffix_rfl
  | next _ _ ih ih' => exact ih.trans ih'
  | aside _ hjournal => exact hjournal ▸ List.suffix_rfl
  | note _ | enter _ | announce _ _ _ => exact List.suffix_cons _ _
  | call c asStep _ _ ih => exact ((List.suffix_cons _ _).trans ih).trans (List.suffix_cons _ _)
  | shift _ | drop _ _ | exclude _ _ | setMarks _ _ | register _ _ _ _ _ => exact List.suffix_rfl
  | expose _ _ ih => exact ih.trans (List.suffix_cons _ _)
  | create _ _ _ _ _ _ hclose ih => exact ((List.suffix_cons _ _).trans ih).trans hclose.suffix
  | process _ _ _ _ ih => exact ih
  | @dispose s t id hook _ _ ih => exact ih.trans (t.suffix_note_note _ _)
  | destroy _ _ _ hrest ih => exact ih.trans hrest.suffix

end Course

/-! ## New entries -/

/-- An entry of a stretch, with those before it, is one of the stretch or was there before. -/
theorem Entry.mem_or_suffix {e : Entry} {l between earlier : List Entry}
    (h : (e :: l) <:+ between ++ earlier) : e ∈ between ∨ (e :: l) <:+ earlier := by
  induction between with
  | nil => exact .inr h
  | cons b between ih =>
    rcases List.suffix_cons_iff.1 h with heq | h
    · cases heq
      exact .inl List.mem_cons_self
    · exact (ih h).imp_left (List.mem_cons_of_mem b)

/-- Every entry of a session's journal that an earlier session did not have is as described, given
    the entries before it. -/
def Newly (P : Entry → List Entry → Prop) (s t : Session) : Prop :=
  ∀ e earlier, (e :: earlier) <:+ t.journal → (e :: earlier) <:+ s.journal ∨ P e earlier

namespace Newly

variable {P Q : Entry → List Entry → Prop} {s t u : Session}

theorem of_eq (hjournal : t.journal = s.journal) : Newly P s t := by
  intro e earlier he
  exact .inl (hjournal ▸ he)

theorem note {event : Event} (h : P ⟨event, s.registry⟩ s.journal) : Newly P s (s.note event) := by
  intro e earlier he
  rcases List.suffix_cons_iff.1 he with heq | hs
  · cases heq
    exact .inr h
  · exact .inl hs

/-- The entries of a stretch are new after it. -/
theorem stretch {P : Entry → Prop} {later : List Entry} (hjournal : t.journal = later ++ s.journal)
    (h : ∀ e ∈ later, P e) : Newly (fun e _ => P e) s t := by
  intro e earlier he
  rw [hjournal] at he
  exact (Entry.mem_or_suffix he).symm.imp_right (h e)

/-- What is done to the registry is no entry. -/
theorem put (h : Newly P s t) (r : Registry) : Newly P s (t.put r) := h

theorem trans (h : Newly P s t) (h' : Newly P t u) : Newly P s u := by
  intro e earlier he
  rcases h' e earlier he with ht | hP
  · exact h e earlier ht
  · exact .inr hP

theorem imp (h : Newly P s t) (hPQ : ∀ e earlier, P e earlier → Q e earlier) : Newly Q s t := by
  intro e earlier he
  rcases h e earlier he with hs | hP
  · exact .inl hs
  · exact .inr (hPQ e earlier hP)

/-- What is said of a stretch is said of every part of it. -/
theorem between {s' t' : Session} (h : Newly P s t) (hs : s.journal <:+ s'.journal)
    (ht : t'.journal <:+ t.journal) : Newly P s' t' := by
  intro e earlier he
  rcases h e earlier (he.trans ht) with hold | hP
  · exact .inl (hold.trans hs)
  · exact .inr hP

/-- An entry that comes after the earlier session is as described. -/
theorem after (h : Newly P s t) {e : Entry} {earlier : List Entry}
    (he : (e :: earlier) <:+ t.journal) (hs : s.journal <:+ earlier) : P e earlier := by
  rcases h e earlier he with hold | hP
  · exact absurd (hold.trans hs).length_le (by simp)
  · exact hP

/-- If the last entry of the earlier session is of a kind, and every new one, then so is the last one of
    the later session. -/
theorem latest {P : Entry → Prop} (h : Newly (fun e _ => P e) s t)
    (hst : s.journal <:+ t.journal) (hs : ∀ e ∈ s.journal.head?, P e) :
    ∀ e ∈ t.journal.head?, P e := by
  intro e he
  cases hjournal : t.journal with
  | nil =>
    rw [hjournal] at he
    cases he
  | cons e' rest =>
    rw [hjournal] at he hst
    cases he
    rcases h e rest (hjournal ▸ List.suffix_rfl) with hold | hP
    · exact hs e (hst.eq_of_length_le hold.length_le ▸ rfl)
    · exact hP

/-- From a start without a past, every entry is as described. -/
theorem all (h : Newly P s t) (hstart : s.journal = []) {later earlier : List Entry} {e : Entry}
    (he : t.journal = later ++ e :: earlier) : P e earlier := by
  rcases h e earlier ⟨later, he.symm⟩ with hs | hP
  · rw [hstart] at hs
    exact absurd (List.suffix_nil.1 hs) (List.cons_ne_nil _ _)
  · exact hP

end Newly

/-- All that a creation reports when it closes stands for itself. -/
theorem Creation.Closes.newly {P : Entry → List Entry → Prop} {id : Ident} {outermost : Bool}
    {t u : Session} {ending : Outcome Cause Instance} {outcome : Outcome Failure Instance}
    (h : Creation.Closes id outermost t ending outcome u)
    (hP : ∀ event, event.isAside = true → P ⟨event, u.registry⟩ t.journal) : Newly P t u := by
  cases h with
  | recovered _ | mismatched _ _ => exact .note (hP _ rfl)
  | stuck _ | occupied _ _ | bound _ _ | failed _ _ | unwound => exact .of_eq rfl

/-- And all that is reported when the hooks have run. -/
theorem Destruction.Empties.newly {P : Entry → List Entry → Prop} {t u : Session}
    (h : Destruction.Empties t u)
    (hP : ∀ event, event.isAside = true → P ⟨event, u.registry⟩ t.journal) : Newly P t u := by
  cases h with
  | silently => exact .of_eq rfl
  | reporting ids => exact .note (hP _ rfl)

end InstanceRegistry
