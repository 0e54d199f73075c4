import InstanceRegistry.Proofs.Courses.Course

/-!
  The calls under way.

  The journal brackets every call, so at each moment it tells which calls are under way.  A course
  leaves them as it found them, except that one which ends with a creation was announced in the
  innermost of them; in between there are only more of them.  So a registry is being destroyed only
  inside a call that destroys the whole of it.

  Mathlib-free.
-/

namespace InstanceRegistry

/-! ## How an entry changes them -/

namespace Session

variable (s : Session)

@[simp] theorem frames_put (r : Registry) : (s.put r).frames = s.frames := rfl

@[simp] theorem frames_note_began (op : Op) :
    (s.note (.began op)).frames = ⟨op, none⟩ :: s.frames := rfl

@[simp] theorem frames_note_done (op : Op) (asStep : Bool)
    (result : Outcome Failure (Answer Instance)) :
    (s.note (.done op asStep result)).frames = s.frames.tail := rfl

@[simp] theorem frames_note_creating (id : Ident) :
    (s.note (.noticed (.creating id))).frames = s.frames.modifyHead (Frame.announce id) := rfl

@[simp] theorem frames_note_entry (role : Role) (routine : Routine) :
    (s.note (routine.entry role)).frames = s.frames := by
  cases routine <;> rfl

variable {s}

theorem frames_note_aside {event : Event} (h : event.isAside = true) :
    (s.note event).frames = s.frames := by
  cases event with
  | began _ | done _ _ _ | entered _ _ _ => cases h
  | wired _ _ _ | fetched _ _ => rfl
  | noticed notice =>
    cases notice with
    | creating _ | exposing _ | disposing _ => cases h
    | _ => rfl

theorem frames_congr {t : Session} (h : t.journal = s.journal) : t.frames = s.frames :=
  congrArg Frame.after h

/-- Announcing a construction leaves the innermost call what it is. -/
theorem doing_announced (kind : Op → Bool) (id : Ident) (r : Registry) :
    ((s.note (.noticed (.creating id))).put r).Doing kind ↔ s.Doing kind := by
  rw [Doing, Doing, frames_put, frames_note_creating]
  cases s.frames with
  | nil => exact Iff.rfl
  | cons f outer =>
    constructor
    · rintro ⟨_, ⟨⟩, hkind⟩
      exact ⟨f, rfl, hkind⟩
    · rintro ⟨_, ⟨⟩, hkind⟩
      exact ⟨f.announce id, rfl, hkind⟩

/-- The innermost call under way announced the construction of an identifier. -/
def Making (s : Session) (id : Ident) : Prop := ∃ f ∈ s.frames.head?, f.creating = some id

theorem making_announced {f : Frame} (h : f ∈ s.frames.head?) (id : Ident) :
    (s.note (.noticed (.creating id))).Making id := by
  rw [Making, frames_note_creating, List.head?_modifyHead, Option.mem_def.1 h]
  exact ⟨_, rfl, rfl⟩

theorem Making.congr {t : Session} {id : Ident} (h : s.Making id) (hframes : t.frames = s.frames) :
    t.Making id := by
  rw [Making, hframes]
  exact h

/-- A call is of one kind only, if no operation is of both. -/
theorem Doing.disjoint {kind kind' : Op → Bool} (h : s.Doing kind) (h' : s.Doing kind')
    (hkinds : ∀ op, kind op = true → kind' op = false) : False := by
  obtain ⟨f, hf, hkind⟩ := h
  obtain ⟨g, hg, hkind'⟩ := h'
  cases Option.some.inj ((Option.mem_def.1 hf).symm.trans (Option.mem_def.1 hg))
  rw [hkinds f.op hkind] at hkind'
  cases hkind'

end Session

/-- Announcing a construction changes no operation. -/
@[simp] theorem Frame.map_op_announce (id : Ident) (frames : List Frame) :
    (frames.modifyHead (announce id)).map Frame.op = frames.map Frame.op := by
  cases frames <;> rfl

/-! ## What a course leaves of them -/

theorem Creation.Closes.frames {id : Ident} {outermost : Bool} {t u : Session}
    {ending : Outcome Cause Instance} {outcome : Outcome Failure Instance}
    (h : Creation.Closes id outermost t ending outcome u) : u.frames = t.frames := by
  cases h <;> rfl

theorem Destruction.Empties.frames {t u : Session} (h : Destruction.Empties t u) :
    u.frames = t.frames := by
  cases h <;> rfl

namespace Course

variable {s t : Session} {exit : Exit}

/-- What becomes of the calls under way in a course that ends in a certain way. -/
def Exit.Leaves (before after : List Frame) : Exit → Prop
  | created _ => ∃ id, after = before.modifyHead (Frame.announce id)
  | onward | exposed | processed => after = before

/-- **A course leaves the calls under way as it found them**, up to the announcement of the creation
    that it ends with. -/
theorem leaves (h : Course s t exit) : exit.Leaves s.frames t.frames := by
  induction h with
  | rest s => rfl
  | @next s t u exit _ _ ih ih' =>
    have hmiddle : t.frames = s.frames := ih
    rw [← hmiddle]
    exact ih'
  | aside _ hjournal => exact Session.frames_congr hjournal
  | note haside => exact Session.frames_note_aside haside
  | enter _ => rfl
  | expose _ _ ih => exact ih
  | announce _ _ _ => exact ⟨_, rfl⟩
  | @call c asStep exit _ _ ih =>
    rw [Exit.Leaves, Session.frames_note_done]
    cases exit with
    | created outcome =>
      obtain ⟨id, hid⟩ := ih
      rw [hid]
      rfl
    | onward | exposed | processed =>
      have hinside : c.stop.frames = ⟨c.op, none⟩ :: c.start.frames := ih
      rw [hinside]
      rfl
  | shift _ | drop _ _ | exclude _ _ | setMarks _ _ | register _ _ _ _ _ => rfl
  | create _ _ _ _ _ _ hclose ih => exact ⟨_, hclose.frames.trans ih⟩
  | process _ _ _ _ ih => exact ih
  | dispose _ _ ih => exact (Session.frames_note_entry _ _ _).trans ih
  | destroy _ _ _ hrest ih => exact hrest.frames.trans ih

/-- From where a course ends that does not end its call, the same calls are under way. -/
theorem frames (h : Course s t) : t.frames = s.frames := h.leaves

theorem doing {kind : Op → Bool} (h : Course s t) : t.Doing kind ↔ s.Doing kind := by
  rw [Session.Doing, Session.Doing, h.frames]

/-- No course changes the operations that are under way. -/
theorem map_op_frames (h : Course s t exit) : t.frames.map Frame.op = s.frames.map Frame.op := by
  cases exit with
  | created outcome =>
    obtain ⟨id, hid⟩ := h.leaves
    rw [hid, Frame.map_op_announce]
  | onward | exposed | processed =>
    have hleaves : t.frames = s.frames := h.leaves
    rw [hleaves]

/-- A creation that closes was announced in the call that is still the innermost one. -/
theorem making {u : Session} {id : Ident} {outermost : Bool} {r : Registry}
    {ending : Outcome Cause Instance} {outcome : Outcome Failure Instance} (hasked : s.Asked id)
    (inside : Course ((s.note (.noticed (.creating id))).put r) t)
    (hclose : Creation.Closes id outermost t ending outcome u) : u.Making id := by
  obtain ⟨f, hf, -⟩ := hasked
  have hframes : u.frames = (s.note (.noticed (.creating id))).frames :=
    hclose.frames.trans inside.frames
  exact (Session.making_announced hf id).congr hframes

/-- The operations of a session under way are under way after some entries. -/
def Under (s : Session) (earlier : List Entry) : Prop :=
  s.frames.map Frame.op <:+ (Frame.after earlier).map Frame.op

theorem Under.of_eq {u : Session} (h : u.frames.map Frame.op = s.frames.map Frame.op) :
    Under s u.journal := by
  show _ <:+ u.frames.map Frame.op
  exact h ▸ List.suffix_rfl

theorem Under.mono {u : Session} (h : u.frames.map Frame.op = s.frames.map Frame.op) :
    Entry → ∀ earlier : List Entry, Under u earlier → Under s earlier := by
  intro _ earlier hu
  rw [Under, h] at hu
  exact hu

/-- **In between there are only more calls under way**: those that a course found are under way at
    each of its entries. -/
theorem under (h : Course s t exit) : Newly (fun _ earlier => Under s earlier) s t := by
  induction h with
  | rest s => exact .of_eq rfl
  | next first _ ih ih' =>
    exact ih.trans (ih'.imp (Under.mono (congrArg (List.map Frame.op) first.frames)))
  | aside _ hjournal => exact .of_eq hjournal
  | note _ | enter _ | announce _ _ _ => exact .note (.of_eq rfl)
  | @expose s t id early _ inside ih =>
    have hend : Under s t.journal := .of_eq inside.map_op_frames
    exact .trans ih (.put (.note hend) _)
  | call c asStep _ inside ih =>
    have hops : c.stop.frames.map Frame.op = c.op :: c.start.frames.map Frame.op :=
      inside.map_op_frames
    have hinside := ih.imp (Q := fun _ earlier => Under c.start earlier) fun _ earlier hunder =>
      (List.suffix_cons c.op _).trans hunder
    refine .trans (.note (.of_eq rfl)) (hinside.trans (.note ?_))
    show _ <:+ c.stop.frames.map Frame.op
    rw [hops]
    exact List.suffix_cons _ _
  | shift _ | drop _ _ | exclude _ _ | setMarks _ _ | register _ _ _ _ _ => exact .of_eq rfl
  | @create s t u id _ r _ _ _ _ _ _ inside _ hclose ih =>
    have hops := Frame.map_op_announce id s.frames
    have hnote : Newly (fun _ earlier => Under s earlier) s ((s.note (.noticed (.creating id))).put r) :=
      .put (.note (.of_eq rfl)) r
    have hend : Under s t.journal := .of_eq (inside.map_op_frames.trans hops)
    exact hnote.trans (.trans (ih.imp (Under.mono hops)) (hclose.newly fun _ _ => hend))
  | process _ _ _ _ ih => exact ih
  | @dispose s t id hook _ inside ih =>
    have hend : Under s t.journal := .of_eq inside.map_op_frames
    exact .trans ih (.trans (.note hend) (.note hend))
  | @destroy s t u _ _ inside hrest ih =>
    have hend : Under s t.journal := .of_eq inside.map_op_frames
    exact .put (.trans ih (hrest.newly fun _ _ => hend)) _

end Course

end InstanceRegistry
