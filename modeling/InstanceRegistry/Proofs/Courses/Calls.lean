import InstanceRegistry.Proofs.Courses.Moments
import InstanceRegistry.Proofs.Courses.Scripts

/-!
  The journal is faithful: what stands behind its entries.

  Behind an entry that says that an operation is done stands a CALL: the session in which it was
  called for, the run of the operation from there, and the outcome that the entry tells.  A callback
  that was started as a construction was announced immediately before, and a construction is
  announced only for an identifier that has no finished instance, in an active registry.

  So a statement about every call of a run is a statement about every operation in it, at top level
  or inside callbacks of any depth.

  Mathlib-free.
-/

namespace InstanceRegistry

/-- The course of a call, with what it ends with. -/
def Call.OnCourse (c : Call) : Prop :=
  ∃ exit : Course.Exit, exit.Fits c.op c.result ∧ Course (c.start.note (.began c.op)) c.stop exit

/-- A call takes a course between the entry for its beginning and the one for its end. -/
theorem Call.course (c : Call) : c.OnCourse := by
  obtain ⟨exit, hfits, hcourse⟩ :=
    Op.run_serves (onCourse_ofDepth c.depth) (Session.begins_note c.start c.op) _ _ c.run
  rw [Outcome.map_id] at hfits
  exact ⟨exit, hfits, hcourse⟩

theorem Call.OnCourse.suffix {c : Call} (h : c.OnCourse) :
    (c.start.note (.began c.op)).journal <:+ c.stop.journal := by
  obtain ⟨_, -, hcourse⟩ := h
  exact hcourse.suffix

/-! ## Entries -/

/-- What stands behind an entry, given the entries before it. -/
def Entry.Accounted (e : Entry) (earlier : List Entry) : Prop :=
  match e.event with
  | .done op _ result =>
    ∃ c : Call, c.op = op ∧ c.result = result ∧ c.stop.registry = e.registry ∧
      c.stop.journal = earlier
  | .entered role _ _ =>
    role.constructs = true → ∃ id r rest, earlier = ⟨.noticed (.creating id), r⟩ :: rest
  | .noticed (.creating id) =>
    e.registry.finished.get? id = none ∧ e.registry.lifecycle.allowsCreation = true
  | _ => True

theorem Entry.accounted_of_isAside {e : Entry} (h : e.event.isAside = true)
    (earlier : List Entry) : e.Accounted earlier := by
  obtain ⟨event, r⟩ := e
  cases event with
  | began _ | done _ _ _ | entered _ _ _ => cases h
  | wired _ _ _ | fetched _ _ => exact trivial
  | noticed notice =>
    cases notice with
    | creating _ => cases h
    | _ => exact trivial

/-- **Every entry is accounted for** that a course adds to the journal. -/
theorem Course.accounted {s t : Session} {exit : Course.Exit} (h : Course s t exit) :
    Newly Entry.Accounted s t := by
  induction h with
  | rest s => exact .of_eq rfl
  | next _ _ ih ih' => exact ih.trans ih'
  | aside _ hjournal => exact .of_eq hjournal
  | note haside => exact .note (Entry.accounted_of_isAside haside _)
  | enter hannounced => exact .note hannounced
  | call c asStep _ _ ih =>
    have hbegan : Newly Entry.Accounted c.start (c.start.note (.began c.op)) := .note trivial
    exact hbegan.trans (ih.trans (.note ⟨c, rfl, rfl, rfl, rfl⟩))
  | shift _ | drop _ _ | exclude _ _ | setMarks _ _ | register _ _ _ _ _ => exact .of_eq rfl
  | expose _ _ ih => exact .trans ih (.put (.note trivial) _)
  | announce hfree hopen _ => exact .note ⟨hfree, hopen⟩
  | create _ hfree hopen _ _ _ hclose ih =>
    refine .trans (.put (.note ⟨hfree, hopen⟩) _) (.trans ih ?_)
    exact hclose.newly fun _ haside => Entry.accounted_of_isAside haside _
  | process _ _ _ _ ih => exact ih
  | @dispose s t id hook _ _ ih =>
    have hnotice : Newly Entry.Accounted t (t.note (.noticed (.disposing id))) := .note trivial
    refine .trans ih (hnotice.trans (.note ?_))
    cases hook <;> exact nofun
  | destroy _ _ _ hrest ih =>
    exact .put (.trans ih (hrest.newly fun _ haside => Entry.accounted_of_isAside haside _)) _

/-- All entries of a script's journal are accounted for. -/
theorem Script.accounted {script : Script} {depth : Nat} {outcome : Outcome Cause Unit}
    {s : Session} (h : script.runWithin depth = some (outcome, s)) {later earlier : List Entry}
    {e : Entry} (he : s.journal = later ++ e :: earlier) : e.Accounted earlier :=
  (Script.course h).accounted.all rfl he

/-! ## Moments -/

/-- What the steps of a script preserve holds at all its moments. -/
theorem Script.invariant {script : Script} {depth : Nat} {outcome : Outcome Cause Unit}
    {s : Session} (h : script.runWithin depth = some (outcome, s)) {P : Registry → Prop}
    (hstep : ∀ u r, u.journal <:+ s.journal → Course.Step u r → P u.registry → P r)
    (hstart : P script.registry) : ∀ r ∈ s.moments, P r := by
  have hthrough : Through (fun r r' => P r → P r') script.start s :=
    (Script.course h).steps (fun _ h => h) (fun h h' hx => h' (h hx)) hstep
  exact fun r hr => hthrough.since rfl r hr hstart

/-- The settings of a script's registry are those it was given. -/
theorem Script.settings {script : Script} {depth : Nat} {outcome : Outcome Cause Unit} {s : Session}
    (h : script.runWithin depth = some (outcome, s)) :
    ∀ r ∈ s.moments, r.config = script.registry.config ∧ r.guarded = script.registry.guarded := by
  refine Script.invariant h (fun u r _ hstep hu => ?_) ⟨rfl, rfl⟩
  exact ⟨hstep.settings.1.trans hu.1, hstep.settings.2.trans hu.2⟩

/-- What an entry of a session's journal shows is a moment of its past. -/
theorem Session.moment_of_suffix {s : Session} {e : Entry} {earlier : List Entry}
    (h : (e :: earlier) <:+ s.journal) : e.registry ∈ s.moments :=
  List.mem_cons_of_mem _ (List.mem_map_of_mem (h.subset List.mem_cons_self))

/-! ## Calls -/

/-- The entry for the end of a call is in a session's journal. -/
def Call.EndsIn (c : Call) (s : Session) : Prop :=
  ∃ asStep, (c.stop.note (.done c.op asStep c.result)).journal <:+ s.journal

theorem Call.EndsIn.mono {c : Call} {s t : Session} (h : c.EndsIn s)
    (hst : s.journal <:+ t.journal) : c.EndsIn t := by
  obtain ⟨asStep, hends⟩ := h
  exact ⟨asStep, hends.trans hst⟩

/-- The entry for its beginning is there as well, and shows the registry it found. -/
theorem Call.EndsIn.began {c : Call} {s : Session} (h : c.EndsIn s) :
    (c.start.note (.began c.op)).journal <:+ s.journal := by
  obtain ⟨asStep, hends⟩ := h
  exact c.course.suffix.trans ((c.stop.suffix_note _).trans hends)

/-- An operation whose end passes a check is a call, and that ends as the check says. -/
theorem Call.of_check {op : Op} {start : Session} (depth : Nat)
    {P : Outcome Failure (Answer Instance) → Session → Prop} [∀ result t, Decidable (P result t)]
    (h : ((op.run (.ofDepth depth) (start.note (.began op))).any fun e => decide (P e.1 e.2)) =
      true) :
    ∃ c : Call, c.op = op ∧ c.start = start ∧ P c.result c.stop := by
  cases hrun : op.run (.ofDepth depth) (start.note (.began op)) with
  | none =>
    rw [hrun] at h
    cases h
  | some e =>
    rw [hrun] at h
    exact ⟨⟨depth, op, start, e.1, e.2, hrun⟩, rfl, rfl, of_decide_eq_true h⟩

/-- Something is true of every call in a session's past.  It may speak of the entries that came
    after the one for the call's end. -/
def Session.EveryCall (s : Session) (P : Call → List Entry → Prop) : Prop :=
  ∀ later earlier op asStep result r,
    s.journal = later ++ ⟨.done op asStep result, r⟩ :: earlier →
      ∃ c : Call, c.op = op ∧ c.result = result ∧ c.stop.registry = r ∧ c.stop.journal = earlier ∧
        P c later

/-- What is true of each call by itself is true of every call up to a moment of a script's past. -/
theorem Script.everyCall_until {script : Script} {depth : Nat} {outcome : Outcome Cause Unit}
    {s t : Session} (h : script.runWithin depth = some (outcome, s)) (hts : t.journal <:+ s.journal)
    {P : Call → List Entry → Prop}
    (hP : ∀ (c : Call) (asStep : Bool) (later : List Entry),
      t.journal = later ++ (c.stop.note (.done c.op asStep c.result)).journal → P c later) :
    t.EveryCall P := by
  intro later earlier op asStep result r hjournal
  obtain ⟨after, hafter⟩ := hts
  have hwhole : s.journal = (after ++ later) ++ ⟨.done op asStep result, r⟩ :: earlier := by
    rw [← hafter, hjournal, List.append_assoc]
  obtain ⟨c, rfl, rfl, rfl, rfl⟩ := Script.accounted h hwhole
  exact ⟨c, rfl, rfl, rfl, rfl, hP c asStep later hjournal⟩

/-- The same for all of its past. -/
theorem Script.everyCall {script : Script} {depth : Nat} {outcome : Outcome Cause Unit}
    {s : Session} (h : script.runWithin depth = some (outcome, s))
    {P : Call → List Entry → Prop}
    (hP : ∀ (c : Call) (asStep : Bool) (later : List Entry),
      s.journal = later ++ (c.stop.note (.done c.op asStep c.result)).journal → P c later) :
    s.EveryCall P :=
  Script.everyCall_until h List.suffix_rfl hP

/-- What is true of every call may be weakened. -/
theorem Session.EveryCall.imp {s : Session} {P Q : Call → List Entry → Prop} (h : s.EveryCall P)
    (hPQ : ∀ c later, P c later → Q c later) : s.EveryCall Q := by
  intro later earlier op asStep result r hjournal
  obtain ⟨c, hop, hresult, hregistry, hearlier, hP⟩ :=
    h later earlier op asStep result r hjournal
  exact ⟨c, hop, hresult, hregistry, hearlier, hPQ c later hP⟩

end InstanceRegistry
