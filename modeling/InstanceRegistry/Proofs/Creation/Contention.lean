import Mathlib.Data.List.FinRange
import InstanceRegistry.Proofs.Courses.Moments
import InstanceRegistry.Proofs.Courses.OnCourse
import InstanceRegistry.Proofs.Marks

/-!
  Callers that ask for one identifier at the same time.

  All creations are under one lock.  A caller looks its name up, waits for the lock, does the whole
  of its creation while it holds it, and gives it back however the creation ended.  A CROWD is any
  number of callers somewhere on that way; its steps are taken by any caller that can take one, so a
  run of steps is a schedule, and the lock goes to any one of those that wait for it.

  What a schedule comes to is proved in two parts.

    * The callers that had the lock were served one after another (`Crowd.Moment`): whatever the
      others did meanwhile, the session is the one that the creations led to in the order of the lock.
    * Callers served one after another (`Served`) are told the failures and panics of their own
      constructions until the first of these succeeds, and all later ones are given its instance
      without a construction of their own (`Served.fared`).

  The crux of the second is that a creation that fails or panics leaves the next caller what it found
  itself: opening and closing a creation with nothing in between cancel
  (`closeCreation_openCreation`).
-/

namespace InstanceRegistry

/-! ## Opening and closing -/

namespace Registry

variable {r r' : Registry} {id : Ident} {outermost : Bool}

/-- A creation that is closed right after it was opened has collected nothing and left nothing. -/
theorem closeCreation_openCreation (h : r.openCreation id = .ok (outermost, r')) :
    r'.closeCreation outermost id = (⟨[], .ok ()⟩, r) := by
  obtain ⟨marks, hmark, ⟨hbuffer, rfl, rfl⟩ | ⟨texts, -, rfl, rfl⟩⟩ := openCreation_eq h
  · have hback : { r with suppressed := none } = r := by rw [← hbuffer]
    simp only [closeCreation, takeSuppressed, if_true, Marks.leave_of_enter hmark, Option.getD_some]
    rw [hback]
  · simp [closeCreation, takeSuppressed, Marks.leave_of_enter hmark]

/-- The same, part by part. -/
theorem cancels_openCreation (h : r.openCreation id = .ok (outermost, r')) :
    (r'.takeSuppressed outermost).1 = [] ∧ r'.marks.leave id = .ok r.marks ∧
      r'.abandonCreation outermost id = r := by
  have hclose := closeCreation_openCreation h
  rw [Creation.closeCreation_eq] at hclose
  obtain ⟨hclosing, hback⟩ := Prod.mk.inj hclose
  exact ⟨(Closing.mk.inj hclosing).1, Marks.leave_of_enter (openCreation_inv h).1, hback⟩

/-- An identifier that is neither marked nor excluded can be marked. -/
theorem exists_openCreation (hfree : r.marks.isActive id = false)
    (hchecked : r.marks.isExcluded id = false) :
    ∃ outermost r', r.openCreation id = .ok (outermost, r') := by
  rw [openCreation, Marks.enter, hchecked, hfree]
  exact ⟨_, _, rfl⟩

end Registry

namespace Contention

open Relation

variable {engine : Engine} {id : Ident} {make : Routine} {s t u : Session}
  {ends : Nat → Outcome Cause Unit} {outcome : Outcome Failure Instance}

/-! ## Callbacks that leave the registry alone -/

/-- A callback that leaves the registry alone.  The `k`-th time that such a callback is started since
    `s`, counted from zero, it ends as `ends k` says, with any instance if it ends well. -/
def Answers (engine : Engine) (s : Session) (ends : Nat → Outcome Cause Unit) (make : Routine) :
    Prop :=
  ∀ t, ∃ outcome u, engine.construct make t = some (outcome, u) ∧
    outcome.map (fun _ => ()) = ends (started t - started s) ∧
    u.registry = t.registry ∧ started u = started t + 1

/-- What a caller is told whose own construction did not end well. -/
inductive Refuses (id : Ident) : Outcome Cause Unit → Outcome Failure Instance → Prop where
  | error (cause : Cause) : Refuses id (.error cause) (.error (.construction id cause []))
  | panic (payload : Panic) : Refuses id (.panic payload) (.panic payload)

/-- None of the first `m` constructions ended well, and this is what their callers were told. -/
def Refused (id : Ident) (ends : Nat → Outcome Cause Unit) (m : Nat)
    (results : List (Outcome Failure Instance)) : Prop :=
  List.Forall₂ (Refuses id) ((List.range m).map ends) results

/-- How many of the first `n` constructions fail or panic before one succeeds; all of them, if none
    does. -/
def failuresFirst (ends : Nat → Outcome Cause Unit) (n : Nat) : Nat :=
  ((List.range n).takeWhile fun k => ends k ≠ .ok ()).length

section Refused

variable {m : Nat} {results : List (Outcome Failure Instance)}

theorem Refused.length_eq (h : Refused id ends m results) : results.length = m := by
  have hlength := List.Forall₂.length_eq h
  simpa using hlength.symm

/-- One more construction that does not end well. -/
theorem Refused.snoc (h : Refused id ends m results) (hnext : Refuses id (ends m) outcome) :
    Refused id ends (m + 1) (results ++ [outcome]) := by
  rw [Refused, List.range_succ, List.map_append]
  exact List.rel_append h (.cons hnext .nil)

/-- Whoever was refused had a construction that did not end well. -/
theorem Refused.ne_ok (h : Refused id ends m results) {k : Nat} (hk : k < m) : ends k ≠ .ok () := by
  obtain ⟨hlength, hall⟩ := List.forall₂_iff_get.1 h
  have hthis := hall k (by simpa using hk) (by simpa [h.length_eq] using hk)
  rw [List.get_eq_getElem, List.getElem_map, List.getElem_range] at hthis
  intro hok
  rw [hok] at hthis
  cases hthis

/-- All refusals count, and the first success ends the count. -/
theorem Refused.failuresFirst_add (h : Refused id ends m results) {later : Nat}
    (hlater : 0 < later → ends m = .ok ()) : failuresFirst ends (m + later) = m := by
  have hall : ∀ k ∈ List.range m, decide (ends k ≠ .ok ()) = true := fun k hk =>
    decide_eq_true (h.ne_ok (List.mem_range.1 hk))
  rw [failuresFirst, List.range_add, List.takeWhile_append_of_pos hall]
  cases later with
  | zero => simp
  | succ later =>
    rw [List.range_succ_eq_map]
    simp [hlater (Nat.succ_pos later)]

end Refused

/-! ## One caller -/

/-- The identifier can be created: nothing is there, and nothing stands in the way. -/
structure Vacant (start : Registry) (id : Ident) (r : Registry) : Prop where
  active : r.lifecycle = .active
  unbound : r.finished.get? id = none
  unexposed : r.early.get? id = none
  unoffered : r.factories.get? id = none
  free : r.marks.isActive id = false
  checked : r.marks.isExcluded id = false
  marks : r.marks = start.marks
  accept : r.accept = start.accept

/-- The identifier is finished, and the marks are as they were. -/
structure Bound (start : Registry) (id : Ident) (made : Instance) (r : Registry) : Prop where
  bound : r.finished.get? id = some made
  marks : r.marks = start.marks
  accept : r.accept = start.accept

/-- A failed creation leaves the identifier as vacant as it was. -/
theorem Vacant.given_up {start r : Registry} (h : Vacant start id r) :
    Vacant start id ((r.retract id).unlist id) where
  active := h.active
  unbound := h.unbound
  unexposed := Store.get?_erase_self _ _
  unoffered := Store.get?_erase_self _ _
  free := h.free
  checked := h.checked
  marks := h.marks
  accept := h.accept

/-- A creation of a vacant identifier whose callback left the registry as the opening had made it
    closes as the callback ended: the instance is bound, or the identifier is vacant again. -/
theorem Vacant.closes {start r : Registry} {outermost : Bool} {ending : Outcome Cause Instance}
    (h : Vacant start id r) (hopen : r.openCreation id = .ok (outermost, t.registry))
    (hclose : Creation.Closes id outermost t ending outcome u) :
    started u = started t ∧
      ((Refuses id (ending.map fun _ => ()) outcome ∧ Vacant start id u.registry) ∨
        ∃ made, ending = .ok made ∧ outcome = .ok made ∧ Bound start id made u.registry) := by
  obtain ⟨hbuffer, hleave, hback⟩ := Registry.cancels_openCreation hopen
  -- the mark is there, and nothing was bound meanwhile
  cases hclose with
  | stuck hstuck | mismatched _ hstuck =>
    rw [hleave] at hstuck
    cases hstuck
  | occupied _ hcommit =>
    rw [hback, Registry.commit, Store.contains, h.unbound] at hcommit
    cases hcommit
  | recovered hfound =>
    rw [hback, h.unbound] at hfound
    cases hfound
  | bound _ hcommit =>
    obtain ⟨-, rfl⟩ := Registry.commit_eq hcommit
    rw [hback]
    exact ⟨rfl, .inr ⟨_, rfl, rfl, Store.get?_insert_self _ _ _, h.marks, h.accept⟩⟩
  | failed =>
    rw [hbuffer, hback]
    exact ⟨rfl, .inl ⟨.error _, h.given_up⟩⟩
  | unwound =>
    rw [hback]
    exact ⟨rfl, .inl ⟨.panic _, h⟩⟩

/-- **One caller** of a vacant identifier runs its construction.  If that ends well, the instance is
    bound and handed out; if not, the identifier is left vacant. -/
theorem creation_answered {start : Session} (hvacant : Vacant start.registry id t.registry)
    (hmake : Answers engine start ends make)
    (h : Creation.getOrCreate engine id make t = some (outcome, u)) :
    started u = started t + 1 ∧
      ((Refuses id (ends (started t - started start)) outcome ∧ Vacant start.registry id u.registry) ∨
        ∃ made t' u', ends (started t - started start) = .ok () ∧ outcome = .ok made ∧
          engine.construct make t' = some (.ok made, u') ∧ started t' = started t ∧
          Bound start.registry id made u.registry) := by
  rcases Creation.getOrCreate_inv h with ⟨found, hfound, -⟩ | ⟨-, ⟨hclosed, -⟩ | ⟨-, hconstruct⟩⟩
  · rw [hvacant.unbound] at hfound
    cases hfound
  · rw [hvacant.active] at hclosed
    cases hclosed
  rcases Creation.construct_inv hconstruct with ⟨failure, hrefused, -⟩ |
    ⟨outermost, r, ending, t', hopen, hcall, hclose⟩
  · obtain ⟨_, _, hopen⟩ := Registry.exists_openCreation hvacant.free hvacant.checked
    rw [hopen] at hrefused
    cases hrefused
  obtain ⟨ending', u', hends, hkind, hkept, hcount⟩ :=
    hmake ((t.note (.noticed (.creating id))).put r)
  obtain ⟨rfl, rfl⟩ : ending' = ending ∧ u' = t' := by
    rw [hends] at hcall
    cases hcall
    exact ⟨rfl, rfl⟩
  change u'.registry = r at hkept
  change started u' = started t + 1 at hcount
  change _ = ends (started t - started start) at hkind
  obtain ⟨hclosed, hcase⟩ := hvacant.closes (hkept ▸ hopen) hclose
  refine ⟨hclosed.trans hcount, ?_⟩
  rw [hkind] at hcase
  rcases hcase with hrefused | ⟨made, rfl, rfl, hbound⟩
  · exact .inl hrefused
  · exact .inr ⟨made, _, _, hkind.symm, rfl, hends, rfl, hbound⟩

/-- A caller of a finished identifier is given its instance, and nothing happens. -/
theorem creation_found {start : Registry} {made : Instance} (hbound : Bound start id made t.registry)
    (h : Creation.getOrCreate engine id make t = some (outcome, u)) : outcome = .ok made ∧ u = t := by
  rcases Creation.getOrCreate_inv h with ⟨found, hfound, rfl, rfl⟩ | ⟨hunbound, -⟩
  · rw [hbound.bound] at hfound
    cases hfound
    exact ⟨rfl, rfl⟩
  · rw [hbound.bound] at hunbound
    cases hunbound

/-! ## Creations come to an end -/

/-- Work that comes to an end from wherever it starts. -/
def Halts {ε α : Type} (work : Run ε α) : Prop := ∀ s, ∃ outcome t, work s = some (outcome, t)

theorem Halts.bind {ε α β : Type} {work : Run ε α} {next : α → Run ε β} (h : Halts work)
    (hnext : ∀ value, Halts (next value)) : Halts (work >>= next) := by
  intro s
  obtain ⟨outcome, t, hwork⟩ := h s
  cases outcome with
  | ok value =>
    rw [Run.bind_ok hwork]
    exact hnext value t
  | error failure => exact ⟨_, _, Run.bind_error hwork⟩
  | panic payload => exact ⟨_, _, Run.bind_panic hwork⟩

theorem Halts.attempt {ε ε' α : Type} {work : Run ε α} (h : Halts work) :
    Halts (work.attempt : Run ε' (Outcome ε α)) := by
  intro s
  obtain ⟨outcome, t, hwork⟩ := h s
  exact ⟨_, _, Run.attempt_of hwork⟩

theorem halts_tryEdit {ε α : Type} (f : Registry → Except ε (α × Registry)) :
    Halts (Run.tryEdit f) := by
  intro s
  cases h : f s.registry with
  | ok edited => exact ⟨_, _, Run.tryEdit_ok h⟩
  | error failure => exact ⟨_, _, Run.tryEdit_refused h⟩

theorem halts_giveUp (id : Ident) (cause : Cause) (closing : Registry.Closing) :
    Halts (Creation.giveUp id cause closing) := by
  refine .bind (fun s => ⟨_, _, rfl⟩) fun _ => .bind (fun s => ⟨_, _, rfl⟩) fun r => ?_
  cases r.finished.get? id with
  | some existing => exact fun s => ⟨_, _, rfl⟩
  | none =>
    refine .bind (fun s => ⟨_, _, rfl⟩) fun _ => .bind ?_ fun _ s => ⟨_, _, rfl⟩
    cases closing.ended <;> exact fun s => ⟨_, _, rfl⟩

/-- Where a callback comes to an end, so does the creation around it. -/
theorem halts_getOrCreate (id : Ident) (hmake : Halts (engine.construct make)) :
    Halts (Creation.getOrCreate engine id make) := by
  refine .bind (fun s => ⟨_, _, rfl⟩) fun r => ?_
  cases r.finished.get? id with
  | some found => exact fun s => ⟨_, _, rfl⟩
  | none =>
    cases r.lifecycle.allowsCreation with
    | false => exact fun s => ⟨_, _, rfl⟩
    | true =>
      refine .bind (fun s => ⟨_, _, rfl⟩) fun _ => .bind (halts_tryEdit _) fun outermost => ?_
      refine .bind hmake.attempt fun ending => ?_
      cases ending with
      | ok made =>
        refine .bind (fun s => ⟨_, _, rfl⟩) fun closing => .bind (fun s => ⟨_, _, rfl⟩) fun _ => ?_
        exact .bind (halts_tryEdit _) fun _ s => ⟨_, _, rfl⟩
      | error cause => exact .bind (fun s => ⟨_, _, rfl⟩) (halts_giveUp id cause)
      | panic payload => exact fun s => ⟨_, _, rfl⟩

theorem Answers.halts (h : Answers engine s ends make) : Halts (engine.construct make) := by
  intro t
  obtain ⟨outcome, u, hends, -⟩ := h t
  exact ⟨outcome, u, hends⟩

/-! ## Callers one after another -/

/-- What callers of one identifier were told who were served one after another, each with one of
    certain callbacks, and the session after them. -/
inductive Served (engine : Engine) (id : Ident) (callbacks : Routine → Prop) (s : Session) :
    List (Outcome Failure Instance) → Session → Prop where
  | nobody : Served engine id callbacks s [] s
  | next {results : List (Outcome Failure Instance)} {t u : Session} {make : Routine}
      {outcome : Outcome Failure Instance} (h : Served engine id callbacks s results t)
      (hmake : callbacks make) (hserve : Creation.getOrCreate engine id make t = some (outcome, u)) :
      Served engine id callbacks s (results ++ [outcome]) u

/-- How callers fare: all were refused so far, or some were and all later ones share the instance of
    the first construction that ended well. -/
inductive Fared (engine : Engine) (id : Ident) (callbacks : Routine → Prop)
    (ends : Nat → Outcome Cause Unit) (s : Session) :
    List (Outcome Failure Instance) → Session → Prop where
  | refused {results : List (Outcome Failure Instance)} {t : Session}
      (hrefused : Refused id ends results.length results)
      (hvacant : Vacant s.registry id t.registry)
      (hstarted : started t = started s + results.length) :
      Fared engine id callbacks ends s results t
  | given {refused : List (Outcome Failure Instance)} {t t' u' : Session} {make : Routine}
      {made : Instance} {later : Nat}
      (hrefused : Refused id ends refused.length refused)
      (hsuccess : ends refused.length = .ok ()) (hmake : callbacks make)
      (hmade : engine.construct make t' = some (.ok made, u'))
      (hfirst : started t' = started s + refused.length)
      (hbound : Bound s.registry id made t.registry)
      (hstarted : started t = started s + refused.length + 1) :
      Fared engine id callbacks ends s (refused ++ List.replicate (later + 1) (.ok made)) t

/-- **Callers served one after another** are refused as their own constructions fail, until one of
    these succeeds, and from then on given its instance. -/
theorem Served.fared {callbacks : Routine → Prop} {results : List (Outcome Failure Instance)}
    (h : Served engine id callbacks s results t) (hvacant : Vacant s.registry id s.registry)
    (hcallbacks : ∀ make, callbacks make → Answers engine s ends make) :
    Fared engine id callbacks ends s results t := by
  induction h with
  | nobody => exact .refused .nil hvacant rfl
  | @next results t u make outcome _ hmake hserve ih =>
    cases ih with
    | refused hrefused hvacant hstarted =>
      obtain ⟨hcount, hcase⟩ := creation_answered hvacant (hcallbacks make hmake) hserve
      have hturn : started t - started s = results.length := by omega
      rw [hturn] at hcase
      rcases hcase with ⟨hrefuses, hvacant⟩ | ⟨made, t', u', hsuccess, rfl, hmade, hfirst, hbound⟩
      · refine .refused ?_ hvacant (by rw [List.length_append, List.length_singleton]; omega)
        rw [List.length_append, List.length_singleton]
        exact hrefused.snoc hrefuses
      · show Fared engine id callbacks ends s (results ++ List.replicate (0 + 1) (.ok made)) _
        exact .given hrefused hsuccess hmake hmade (by omega) hbound (by omega)
    | given hrefused hsuccess hmake hmade hfirst hbound hstarted =>
      obtain ⟨rfl, rfl⟩ := creation_found hbound hserve
      rw [List.append_assoc, ← List.replicate_succ']
      exact .given hrefused hsuccess hmake hmade hfirst hbound hstarted

/-- Names are looked up after them as they were before. -/
theorem Fared.accept {callbacks : Routine → Prop} {results : List (Outcome Failure Instance)}
    (h : Fared engine id callbacks ends s results t) : t.registry.accept = s.registry.accept := by
  cases h with
  | refused _ hvacant => exact hvacant.accept
  | given _ _ _ _ _ hbound => exact hbound.accept

/-! ## Crowds -/

/-- What a caller does while it has the lock. -/
inductive Stay where
  /-- It has the lock, for the name that it asked for, and its creation is still to do. -/
  | working (id : Ident)
  /-- Its creation is over, and it has still to give the lock back. -/
  | leaving (outcome : Outcome Failure Instance)

/-- Callers on their way through a creation, and the session that they share. -/
structure Crowd (n : Nat) where
  session : Session
  /-- Those that have not called yet. -/
  away : List (Fin n)
  /-- Those that wait for the lock, and for which name. -/
  waiting : List (Fin n × Ident) := []
  /-- The one that has the lock. -/
  inside : Option (Fin n × Stay) := none
  /-- Those that gave the lock back, in that order, and what they were told. -/
  served : List (Fin n × Outcome Failure Instance) := []
  /-- Those whose names were refused; they never ask for the lock. -/
  turned : List (Fin n × Failure) := []

namespace Crowd

variable {n : Nat} {given : Fin n → Ident} {makes : Fin n → Routine} {c c' : Crowd n}

/-- All callers are still away. -/
def start (n : Nat) (s : Session) : Crowd n := { session := s, away := List.finRange n }

/-- One caller takes one step.  Each asks under a name and with a callback of its own.  The lock goes
    to any caller that waits, if no other one has it, and is given back after an error and after a
    panic as well. -/
inductive Step (engine : Engine) (given : Fin n → Ident) (makes : Fin n → Routine) (c : Crowd n) :
    Crowd n → Prop where
  | call {before after : List (Fin n)} {i : Fin n} {id : Ident} (haway : c.away = before ++ i :: after)
      (haccept : c.session.registry.accept (given i) = .ok id) :
      Step engine given makes c
        { c with away := before ++ after, waiting := c.waiting ++ [(i, id)] }
  | turn {before after : List (Fin n)} {i : Fin n} {failure : Failure}
      (haway : c.away = before ++ i :: after)
      (haccept : c.session.registry.accept (given i) = .error failure) :
      Step engine given makes c
        { c with away := before ++ after, turned := c.turned ++ [(i, failure)] }
  | enter {before after : List (Fin n × Ident)} {i : Fin n} {id : Ident}
      (hwaiting : c.waiting = before ++ (i, id) :: after) (hfree : c.inside = none) :
      Step engine given makes c
        { c with waiting := before ++ after, inside := some (i, .working id) }
  | work {i : Fin n} {id : Ident} {outcome : Outcome Failure Instance} {t : Session}
      (hinside : c.inside = some (i, .working id))
      (hcreate : Creation.getOrCreate engine id (makes i) c.session = some (outcome, t)) :
      Step engine given makes c { c with session := t, inside := some (i, .leaving outcome) }
  | leave {i : Fin n} {outcome : Outcome Failure Instance}
      (hinside : c.inside = some (i, .leaving outcome)) :
      Step engine given makes c { c with inside := none, served := c.served ++ [(i, outcome)] }

/-- A schedule: steps of any callers, one after another. -/
def Steps (engine : Engine) (given : Fin n → Ident) (makes : Fin n → Routine) :
    Crowd n → Crowd n → Prop :=
  ReflTransGen (Step engine given makes)

/-- Every caller is back. -/
structure Over (c : Crowd n) : Prop where
  away : c.away = []
  waiting : c.waiting = []
  inside : c.inside = none

/-- The callers, wherever they are. -/
def callers (c : Crowd n) : List (Fin n) :=
  c.away ++ c.waiting.map Prod.fst ++ c.inside.toList.map Prod.fst ++ c.served.map Prod.fst ++
    c.turned.map Prod.fst

/-- What the one was told that is about to give the lock back. -/
def told (c : Crowd n) : List (Outcome Failure Instance) :=
  match c.inside with
  | some (_, .leaving outcome) => [outcome]
  | _ => []

/-- How many steps are still to be taken. -/
def remaining (c : Crowd n) : Nat :=
  4 * c.away.length + 3 * c.waiting.length +
    match c.inside with
    | none => 0
    | some (_, .working _) => 2
    | some (_, .leaving _) => 1

/-! ### What every schedule keeps -/

/-- Where a crowd may stand whose callers all ask for one identifier: nobody got lost, nobody was
    turned away, and those that had the lock were served one after another. -/
structure Moment (engine : Engine) (id : Ident) (makes : Fin n → Routine) (s : Session)
    (c : Crowd n) : Prop where
  callers : c.callers.Perm (List.finRange n)
  turned : c.turned = []
  waiting : ∀ w ∈ c.waiting, w.2 = id
  working : ∀ i name, c.inside = some (i, .working name) → name = id
  served : Served engine id (· ∈ Set.range makes) s (c.served.map Prod.snd ++ c.told) c.session

/-- Every step brings the end nearer. -/
theorem Step.remaining_lt (h : Step engine given makes c c') : c'.remaining < c.remaining := by
  cases h with
  | call haway | turn haway =>
    simp only [remaining, haway, List.length_append, List.length_cons, List.length_nil]
    omega
  | enter hwaiting hfree =>
    simp only [remaining, hwaiting, hfree, List.length_append, List.length_cons]
    omega
  | work hinside | leave hinside =>
    simp only [remaining, hinside]
    omega

/-- Nobody gets lost in a step. -/
theorem Step.callers_perm (h : Step engine given makes c c') : c'.callers.Perm c.callers := by
  rw [List.perm_iff_count]
  intro i
  cases h with
  | call haway | turn haway =>
    simp only [callers, haway, List.map_append, List.map_cons, List.map_nil, List.count_append,
      List.count_cons, List.count_nil]
    omega
  | enter hwaiting hfree =>
    simp only [callers, hwaiting, hfree, List.map_append, List.map_cons, List.map_nil,
      Option.toList_some, Option.toList_none, List.count_append, List.count_cons, List.count_nil]
    omega
  | work hinside =>
    simp only [callers, hinside, Option.toList_some, List.map_cons, List.map_nil]
  | leave hinside =>
    simp only [callers, hinside, Option.toList_some, Option.toList_none, List.map_append,
      List.map_cons, List.map_nil, List.count_append, List.count_cons, List.count_nil]
    omega

theorem Moment.start (id : Ident) (s : Session) : Moment engine id makes s (start n s) where
  callers := by simp [Crowd.callers, Crowd.start]
  turned := rfl
  waiting := fun w hw => absurd hw List.not_mem_nil
  working := nofun
  served := .nobody

section Steps

variable (hvacant : Vacant s.registry id s.registry)
  (hnames : ∀ i, s.registry.accept (given i) = .ok id)
  (hmakes : ∀ i, Answers engine s ends (makes i))

include hvacant hmakes

theorem Moment.fared (h : Moment engine id makes s c) :
    Fared engine id (· ∈ Set.range makes) ends s (c.served.map Prod.snd ++ c.told) c.session := by
  refine h.served.fared hvacant ?_
  rintro _ ⟨i, rfl⟩
  exact hmakes i

include hnames

/-- **A step** leads from one such moment to another. -/
theorem Moment.step (h : Moment engine id makes s c) (hstep : Step engine given makes c c') :
    Moment engine id makes s c' := by
  have hcallers := hstep.callers_perm.trans h.callers
  cases hstep with
  | @call before after i name haway haccept =>
    rw [(h.fared hvacant hmakes).accept, hnames i] at haccept
    refine ⟨hcallers, h.turned, fun w hw => ?_, h.working, h.served⟩
    rcases List.mem_append.1 hw with hw | hw
    · exact h.waiting w hw
    · cases haccept
      rw [List.mem_singleton.1 hw]
  | @turn before after i failure haway haccept =>
    -- every name is accepted
    rw [(h.fared hvacant hmakes).accept, hnames i] at haccept
    cases haccept
  | @enter before after i name hwaiting hfree =>
    have hname : name = id := h.waiting (i, name) (by rw [hwaiting]; simp)
    have htold : c.told = [] := by rw [told, hfree]
    refine ⟨hcallers, h.turned, fun w hw => h.waiting w ?_, ?_, ?_⟩
    · rw [hwaiting]
      rcases List.mem_append.1 hw with hw | hw
      · exact List.mem_append_left _ hw
      · exact List.mem_append_right _ (List.mem_cons_of_mem _ hw)
    · rintro _ _ ⟨⟩
      exact hname
    · have hserved := h.served
      rwa [htold] at hserved
  | @work i name outcome t hinside hcreate =>
    obtain rfl := h.working i name hinside
    have htold : c.told = [] := by rw [told, hinside]
    have hserved := h.served
    rw [htold, List.append_nil] at hserved
    exact ⟨hcallers, h.turned, h.waiting, nofun, hserved.next ⟨i, rfl⟩ hcreate⟩
  | @leave i outcome hinside =>
    have htold : c.told = [outcome] := by rw [told, hinside]
    have hserved := h.served
    rw [htold] at hserved
    refine ⟨hcallers, h.turned, h.waiting, nofun, ?_⟩
    simpa [told] using hserved

/-- **A schedule** leads to such moments only. -/
theorem Moment.steps (h : Moment engine id makes s c) (hsteps : Steps engine given makes c c') :
    Moment engine id makes s c' := by
  induction hsteps with
  | refl => exact h
  | tail _ hstep ih => exact ih.step hvacant hnames hmakes hstep

/-- As long as not every caller is back, somebody can take a step. -/
theorem Moment.exists_step (h : Moment engine id makes s c) (hover : ¬ c.Over) :
    ∃ c', Step engine given makes c c' := by
  cases hinside : c.inside with
  | some stay =>
    obtain ⟨i, working | leaving⟩ := stay
    · obtain ⟨outcome, t, hcreate⟩ := halts_getOrCreate _ (hmakes i).halts c.session
      exact ⟨_, .work hinside hcreate⟩
    · exact ⟨_, .leave hinside⟩
  | none =>
    cases hwaiting : c.waiting with
    | cons w rest =>
      have hfirst : c.waiting = [] ++ w :: rest := hwaiting
      exact ⟨_, .enter hfirst hinside⟩
    | nil =>
      cases haway : c.away with
      | nil => exact absurd ⟨haway, hwaiting, hinside⟩ hover
      | cons i rest =>
        have haccept : c.session.registry.accept (given i) = .ok id := by
          rw [(h.fared hvacant hmakes).accept, hnames i]
        have hfirst : c.away = [] ++ i :: rest := haway
        exact ⟨_, .call hfirst haccept⟩

/-- Every schedule can be carried on until every caller is back. -/
theorem Moment.completes (h : Moment engine id makes s c) :
    ∃ c', Steps engine given makes c c' ∧ c'.Over := by
  induction hremaining : c.remaining using Nat.strongRecOn generalizing c with
  | ind remaining ih =>
    by_cases hover : c.Over
    · exact ⟨c, .refl, hover⟩
    · obtain ⟨next, hstep⟩ := h.exists_step hvacant hnames hmakes hover
      obtain ⟨c', hsteps, hdone⟩ := ih next.remaining (hremaining ▸ hstep.remaining_lt)
        (h.step hvacant hnames hmakes hstep) rfl
      exact ⟨c', .head hstep hsteps, hdone⟩

end Steps

end Crowd

/-! ## What a crowd comes to -/

/-- An absent identifier that is not excluded can be created in an active registry. -/
theorem Vacant.of_absent {r : Registry} (hactive : r.lifecycle = .active)
    (habsent : r.stage id = .absent) (hchecked : r.marks.isExcluded id = false) :
    Vacant r id r := by
  rw [Registry.stage] at habsent
  split_ifs at habsent with hfinished hearly hfactory hmark
  exact {
    active := hactive
    unbound := Option.not_isSome_iff_eq_none.1 hfinished
    unexposed := Option.not_isSome_iff_eq_none.1 hearly
    unoffered := Option.not_isSome_iff_eq_none.1 hfactory
    free := Bool.not_eq_true _ ▸ hmark
    checked := hchecked
    marks := rfl
    accept := rfl }

/-- What can be created is absent. -/
theorem Vacant.stage {start r : Registry} (h : Vacant start id r) : r.stage id = .absent := by
  simp [Registry.stage, Store.contains, h.unbound, h.unexposed, h.unoffered, h.free]

/-- What callers who fared so were told, with the failures before the first success counted; the
    last one to run its construction got the instance that all the others are given. -/
theorem Fared.settled {callbacks : Routine → Prop} {results : List (Outcome Failure Instance)}
    {n : Nat} (h : Fared engine id callbacks ends s results t) (hlength : results.length = n) :
    started t = started s + min n (failuresFirst ends n + 1) ∧
      (∃ refused made, Refused id ends (failuresFirst ends n) refused ∧
        results = refused ++ List.replicate (n - failuresFirst ends n) (.ok made) ∧
        (failuresFirst ends n < n →
          t.registry.finished.get? id = some made ∧
          ∃ make t' u', callbacks make ∧ started t' = started s + failuresFirst ends n ∧
            engine.construct make t' = some (.ok made, u'))) ∧
      t.registry.marks = s.registry.marks ∧
      t.registry.stage id = if failuresFirst ends n < n then .finished else .absent := by
  cases h with
  | refused hrefused hvacant hstarted =>
    -- no construction succeeded
    have hfailures : failuresFirst ends n = n := by
      rw [hlength] at hrefused
      have hlater : 0 < 0 → ends n = .ok () := nofun
      exact hrefused.failuresFirst_add hlater
    rw [hfailures, Nat.sub_self, if_neg (Nat.lt_irrefl n)]
    refine ⟨by omega, ⟨results, ⟨0, none⟩, hlength ▸ hrefused, ?_, ?_⟩, hvacant.marks, hvacant.stage⟩
    · rw [List.replicate_zero, List.append_nil]
    · exact fun hlt => absurd hlt (Nat.lt_irrefl n)
  | @given refused t t' u' make made later hrefused hsuccess hmake hmade hfirst hbound hstarted =>
    rw [List.length_append, List.length_replicate] at hlength
    have hfailures : failuresFirst ends n = refused.length := by
      rw [← hlength]
      exact hrefused.failuresFirst_add fun _ => hsuccess
    have hlater : n - refused.length = later + 1 := by omega
    rw [hfailures, if_pos (by omega), hlater]
    refine ⟨by omega, ⟨refused, made, hrefused, rfl, fun _ => ⟨hbound.bound, ?_⟩⟩, hbound.marks, ?_⟩
    · exact ⟨make, t', u', hmake, hfirst, hmade⟩
    · rw [Registry.stage, Store.contains, hbound.bound]
      rfl

open Crowd in
/-- **Callers that ask at once are served by one construction.**  Any number of callers ask an active
    registry for an identifier that is absent and not excluded, each under a name of its own for it
    and with a callback that leaves the registry alone; the `k`-th callback that is started ends as
    `ends k` says.  Then every schedule can be carried on until every caller is back, and then,
    however the lock went round, with `f` failures before the first success:

      * each caller had the lock once, and `min n (f + 1)` callbacks were started;
      * the first `f` callers that had the lock were told the failures and panics of their own
        constructions, and all the others were given the one instance that the `f`-th callback
        returned, which is finished then;
      * the marks are what they were, and the identifier is finished or absent. -/
theorem one_construction {n : Nat} {given : Fin n → Ident} {makes : Fin n → Routine} {c : Crowd n}
    (hactive : s.registry.lifecycle = .active) (habsent : s.registry.stage id = .absent)
    (hchecked : s.registry.marks.isExcluded id = false)
    (hnames : ∀ i, s.registry.accept (given i) = .ok id)
    (hmakes : ∀ i, Answers engine s ends (makes i))
    (hsteps : Steps engine given makes (.start n s) c) :
    (∃ c', Steps engine given makes c c' ∧ c'.Over) ∧
    (c.Over → (c.served.map Prod.fst).Perm (List.finRange n) ∧
      started c.session = started s + min n (failuresFirst ends n + 1) ∧
      (∃ refused made, Refused id ends (failuresFirst ends n) refused ∧
        c.served.map Prod.snd =
          refused ++ List.replicate (n - failuresFirst ends n) (.ok made) ∧
        (failuresFirst ends n < n →
          c.session.registry.finished.get? id = some made ∧
          ∃ i t u, started t = started s + failuresFirst ends n ∧
            engine.construct (makes i) t = some (.ok made, u))) ∧
      c.session.registry.marks = s.registry.marks ∧
      c.session.registry.stage id = if failuresFirst ends n < n then .finished else .absent) := by
  have hvacant := Vacant.of_absent hactive habsent hchecked
  have hmoment := (Moment.start id s).steps hvacant hnames hmakes hsteps
  refine ⟨hmoment.completes hvacant hnames hmakes, fun hover => ?_⟩
  have hcallers : (c.served.map Prod.fst).Perm (List.finRange n) := by
    have hperm := hmoment.callers
    simpa [Crowd.callers, hover.away, hover.waiting, hover.inside, hmoment.turned] using hperm
  have hlength : (c.served.map Prod.snd).length = n := by
    simpa using hcallers.length_eq
  have htold : c.told = [] := by rw [told, hover.inside]
  have hfared := hmoment.fared hvacant hmakes
  rw [htold, List.append_nil] at hfared
  obtain ⟨hstarted, ⟨refused, made, hrefused, hresults, hlast⟩, hmarks, hstage⟩ :=
    hfared.settled hlength
  refine ⟨hcallers, hstarted, ⟨refused, made, hrefused, hresults, fun hlt => ?_⟩, hmarks, hstage⟩
  obtain ⟨hfinished, _, t', u', ⟨i, rfl⟩, hfirst, hmade⟩ := hlast hlt
  exact ⟨hfinished, i, t', u', hfirst, hmade⟩

/-- Callbacks that build a lamp at the third attempt: the first fails, and the second panics. -/
def flickering : Engine :=
  { Engine.idle with
    construct := fun _ => do
      let attempt ← Run.read started
      Run.record (.entered .contention "lamp" none)
      match attempt with
      | 0 => Run.fail (.foreign "no bulb")
      | 1 => Run.unwind (.saying "short circuit")
      | _ => Run.fresh (some "lamp") }

/-- How these callbacks end. -/
def flickers : Nat → Outcome Cause Unit
  | 0 => .error (.foreign "no bulb")
  | 1 => .panic (.saying "short circuit")
  | _ => .ok ()

/-- A registry without a lamp, in which a light is a lamp. -/
def unlit : Session where
  registry := { aliases := { targets := (∅ : Store Ident).insert "light" "lamp" } }

/-- Who asks for a lamp, and who for a light. -/
def wishes (i : Fin 5) : Ident := if i.val % 2 = 0 then "lamp" else "light"

theorem flickering_answers (make : Routine) : Answers flickering unlit flickers make := by
  intro t
  have hcount (supply : Nat) : started { t with
      supply, journal := ⟨.entered .contention "lamp" none, t.registry⟩ :: t.journal }
        = started t + 1 := List.countP_cons_of_pos rfl
  have hturn : started t - started unlit = started t := rfl
  have hcall : flickering.construct make t = (match started t with
      | 0 => Run.fail (.foreign "no bulb")
      | 1 => Run.unwind (.saying "short circuit")
      | _ => Run.fresh (some "lamp") : Run Cause Instance)
        { t with journal := ⟨.entered .contention "lamp" none, t.registry⟩ :: t.journal } := rfl
  rw [hturn]
  match hattempt : started t with
  | 0 =>
    rw [hattempt] at hcall hcount
    exact ⟨_, _, hcall, rfl, rfl, hcount t.supply⟩
  | 1 =>
    rw [hattempt] at hcall hcount
    exact ⟨_, _, hcall, rfl, rfl, hcount t.supply⟩
  | attempt + 2 =>
    rw [hattempt] at hcall hcount
    exact ⟨_, _, hcall, rfl, rfl, hcount (t.supply + 1)⟩

open Crowd in
/-- Three of five callers share the lamp of the third attempt, in whatever order they had the lock. -/
theorem one_construction_flickering :
    unlit.registry.lifecycle = .active ∧ unlit.registry.stage "lamp" = .absent ∧
    unlit.registry.marks.isExcluded "lamp" = false ∧
    (∀ i, unlit.registry.accept (wishes i) = .ok "lamp") ∧
    ∃ c made, Steps flickering wishes (fun i => .assembly (wishes i)) (.start 5 unlit) c ∧ c.Over ∧
      started c.session = 3 ∧ c.session.registry.stage "lamp" = .finished ∧
      c.served.map Prod.snd =
        [.error (.construction "lamp" (.foreign "no bulb") []), .panic (.saying "short circuit"),
          .ok made, .ok made, .ok made] := by
  have hnames : ∀ i, unlit.registry.accept (wishes i) = .ok "lamp" := by
    intro i
    rw [wishes]
    split <;> rfl
  have hfailures : failuresFirst flickers 5 = 2 := by decide
  obtain ⟨⟨c, hsteps, hover⟩, -⟩ := one_construction (c := .start 5 unlit) rfl (by decide) rfl hnames
    (fun i => flickering_answers (.assembly (wishes i))) .refl
  obtain ⟨-, hstarted, ⟨refused, made, hrefused, hserved, -⟩, -, hstage⟩ :=
    (one_construction rfl (by decide) rfl hnames (fun i => flickering_answers _) hsteps).2 hover
  rw [hfailures] at hstarted hrefused hserved hstage
  obtain ⟨first, second, hfirst, hsecond, rfl⟩ :
      ∃ first second, Refuses "lamp" (flickers 0) first ∧ Refuses "lamp" (flickers 1) second ∧
        refused = [first, second] := by
    cases hrefused with
    | cons hfirst hrest =>
      cases hrest with
      | cons hsecond hnil =>
        cases hnil
        exact ⟨_, _, hfirst, hsecond, rfl⟩
  cases hfirst
  cases hsecond
  exact ⟨rfl, by decide, rfl, hnames, c, made, hsteps, hover, hstarted, hstage, hserved⟩

end Contention

end InstanceRegistry
