import InstanceRegistry.Proofs.Creation.Retention
import InstanceRegistry.Proofs.Creation.Tiers

/-!
  Whom early references belong to.

  An early reference is meant to be OWNED by a creation that is going on, that is, its identifier is
  marked.  Whoever exposes it has to find the mark, and whoever clears the mark has to drop the
  reference.  A creation that succeeds, or fails with what its callback failed with, does.  One that
  panics clears the mark and lets the reference stand, and so does one that finds its place taken.
  Processing a product clears a mark too, and looks at no reference.

  So references can be orphaned at the end of such calls and nowhere else, unless one is exposed
  without a mark in the first place.  An orphan is handed out to the next creation of its
  identifier.

  Mathlib-free.
-/

namespace InstanceRegistry

/-! ## Owned references -/

/-- An identifier that has an early reference is marked. -/
def Registry.Owned (r : Registry) (x : Ident) : Prop :=
  x ∈ r.early.keys → r.marks.isActive x = true

instance (r : Registry) (x : Ident) : Decidable (r.Owned x) :=
  inferInstanceAs (Decidable (x ∈ r.early.keys → r.marks.isActive x = true))

namespace Registry

variable {r r' : Registry} {x id : Ident}

/-- Only keeping one adds an early reference. -/
theorem Refills.early (h : r.Refills r') : r'.early.keys ⊆ r.early.keys := by
  cases h with
  | fewer h => exact h.early
  | offer id factory =>
    rw [offerFactory]
    cases r.finished.contains id with
    | true => exact List.Subset.refl _
    | false => exact Store.keys_erase_subset _ id
  | commit h hcommit =>
    obtain ⟨-, rfl⟩ := commit_eq hcommit
    exact List.Subset.trans (Store.keys_erase_subset _ _) h.early

namespace Owned

/-- Who had no mark to lose keeps what marks there were. -/
theorem mono (h : r.Owned x) (hearly : r'.early.keys ⊆ r.early.keys)
    (hmarks : r.marks.isActive x = true → r'.marks.isActive x = true) : r'.Owned x :=
  fun hmem => hmarks (h (hearly hmem))

theorem of_marks (h : r.Owned x) (hearly : r'.early.keys ⊆ r.early.keys)
    (hmarks : r'.marks = r.marks) : r'.Owned x :=
  h.mono hearly fun hactive => hmarks ▸ hactive

theorem enter (h : r.Owned x) (hearly : r'.early = r.early)
    (hmark : r.marks.enter id = .ok r'.marks) : r'.Owned x :=
  h.mono (hearly ▸ List.Subset.refl _) (Marks.isActive_of_enter hmark)

/-- Clearing a mark orphans no reference if its identifier is left without one. -/
theorem leave (h : r.Owned x) (hearly : r'.early.keys ⊆ r.early.keys)
    (hgone : id ∉ r'.early.keys) (hmarks : r'.marks = r.marks.leaveQuietly id) : r'.Owned x := by
  intro hmem
  have hne : id ≠ x := by
    rintro rfl
    exact hgone hmem
  rw [hmarks, Marks.isActive_leaveQuietly_of_ne _ hne]
  exact h (hearly hmem)

theorem of_empty (hearly : r.early = ∅) : r.Owned x := by
  intro hmem
  rw [hearly] at hmem
  exact absurd hmem List.not_mem_nil

end Owned

end Registry

/-! ## Ends that look after them -/

namespace Outcome

variable {α β : Type}

/-- Whether a creation has an instance, or failed with what its callback failed with. -/
def isSettled : Outcome Failure α → Bool
  | .ok _ | .error (.construction ..) => true
  | _ => false

/-- Whether a creation panicked, or found its place taken. -/
def isAbrupt : Outcome Failure α → Bool
  | .panic _ | .error (.alreadyBound _) => true
  | _ => false

theorem isSettled_map (f : α → β) (outcome : Outcome Failure α) :
    (outcome.map f).isSettled = outcome.isSettled := by
  cases outcome with
  | error failure => cases failure <;> rfl
  | ok _ | panic _ => rfl

theorem isAbrupt_map (f : α → β) (outcome : Outcome Failure α) :
    (outcome.map f).isAbrupt = outcome.isAbrupt := by
  cases outcome with
  | error failure => cases failure <;> rfl
  | ok _ | panic _ => rfl

end Outcome

/-- Whether an event ends a call that may have orphaned an early reference. -/
def Event.orphans : Event → Bool
  | .done op _ result => op.resolves || (op.creation?.isSome && result.isAbrupt)
  | _ => false

/-- The early references of an identifier are looked after: they are announced under its mark, and
    there is none without the mark when a call ends that may have orphaned one. -/
structure Session.Tends (s : Session) (x : Ident) : Prop where
  exposed : ∀ e ∈ s.journal, e.event.exposed? = some x → e.registry.marks.isActive x = true
  ended : ∀ e ∈ s.journal, e.event.orphans = true → e.registry.Owned x

instance (s : Session) (x : Ident) : Decidable (s.Tends x) :=
  decidable_of_iff
    ((∀ e ∈ s.journal, e.event.exposed? = some x → e.registry.marks.isActive x = true) ∧
      ∀ e ∈ s.journal, e.event.orphans = true → e.registry.Owned x)
    ⟨fun h => ⟨h.1, h.2⟩, fun h => ⟨h.exposed, h.ended⟩⟩

theorem Session.Tends.mono {s t : Session} {x : Ident} (h : t.Tends x)
    (hst : s.journal <:+ t.journal) : s.Tends x where
  exposed e he := h.exposed e (hst.subset he)
  ended e he := h.ended e (hst.subset he)

namespace Creation.Closes

variable {id x : Ident} {outermost : Bool} {t u : Session} {ending : Outcome Cause Instance}
  {outcome : Outcome Failure Instance}

/-- A creation whose callback panicked leaves all early references, and clears its mark. -/
theorem unwinds {payload : Panic} (h : Closes id outermost t (.panic payload) outcome u) :
    u.registry.early = t.registry.early ∧
      u.registry.marks = t.registry.marks.leaveQuietly id := by
  cases h with
  | unwound =>
    rw [Session.registry_put, Registry.abandonCreation_eq]
    exact ⟨rfl, rfl⟩

/-- A creation that is settled leaves its identifier without an early reference. -/
theorem retracts (h : Closes id outermost t ending outcome u) (hsettled : outcome.isSettled = true) :
    id ∉ u.registry.early.keys := by
  have herased : ∀ early : Store Instance, id ∉ (early.erase id).keys := fun early hmem =>
    (Store.mem_keys_erase.1 hmem).2 rfl
  cases h with
  | stuck hleave =>
    obtain ⟨problem, rfl⟩ := Marks.leave_inconsistent hleave
    cases hsettled
  | occupied _ hcommit =>
    rw [(commit_refused hcommit).1] at hsettled
    cases hsettled
  | bound _ hcommit =>
    obtain ⟨-, rfl⟩ := Registry.commit_eq hcommit
    exact herased _
  | recovered _ | failed _ _ | mismatched _ _ => exact herased _
  | unwound => cases hsettled

/-- **A creation that closes orphans no reference**, unless it panicked or found its place taken. -/
theorem owned (h : Closes id outermost t ending outcome u) (ht : t.registry.Owned x)
    (houtcome : outcome.isAbrupt = false) : u.registry.Owned x := by
  have hearly := h.refills.early
  cases hsettled : outcome.isSettled with
  | true => exact ht.leave hearly (h.retracts hsettled) h.marks
  | false =>
    cases h with
    | stuck hleave =>
      -- the mark was gone before, and nothing else is cleared
      refine ht.of_marks hearly ?_
      rw [Session.registry_put, Registry.marks_abandonCreation, Marks.leaveQuietly, hleave]
    | occupied _ hcommit =>
      rw [(commit_refused hcommit).1] at houtcome
      cases houtcome
    | unwound => cases houtcome
    | bound _ _ | recovered _ | failed _ _ | mismatched _ _ => cases hsettled

end Creation.Closes

/-! ## Courses -/

namespace Course

/-- Whether a course ends with all early references looked after, as far as it knows. -/
def Exit.Tidy : Exit → Prop
  | onward | exposed => True
  | created outcome => outcome.isAbrupt = false
  | processed => False

/-- A course that does not end so ends a call that may have orphaned an early reference. -/
theorem Exit.Fits.tidy {op : Op} {result : Outcome Failure (Answer Instance)} {exit : Exit}
    (h : exit.Fits op result) (asStep : Bool) :
    exit.Tidy ∨ (Event.done op asStep result).orphans = true := by
  cases exit with
  | onward | exposed => exact .inl trivial
  | processed =>
    have hresolves : op.resolves = true := h
    refine .inr ?_
    rw [Event.orphans, hresolves]
    rfl
  | created outcome =>
    obtain ⟨hcreates, rfl⟩ := h
    cases habrupt : outcome.isAbrupt with
    | false => exact .inl habrupt
    | true =>
      refine .inr ?_
      rw [Event.orphans, hcreates, Outcome.isAbrupt_map, habrupt]
      exact Bool.or_true _

variable {s t : Session} {exit : Exit} {x : Ident}

/-- **Early references that are looked after are owned** at each entry of a course, and at its end
    unless that ends a call that may have orphaned one. -/
theorem owned (h : Course s t exit) (hparts : t.Never Op.setsMarks) (htends : t.Tends x)
    (hx : s.registry.Owned x) :
    Newly (fun e _ => e.registry.Owned x) s t ∧ (exit.Tidy → t.registry.Owned x) := by
  induction h with
  | rest s => exact ⟨.of_eq rfl, fun _ => hx⟩
  | next first second ih ih' =>
    have hfirst := ih (hparts.mono second.suffix) (htends.mono second.suffix) hx
    have hsecond := ih' hparts htends (hfirst.2 trivial)
    exact ⟨hfirst.1.trans hsecond.1, hsecond.2⟩
  | aside hregistry hjournal => exact ⟨.of_eq hjournal, fun _ => hregistry ▸ hx⟩
  | note _ | enter _ | announce _ _ _ => exact ⟨.note hx, fun _ => hx⟩
  | @expose s t id early _ _ ih =>
    have hsuffix := t.suffix_note (.noticed (.exposing id))
    have hfactory := ih (hparts.mono hsuffix) (htends.mono hsuffix) hx
    have hend : t.registry.Owned x := hfactory.2 trivial
    refine ⟨hfactory.1.trans (.put (.note hend) _), fun _ hmem => ?_⟩
    rcases Store.mem_keys_insert.1 hmem with hmem | rfl
    · exact hend hmem
    · exact htends.exposed _ List.mem_cons_self rfl
  | call c asStep hfits _ ih =>
    have hsuffix := c.stop.suffix_note (.done c.op asStep c.result)
    have hinside := ih (hparts.mono hsuffix) (htends.mono hsuffix) hx
    have hend : c.stop.registry.Owned x := by
      rcases hfits.tidy asStep with htidy | horphans
      · exact hinside.2 htidy
      · exact htends.ended _ List.mem_cons_self horphans
    have hbegan : Newly (fun e _ => e.registry.Owned x) c.start (c.start.note (.began c.op)) :=
      .note hx
    exact ⟨hbegan.trans (hinside.1.trans (.note hend)), fun _ => hend⟩
  | shift h => exact ⟨.of_eq rfl, fun _ => hx.of_marks h.refills.early h.still.marks⟩
  | drop _ h =>
    have hmarks := h.marks
    exact ⟨.of_eq rfl, fun _ => hx.of_marks h.fewer.early hmarks⟩
  | exclude _ _ => exact ⟨.of_eq rfl, fun _ => hx⟩
  | setMarks hdoing _ => exact absurd hdoing.began hparts.not_began
  | register _ _ _ _ hcommit =>
    have hrefills : Registry.Refills _ _ := .commit (.of_eq rfl rfl rfl) hcommit
    have hmarks := (Registry.commit_inv hcommit).2.2.1
    exact ⟨.of_eq rfl, fun _ => hx.of_marks hrefills.early hmarks⟩
  | @create s t u id outermost r ending outcome _ _ _ hmark inside _ hclose ih =>
    have hopened : r.Owned x := by
      obtain ⟨marks, hentered, ⟨-, -, rfl⟩ | ⟨_, -, -, rfl⟩⟩ := Registry.openCreation_eq hmark
      · exact hx.enter rfl hentered
      · exact hx.enter rfl hentered
    have hcallback := ih (hparts.mono hclose.suffix) (htends.mono hclose.suffix) hopened
    have hend : outcome.isAbrupt = false → u.registry.Owned x := hclose.owned (hcallback.2 trivial)
    have hopening : Newly (fun e _ => e.registry.Owned x) s
        ((s.note (.noticed (.creating id))).put r) := .put (.note hx) r
    have hclosing : Newly (fun e _ => e.registry.Owned x) t u := by
      cases hclose with
      | recovered _ | mismatched _ _ => exact .note (hend rfl)
      | stuck _ | occupied _ _ | bound _ _ | failed _ _ | unwound => exact .of_eq rfl
    exact ⟨hopening.trans (hcallback.1.trans hclosing), hend⟩
  | @process s t id marks products hmark inside _ _ ih =>
    have hopened : ({ s.registry with marks } : Registry).Owned x := hx.enter rfl hmark
    have hinside := ih (hparts.mono List.suffix_rfl) (htends.mono List.suffix_rfl) hopened
    exact ⟨hinside.1, False.elim⟩
  | @dispose s t id hook _ inside ih =>
    have hsuffix := t.suffix_note_note (.noticed (.disposing id)) (hook.entry .disposal)
    have hbefore := ih (hparts.mono hsuffix) (htends.mono hsuffix) hx
    have hend : t.registry.Owned x := hbefore.2 trivial
    have hnotice : Newly (fun e _ => e.registry.Owned x) t (t.note (.noticed (.disposing id))) :=
      .note hend
    exact ⟨hbefore.1.trans (hnotice.trans (.note hend)), fun _ => hend⟩
  | @destroy s t u _ _ inside hrest ih =>
    have hsuffix := hrest.suffix
    have hhooks := ih (hparts.mono hsuffix) (htends.mono hsuffix) hx
    have hempty : u.registry.Owned x := .of_empty (by rw [hrest.registry]; rfl)
    have hemptied : Newly (fun e _ => e.registry.Owned x) t u := hrest.newly fun _ _ => hempty
    exact ⟨.put (hhooks.1.trans hemptied) _, fun _ => hempty⟩

end Course

/-! ## Whole runs -/

open Operations (prepare)
open Creation (CallsBack)

/-- What becomes of early references when the callback of a creation call ended in session `t`. -/
theorem Call.early_left {c : Call} {request : Request} {make : Routine} {id : Ident}
    {s t : Session} {ending : Outcome Cause Instance}
    (hop : c.op.creation? = some (request, make))
    (hprepare : prepare request (c.start.note (.began c.op)) = some (.ok id, s))
    (hcalls : CallsBack (.ofDepth c.depth) id make s ending t) :
    (∀ payload, ending = .panic payload → c.stop.registry.early = t.registry.early ∧
        c.stop.registry.marks = t.registry.marks.leaveQuietly id) ∧
      (c.result.isSettled = true → id ∉ c.stop.registry.early.keys) := by
  rcases Call.creation_inv hop with ⟨id', s', outcome, hprepare', -, hcreation, hresult⟩ |
      ⟨failure, hrefused, -⟩
  · rw [hprepare] at hprepare'
    cases hprepare'
    obtain ⟨outermost, hclose⟩ := hcalls.closes hcreation
    constructor
    · rintro payload rfl
      exact hclose.unwinds
    · intro hsettled
      rw [hresult, Outcome.isSettled_map] at hsettled
      exact hclose.retracts hsettled
  · rw [hprepare] at hrefused
    cases hrefused

/-- **Early references belong to creations that are going on**, at all moments of a script, just if
    they are announced under their marks and none is left without its mark by a creation that
    panicked or found its place taken, or by the production of a product.  A creation that succeeded,
    or failed with what its callback failed with, leaves no early reference of its identifier; one
    that panicked leaves what there is, and clears its mark. -/
theorem early_owned_iff {script : Script} {depth : Nat} {outcome : Outcome Cause Unit}
    {s : Session} (h : script.runWithin depth = some (outcome, s))
    (hparts : s.Never Op.setsMarks) :
    (∀ x, script.registry.Owned x → ((∀ r ∈ s.moments, r.Owned x) ↔ s.Tends x)) ∧
    s.EveryCall fun c _ => ∀ request make id s₀ ending t,
      c.op.creation? = some (request, make) →
      prepare request (c.start.note (.began c.op)) = some (.ok id, s₀) →
      CallsBack (.ofDepth c.depth) id make s₀ ending t →
        (∀ payload, ending = .panic payload → c.stop.registry.early = t.registry.early ∧
          c.stop.registry.marks = t.registry.marks.leaveQuietly id) ∧
        (c.result.isSettled = true → id ∉ c.stop.registry.early.keys) := by
  have hcourse := Script.course h
  refine ⟨fun x hstart => ⟨fun hmoments => ?_, fun htends => ?_⟩, ?_⟩
  · have hentries : ∀ e ∈ s.journal, e.registry.Owned x := fun e he =>
      hmoments _ (List.mem_cons_of_mem _ (List.mem_map_of_mem he))
    refine ⟨fun e he hexposed => ?_, fun e he _ => hentries e he⟩
    obtain ⟨later, earlier, hjournal⟩ := List.append_of_mem he
    -- the reference was kept, and nobody had been marked since
    obtain ⟨early, e', he', hregistry⟩ := hcourse.keeps.all rfl hjournal x hexposed
    have howned := hentries e' he'
    rw [hregistry] at howned
    exact howned (Store.mem_keys_insert.2 (.inr rfl))
  · obtain ⟨hentries, hend⟩ := hcourse.owned hparts htends hstart
    intro r hr
    rcases List.mem_cons.1 hr with rfl | hr
    · exact hend trivial
    · obtain ⟨e, he, rfl⟩ := List.mem_map.1 hr
      obtain ⟨later, earlier, hjournal⟩ := List.append_of_mem he
      exact hentries.all rfl hjournal
  · refine Script.everyCall h fun c _ _ _ request make id s₀ ending t hop hprepare hcalls => ?_
    exact Call.early_left hop hprepare hcalls

/-- A lamp whose construction exposes it early and then ends somehow, and a second try. -/
def secondTry (settle : Settle) : Script where
  registry := {}
  steps :=
    [.step (.getOrCreate "lamp" (.scripted "lamp"
        [.step (.registerFactory "lamp" (.scripted "lamp" [] (.fresh (some "half")))) true none,
          .step (.get "lamp") true none] settle)) false none,
      .step (.getOrCreate "lamp" (.scripted "lamp"
        [.step (.get "lamp") true none] (.fresh (some "whole")))) true none]

/-- Whether an event is the end of a lookup that handed out an instance of this label. -/
def Event.hands (label : String) : Event → Bool
  | .done (.get _) _ (.ok (.found (some found))) => found.label == some label
  | _ => false

/-- If the construction fails, the early reference goes with it. -/
theorem early_owned_iff_failing :
    ∃ outcome s, (secondTry (.fail "short")).runWithin 3 = some (outcome, s) ∧
      s.Never Op.setsMarks ∧ (secondTry (.fail "short")).registry.Owned "lamp" ∧
      (s.journal.countP fun e => e.event.hands "half") = 1 ∧ s.Tends "lamp" ∧
      ∀ r ∈ s.moments, r.Owned "lamp" := by
  have hends : ∃ outcome s, (secondTry (.fail "short")).runWithin 3 = some (outcome, s) ∧
      s.Never Op.setsMarks ∧ (s.journal.countP fun e => e.event.hands "half") = 1 ∧
      s.Tends "lamp" :=
    Script.ends_of_check (by decide +kernel)
  obtain ⟨outcome, s, hrun, hparts, hhands, htends⟩ := hends
  have hstart : (secondTry (.fail "short")).registry.Owned "lamp" := by decide
  have hiff := (early_owned_iff hrun hparts).1 "lamp" hstart
  exact ⟨outcome, s, hrun, hparts, hstart, hhands, htends, hiff.2 htends⟩

/-- If it panics, the early reference is left without a creation, and the second try is handed it. -/
theorem early_orphaned_panicking :
    ∃ outcome s, (secondTry (.panic (.saying "short"))).runWithin 3 = some (outcome, s) ∧
      s.Never Op.setsMarks ∧ (secondTry (.panic (.saying "short"))).registry.Owned "lamp" ∧
      (∃ r ∈ s.moments, ¬ r.Owned "lamp") ∧
      (s.journal.countP fun e => e.event.hands "half") = 2 :=
  Script.ends_of_check (by decide +kernel)

end InstanceRegistry
