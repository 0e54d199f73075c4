import InstanceRegistry.Proofs.Creation.Bracketing
import InstanceRegistry.Proofs.Destruction.Completion

/-!
  Nobody takes an identifier away from its creation.

  While an identifier that is subject to the check is created, its mark keeps everybody else from
  binding an instance under it: a second creation is refused, and so is a registration.  It is UNDERWAY,
  marked and not finished.

  The crux is what ending the registry does.  It clears the marks, so underway need not last; but
  nothing is bound under any identifier in a registry that is not active.  So not finished, and
  underway as long as the registry is active, BARRED for short, lasts throughout every regular course.
  In a calm one the lifecycle does not change, and who is underway stays so.

  Mathlib-free.
-/

namespace InstanceRegistry

/-! ## Underway -/

/-- An identifier is marked, subject to the check and not finished. -/
structure Registry.Underway (r : Registry) (x : Ident) : Prop where
  active : r.marks.isActive x = true
  checked : r.marks.isExcluded x = false
  free : r.finished.get? x = none

namespace Registry.Underway

variable {r r' : Registry} {x id : Ident}

theorem of_eq (h : r.Underway x) (hmarks : r'.marks = r.marks)
    (hfree : r'.finished.get? x = none) : r'.Underway x :=
  ⟨hmarks ▸ h.active, hmarks ▸ h.checked, hfree⟩

theorem still (h : r.Underway x) (hstill : r.Still r') : r'.Underway x :=
  h.of_eq hstill.marks (hstill.finished ▸ h.free)

/-- Whose creation is opened is underway, if it is subject to the check. -/
theorem opened {outermost : Bool} (hmark : r.openCreation x = .ok (outermost, r'))
    (hfree : r.finished.get? x = none) (hchecked : r.marks.isExcluded x = false) :
    r'.Underway x := by
  obtain ⟨hmarks, hfinished, -⟩ := Registry.openCreation_inv hmark
  refine ⟨?_, ?_, by rw [hfinished, hfree]⟩
  · rcases Marks.enter_inv hmarks with ⟨hexcluded, -⟩ | ⟨-, -, hentered⟩
    · rw [hchecked] at hexcluded
      cases hexcluded
    · rw [hentered]
      exact decide_eq_true (Roster.mem_add.2 (.inr rfl))
  · rw [Marks.isExcluded_congr (Marks.enter_excluded hmarks)]
    exact hchecked

/-- Taking something away binds nothing. -/
theorem drops (h : r.Underway x) (hdrops : r.Drops r') : r'.Underway x := by
  cases hdrops with
  | one id =>
    refine h.of_eq rfl ?_
    show (r.finished.erase id).get? x = none
    by_cases hid : x = id
    · rw [hid]
      exact Store.get?_erase_self _ id
    · rw [Store.get?_erase_of_ne _ hid]
      exact h.free
  | all => exact h.of_eq rfl rfl

/-- Somebody else's mark is entered. -/
theorem enter (h : r.Underway x) (hmark : r.marks.enter id = .ok r'.marks)
    (hfinished : r'.finished = r.finished) : r'.Underway x :=
  ⟨Marks.isActive_of_enter hmark h.active,
    (Marks.isExcluded_congr (Marks.enter_excluded hmark)).trans h.checked, hfinished ▸ h.free⟩

/-- Somebody else's mark is cleared. -/
theorem leave (h : r.Underway x) (hne : id ≠ x) (hmarks : r'.marks = r.marks.leaveQuietly id)
    (hfree : r'.finished.get? x = none) : r'.Underway x := by
  refine ⟨?_, ?_, hfree⟩
  · rw [hmarks, Marks.isActive_leaveQuietly_of_ne _ hne]
    exact h.active
  · rw [hmarks, Marks.isExcluded_congr (Marks.excluded_leaveQuietly _ id)]
    exact h.checked

/-- Somebody else's instance is bound. -/
theorem commit (h : r.Underway x) (hne : id ≠ x) {made : Instance}
    (hcommit : r.commit id made = .ok r') : r'.Underway x := by
  obtain ⟨-, hfinished, hmarks, -⟩ := Registry.commit_inv hcommit
  refine h.of_eq hmarks ?_
  rw [hfinished, Store.get?_insert_of_ne _ hne.symm]
  exact h.free

end Registry.Underway

/-! ## Barred -/

/-- An identifier is not finished, and it is underway as long as the registry is active. -/
structure Registry.Barred (r : Registry) (x : Ident) : Prop where
  free : r.finished.get? x = none
  underway : r.lifecycle = .active → r.Underway x

namespace Registry.Barred

variable {r r' : Registry} {x id : Ident}

/-- Who is not finished is barred when the registry is not active. -/
theorem of_inactive (hfree : r.finished.get? x = none) (hended : r.lifecycle ≠ .active) :
    r.Barred x :=
  ⟨hfree, fun hactive => absurd hactive hended⟩

theorem still (h : r.Barred x) (hstill : r.Still r') : r'.Barred x where
  free := hstill.finished ▸ h.free
  underway hactive := (h.underway (hstill.lifecycle ▸ hactive)).still hstill

/-- Taking something away binds nothing. -/
theorem drops (h : r.Barred x) (hdrops : r.Drops r') : r'.Barred x := by
  have hfree : r'.finished.get? x = none ∧ r'.lifecycle = r.lifecycle := by
    cases hdrops with
    | one id =>
      refine ⟨?_, rfl⟩
      show (r.finished.erase id).get? x = none
      rw [Store.get?_erase, h.free, ite_self]
    | all => exact ⟨rfl, rfl⟩
  exact ⟨hfree.1, fun hactive => (h.underway (hfree.2 ▸ hactive)).drops hdrops⟩

/-- Somebody else's mark is entered. -/
theorem enter (h : r.Barred x) (hmark : r.marks.enter id = .ok r'.marks)
    (hfinished : r'.finished = r.finished) (hlifecycle : r'.lifecycle = r.lifecycle) :
    r'.Barred x where
  free := hfinished ▸ h.free
  underway hactive := (h.underway (hlifecycle ▸ hactive)).enter hmark hfinished

/-- Somebody else's instance is bound. -/
theorem commit (h : r.Barred x) (hne : id ≠ x) {made : Instance}
    (hcommit : r.commit id made = .ok r') : r'.Barred x := by
  obtain ⟨-, hfinished, -, hlifecycle⟩ := Registry.commit_inv hcommit
  refine ⟨?_, fun hactive => (h.underway (hlifecycle ▸ hactive)).commit hne hcommit⟩
  rw [hfinished, Store.get?_insert_of_ne _ hne.symm]
  exact h.free

end Registry.Barred

/-- Somebody else's creation closes. -/
theorem Creation.Closes.barred {x id : Ident} {outermost : Bool} {t u : Session}
    {ending : Outcome Cause Instance} {outcome : Outcome Failure Instance}
    (h : Creation.Closes id outermost t ending outcome u) (hne : id ≠ x)
    (hx : t.registry.Barred x) : Throughout (·.Barred x) t u := by
  have hfree := h.unfinished hne hx.free
  have hu : u.registry.Barred x :=
    ⟨hfree, fun hactive => (hx.underway (h.lifecycle ▸ hactive)).leave hne h.marks hfree⟩
  have hput : Throughout (·.Barred x) t (t.put u.registry) := .of_eq hu rfl
  rcases h.split with hsame | ⟨event, hnote⟩
  · rw [hsame]
    exact hput
  · rw [hnote]
    exact hput.trans (.note hu event)

/-- **Who is barred stays barred** throughout a regular course. -/
theorem Course.barred {x : Ident} {s t : Session} {exit : Course.Exit} (h : Course s t exit)
    (hregular : t.Regular) (hx : s.registry.Barred x) : Throughout (·.Barred x) s t := by
  induction h with
  | rest s => exact .of_eq hx rfl
  | next first second ih ih' =>
    have hfirst := ih (hregular.mono second.suffix) hx
    exact hfirst.trans (ih' hregular hfirst.2)
  | aside hregistry hjournal => exact .of_eq (hregistry ▸ hx) hjournal
  | note _ | enter _ | announce _ _ _ => exact .note hx _
  | @expose s t id early _ inside ih =>
    have htaking : Throughout (·.Barred x) s (s.put (s.registry.takeFactory id)) :=
      .of_eq (hx.still ⟨rfl, rfl, rfl⟩) rfl
    have hfactory := ih (hregular.mono (t.suffix_note (.noticed (.exposing id)))) htaking.2
    have hkept : t.registry.Still (t.registry.expose id early) := ⟨rfl, rfl, rfl⟩
    exact htaking.trans (hfactory.trans
      ((Throughout.note hfactory.2 _).trans (.of_eq (hfactory.2.still hkept) rfl)))
  | call c _ _ _ ih =>
    have hinside := ih (hregular.mono (List.suffix_cons _ _)) hx
    exact (Throughout.note hx _).trans (hinside.trans (.note hinside.2 _))
  | shift h => exact .of_eq (hx.still h.still) rfl
  | drop _ h => exact .of_eq (hx.drops h) rfl
  | @exclude s op id value hbegins h =>
    have hbefore : s.Regular := hregular.mono List.suffix_rfl
    exact .of_eq (hx.still ⟨rfl, hbefore.excludes hbegins h, rfl⟩) rfl
  | setMarks hdoing _ => exact absurd hdoing.began hregular.marks.not_began
  | @register s given id origin made r _ _ hopen hchecked hcommit =>
    have hunderway := hx.underway (Lifecycle.allowsCreation_iff.1 hopen)
    have hne : id ≠ x := by
      rintro rfl
      rw [Marks.isChecked, hunderway.active, hunderway.checked] at hchecked
      cases hchecked
    exact .of_eq (hx.commit hne hcommit) rfl
  | @create s t u id outermost r _ _ _ _ hopen hmark inside _ hclose ih =>
    obtain ⟨hmarks, hfinished, hlifecycle⟩ := Registry.openCreation_inv hmark
    have hunderway := hx.underway (Lifecycle.allowsCreation_iff.1 hopen)
    have hne : id ≠ x := Marks.ne_of_enter hmarks hunderway.active hunderway.checked
    have hopened : r.Barred x := hx.enter hmarks hfinished hlifecycle
    have hcallback := ih (hregular.mono hclose.suffix) hopened
    have hopening : Throughout (·.Barred x) (s.note (.noticed (.creating id)))
        ((s.note (.noticed (.creating id))).put r) := .of_eq hopened rfl
    exact (Throughout.note hx _).trans
      (hopening.trans (hcallback.trans (hclose.barred hne hcallback.2)))
  | @process s t id marks products hmark inside _ _ ih =>
    have hopened : ({ s.registry with marks } : Registry).Barred x := hx.enter hmark rfl rfl
    have hinside := ih (hregular.mono List.suffix_rfl) hopened
    have hopening : Throughout (·.Barred x) s (s.put { s.registry with marks }) :=
      .of_eq hopened rfl
    have hclosed : Registry.Barred
        { t.registry with marks := t.registry.marks.leaveQuietly id, products } x := by
      refine ⟨hinside.2.free, fun hactive => ?_⟩
      -- the mark that is cleared is another one, for the registry was active when it was entered
      have hbefore : s.registry.lifecycle = .active :=
        Decidable.byContradiction fun hnot => inside.inactive hnot hactive
      have hunderway := hx.underway hbefore
      have hne : id ≠ x := Marks.ne_of_enter hmark hunderway.active hunderway.checked
      exact (hinside.2.underway hactive).leave hne rfl hinside.2.free
    exact hopening.trans (hinside.trans (.of_eq hclosed rfl))
  | @dispose s t id hook _ inside ih =>
    have htaking : Throughout (·.Barred x) s
        (s.put { s.registry with hooks := s.registry.hooks.erase id }) :=
      .of_eq (hx.still ⟨rfl, rfl, rfl⟩) rfl
    have hbefore := ih (hregular.mono (t.suffix_note_note _ _)) htaking.2
    exact htaking.trans (hbefore.trans ((Throughout.note hbefore.2 _).trans (.note hbefore.2 _)))
  | @destroy s t u _ _ inside hrest ih =>
    have hdestroying : Lifecycle.destroying ≠ .active := by decide
    have hdestroyed : Lifecycle.destroyed ≠ .active := by decide
    have hclosing : Throughout (·.Barred x) s (s.put { s.registry with lifecycle := .destroying }) :=
      .of_eq (.of_inactive hx.free hdestroying) rfl
    have hhooks := ih (hregular.mono hrest.suffix) hclosing.2
    have hempty : t.registry.empty.Barred x := .of_inactive rfl (inside.inactive hdestroying)
    have hemptied : Throughout (·.Barred x) t u := by
      have hput : Throughout (·.Barred x) t (t.put t.registry.empty) := .of_eq hempty rfl
      cases hrest with
      | silently => exact hput
      | reporting ids => exact hput.trans (.note hempty _)
    have hend : Throughout (·.Barred x) u (u.put { u.registry with lifecycle := .destroyed }) :=
      .of_eq (.of_inactive hemptied.2.free hdestroyed) rfl
    exact hclosing.trans (hhooks.trans (hemptied.trans hend))

/-- **Who is underway stays underway** throughout a calm course of an active registry. -/
theorem Course.underway {x : Ident} {s t : Session} {exit : Course.Exit} (h : Course s t exit)
    (hcalm : t.Calm) (hactive : s.registry.lifecycle = .active) (hx : s.registry.Underway x) :
    Throughout (·.Underway x) s t := by
  have hbarred := h.barred hcalm.regular ⟨hx.free, fun _ => hx⟩
  have hkept := h.lifecycle_kept hcalm.ends
  exact (hbarred.and hkept).imp fun r hr => hr.1.underway (hr.2.trans hactive)

end InstanceRegistry
