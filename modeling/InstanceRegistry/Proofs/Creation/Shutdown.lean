import InstanceRegistry.Proofs.Creation.Retention

/-!
  What the end of a registry blocks.

  Whether a registry is active is asked when a creation begins and when an instance is registered,
  and not again when a callback has returned.  What stops a creation that was going on when the
  registry ended is its mark: the end clears all marks, and a creation whose mark is gone binds
  nothing.  So an identifier that is subject to the check from beginning to end never becomes
  finished once the registry has left its active state, and is not finished when it is destroyed.

  An excluded identifier has no mark that could go.  Its creation binds what its callback returned
  whatever has become of the registry.

  Mathlib-free.
-/

namespace InstanceRegistry

/-! ## Subject to the check -/

/-- In a session's past no operation excluded `x`. -/
def Session.NeverExcludes (s : Session) (x : Ident) : Prop :=
  ∀ e ∈ s.journal, ∀ op, e.event = .began op → op.exclusion? e.registry ≠ some (x, true)

/-- Whether the entry of an operation's beginning says that it excludes `x`. -/
def Entry.excludes (x : Ident) (e : Entry) : Bool :=
  match e.event with
  | .began op => op.exclusion? e.registry == some (x, true)
  | _ => false

instance (s : Session) (x : Ident) : Decidable (s.NeverExcludes x) :=
  decidable_of_iff ((s.journal.all fun e => !e.excludes x) = true) (by
    rw [List.all_eq_true]
    refine forall_congr' fun e => imp_congr_right fun _ => ?_
    obtain ⟨event, r⟩ := e
    cases event <;> simp [Entry.excludes])

theorem Session.NeverExcludes.mono {s t : Session} {x : Ident} (h : t.NeverExcludes x)
    (hst : s.journal <:+ t.journal) : s.NeverExcludes x :=
  fun e he => h e (hst.subset he)

/-- Who is subject to the check stays so if nobody excludes it. -/
theorem Course.checked {s t : Session} {x : Ident} (h : Course s t) (hnever : t.NeverExcludes x) :
    Through (fun r r' => r.marks.isExcluded x = false → r'.marks.isExcluded x = false) s t := by
  refine h.through (fun _ hr => hr) (fun h h' hr => h' (h hr)) fun u r hu hmove hchecked => ?_
  cases hmove with
  | still h => rw [h.marks, hchecked]
  | drop _ h => cases h <;> exact hchecked
  | exclude hbegins h =>
    obtain ⟨rest, hrest⟩ := hbegins
    have hother := (hnever.mono hu) _ (hrest ▸ List.mem_cons_self) _ rfl
    exact Marks.isExcluded_setExcluded hchecked fun heq => hother (h.trans (congrArg some heq))
  | setMarks _ h => rw [Marks.isExcluded_congr h, hchecked]
  | mark hmark _ _ => rw [Marks.isExcluded_congr (Marks.enter_excluded hmark), hchecked]
  | unmark hmarks _ _ =>
    rw [hmarks, Marks.isExcluded_congr (Marks.excluded_leaveQuietly ..), hchecked]
  | register _ _ hcommit => rw [(Registry.commit_inv hcommit).2.2.1, hchecked]
  | create _ _ _ _ hcommit =>
    rw [(Registry.commit_inv hcommit).2.2.1, Registry.marks_abandonCreation,
      Marks.isExcluded_congr (Marks.excluded_leaveQuietly ..), hchecked]
  | close _ _ | empty _ | finish _ _ => exact hchecked

/-! ## What brackets leave of a mark -/

/-- Between two moments the mark of `x` is as it was and so is the lifecycle, or the registry ended
    and the mark is gone. -/
def Registry.Marked (x : Ident) (r r' : Registry) : Prop :=
  (r'.lifecycle = r.lifecycle ∧ r'.marks.isActive x = r.marks.isActive x) ∨
    (r.lifecycle = .active ∧ r'.lifecycle = .destroyed ∧ r'.marks.isActive x = false)

theorem Registry.Marked.trans {x : Ident} {r r' r'' : Registry} (h : r.Marked x r')
    (h' : r'.Marked x r'') : r.Marked x r'' := by
  rcases h with ⟨hsame, hmark⟩ | ⟨hactive, hended, hgone⟩
  · rcases h' with ⟨hsame', hmark'⟩ | ⟨hactive', hended', hgone'⟩
    · exact .inl ⟨hsame'.trans hsame, hmark'.trans hmark⟩
    · exact .inr ⟨hsame.symm.trans hactive', hended', hgone'⟩
  · rcases h' with ⟨hsame', hmark'⟩ | ⟨hactive', _, _⟩
    · exact .inr ⟨hactive, hsame'.trans hended, hmark'.trans hgone⟩
    · rw [hended] at hactive'
      cases hactive'

/-- A mark that is entered before a stretch and cleared after it. -/
theorem Registry.Marked.bracket {x id : Ident} {r r₁ r₂ r₃ : Registry} (h : r₁.Marked x r₂)
    (hmark : r.marks.enter id = .ok r₁.marks) (hopened : r₁.lifecycle = r.lifecycle)
    (hunmark : r₃.marks = r₂.marks.leaveQuietly id) (hclosed : r₃.lifecycle = r₂.lifecycle)
    (hchecked : r.marks.isExcluded x = false) (hchecked' : r₂.marks.isExcluded x = false) :
    r.Marked x r₃ := by
  rcases h with ⟨hsame, hsameMark⟩ | ⟨hactive, hended, hgone⟩
  · refine .inl ⟨(hclosed.trans hsame).trans hopened, ?_⟩
    rw [hunmark]
    exact Marks.isActive_of_bracket hmark hsameMark hchecked hchecked'
  · refine .inr ⟨hopened.symm.trans hactive, hclosed.trans hended, ?_⟩
    rw [hunmark]
    exact Marks.isActive_leaveQuietly hgone

/-- **A mark survives a course unless the registry ends in it**, and goes if it does. -/
theorem Course.marked {s t : Session} {x : Ident} {exit : Course.Exit} (h : Course s t exit)
    (hparts : t.Never Op.setsMarks) (hnever : t.NeverExcludes x) (hchecked : s.registry.marks.isExcluded x = false) :
    s.registry.Marked x t.registry := by
  induction h with
  | rest s => exact .inl ⟨rfl, rfl⟩
  | next first second ih ih' =>
    have hparts' := hparts.mono second.suffix
    have hnever' := hnever.mono second.suffix
    exact (ih hparts' hnever' hchecked).trans
      (ih' hparts hnever ((first.checked hnever').whole hchecked))
  | aside hregistry _ =>
    rw [hregistry]
    exact .inl ⟨rfl, rfl⟩
  | note _ | enter _ | announce _ _ _ => exact .inl ⟨rfl, rfl⟩
  | expose _ _ ih =>
    exact ih (hparts.mono (List.suffix_cons _ _)) (hnever.mono (List.suffix_cons _ _)) hchecked
  | call c _ _ _ ih =>
    exact ih (hparts.mono (List.suffix_cons _ _)) (hnever.mono (List.suffix_cons _ _)) hchecked
  | shift h => exact .inl ⟨h.still.lifecycle, congrArg (·.isActive x) h.still.marks⟩
  | drop _ h => cases h <;> exact .inl ⟨rfl, rfl⟩
  | exclude _ _ => exact .inl ⟨rfl, rfl⟩
  | setMarks hdoing _ => exact absurd hdoing.began hparts.not_began
  | register _ _ _ _ hcommit =>
    obtain ⟨-, -, hmarks, hlifecycle⟩ := Registry.commit_inv hcommit
    exact .inl ⟨hlifecycle, congrArg (·.isActive x) hmarks⟩
  | @create s t u id outermost r _ _ _ _ _ hmark inside _ hclose ih =>
    obtain ⟨hmarks, -, hlifecycle⟩ := Registry.openCreation_inv hmark
    have hopened : r.marks.isExcluded x = false := by
      rw [Marks.isExcluded_congr (Marks.enter_excluded hmarks), hchecked]
    have hnever' := hnever.mono hclose.suffix
    have hinside := ih (hparts.mono hclose.suffix) hnever' hopened
    exact hinside.bracket hmarks hlifecycle hclose.marks hclose.lifecycle hchecked
      ((inside.checked hnever').whole hopened)
  | @process s t id marks _ hmark inside _ _ ih =>
    have hopened : marks.isExcluded x = false := by
      rw [Marks.isExcluded_congr (Marks.enter_excluded hmark), hchecked]
    have hnever' : t.NeverExcludes x := hnever.mono List.suffix_rfl
    have hinside := ih (hparts.mono List.suffix_rfl) hnever' hopened
    exact hinside.bracket hmark rfl rfl rfl hchecked ((inside.checked hnever').whole hopened)
  | @dispose s t id hook _ _ ih =>
    have hsuffix := t.suffix_note_note (.noticed (.disposing id)) (hook.entry .disposal)
    exact ih (hparts.mono hsuffix) (hnever.mono hsuffix) hchecked
  | destroy _ hactive _ hrest _ =>
    refine .inr ⟨hactive, rfl, ?_⟩
    show Marks.isActive (Registry.marks _) x = false
    rw [hrest.registry]
    rfl

/-! ## What the end blocks -/

/-- From one moment to a later one: a registry that left its active state does not come back to it,
    `x` does not become finished then, and `x` is not finished once the registry is destroyed. -/
structure Registry.Blocks (x : Ident) (r r' : Registry) : Prop where
  ended : r.lifecycle ≠ .active → r'.lifecycle ≠ .active
  blocked : r.lifecycle ≠ .active → r.finished.get? x = none → r'.finished.get? x = none
  emptied : r.lifecycle ≠ .destroyed → r'.lifecycle = .destroyed → r'.finished.get? x = none

namespace Registry.Blocks

variable {x : Ident} {r r' r'' : Registry}

/-- As long as the lifecycle stays, nothing may be bound under `x` unless the registry is active. -/
theorem of_eq (hlifecycle : r'.lifecycle = r.lifecycle)
    (hblocked : r.lifecycle ≠ .active → r.finished.get? x = none → r'.finished.get? x = none) :
    r.Blocks x r' where
  ended := by
    rw [hlifecycle]
    exact id
  blocked := hblocked
  emptied hnot hended := absurd (hlifecycle.symm.trans hended) hnot

theorem same (hlifecycle : r'.lifecycle = r.lifecycle) (hfinished : r'.finished = r.finished) :
    r.Blocks x r' :=
  of_eq hlifecycle fun _ hfree => hfinished ▸ hfree

theorem refl (r : Registry) : r.Blocks x r := same rfl rfl

theorem trans (h : r.Blocks x r') (h' : r'.Blocks x r'') : r.Blocks x r'' where
  ended hnot := h'.ended (h.ended hnot)
  blocked hnot hfree := h'.blocked (h.ended hnot) (h.blocked hnot hfree)
  emptied hnot hended := by
    by_cases hmiddle : r'.lifecycle = .destroyed
    · exact h'.blocked (by rw [hmiddle]; nofun) (h.emptied hnot hmiddle)
    · exact h'.emptied hmiddle hended

/-- In an active registry anything may be bound. -/
theorem of_active (hactive : r.lifecycle = .active) (hlifecycle : r'.lifecycle = r.lifecycle) :
    r.Blocks x r' :=
  of_eq hlifecycle fun hnot => absurd hactive hnot

/-- Somebody else's instance is bound. -/
theorem of_ne {id : Ident} {made : Instance} (hne : id ≠ x) (hlifecycle : r'.lifecycle = r.lifecycle)
    (hfinished : r'.finished = r.finished.insert id made) : r.Blocks x r' := by
  refine of_eq hlifecycle fun _ hfree => ?_
  rw [hfinished, Store.get?_insert_of_ne _ hne.symm]
  exact hfree

end Registry.Blocks

/-- A move respects the block on `x` if `x` is subject to the check whenever a creation begins. -/
theorem Course.Move.blocks {s : Session} {r : Registry} {x : Ident} (h : Course.Move s r)
    (hparts : s.Never Op.setsMarks) (hnever : s.NeverExcludes x)
    (hchecked : ∀ e ∈ s.journal, e.registry.marks.isExcluded x = false) :
    s.registry.Blocks x r := by
  cases h with
  | still h => exact .same h.lifecycle h.finished
  | drop _ h =>
    cases h with
    | one id =>
      refine .of_eq rfl fun _ hfree => ?_
      show (s.registry.finished.erase id).get? x = none
      by_cases hid : x = id
      · rw [hid]
        exact Store.get?_erase_self _ id
      · rw [Store.get?_erase_of_ne _ hid]
        exact hfree
    | all => exact .of_eq rfl fun _ _ => rfl
  | exclude _ _ | setMarks _ _ => exact .same rfl rfl
  | mark _ hfinished hlifecycle | unmark _ hfinished hlifecycle => exact .same hlifecycle hfinished
  | register hopen _ hcommit =>
    exact .of_active (Lifecycle.allowsCreation_iff.1 hopen) (Registry.commit_inv hcommit).2.2.2
  | @create s₀ id outermost r₀ _ made marks hopen hmark inside hleave hcommit =>
    obtain ⟨-, hfinished, -, hlifecycle⟩ := Registry.commit_inv hcommit
    rw [Registry.finished_abandonCreation] at hfinished
    rw [Registry.lifecycle_abandonCreation] at hlifecycle
    by_cases hne : id = x
    · subst hne
      -- the mark is still there, so the registry has not ended since the creation began
      obtain ⟨hmarks, -, hopened⟩ := Registry.openCreation_inv hmark
      have hbefore : s₀.registry.marks.isExcluded id = false :=
        hchecked ⟨.noticed (.creating id), s₀.registry⟩ (inside.suffix.subset List.mem_cons_self)
      have hentered : r₀.marks.isExcluded id = false := by
        rw [Marks.isExcluded_congr (Marks.enter_excluded hmarks), hbefore]
      have hstill := (inside.checked hnever).whole hentered
      have hactive : s.registry.marks.isActive id = true := by
        rcases Marks.leave_inv hleave with ⟨hexcluded, -⟩ | ⟨-, hactive, -⟩
        · rw [hstill] at hexcluded
          cases hexcluded
        · exact hactive
      rcases inside.marked hparts hnever hentered with ⟨hsame, -⟩ | ⟨-, -, hgone⟩
      · exact .of_active ((hsame.trans hopened).trans (Lifecycle.allowsCreation_iff.1 hopen))
          hlifecycle
      · rw [hactive] at hgone
        cases hgone
    · exact .of_ne hne hlifecycle hfinished
  | close _ hactive =>
    exact ⟨fun hnot => absurd hactive hnot, fun _ hfree => hfree, fun _ hended => nomatch hended⟩
  | empty _ => exact .of_eq rfl fun _ _ => rfl
  | finish _ hempty =>
    exact ⟨fun _ => nofun, fun _ hfree => hfree, fun _ _ => by rw [hempty]; rfl⟩

/-! ## What the end does not block -/

namespace Creation

/-- An instance that a callback returned for a free place is bound if and only if the identifier is
    excluded or its mark is found.  Nobody asks for the lifecycle. -/
theorem CallsBack.bound_iff {engine : Engine} {id : Ident} {make : Routine} {s t u : Session}
    {v : Instance} {outcome : Outcome Failure Instance} (h : CallsBack engine id make s (.ok v) t)
    (hrun : getOrCreate engine id make s = some (outcome, u))
    (hfree : t.registry.finished.get? id = none) :
    (u.registry.finished.get? id = some v ↔
      t.registry.marks.isExcluded id = true ∨ t.registry.marks.isActive id = true) ∧
      u.registry.lifecycle = t.registry.lifecycle := by
  obtain ⟨outermost, hclose⟩ := h.closes hrun
  refine ⟨?_, hclose.lifecycle⟩
  cases hclose with
  | stuck hleave =>
    obtain ⟨hexcluded, hactive⟩ := Marks.leave_refused hleave
    rw [hexcluded, hactive, Session.registry_put, Registry.finished_abandonCreation, hfree]
    constructor
    · nofun
    · rintro (hno | hno) <;> cases hno
  | occupied _ hcommit =>
    have hbound := (commit_refused hcommit).2
    rw [Registry.finished_abandonCreation, Store.contains, hfree] at hbound
    cases hbound
  | bound hleave hcommit =>
    refine iff_of_true (Closes.bound hleave hcommit).finished ?_
    rcases Marks.leave_inv hleave with ⟨hexcluded, -⟩ | ⟨-, hactive, -⟩
    · exact .inl hexcluded
    · exact .inr hactive

end Creation

/-! ## Whole runs -/

open Creation (CallsBack)

/-- **The end of a registry blocks creation** for an identifier that is never excluded: once the
    registry has left its active state, it does not come back to it and `x` does not become finished,
    and whenever the registry is destroyed, `x` is not finished.  In general a creation that was going
    on when the registry ended binds what its callback returned if its identifier is excluded, and
    only then or if it was marked again. -/
theorem end_blocks {script : Script} {depth : Nat} {outcome : Outcome Cause Unit} {s : Session}
    {x : Ident} (h : script.runWithin depth = some (outcome, s)) (hparts : s.Never Op.setsMarks)
    (hstart : script.registry.marks.isExcluded x = false) (hnever : s.NeverExcludes x) :
    (s.moments.Pairwise fun later earlier => earlier.lifecycle ≠ .active →
      later.lifecycle ≠ .active ∧
        (earlier.finished.get? x = none → later.finished.get? x = none)) ∧
    (script.registry.lifecycle ≠ .destroyed →
      ∀ r ∈ s.moments, r.lifecycle = .destroyed → r.finished.get? x = none) ∧
    ∀ (engine : Engine) id make s₀ v t outcome' u, CallsBack engine id make s₀ (.ok v) t →
      Creation.getOrCreate engine id make s₀ = some (outcome', u) →
      t.registry.finished.get? id = none →
        (u.registry.finished.get? id = some v ↔
          t.registry.marks.isExcluded id = true ∨ t.registry.marks.isActive id = true) ∧
          u.registry.lifecycle = t.registry.lifecycle := by
  have hcourse := Script.course h
  have hchecked : ∀ e ∈ s.journal, e.registry.marks.isExcluded x = false := fun e he =>
    (hcourse.checked hnever).since rfl _ (List.mem_cons_of_mem _ (List.mem_map_of_mem he)) hstart
  have hblocks : Through (Registry.Blocks x) script.start s :=
    hcourse.through .refl .trans fun u r hu hmove =>
      hmove.blocks (hparts.mono hu) (hnever.mono hu) fun e he => hchecked e (hu.subset he)
  refine ⟨(hblocks.moments rfl).imp fun hb hnot => ⟨hb.ended hnot, hb.blocked hnot⟩,
    fun hactive r hr => (hblocks.since rfl r hr).emptied hactive, ?_⟩
  intro engine id make s₀ v t outcome' u hcalls hrun hfree
  exact hcalls.bound_iff hrun hfree

/-- A lamp whose construction shuts the registry down and then returns one. -/
def lastLight (excluded : Bool) : Script where
  registry := {}
  steps :=
    [.step (.create { id := "lamp", excluded } (.scripted "lamp"
      [.step .shutdown true none] .same)) false none]

/-- A lamp that is subject to the check is not bound any more. -/
theorem end_blocks_lamp :
    ∃ outcome s, (lastLight false).runWithin 3 = some (outcome, s) ∧ s.Never Op.setsMarks ∧
      (lastLight false).registry.marks.isExcluded "lamp" = false ∧ s.NeverExcludes "lamp" ∧
      s.registry.lifecycle = .destroyed ∧ s.registry.finished.get? "lamp" = none := by
  have hends : ∃ outcome s, (lastLight false).runWithin 3 = some (outcome, s) ∧
      s.Never Op.setsMarks ∧ s.NeverExcludes "lamp" ∧ s.registry.lifecycle = .destroyed :=
    Script.ends_of_check (by decide +kernel)
  obtain ⟨outcome, s, hrun, hparts, hnever, hended⟩ := hends
  have hempty := (end_blocks hrun hparts rfl hnever).2.1
  exact ⟨outcome, s, hrun, hparts, rfl, hnever, hended,
    hempty nofun s.registry List.mem_cons_self hended⟩

/-- An excluded lamp is bound after the registry was destroyed, when there was none yet. -/
theorem excluded_lamp_bound :
    ∃ outcome s, (lastLight true).runWithin 3 = some (outcome, s) ∧
      s.registry.lifecycle = .destroyed ∧ s.registry.finished.contains "lamp" = true ∧
      ∃ r ∈ s.moments, r.lifecycle = .destroyed ∧ r.finished.contains "lamp" = false := by
  exact Script.ends_of_check (by decide +kernel)

end InstanceRegistry
