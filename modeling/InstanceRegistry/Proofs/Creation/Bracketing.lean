import InstanceRegistry.Proofs.Creation.Failures

/-!
  Marks are well bracketed.

  A session is REGULAR if nobody in its past tampered with marks behind the registry's back: exclusions
  stayed as they were, and marks were set by creations and productions alone.  It is CALM if also the
  registry was not ended, which clears them.  In a calm course every mark that is set is cleared again, whatever the
  callbacks do and however they end, so the marks at its end are those at its beginning.

  Then a mark that is looked for is always found, and no operation fails for want of one.

  Mathlib-free.
-/

namespace InstanceRegistry

/-! ## Regular and calm sessions -/

/-- In a session's past no operation changed an exclusion, or set or cleared marks itself. -/
structure Session.Regular (s : Session) : Prop where
  fixed : ∀ e ∈ s.journal, ∀ op id value, e.event = .began op →
    op.exclusion? e.registry = some (id, value) → e.registry.marks.isExcluded id = value
  marks : s.Never Op.setsMarks

namespace Session.Regular

theorem mono {s t : Session} (h : t.Regular) (hst : s.journal <:+ t.journal) : s.Regular where
  fixed e he := h.fixed e (hst.subset he)
  marks := h.marks.mono hst

/-- An operation that has just begun excludes whom it excludes already. -/
theorem excludes {s : Session} (h : s.Regular) {op : Op} {id : Ident} {value : Bool}
    (hbegins : s.Begins op) (hop : op.exclusion? s.registry = some (id, value)) :
    s.registry.marks.setExcluded id value = s.registry.marks := by
  obtain ⟨rest, hrest⟩ := hbegins
  rw [← h.fixed _ (hrest ▸ List.mem_cons_self) op id value rfl hop]
  exact Marks.setExcluded_self _ id

end Session.Regular

/-- In a session's past no operation changed an exclusion, set or cleared marks itself or ended the
    registry. -/
structure Session.Calm (s : Session) : Prop where
  fixed : ∀ e ∈ s.journal, ∀ op id value, e.event = .began op →
    op.exclusion? e.registry = some (id, value) → e.registry.marks.isExcluded id = value
  marks : s.Never Op.setsMarks
  ends : s.Never Op.endsAll

namespace Session.Calm

theorem mono {s t : Session} (h : t.Calm) (hst : s.journal <:+ t.journal) : s.Calm where
  fixed e he := h.fixed e (hst.subset he)
  marks := h.marks.mono hst
  ends := h.ends.mono hst

theorem regular {s : Session} (h : s.Calm) : s.Regular := ⟨h.fixed, h.marks⟩

end Session.Calm

/-- Whether the entry of an operation's beginning says that it changes an exclusion. -/
def Entry.changesExclusion (e : Entry) : Bool :=
  match e.event with
  | .began op =>
    match op.exclusion? e.registry with
    | some (id, value) => e.registry.marks.isExcluded id != value
    | none => false
  | _ => false

theorem Session.changesExclusion_iff {s : Session} :
    (s.journal.all fun e => !e.changesExclusion) = true ↔
      ∀ e ∈ s.journal, ∀ op id value, e.event = .began op →
        op.exclusion? e.registry = some (id, value) → e.registry.marks.isExcluded id = value := by
  constructor
  · intro hfixed e he op id value hevent hop
    have hnot := List.all_eq_true.1 hfixed e he
    rw [Entry.changesExclusion, hevent] at hnot
    simpa [hop] using hnot
  · intro h
    refine List.all_eq_true.2 fun e he => ?_
    rw [Entry.changesExclusion]
    split
    · rename_i op hevent
      split
      · rename_i id value hop
        simp [h e he op id value hevent hop]
      · rfl
    · rfl

instance (s : Session) : Decidable s.Regular :=
  decidable_of_iff
    ((s.journal.all fun e => !e.changesExclusion) = true ∧ s.Never Op.setsMarks)
    ⟨fun ⟨hfixed, hmarks⟩ => ⟨s.changesExclusion_iff.1 hfixed, hmarks⟩,
      fun h => ⟨s.changesExclusion_iff.2 h.fixed, h.marks⟩⟩

instance (s : Session) : Decidable s.Calm :=
  decidable_of_iff
    ((s.journal.all fun e => !e.changesExclusion) = true ∧ s.Never Op.setsMarks ∧
      s.Never Op.endsAll)
    ⟨fun ⟨hfixed, hmarks, hends⟩ => ⟨s.changesExclusion_iff.1 hfixed, hmarks, hends⟩,
      fun h => ⟨s.changesExclusion_iff.2 h.fixed, h.marks, h.ends⟩⟩

/-! ## What is opened is closed -/

/-- **A calm course leaves the marks as they were.** -/
theorem Course.marks_kept {s t : Session} {exit : Course.Exit} (h : Course s t exit)
    (hcalm : t.Calm) : t.registry.marks = s.registry.marks := by
  induction h with
  | rest s => rfl
  | next first second ih ih' => exact (ih' hcalm).trans (ih (hcalm.mono second.suffix))
  | aside hregistry _ => rw [hregistry]
  | note _ | enter _ | announce _ _ _ => rfl
  | expose _ _ ih => exact ih (hcalm.mono (List.suffix_cons _ _))
  | call c _ _ _ ih => exact ih (hcalm.mono (List.suffix_cons _ _))
  | shift h => exact h.still.marks
  | drop _ h => cases h <;> rfl
  | @exclude s op id value hbegins h =>
    have hbefore : s.Calm := hcalm.mono List.suffix_rfl
    exact hbefore.regular.excludes hbegins h
  | setMarks hdoing _ => exact absurd hdoing.began hcalm.marks.not_began
  | register _ _ _ _ hcommit => exact (Registry.commit_inv hcommit).2.2.1
  | create _ _ _ hmark inside _ hclose ih =>
    have hopened := (Registry.openCreation_inv hmark).1
    have hcallback := ih (hcalm.mono hclose.suffix)
    rw [hclose.marks, hcallback]
    exact Marks.leaveQuietly_eq (Marks.leave_of_enter hopened)
  | process hmark inside _ _ ih =>
    have hinside := ih (hcalm.mono List.suffix_rfl)
    show Marks.leaveQuietly _ _ = _
    rw [hinside]
    exact Marks.leaveQuietly_eq (Marks.leave_of_enter hmark)
  | @dispose s t id hook _ _ ih => exact ih (hcalm.mono (t.suffix_note_note _ _))
  | destroy hdoing _ inside hrest _ =>
    exact absurd (hdoing.began.mono (inside.suffix.trans hrest.suffix)) hcalm.ends.not_began

theorem Call.OnCourse.marks_kept {c : Call} (h : c.OnCourse) (hcalm : c.stop.Calm) :
    c.stop.registry.marks = c.start.registry.marks := by
  obtain ⟨_, -, hcourse⟩ := h
  exact hcourse.marks_kept hcalm

/-! ## Nothing fails for want of a mark -/

/-- Whenever the work fails and the session is calm, it does not fail because a mark is missing. -/
def Run.Consistent {α : Type} (work : Run Failure α) (s : Session) : Prop :=
  ∀ failure t, work s = some (.error failure, t) → t.Calm → ∀ problem, failure ≠ .inconsistent problem

namespace Run.Consistent

variable {α β : Type} {s : Session}

theorem of_ok {work : Run Failure α} (h : ∀ outcome t, work s = some (outcome, t) →
    ∃ value, outcome = .ok value) : work.Consistent s :=
  Run.Fails.of_ok h

theorem of_refusal {work : Run Failure α} (h : ∀ failure t, work s = some (.error failure, t) →
    failure.isRefusal = true) : work.Consistent s := by
  intro failure t hrun _ problem hproblem
  have hrefusal := h _ _ hrun
  rw [hproblem] at hrefusal
  cases hrefusal

theorem pure (value : α) : (Pure.pure value : Run Failure α).Consistent s := Run.Fails.pure value

theorem bind {work : Run Failure α} {next : α → Run Failure β} (h : work.Consistent s)
    (hnext : ∀ value t, (next value).Consistent t) : (work >>= next).Consistent s :=
  Run.Fails.bind h hnext

theorem map {work : Run Failure α} {f : α → β} (h : work.Consistent s) :
    (work >>= fun value => Pure.pure (f value)).Consistent s :=
  bind h fun _ _ => pure _

theorem registry_bind {next : Registry → Run Failure β} (h : (next s.registry).Consistent s) :
    (Run.registry >>= next).Consistent s :=
  Run.Fails.registry_bind h

theorem ofExcept {result : Except Failure α}
    (h : ∀ failure, result = .error failure → ∀ problem, failure ≠ .inconsistent problem) :
    (Run.ofExcept result).Consistent s := by
  intro failure t hrun _
  cases result with
  | ok _ => cases hrun
  | error failure' =>
    cases hrun
    exact h failure rfl

theorem update (f : Session → Session) : (Run.update f : Run Failure Unit).Consistent s :=
  Run.Fails.update f

theorem read (f : Session → α) : (Run.read f : Run Failure α).Consistent s := Run.Fails.read f

theorem attempt {ε : Type} (work : Run ε α) : (work.attempt : Run Failure _).Consistent s := by
  intro failure t h
  obtain ⟨_, _, hok⟩ := attempt_inv h
  cases hok

theorem noted {op : Op} {asStep : Bool} {answer : α → Answer Instance} {work : Run Failure α}
    (h : work.Consistent (s.note (.began op))) : (Run.noted op asStep answer work).Consistent s := by
  intro failure u hrun hcalm
  obtain ⟨t, hwork, rfl⟩ := noted_inv hrun
  exact h _ _ hwork (hcalm.mono (List.suffix_cons _ _))

end Run.Consistent

open Run (Consistent)

namespace Creation

variable {engine : Engine}

theorem lookup_consistent (id : Ident) (s : Session) : (lookup engine id).Consistent s :=
  lookup_fails (fun _ _ _ => nofun) s

/-- Opening a creation is refused to an identifier in creation, and for no other reason. -/
theorem openCreation_refused {r : Registry} {id : Ident} {failure : Failure}
    (h : r.openCreation id = .error failure) : failure = .inCreation id := by
  rw [Registry.openCreation] at h
  cases hmark : r.marks.enter id with
  | error failure' =>
    rw [hmark] at h
    cases h
    exact Marks.enter_refused hmark
  | ok marks =>
    rw [hmark] at h
    cases h

/-- Binding is refused if the place is taken, and for no other reason. -/
theorem commit_refused {r : Registry} {id : Ident} {made : Instance} {failure : Failure}
    (h : r.commit id made = .error failure) :
    failure = .alreadyBound id ∧ r.finished.contains id = true := by
  rw [Registry.commit] at h
  cases hfound : r.finished.contains id with
  | true =>
    rw [hfound] at h
    cases h
    exact ⟨rfl, rfl⟩
  | false =>
    rw [hfound] at h
    cases h

theorem getOrCreate_consistent (hengine : engine.OnCourse) (id : Ident) (make : Routine)
    (s : Session) : (getOrCreate engine id make).Consistent s := by
  intro failure u h hcalm problem
  rcases getOrCreate_inv h with ⟨_, _, hnot, _⟩ | ⟨_, ⟨_, hclosed, _⟩ | ⟨_, hconstruct⟩⟩
  · cases hnot
  · cases hclosed
    nofun
  rcases construct_inv hconstruct with ⟨_, hrefused, heq, _⟩ |
      ⟨outermost, r, ending, t, hmark, hcallback, hclose⟩
  · cases heq
    rw [openCreation_refused hrefused]
    nofun
  cases hclose with
  | stuck hleave =>
    -- the callback left the mark that was set for it
    have hcourse := hengine.construct make _ ⟨id, _, _, rfl⟩ _ _ hcallback
    have hfound := Marks.leave_of_enter (Registry.openCreation_inv hmark).1
    rw [hcourse.marks_kept (hcalm.mono List.suffix_rfl), Session.registry_put, hfound] at hleave
    cases hleave
  | occupied _ hcommit =>
    rw [(commit_refused hcommit).1]
    nofun
  | failed _ _ => nofun
  | mismatched _ _ => nofun

theorem registerInstance_consistent (id : Ident) (made : Instance) (s : Session) :
    (registerInstance id made).Consistent s := by
  intro failure t h _ problem
  rcases registerInstance_inv h with ⟨_, _, _, _, hok, _⟩ | ⟨_, _, hnot⟩
  · cases hok
  · intro heq
    exact hnot problem (heq ▸ rfl)

end Creation

namespace Production

variable {engine : Engine}

theorem produce_consistent (id : Ident) (step : Routine) (s : Session) :
    (produce engine id step).Consistent s :=
  produce_fails (fun _ _ _ => nofun) (fun _ _ => nofun) s

theorem postProcess_consistent (id : Ident) (product : Instance) (s : Session) :
    (postProcess engine id product).Consistent s :=
  postProcess_fails (fun _ _ _ => nofun) s

theorem postProcessMarked_consistent (hengine : engine.OnCourse) (id : Ident) (product : Instance)
    (s : Session) : (postProcessMarked engine id product).Consistent s := by
  intro failure u h hcalm problem
  rcases postProcessMarked_inv h with ⟨_, hrefused, heq, _⟩ |
      ⟨marks, ending, t, hmark, hwork, rfl, heq | ⟨_, hleave, _⟩⟩
  · cases heq
    rw [Marks.enter_refused hrefused]
    nofun
  · rw [← heq] at hwork
    exact postProcess_consistent id product _ _ _ hwork (hcalm.mono List.suffix_rfl) problem
  · have hcourse := postProcess_onCourse hengine id product _ _ _ hwork
    have hfound := Marks.leave_of_enter hmark
    rw [hcourse.marks_kept (hcalm.mono List.suffix_rfl), Session.registry_put, hfound] at hleave
    cases hleave

theorem resolve_consistent (hengine : engine.OnCourse) (id : Ident) (step : Routine)
    (shared post : Bool) (s : Session) : (resolve engine id step shared post).Consistent s :=
  resolve_fails (produce_consistent id step) (postProcess_consistent id)
    (postProcessMarked_consistent hengine id) s

end Production

namespace Operations

variable {engine : Engine}

theorem accept_consistent (id : Ident) (s : Session) : (accept id).Consistent s := by
  refine accept_fails (fun _ failure hrefusal _ problem hproblem => ?_) s
  rw [hproblem] at hrefusal
  cases hrefusal

theorem create_consistent (hengine : engine.OnCourse) (request : Request) (make : Routine)
    (s : Session) : (create engine request make).Consistent s := by
  rw [create_eq]
  refine .bind (.of_refusal fun failure t h => ?_) fun id t =>
    Creation.getOrCreate_consistent hengine id make t
  rcases prepare_inv h with ⟨_, hno, _⟩ | ⟨_, heq, hrefusal, -⟩
  · cases hno
  · cases heq
    exact hrefusal

theorem change_consistent {c : Change} (hsets : (Op.change c).setsMarks = false) (s : Session) :
    (change c).Consistent s := by
  cases c with
  | remove _ | setExcluded _ _ | setChecked _ _ =>
    exact .bind (.read _) fun _ _ => .update _
  | clear => exact .update _
  | suppress text =>
    refine .registry_bind ?_
    cases s.registry.suppressed with
    | none => exact .pure _
    | some texts =>
      by_cases hroom : texts.length < s.registry.config.suppressedLimit
      · simp only [if_pos hroom]
        exact .update _
      · simp only [if_neg hroom]
        exact .update _
  | enter _ | leave _ | clearMarks => cases hsets

/-- An alias is refused because it is taken or circular. -/
theorem decision_refused {t : AliasTable} {name nick : Ident} {failure : Failure}
    (h : t.decision name nick = .error failure) : ∀ problem, failure ≠ .inconsistent problem := by
  have hbind : t.bindOrRefuse name nick = .error failure →
      ∀ problem, failure ≠ .inconsistent problem := by
    intro hrefused
    rw [AliasTable.bindOrRefuse] at hrefused
    split at hrefused
    · cases hrefused
      nofun
    · cases hrefused
  rw [AliasTable.decision] at h
  split at h
  · cases h
  · split at h
    · exact hbind h
    · split at h
      · cases h
      · split at h
        · exact hbind h
        · cases h
          nofun

theorem onAliases_consistent (command : AliasTable.Command) (s : Session) :
    (onAliases command).Consistent s := by
  cases command with
  | register name nick =>
    refine .registry_bind (.bind (.ofExcept fun _ => decision_refused) fun decision t => ?_)
    refine .bind ?_ fun _ u => .bind (.update _) fun _ _ => .pure _
    cases decision with
    | bind => exact .update _
    | release | keep => exact .pure _
  | remove _ | isAlias _ | aliasesOf _ | hasAlias _ _ | canonicalName _ | ownName _ =>
    exact .registry_bind (.bind (.update _) fun _ _ => .ofExcept nofun)

theorem registerHook_consistent (id : Ident) (hook : Routine) (s : Session) :
    (registerHook id hook).Consistent s := by
  refine .bind (accept_consistent id s) fun id t => .registry_bind (.bind (.update _) fun _ u => ?_)
  cases t.registry.hooks.contains id with
  | true => exact .update _
  | false => exact .pure _

end Operations

/-- Callers that ask at once are told how they fared; together they never fail. -/
theorem Contention.callers_consistent (engine : Engine) (id : Ident) (settles : List Settle)
    (tally : Tally) (seen : List Instance) (s : Session) :
    (callers engine id settles tally seen : Run Failure _).Consistent s := by
  induction settles generalizing tally seen s with
  | nil => exact .pure _
  | cons settle rest ih => exact .bind (.attempt _) fun _ t => ih _ _ t

/-- **No operation fails for want of a mark**, if it sets none itself and does not end the
    registry. -/
theorem Op.run_consistent {op : Op} (hsets : op.setsMarks = false) (hends : op.endsAll = false)
    (depth : Nat) (s : Session) : (op.run (.ofDepth depth)).Consistent s := by
  have hengine := onCourse_ofDepth depth
  have hnamed : ∀ id make t, (Operations.getOrCreate (.ofDepth depth) id make).Consistent t := by
    intro id make t
    rw [Operations.getOrCreate_eq]
    exact Operations.create_consistent hengine { id } make t
  cases op with
  | ask _ | graph _ | getLater _ | make _ => exact .of_ok fun _ _ h => by cases h; exact ⟨_, rfl⟩
  | change c => exact .map (Operations.change_consistent hsets s)
  | aliases command => exact Operations.onAliases_consistent command s
  | get id =>
    exact .map (.bind (.read _)
      fun id t => Creation.lookup_consistent id t)
  | getOrCreate id construct => exact .map (hnamed id construct s)
  | create request construct =>
    exact .map (Operations.create_consistent hengine request construct s)
  | registerInstance id origin =>
    have hsource : (Op.source id origin).Consistent s := by
      cases origin <;> exact .of_ok fun _ _ h => by cases h; exact ⟨_, rfl⟩
    refine .bind hsource fun made t => ?_
    cases made with
    | none => exact .pure _
    | some made =>
      exact .map (.bind (Operations.accept_consistent id t)
        fun id u => Creation.registerInstance_consistent id made u)
  | registerFactory id factory =>
    exact .map (.bind (Operations.accept_consistent id s) fun _ _ => .update _)
  | registerHook id hook => exact .map (Operations.registerHook_consistent id hook s)
  | destroyOne id =>
    refine .map (.bind (.read _) fun id t => ?_)
    exact .of_ok (Destruction.succeeds_destroyWithin _ id t)
  | destroyAll | shutdown => cases hends
  | resolveProduct id step shared post =>
    exact .map (.bind (Operations.accept_consistent id s)
      fun id t => Production.resolve_consistent hengine id step shared post t)
  | productType type =>
    cases type with
    | declared _ => exact .pure _
    | failing _ => exact .map (.bind (.update _) fun _ _ => .pure _)
  | wire id => exact .map (.noted (hnamed id (.assembly id) _))
  | race id number settle =>
    refine .map (.bind (.read _) fun before t => ?_)
    refine .bind (Contention.callers_consistent _ _ _ _ _ t) fun result u => ?_
    exact .bind (.read _) fun _ _ => .pure _

/-! ## Whole runs -/

/-- Steps taken one after another are the first of them and then the others. -/
theorem Script.takeSteps_append (engine : Engine) (first rest : List Step) :
    takeSteps engine (first ++ rest) =
      (takeSteps engine first >>= fun _ => takeSteps engine rest) := by
  induction first with
  | nil => rfl
  | cons step first ih =>
    rw [List.cons_append, takeSteps, takeSteps, ih, Run.bind_assoc]

/-- **Marks are well bracketed.**  In a calm script every operation, at top level or in a callback
    of any depth, leaves the marks exactly as it found them, whether it succeeds, fails or panics,
    and none fails for want of a mark.  Whatever steps of the script were taken, the marks stand as
    they stood at its start. -/
theorem marks_bracketed {script : Script} {depth : Nat} {outcome : Outcome Cause Unit} {s : Session}
    (h : script.runWithin depth = some (outcome, s)) (hcalm : s.Calm) :
    (s.EveryCall fun c _ => c.stop.registry.marks = c.start.registry.marks ∧
      ∀ problem, c.result ≠ .error (.inconsistent problem)) ∧
    ∀ first rest ending t, script.steps = first ++ rest →
      Script.takeSteps (.ofDepth depth) first script.start = some (ending, t) →
        t.registry.marks = script.registry.marks := by
  constructor
  · refine Script.everyCall h fun c asStep later hjournal => ?_
    have hstop : c.stop.journal <:+ s.journal :=
      (List.suffix_cons _ _).trans ⟨later, hjournal.symm⟩
    have hcalm' : c.stop.Calm := hcalm.mono hstop
    refine ⟨c.course.marks_kept hcalm', fun problem hresult => ?_⟩
    have hbegan : ∃ e ∈ c.stop.journal, e.event = .began c.op :=
      ⟨_, c.course.suffix.subset List.mem_cons_self, rfl⟩
    obtain ⟨e, he, hevent⟩ := hbegan
    have hrun := c.run
    rw [hresult] at hrun
    exact Op.run_consistent (hcalm'.marks e he c.op hevent) (hcalm'.ends e he c.op hevent) c.depth _
      _ _ hrun hcalm' problem rfl
  · intro first rest ending t hsteps hfirst
    have hcourse := Script.takeSteps_onCourse first script.start _ _ hfirst
    have hsuffix : t.journal <:+ s.journal := by
      rw [Script.runWithin, hsteps, Script.takeSteps_append] at h
      rcases Run.bind_inv h with ⟨_, t', hfirst', hrest⟩ | ⟨_, hfirst', _⟩ | ⟨_, hfirst', _⟩
      · rw [hfirst] at hfirst'
        cases hfirst'
        exact (Script.takeSteps_onCourse rest _ _ _ hrest).suffix
      · rw [hfirst] at hfirst'
        cases hfirst'
        exact List.suffix_rfl
      · rw [hfirst] at hfirst'
        cases hfirst'
        exact List.suffix_rfl
    exact hcourse.marks_kept (hcalm.mono hsuffix)

/-- A lamp whose construction asks for a shade that fails and for the lamp itself, its product, which
    is polished by asking for it again, and a spare lamp, excluded, whose construction panics. -/
def workshop : Script where
  registry :=
    { marks := { excluded := ["spare"] }
      postProcessor := some (.scripted "polish"
        [.step (.resolveProduct "lamp" (.scripted "lamp" [] .same) true true) true none]
        (.wrap "polished")) }
  steps :=
    [.step (.getOrCreate "lamp" (.scripted "lamp"
        [.step (.getOrCreate "shade" (.scripted "shade" [] (.fail "torn"))) false none,
          .step (.getOrCreate "lamp" (.scripted "lamp" [] .same)) false none] .same)) true none,
      .step (.resolveProduct "lamp" (.scripted "lamp" [] .same) true true) true none,
      .step (.create { id := "spare", excluded := true }
        (.scripted "spare" [] (.panic (.saying "short")))) false none]

/-- When all is done nothing is marked. -/
theorem marks_bracketed_workshop :
    ∃ outcome s, workshop.runWithin 5 = some (outcome, s) ∧ s.Calm ∧
      s.registry.marks.active = [] ∧
      s.EveryCall fun c _ => c.stop.registry.marks = c.start.registry.marks ∧
        ∀ problem, c.result ≠ .error (.inconsistent problem) := by
  have hends : ∃ outcome s, workshop.runWithin 5 = some (outcome, s) ∧ s.Calm :=
    Script.ends_of_check (by decide +kernel)
  obtain ⟨outcome, s, hrun, hcalm⟩ := hends
  obtain ⟨hcalls, hsteps⟩ := marks_bracketed hrun hcalm
  have hmarks := hsteps workshop.steps [] outcome s (List.append_nil _).symm hrun
  exact ⟨outcome, s, hrun, hcalm, congrArg Marks.active hmarks, hcalls⟩

end InstanceRegistry
