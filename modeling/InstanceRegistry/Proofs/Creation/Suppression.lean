import InstanceRegistry.Proofs.Creation.Bracketing

/-!
  Whom suppressed errors reach.

  There is one BUFFER for non-fatal errors.  The creation that finds none opens it, and takes it away
  when it ends, whether it succeeds, fails or panics.  A creation that finds one leaves it alone.  So
  there is a buffer just while a creation is going on, and the outermost creation owns it.

  From one session to a later one the buffer COLLECTS what is reported in between: it holds the first
  of all the texts that were reported, as many as the limit allows.  That is a law of courses, for
  all but those inside a report itself.  Applied to the callback of the outermost creation it says
  what its failure carries.

  Mathlib-free.
-/

namespace InstanceRegistry

/-! ## Reports -/

/-- The non-fatal error that an operation reports. -/
def Op.report? : Op → Option String
  | change (.suppress text) => some text
  | _ => none

/-- Whether an operation reports a non-fatal error. -/
def Op.suppresses (op : Op) : Bool := op.report?.isSome

theorem Op.eq_of_report? {op : Op} {text : String} (h : op.report? = some text) :
    op = .change (.suppress text) := by
  cases op with
  | change c =>
    cases c with
    | suppress text' =>
      cases h
      rfl
    | _ => cases h
  | _ => cases h

/-- The non-fatal error whose report an event begins. -/
def Event.reported? : Event → Option String
  | .began op => op.report?
  | _ => none

theorem Event.reported?_of_isAside {event : Event} (h : event.isAside = true) :
    event.reported? = none := by
  cases event with
  | began _ => cases h
  | _ => rfl

theorem Routine.reported?_entry (role : Role) (routine : Routine) :
    (routine.entry role).reported? = none := by
  cases routine <;> rfl

/-- The non-fatal errors that were reported in a stretch of the journal, the earliest first. -/
def reported (entries : List Entry) : List String :=
  (entries.filterMap fun e => e.event.reported?).reverse

theorem reported_append (later earlier : List Entry) :
    reported (later ++ earlier) = reported earlier ++ reported later := by
  rw [reported, List.filterMap_append, List.reverse_append]
  rfl

theorem reported_silent {event : Event} (h : event.reported? = none) (r : Registry) :
    reported [⟨event, r⟩] = [] := by
  simp [reported, h]

/-! ## What the buffer collects -/

/-- What is reported between two sessions goes into the buffer behind what it holds, if there is one,
    up to the limit. -/
def Collects (limit : Nat) (s t : Session) : Prop :=
  ∀ said, s.registry.suppressed = some (said.take limit) →
    ∃ new, t.journal = new ++ s.journal ∧
      t.registry.suppressed = some ((said ++ reported new).take limit)

namespace Collects

variable {limit : Nat} {s t u : Session}

theorem of_eq (hregistry : t.registry.suppressed = s.registry.suppressed)
    (hjournal : t.journal = s.journal) : Collects limit s t := by
  intro said hbuffer
  refine ⟨[], hjournal, ?_⟩
  rw [hregistry, hbuffer]
  simp [reported]

theorem note {event : Event} (h : event.reported? = none) : Collects limit s (s.note event) := by
  intro said hbuffer
  refine ⟨[⟨event, s.registry⟩], rfl, ?_⟩
  rw [reported_silent h, List.append_nil]
  exact hbuffer

theorem trans (h : Collects limit s t) (h' : Collects limit t u) : Collects limit s u := by
  intro said hbuffer
  obtain ⟨new, hjournal, hmiddle⟩ := h said hbuffer
  obtain ⟨new', hjournal', hend⟩ := h' _ hmiddle
  refine ⟨new' ++ new, by rw [hjournal', hjournal, List.append_assoc], ?_⟩
  rw [hend, reported_append, List.append_assoc]

end Collects

/-- A change leaves the buffer as it is, unless it keeps an error that is being reported. -/
theorem Session.Shift.buffer {s : Session} {r : Registry} (h : s.Shift r) :
    r.suppressed = s.registry.suppressed ∨
      (s.Doing Op.suppresses ∧ s.registry.suppressed.isSome = true ∧
        r.suppressed.isSome = true) := by
  cases h with
  | @offerFactory _ id _ _ _ =>
    rw [Registry.offerFactory]
    cases s.registry.finished.contains id <;> exact .inl rfl
  | @storeProduct id _ _ _ =>
    rw [Registry.storeProduct]
    cases s.registry.finished.contains id <;> exact .inl rfl
  | suppress hbegins hbuffer => exact .inr ⟨hbegins.doing rfl, by rw [hbuffer]; rfl, rfl⟩
  | takeFactory _ | graph _ | aliases _ | keepHook _ _ => exact .inl rfl

/-- A creation takes the buffer away if it is the outermost one. -/
theorem Creation.Closes.suppressed {id : Ident} {outermost : Bool} {t u : Session}
    {ending : Outcome Cause Instance} {outcome : Outcome Failure Instance}
    (h : Creation.Closes id outermost t ending outcome u) :
    u.registry.suppressed = if outermost then none else t.registry.suppressed := by
  obtain ⟨_, _, _, _, hregistry⟩ := h.registry_eq
  rw [hregistry]

/-- A creation that closes reports no error. -/
theorem Creation.Closes.silent {id : Ident} {outermost : Bool} {t u : Session}
    {ending : Outcome Cause Instance} {outcome : Outcome Failure Instance}
    (h : Creation.Closes id outermost t ending outcome u) :
    ∃ new, u.journal = new ++ t.journal ∧ reported new = [] := by
  cases h with
  | recovered _ | mismatched _ _ => exact ⟨[_], rfl, rfl⟩
  | stuck _ | occupied _ _ | bound _ _ | failed _ _ | unwound => exact ⟨[], rfl, rfl⟩

/-- What a report does. -/
theorem Call.suppress_inv {c : Call} {text : String} (hop : c.op = .change (.suppress text)) :
    (c.start.registry.suppressed = none ∧ c.stop = c.start.note (.began c.op)) ∨
      ∃ texts, c.start.registry.suppressed = some texts ∧
        ((texts.length < c.start.registry.config.suppressedLimit ∧
            c.stop = (c.start.note (.began c.op)).put
              { c.start.registry with suppressed := some (texts ++ [text]) }) ∨
          (c.start.registry.config.suppressedLimit ≤ texts.length ∧
            c.stop = (c.start.note (.began c.op)).note (.noticed (.errorDropped text)))) := by
  have hrun := c.run
  rw [hop] at hrun ⊢
  obtain ⟨ending, hsuppress, -⟩ := Run.map_inv hrun
  exact Creation.suppress_inv hsuppress

/-- A report is collected: there is room for its text, or enough was said before. -/
theorem Call.collects {c : Call} {text : String} (hop : c.op = .change (.suppress text))
    (asStep : Bool) :
    Collects c.start.registry.config.suppressedLimit c.start
      (c.stop.note (.done c.op asStep c.result)) := by
  intro said hbuffer
  rcases Call.suppress_inv hop with ⟨hnone, -⟩ | ⟨texts, hsome, hreport⟩
  · rw [hbuffer] at hnone
    cases hnone
  rw [hbuffer] at hsome
  cases hsome
  rw [List.length_take] at hreport
  rcases hreport with ⟨hroom, hstop⟩ | ⟨hfull, hstop⟩
  · have hshort : said.length < c.start.registry.config.suppressedLimit := by omega
    have hall : (said ++ [text]).length ≤ c.start.registry.config.suppressedLimit := by
      simp only [List.length_append, List.length_singleton]
      omega
    refine ⟨[⟨.done c.op asStep c.result, c.stop.registry⟩, ⟨.began c.op, c.start.registry⟩], ?_, ?_⟩
    · rw [hstop]
      rfl
    · show c.stop.registry.suppressed = _
      rw [hstop, hop, List.take_of_length_le (Nat.le_of_lt hshort)]
      show some (said ++ [text]) = some ((said ++ [text]).take _)
      rw [List.take_of_length_le hall]
  · have hlong : c.start.registry.config.suppressedLimit ≤ said.length := by omega
    refine ⟨[⟨.done c.op asStep c.result, c.stop.registry⟩,
      ⟨.noticed (.errorDropped text), c.start.registry⟩, ⟨.began c.op, c.start.registry⟩], ?_, ?_⟩
    · rw [hstop]
      rfl
    · show c.stop.registry.suppressed = _
      rw [hstop, hop, List.take_append_of_le_length hlong]
      exact hbuffer

namespace Course

variable {s t : Session} {exit : Exit}

/-- **The buffer collects what is reported** in a course that is not inside a report itself. -/
theorem collects (h : Course s t exit) (hdoing : ¬ s.Doing Op.suppresses) :
    Collects s.registry.config.suppressedLimit s t := by
  induction h with
  | rest s => exact .of_eq rfl rfl
  | next first _ ih ih' =>
    have hmiddle := mt first.doing.1 hdoing
    have hsecond := ih' hmiddle
    rw [first.settings.1] at hsecond
    exact (ih hdoing).trans hsecond
  | aside hregistry hjournal => exact .of_eq (congrArg Registry.suppressed hregistry) hjournal
  | note haside => exact .note (Event.reported?_of_isAside haside)
  | enter _ | announce _ _ _ => exact .note rfl
  | @expose s t id early _ _ ih =>
    have htaking : Collects s.registry.config.suppressedLimit s
        (s.put (s.registry.takeFactory id)) := .of_eq rfl rfl
    have hkept : Collects s.registry.config.suppressedLimit (t.note (.noticed (.exposing id)))
        ((t.note (.noticed (.exposing id))).put (t.registry.expose id early)) := .of_eq rfl rfl
    exact htaking.trans ((ih hdoing).trans (.trans (.note rfl) hkept))
  | call c asStep _ _ ih =>
    cases hop : c.op.report? with
    | some text => exact Call.collects (Op.eq_of_report? hop) asStep
    | none =>
      have hbegun : ¬ (c.start.note (.began c.op)).Doing Op.suppresses := by
        rintro ⟨f, hf, hkind⟩
        rw [Session.frames_note_began] at hf
        cases hf
        rw [Op.suppresses, hop] at hkind
        cases hkind
      have hsilent : (Event.began c.op).reported? = none := hop
      exact .trans (.note hsilent) ((ih hbegun).trans (.note rfl))
  | shift h =>
    rcases h.buffer with hsame | ⟨hreport, -⟩
    · exact .of_eq hsame rfl
    · exact absurd hreport hdoing
  | drop _ h => exact .of_eq (by cases h <;> rfl) rfl
  | exclude _ _ | setMarks _ _ => exact .of_eq rfl rfl
  | register _ _ _ _ hcommit =>
    obtain ⟨-, rfl⟩ := Registry.commit_eq hcommit
    exact .of_eq rfl rfl
  | @create s t u id outermost r ending outcome _ _ _ hmark inside _ hclose ih =>
    intro said hbuffer
    -- there is a buffer, so this creation is not the outermost one
    obtain ⟨marks, -, ⟨hnone, -⟩ | ⟨texts, -, houter, rfl⟩⟩ := Registry.openCreation_eq hmark
    · rw [hbuffer] at hnone
      cases hnone
    have hannounced : Collects s.registry.config.suppressedLimit (s.note (.noticed (.creating id)))
        ((s.note (.noticed (.creating id))).put { s.registry with marks }) := .of_eq rfl rfl
    have hcallback := ih (mt (Session.doing_announced _ id _).1 hdoing)
    have hclosing : Collects s.registry.config.suppressedLimit t u := by
      intro said' hbuffer'
      obtain ⟨new, hjournal, hsilent⟩ := hclose.silent
      refine ⟨new, hjournal, ?_⟩
      rw [hsilent, List.append_nil, hclose.suppressed, houter]
      exact hbuffer'
    have hwhole := hannounced.trans (hcallback.trans hclosing)
    exact Collects.trans (.note rfl) hwhole said hbuffer
  | @process s t id marks products _ _ _ _ ih =>
    have hopening : Collects s.registry.config.suppressedLimit s (s.put { s.registry with marks }) :=
      .of_eq rfl rfl
    exact hopening.trans ((ih hdoing).trans (.of_eq rfl rfl))
  | @dispose s t id hook _ _ ih =>
    have htaking : Collects s.registry.config.suppressedLimit s
        (s.put { s.registry with hooks := s.registry.hooks.erase id }) := .of_eq rfl rfl
    have hnotice : Collects s.registry.config.suppressedLimit t (t.note (.noticed (.disposing id))) :=
      .note rfl
    have hentry := Routine.reported?_entry .disposal hook
    exact htaking.trans ((ih hdoing).trans (hnotice.trans (.note hentry)))
  | @destroy s t u _ _ inside hrest ih =>
    have hclosing : Collects s.registry.config.suppressedLimit s
        (s.put { s.registry with lifecycle := .destroying }) := .of_eq rfl rfl
    have hempty : Collects s.registry.config.suppressedLimit t (t.put t.registry.empty) :=
      .of_eq rfl rfl
    have hemptied : Collects s.registry.config.suppressedLimit t u := by
      cases hrest with
      | silently => exact hempty
      | reporting ids => exact hempty.trans (.note rfl)
    exact hclosing.trans ((ih hdoing).trans (hemptied.trans (.of_eq rfl rfl)))

end Course

/-! ## Whose the buffer is -/

/-- A creation is going on: a construction was announced in one of the calls under way. -/
def Session.Creating (s : Session) : Prop := s.frames.any Frame.creates = true

/-- There is a buffer just while a creation is going on. -/
def Session.Buffers (s : Session) : Prop :=
  s.registry.suppressed.isSome = s.frames.any Frame.creates

/-- When an operation begins, there is a buffer just if a creation is going on. -/
def Entry.Buffered (e : Entry) (earlier : List Entry) : Prop :=
  ∀ op, e.event = .began op →
    e.registry.suppressed.isSome = (Frame.after earlier).any Frame.creates

theorem Entry.buffered_of_isAside {e : Entry} (h : e.event.isAside = true) (earlier : List Entry) :
    e.Buffered earlier := by
  intro op hop
  rw [hop] at h
  cases h

/-- Opening a creation leaves a buffer, and it is the outermost one if there was none. -/
theorem Registry.buffer_of_openCreation {r r' : Registry} {id : Ident} {outermost : Bool}
    (h : r.openCreation id = .ok (outermost, r')) :
    r'.suppressed.isSome = true ∧ r.suppressed.isSome = !outermost := by
  obtain ⟨marks, -, ⟨hnone, rfl, rfl⟩ | ⟨texts, hsome, rfl, rfl⟩⟩ := openCreation_eq h
  · exact ⟨rfl, by rw [hnone]; rfl⟩
  · exact ⟨by rw [hsome]; rfl, by rw [hsome]; rfl⟩

/-- **There is a buffer just while a creation is going on**, at the beginning of each operation, and
    a course leaves one if it found one. -/
theorem Course.buffered {s t : Session} {exit : Course.Exit} (h : Course s t exit)
    (hs : s.Buffers) :
    Newly Entry.Buffered s t ∧ t.registry.suppressed.isSome = s.registry.suppressed.isSome := by
  have silent : ∀ {s : Session} {event : Event}, (∀ op, event ≠ .began op) →
      Newly Entry.Buffered s (s.note event) :=
    fun hno => .note fun op hop => absurd hop (hno op)
  induction h with
  | rest s => exact ⟨.of_eq rfl, rfl⟩
  | @next s t u exit first _ ih ih' =>
    obtain ⟨hfirst, hmiddle⟩ := ih hs
    have ht : t.Buffers := by
      rw [Session.Buffers, hmiddle, first.frames]
      exact hs
    obtain ⟨hsecond, hend⟩ := ih' ht
    exact ⟨hfirst.trans hsecond, hend.trans hmiddle⟩
  | aside hregistry hjournal => exact ⟨.of_eq hjournal, by rw [hregistry]⟩
  | note haside => exact ⟨.note (Entry.buffered_of_isAside haside _), rfl⟩
  | enter _ | announce _ _ _ => exact ⟨silent nofun, rfl⟩
  | @expose s t id early _ _ ih =>
    have htaken : (s.put (s.registry.takeFactory id)).Buffers := hs
    obtain ⟨hfactory, hend⟩ := ih htaken
    have hnotice : Newly Entry.Buffered t (t.note (.noticed (.exposing id))) := silent nofun
    exact ⟨hfactory.trans (hnotice.put _), hend⟩
  | call c asStep _ _ ih =>
    have hbegun : (c.start.note (.began c.op)).Buffers := hs
    obtain ⟨hinside, hend⟩ := ih hbegun
    have hbegan : Newly Entry.Buffered c.start (c.start.note (.began c.op)) :=
      .note fun _ _ => hs
    exact ⟨hbegan.trans (hinside.trans (silent nofun)), hend⟩
  | @shift s r h =>
    refine ⟨.of_eq rfl, ?_⟩
    rcases h.buffer with hsame | ⟨-, hsome, hsome'⟩
    · rw [Session.registry_put, hsame]
    · rw [Session.registry_put, hsome, hsome']
  | drop _ h => exact ⟨.of_eq rfl, by cases h <;> rfl⟩
  | exclude _ _ | setMarks _ _ => exact ⟨.of_eq rfl, rfl⟩
  | register _ _ _ _ hcommit =>
    obtain ⟨-, rfl⟩ := Registry.commit_eq hcommit
    exact ⟨.of_eq rfl, rfl⟩
  | @create s t u id outermost r ending outcome hasked _ _ hmark inside _ hclose ih =>
    obtain ⟨hopened, houtermost⟩ := Registry.buffer_of_openCreation hmark
    have hannounced : ((s.note (.noticed (.creating id))).put r).Buffers := by
      show r.suppressed.isSome = _
      obtain ⟨f, hf, -⟩ := hasked
      rw [hopened, Session.frames_put, Session.frames_note_creating]
      cases hframes : s.frames with
      | nil =>
        rw [hframes] at hf
        cases hf
      | cons f outer => rfl
    obtain ⟨hcallback, hend⟩ := ih hannounced
    have hnotice : Newly Entry.Buffered s (s.note (.noticed (.creating id))) := silent nofun
    have hclosing : Newly Entry.Buffered t u :=
      hclose.newly fun _ haside => Entry.buffered_of_isAside haside _
    refine ⟨(hnotice.put r).trans (hcallback.trans hclosing), ?_⟩
    rw [hclose.suppressed, houtermost]
    cases outermost with
    | true => rfl
    | false => exact hend.trans hopened
  | @process s t id marks products _ inside _ _ ih =>
    have hopened : (s.put { s.registry with marks }).Buffers := hs
    exact ih hopened
  | @dispose s t id hook _ inside ih =>
    have htaken : (s.put { s.registry with hooks := s.registry.hooks.erase id }).Buffers := hs
    obtain ⟨hbefore, hend⟩ := ih htaken
    have hnotice : Newly Entry.Buffered t (t.note (.noticed (.disposing id))) := silent nofun
    refine ⟨hbefore.trans (hnotice.trans (silent ?_)), hend⟩
    cases hook <;> nofun
  | @destroy s t u _ _ inside hrest ih =>
    have hopened : (s.put { s.registry with lifecycle := .destroying }).Buffers := hs
    obtain ⟨hhooks, hend⟩ := ih hopened
    have hemptied : Newly Entry.Buffered t u :=
      hrest.newly fun _ haside => Entry.buffered_of_isAside haside _
    refine ⟨.put (hhooks.trans hemptied) _, ?_⟩
    show u.registry.suppressed.isSome = _
    rw [hrest.registry]
    exact hend

/-! ## Failures that carry nothing -/

/-- A failure that carries no suppressed errors. -/
def Failure.Bare (failure : Failure) : Prop := failure.suppressed = []

theorem Failure.bare_of_isRefusal {failure : Failure} (h : failure.isRefusal = true) :
    failure.Bare := by
  cases failure with
  | construction _ _ _ => cases h
  | _ => rfl

/-- Whether an operation runs an early factory or a production step. -/
def Op.provides : Op → Bool
  | get _ | resolveProduct .. => true
  | _ => false

namespace Production

variable {engine : Engine} {id : Ident}

theorem produce_bare (step : Routine) (s : Session) :
    (produce engine id step).Fails (fun _ => Failure.Bare) s :=
  produce_fails (P := fun _ => Failure.Bare) (fun _ _ => rfl) (fun _ => rfl) s

theorem postProcess_bare (product : Instance) (s : Session) :
    (postProcess engine id product).Fails (fun _ => Failure.Bare) s :=
  postProcess_fails (P := fun _ => Failure.Bare) (fun _ _ => rfl) s

/-- Processing under the mark fails as the processing does, or over the mark. -/
theorem postProcessMarked_bare (product : Instance) (s : Session) :
    (postProcessMarked engine id product).Fails (fun _ => Failure.Bare) s := by
  intro failure u h
  rcases postProcessMarked_inv h with ⟨_, hrefused, heq, _⟩ |
      ⟨marks, ending, t, -, hwork, -, heq | ⟨_, hleave, heq⟩⟩
  · cases heq
    rw [Marks.enter_refused hrefused]
    rfl
  · rw [← heq] at hwork
    exact postProcess_bare product _ _ _ hwork
  · cases heq
    obtain ⟨problem, rfl⟩ := Marks.leave_inconsistent hleave
    rfl

end Production

/-- Neither an early factory nor a production step fails with suppressed errors. -/
theorem Op.run_bare {op : Op} (h : op.provides = true) (engine : Engine) (s : Session) :
    (op.run engine).Fails (fun _ => Failure.Bare) s := by
  cases op with
  | get id =>
    have hget : (Operations.get engine id).Fails (fun _ => Failure.Bare) s :=
      .bind (.read _) fun id t => Creation.lookup_fails (fun _ _ => rfl) t
    exact .bind hget fun _ _ => .pure _
  | resolveProduct id step shared post =>
    have haccept : (Operations.accept id).Fails (fun _ => Failure.Bare) s :=
      Operations.accept_fails (fun _ _ => Failure.bare_of_isRefusal) s
    have hresolve : (Operations.resolveProduct engine id step shared post).Fails
        (fun _ => Failure.Bare) s :=
      .bind haccept fun id t => Production.resolve_fails (Production.produce_bare step)
        Production.postProcess_bare Production.postProcessMarked_bare t
    exact .bind hresolve fun _ _ => .pure _
  | _ => cases h

/-! ## Failures of creations -/

namespace Creation

variable {id y : Ident} {cause : Cause} {texts : List String} {make : Routine} {s t u : Session}

/-- A failed creation carries what it took from the buffer. -/
theorem Closes.carries {outermost : Bool} {ending : Outcome Cause Instance}
    (h : Closes id outermost t ending (.error (.construction y cause texts)) u) :
    y = id ∧ texts = (t.registry.takeSuppressed outermost).1 := by
  cases h with
  | stuck hleave =>
    obtain ⟨_, hno⟩ := Marks.leave_inconsistent hleave
    cases hno
  | occupied _ hcommit => cases (commit_refused hcommit).1
  | failed _ _ | mismatched _ _ => exact ⟨rfl, rfl⟩

/-- **A failed creation carries what was reported since its callback started**, up to the limit, if
    it opened the buffer, and nothing otherwise. -/
theorem getOrCreate_carries {depth : Nat} (hdoing : ¬ s.Doing Op.suppresses)
    (h : getOrCreate (.ofDepth depth) id make s = some (.error (.construction y cause texts), u)) :
    (s.registry.suppressed = none → ∃ inside r r',
        u.journal = inside ++ ⟨make.entry .construction, r'⟩ :: ⟨.noticed (.creating y), r⟩ ::
          s.journal ∧
        texts = (reported inside).take s.registry.config.suppressedLimit) ∧
      (s.registry.suppressed.isSome = true → texts = []) := by
  rcases getOrCreate_inv h with ⟨_, _, hno, _⟩ | ⟨_, ⟨_, hno, _⟩ | ⟨_, hconstruct⟩⟩
  · cases hno
  · cases hno
  rcases construct_inv hconstruct with ⟨_, hrefused, heq, _⟩ |
      ⟨outermost, r, ending, t, hmark, hcallback, hclose⟩
  · cases heq
    cases openCreation_refused hrefused
  obtain ⟨rfl, rfl⟩ := hclose.carries
  obtain ⟨marks, -, ⟨hnone, rfl, hr⟩ | ⟨texts, hsome, rfl, -⟩⟩ := Registry.openCreation_eq hmark
  · constructor
    · intro _
      have hempty : r.suppressed = some [] := by rw [hr]
      have hsettings : r.config = s.registry.config := by rw [hr]
      have hstarted := mt (Session.doing_announced _ y r).1 hdoing
      rw [Session.Doing, ← Session.frames_note_entry _ .construction make] at hstarted
      -- the buffer is new when the callback starts, and holds what was said since when it ends
      have hcollects := (construct_course hcallback).collects hstarted []
      rw [List.take_nil] at hcollects
      obtain ⟨new, hjournal, hbuffer⟩ := hcollects hempty
      obtain ⟨last, hlast, hsilent⟩ := hclose.silent
      refine ⟨last ++ new, s.registry, r, ?_, ?_⟩
      · rw [hlast, hjournal, List.append_assoc]
        rfl
      · show t.registry.suppressed.getD [] = _
        rw [hbuffer, reported_append, hsilent, List.append_nil, ← hsettings]
        rfl
    · intro hsome
      rw [hnone] at hsome
      cases hsome
  · constructor
    · intro hnone
      rw [hsome] at hnone
      cases hnone
    · exact fun _ => rfl

end Creation

/-! ## Calls -/

/-- A call that creates is no report. -/
theorem Op.report?_creation {op : Op} {request : Request} {make : Routine}
    (h : op.creation? = some (request, make)) : op.report? = none := by
  cases op with
  | change c => cases h
  | _ => rfl

/-- What the failure of a creation call carries, by whether there was a buffer when it began. -/
theorem Call.creation_carries {c : Call} {request : Request} {make : Routine} {id : Ident}
    {cause : Cause} {texts : List String} (hop : c.op.creation? = some (request, make))
    (hresult : c.result = .error (.construction id cause texts)) :
    (c.start.registry.suppressed = none → ∃ inside r r',
        c.stop.journal = inside ++ ⟨make.entry .construction, r'⟩ :: ⟨.noticed (.creating id), r⟩ ::
          (c.start.note (.began c.op)).journal ∧
        texts = (reported inside).take c.start.registry.config.suppressedLimit) ∧
      (c.start.registry.suppressed.isSome = true → texts = []) := by
  rcases Call.creation_inv hop with ⟨id', s, ending, -, hprepared, hcreation, hending⟩ |
      ⟨failure, -, hfailure, hrefusal⟩
  · have houtcome : ending = .error (.construction id cause texts) := by
      rw [hresult] at hending
      cases ending with
      | error failure =>
        cases hending
        rfl
      | ok _ | panic _ => cases hending
    rw [houtcome] at hcreation
    have hbegun : ¬ s.Doing Op.suppresses := by
      rw [Session.Doing, Session.frames_congr hprepared.journal]
      rintro ⟨f, hf, hkind⟩
      cases hf
      rw [Op.suppresses, Op.report?_creation hop] at hkind
      cases hkind
    have hcarries := Creation.getOrCreate_carries hbegun hcreation
    rw [hprepared.suppressed, hprepared.config, hprepared.journal] at hcarries
    exact hcarries
  · rw [hresult] at hfailure
    cases hfailure
    cases hrefusal

/-- Suppressed errors are carried by the failure they belong to: under a limit, given that a
    creation is going on or not when the call begins. -/
structure Call.Carries (c : Call) (limit : Nat) : Prop where
  /-- The outermost creation carries what was reported since its callback started. -/
  outermost : ∀ request make id cause texts, c.op.creation? = some (request, make) →
    ¬ c.start.Creating → c.result = .error (.construction id cause texts) → ∃ inside r r',
      c.stop.journal = inside ++ ⟨make.entry .construction, r'⟩ :: ⟨.noticed (.creating id), r⟩ ::
        (c.start.note (.began c.op)).journal ∧
      texts = (reported inside).take limit
  /-- A creation inside another carries nothing. -/
  nested : ∀ id cause texts, c.op.creation?.isSome = true → c.start.Creating →
    c.result = .error (.construction id cause texts) → texts = []
  /-- Nor does an early factory or a production step. -/
  provided : ∀ id cause texts, c.op.provides = true →
    c.result = .error (.construction id cause texts) → texts = []
  /-- A report while no creation is going on is lost. -/
  lost : c.op.suppresses = true → ¬ c.start.Creating → c.stop.registry = c.start.registry
  /-- Nothing is kept for a creation to come. -/
  closed : ¬ c.start.Creating → c.stop.registry.suppressed = none

/-- A call carries what it should, if there is a buffer just while a creation is going on. -/
theorem Call.carries {c : Call} (hbuffers : c.start.Buffers) :
    c.Carries c.start.registry.config.suppressedLimit := by
  have hfree : ¬ c.start.Creating → c.start.registry.suppressed = none := by
    intro hno
    have hnot := hbuffers.trans (Bool.eq_false_iff.2 hno)
    exact Option.isNone_iff_eq_none.1 (Option.isSome_eq_false_iff.1 hnot)
  constructor
  · intro request make id cause texts hop hno hresult
    exact (Call.creation_carries hop hresult).1 (hfree hno)
  · intro id cause texts hop hcreating hresult
    obtain ⟨⟨request, make⟩, hop⟩ := Option.isSome_iff_exists.1 hop
    exact (Call.creation_carries hop hresult).2 (hbuffers.trans hcreating)
  · intro id cause texts hop hresult
    have hrun := c.run
    rw [hresult] at hrun
    exact Op.run_bare hop _ _ _ _ hrun
  · intro hsuppresses hno
    obtain ⟨text, hreport⟩ := Option.isSome_iff_exists.1 hsuppresses
    rcases Call.suppress_inv (Op.eq_of_report? hreport) with ⟨-, hstop⟩ | ⟨texts, hsome, -⟩
    · rw [hstop]
      rfl
    · rw [hfree hno] at hsome
      cases hsome
  · intro hno
    obtain ⟨exit, -, hcourse⟩ := c.course
    have hbegun : (c.start.note (.began c.op)).Buffers := hbuffers
    have hkept := (hcourse.buffered hbegun).2
    rw [Session.registry_note, hfree hno] at hkept
    exact Option.isNone_iff_eq_none.1 (Option.isSome_eq_false_iff.1 hkept)

/-! ## Whole runs -/

/-- **Suppressed errors reach the outermost failed creation**, and nobody else: in every script, each
    call carries what it should under the limit that the script was given. -/
theorem suppressed_reach_outermost {script : Script} {depth : Nat} {outcome : Outcome Cause Unit}
    {s : Session} (h : script.runWithin depth = some (outcome, s))
    (hstart : script.registry.suppressed = none) :
    s.EveryCall fun c _ => c.Carries script.registry.config.suppressedLimit := by
  refine Script.everyCall h fun c asStep later hjournal => ?_
  have hbuffers : script.start.Buffers := congrArg Option.isSome hstart
  have hbegan : (c.start.note (.began c.op)).journal <:+ s.journal :=
    c.course.suffix.trans ((c.stop.suffix_note _).trans ⟨later, hjournal.symm⟩)
  have hstarted : c.start.Buffers := by
    obtain ⟨before, hbefore⟩ := hbegan
    exact ((Script.course h).buffered hbuffers).1.all rfl hbefore.symm _ rfl
  have hsettings : c.start.registry.config = script.registry.config :=
    (Script.settings h _ (Session.moment_of_suffix hbegan)).1
  rw [← hsettings]
  exact Call.carries hstarted

/-- What a call that failed carried. -/
def Event.carried? : Event → Option (List String)
  | .done _ _ (.error failure) => some failure.suppressed
  | _ => none

/-- A lamp that fails after its shade did, both with complaints, and a shade that panics and then fails
    by itself.  Two complaints are kept at most. -/
def complaints : Script where
  registry := { config := { suppressedLimit := 2 } }
  steps :=
    let complain (text : String) : Step := .step (.change (.suppress text)) true none
    [complain "dark",
      .step (.getOrCreate "lamp" (.scripted "lamp"
        [complain "dim",
          .step (.getOrCreate "shade" (.scripted "shade" [complain "torn"] (.fail "no cloth")))
            false none,
          complain "hot"] (.fail "no bulb"))) false none,
      .step (.getOrCreate "shade" (.scripted "shade" [complain "thin"] (.panic (.saying "burnt"))))
        false none,
      .step (.getOrCreate "shade" (.scripted "shade" [] (.fail "no cloth"))) false none]

/-- The failures carry nothing, what was said in the lamp's construction, and nothing. -/
theorem suppressed_reach_outermost_complaints :
    ∃ outcome s, complaints.runWithin 4 = some (outcome, s) ∧
      complaints.registry.suppressed = none ∧
      (s.journal.filterMap fun e => e.event.carried?).reverse = [[], ["dim", "torn"], []] ∧
      s.EveryCall fun c _ => c.Carries 2 := by
  have hends : ∃ outcome s, complaints.runWithin 4 = some (outcome, s) ∧
      (s.journal.filterMap fun e => e.event.carried?).reverse = [[], ["dim", "torn"], []] :=
    Script.ends_of_check (by decide +kernel)
  obtain ⟨outcome, s, hrun, hcarried⟩ := hends
  exact ⟨outcome, s, hrun, rfl, hcarried, suppressed_reach_outermost hrun rfl⟩

end InstanceRegistry
