import InstanceRegistry.Proofs.Courses.Calls

/-!
  What the journal tells of lookups.

  A lookup of an identifier that is ripe takes the factory out and runs it; any other one finds what
  there is and is done.  A factory is a callback, so its start is the first thing that happens in the
  lookup, and nothing else starts there.  Hence the early factories that ran can be counted: they are
  the callbacks that started right after the entry for the beginning of a lookup.

  Mathlib-free.
-/

namespace InstanceRegistry

/-! ## Entries -/

theorem Entry.looksUp_iff {id : Ident} {e : Entry} :
    e.looksUp id = true ↔ ∃ given, e.event = .began (.get given) ∧ e.registry.canonical given = id := by
  obtain ⟨event, r⟩ := e
  constructor
  · intro h
    rw [looksUp] at h
    split at h
    · rename_i given hevent
      exact ⟨given, hevent, beq_iff_eq.1 h⟩
    · cases h
  · rintro ⟨given, hevent, hcanonical⟩
    cases hevent
    exact beq_iff_eq.2 hcanonical

theorem Entry.looksUp_of_isAside {id : Ident} {e : Entry} (h : e.event.isAside = true) :
    e.looksUp id = false := by
  obtain ⟨event, r⟩ := e
  cases event with
  | began _ => cases h
  | _ => rfl

theorem Routine.looksUp_entry (id : Ident) (role : Role) (routine : Routine) (r : Registry) :
    Entry.looksUp id ⟨routine.entry role, r⟩ = false := by
  cases routine <;> rfl

instance (r : Registry) (id : Ident) : Decidable (r.Ripe id) :=
  decidable_of_iff
    (r.finished.get? id = none ∧ r.marks.isActive id = true ∧ r.early.get? id = none ∧
      r.config.earlyReferences = true ∧ (r.factories.get? id).isSome = true)
    ⟨fun ⟨hfree, hactive, hunexposed, henabled, hpending⟩ =>
      ⟨hfree, hactive, hunexposed, henabled, Option.isSome_iff_exists.1 hpending⟩,
    fun h => ⟨h.free, h.active, h.unexposed, h.enabled, Option.isSome_iff_exists.2 h.pending⟩⟩

instance (e : Entry) (id : Ident) : Decidable (e.Taps id) :=
  inferInstanceAs (Decidable (e.looksUp id = true ∧ e.registry.Ripe id))

/-- The beginning of a lookup that taps is not among entries that begin no lookup. -/
theorem Session.Taps.old {o s t : Session} {id : Ident} (ho : o.Taps id)
    (h : Newly (fun e _ => e.looksUp id = false) s t) (hot : o.journal <:+ t.journal) :
    o.journal <:+ s.journal := by
  obtain ⟨e, rest, hjournal, -, hlooks, -⟩ := ho
  rw [hjournal] at hot ⊢
  rcases h e rest hot with hold | hno
  · exact hold
  · rw [hlooks] at hno
    cases hno

/-! ## What a lookup does -/

/-- Whether an event is the start of a callback. -/
def Event.starts : Event → Bool
  | .entered .. => true
  | _ => false

theorem Routine.starts_entry (role : Role) (routine : Routine) :
    (routine.entry role).starts = true := by
  cases routine <;> rfl

namespace Creation

/-- A factory takes a course from where it starts. -/
theorem factory_course {depth : Nat} {factory : Routine} {s t : Session}
    {ending : Outcome Cause Instance}
    (h : (Engine.ofDepth depth).expose factory s = some (ending, t)) :
    Course (s.note (factory.entry .earlyFactory)) t := by
  cases depth with
  | zero => cases h
  | succ depth => exact Routine.run_course (onCourse_ofDepth depth) .earlyFactory factory h

namespace Looks

variable {engine : Engine} {depth : Nat} {id : Ident} {s u : Session}
  {outcome : Outcome Failure (Option Instance)}

/-- What a lookup hands out is there when it ends, finished or exposed. -/
theorem found (h : Looks engine id s outcome u) {v : Instance} (hv : outcome = .ok (some v)) :
    u.registry.finished.get? id = some v ∨ u.registry.early.get? id = some v := by
  cases h with
  | finished hfound =>
    cases hv
    exact .inl hfound
  | exposed hfound =>
    cases hv
    exact .inr hfound
  | tapped _ _ =>
    cases hv
    exact .inr (Store.get?_insert_self _ _ _)
  | absent _ | failed _ _ | unwound _ _ => cases hv

/-- A lookup of an identifier that is not ripe starts no callback. -/
theorem silent (h : Looks engine id s outcome u) (hunripe : ¬ s.registry.Ripe id) :
    Newly (fun e _ => e.event.starts = false) s u := by
  cases h with
  | finished _ => exact .note rfl
  | exposed _ | absent _ => exact .of_eq rfl
  | tapped hripe _ | failed hripe _ | unwound hripe _ => exact absurd hripe hunripe

/-- A lookup of an identifier that is ripe runs a factory. -/
theorem runs (h : Looks engine id s outcome u) (hripe : s.registry.Ripe id) :
    ∃ factory ending t,
      engine.expose factory (s.put (s.registry.takeFactory id)) = some (ending, t) ∧
      ((∃ v, ending = .ok v ∧
          u = (t.note (.noticed (.exposing id))).put (t.registry.expose id v)) ∨ u = t) := by
  cases h with
  | finished hfound =>
    rw [hripe.free] at hfound
    cases hfound
  | exposed hfound =>
    rw [hripe.unexposed] at hfound
    cases hfound
  | absent hunripe => exact absurd hripe hunripe
  | tapped _ hfactory => exact ⟨_, _, _, hfactory, .inl ⟨_, rfl, rfl⟩⟩
  | failed _ hfactory | unwound _ hfactory => exact ⟨_, _, _, hfactory, .inr rfl⟩

/-- The first thing that happens in it is that the factory starts. -/
theorem starts (h : Looks (.ofDepth depth) id s outcome u) (hripe : s.registry.Ripe id) :
    ∃ e : Entry, e.event.starts = true ∧ (e :: s.journal) <:+ u.journal := by
  obtain ⟨factory, ending, t, hfactory, hend⟩ := h.runs hripe
  have hstart : ((s.put (s.registry.takeFactory id)).note (factory.entry .earlyFactory)).journal <:+
      t.journal := (factory_course hfactory).suffix
  have hu : t.journal <:+ u.journal := by
    rcases hend with ⟨_, -, rfl⟩ | rfl
    · exact t.suffix_note _
    · exact List.suffix_rfl
  exact ⟨⟨factory.entry .earlyFactory, s.registry.takeFactory id⟩,
    Routine.starts_entry .earlyFactory factory, hstart.trans hu⟩

end Looks

end Creation

/-! ## Calls -/

/-- What a call that looks an identifier up does. -/
theorem Call.looks {c : Call} {given : Ident} (hop : c.op = .get given) :
    ∃ outcome, Creation.Looks (.ofDepth c.depth) (c.start.registry.canonical given)
      (c.start.note (.began c.op)) outcome c.stop ∧ c.result = outcome.map .found := by
  have hrun := c.run
  rw [hop] at hrun ⊢
  obtain ⟨outcome, hget, hresult⟩ := Run.map_inv hrun
  exact ⟨outcome, Creation.lookup_inv hget, hresult⟩

/-- Behind an entry for the beginning of a call stands a call that ends in a session's past. -/
def Entry.Completed (t : Session) (e : Entry) (earlier : List Entry) : Prop :=
  ∀ op, e.event = .began op →
    ∃ c : Call, c.op = op ∧ (c.start.note (.began op)).journal = e :: earlier ∧ c.EndsIn t

theorem Entry.Completed.mono {t u : Session} (htu : t.journal <:+ u.journal) (e : Entry)
    (earlier : List Entry) (h : e.Completed t earlier) : e.Completed u earlier := by
  intro op hop
  obtain ⟨c, hc, hbegan, hends⟩ := h op hop
  exact ⟨c, hc, hbegan, hends.mono htu⟩

/-- **Every call that begins in a course ends in it.** -/
theorem Course.completed {s t : Session} {exit : Course.Exit} (h : Course s t exit) :
    Newly (Entry.Completed t) s t := by
  have silent : ∀ {s u : Session} (event : Event), (∀ op, event ≠ .began op) →
      Newly (Entry.Completed u) s (s.note event) :=
    fun _ hevent => .note fun op hop => absurd hop (hevent op)
  have apart : ∀ {event : Event}, event.isAside = true → ∀ op, event ≠ .began op := by
    rintro event h op rfl
    cases h
  induction h with
  | rest s => exact .of_eq rfl
  | next _ second ih ih' => exact (ih.imp (Entry.Completed.mono second.suffix)).trans ih'
  | aside _ hjournal => exact .of_eq hjournal
  | note haside => exact silent _ (apart haside)
  | enter _ | announce _ _ _ => exact silent _ nofun
  | call c asStep _ inside ih =>
    have hbegan : Newly (Entry.Completed (c.stop.note (.done c.op asStep c.result))) c.start
        (c.start.note (.began c.op)) := by
      refine .note fun op hop => ?_
      cases hop
      exact ⟨c, rfl, rfl, asStep, List.suffix_rfl⟩
    exact hbegan.trans ((ih.imp (Entry.Completed.mono (c.stop.suffix_note _))).trans
      (silent (.done c.op asStep c.result) nofun))
  | shift _ | drop _ _ | exclude _ _ | setMarks _ _ | register _ _ _ _ _ => exact .of_eq rfl
  | @expose s t id early _ _ ih =>
    exact .trans (ih.imp (Entry.Completed.mono (t.suffix_note (.noticed (.exposing id)))))
      (.put (silent (.noticed (.exposing id)) nofun) _)
  | @create s t u id _ r _ _ _ _ _ _ _ _ hclose ih =>
    have hopening : Newly (Entry.Completed u) s ((s.note (.noticed (.creating id))).put r) :=
      .put (silent (.noticed (.creating id)) nofun) r
    refine hopening.trans ((ih.imp (Entry.Completed.mono hclose.suffix)).trans ?_)
    exact hclose.newly fun event haside op hop => absurd hop (apart haside op)
  | process _ _ _ _ ih => exact ih
  | @dispose s t id hook _ _ ih =>
    have hentry : ∀ op, hook.entry .disposal ≠ .began op := by cases hook <;> exact nofun
    exact .trans (ih.imp (Entry.Completed.mono (t.suffix_note_note _ _)))
      (.trans (silent (.noticed (.disposing id)) nofun) (silent _ hentry))
  | destroy _ _ _ hrest ih =>
    refine .put (.trans (ih.imp (Entry.Completed.mono hrest.suffix)) ?_) _
    exact hrest.newly fun event haside op hop => absurd hop (apart haside op)

/-- Behind the beginning of a lookup stands a call that does it. -/
theorem Entry.Completed.looks {t : Session} {e : Entry} {earlier : List Entry} {id : Ident}
    (h : e.Completed t earlier) (hlooks : e.looksUp id = true) :
    ∃ (c : Call) (outcome : Outcome Failure (Option Instance)),
      (c.start.note (.began c.op)).journal = e :: earlier ∧ c.EndsIn t ∧
      Creation.Looks (.ofDepth c.depth) id (c.start.note (.began c.op)) outcome c.stop := by
  obtain ⟨given, hevent, hcanonical⟩ := Entry.looksUp_iff.1 hlooks
  obtain ⟨c, hop, hbegan, hends⟩ := h _ hevent
  obtain ⟨outcome, hdoes, -⟩ := Call.looks hop
  have hentry : c.start.registry = e.registry :=
    congrArg Entry.registry (List.cons.inj hbegan).1
  rw [hentry, hcanonical] at hdoes
  exact ⟨c, outcome, hop ▸ hbegan, hends, hdoes⟩

/-- A factory starts right after the beginning of a lookup of an identifier that is ripe. -/
theorem Entry.Completed.starts {t : Session} {e : Entry} {earlier : List Entry} {id : Ident}
    (h : e.Completed t earlier) (htaps : e.Taps id) :
    ∃ e' : Entry, e'.event.starts = true ∧ (e' :: e :: earlier) <:+ t.journal := by
  obtain ⟨hlooks, hripe⟩ := htaps
  obtain ⟨c, outcome, hbegan, ⟨asStep, hends⟩, hdoes⟩ := h.looks hlooks
  have hentry : c.start.registry = e.registry :=
    congrArg Entry.registry (List.cons.inj hbegan).1
  obtain ⟨e', hstarts, he'⟩ := hdoes.starts (hentry ▸ hripe)
  exact ⟨e', hstarts, (hbegan ▸ he').trans ((c.stop.suffix_note _).trans hends)⟩

/-- No callback starts right after the beginning of a lookup of one that is not. -/
theorem Entry.Completed.silent {t : Session} {e e' : Entry} {earlier : List Entry} {id : Ident}
    (h : e.Completed t earlier) (hlooks : e.looksUp id = true) (hunripe : ¬ e.registry.Ripe id)
    (he' : (e' :: e :: earlier) <:+ t.journal) : e'.event.starts = false := by
  obtain ⟨c, outcome, hbegan, ⟨asStep, hends⟩, hdoes⟩ := h.looks hlooks
  have hentry : c.start.registry = e.registry :=
    congrArg Entry.registry (List.cons.inj hbegan).1
  have hsilent : Newly (fun e _ => e.event.starts = false) (c.start.note (.began c.op))
      (c.stop.note (.done c.op asStep c.result)) :=
    .trans (hdoes.silent (hentry ▸ hunripe)) (.note rfl)
  -- the next entry is inside the call, or the one for its end
  have hlength : (e :: earlier).length ≤ c.stop.journal.length :=
    hbegan ▸ c.course.suffix.length_le
  have hinside : (e' :: e :: earlier) <:+ (c.stop.note (.done c.op asStep c.result)).journal :=
    List.suffix_of_suffix_length_le he' hends (Nat.succ_le_succ hlength)
  exact hsilent.after hinside (hbegan ▸ List.suffix_rfl)

/-! ## Counting factories -/

namespace Journal

/-- How many early factories of `id` started: callbacks right after the beginning of a lookup of
    it. -/
def factoryRuns (id : Ident) : List Entry → Nat
  | [] => 0
  | e :: earlier =>
    factoryRuns id earlier +
      if e.event.starts && earlier.head?.any (Entry.looksUp id) then 1 else 0

variable {id : Ident} {later base : List Entry}

/-- No factory of `id` starts in a stretch without a callback right after the beginning of a lookup
    of it. -/
theorem factoryRuns_append
    (h : ∀ e e' earlier, (e :: e' :: earlier) <:+ later ++ base → base <:+ e' :: earlier →
      e'.looksUp id = true → e.event.starts = false) (hbase : base ≠ []) :
    factoryRuns id (later ++ base) = factoryRuns id base := by
  induction later with
  | nil => rfl
  | cons e later ih =>
    have hrest := ih fun e₁ e₂ earlier he => h e₁ e₂ earlier (he.trans (List.suffix_cons _ _))
    have hnone : (e.event.starts && (later ++ base).head?.any (Entry.looksUp id)) = false := by
      cases hjournal : later ++ base with
      | nil => exact absurd (List.append_eq_nil_iff.1 hjournal).2 hbase
      | cons e' earlier =>
        cases hlooks : e'.looksUp id with
        | false => rw [List.head?_cons, Option.any_some, hlooks, Bool.and_false]
        | true =>
          have hentries : (e :: e' :: earlier) <:+ (e :: later) ++ base := ⟨[], by simp [hjournal]⟩
          have hafter : base <:+ e' :: earlier := hjournal ▸ List.suffix_append _ _
          rw [h e e' earlier hentries hafter hlooks, Bool.false_and]
    rw [List.cons_append, factoryRuns, hnone, hrest]
    rfl

end Journal

end InstanceRegistry
