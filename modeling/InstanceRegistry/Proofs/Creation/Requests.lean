import InstanceRegistry.Proofs.Courses.Calls

/-!
  Creations as callers ask for them.

  Every call that creates is refused, or it creates what it prepared.  Whatever its callback does, an
  instance that it hands out is the finished one.  The operations that register something without
  making it run no callback, so all that they do is said at once.

  Mathlib-free.
-/

namespace InstanceRegistry

/-! ## Operations that create -/

theorem Op.run_creation {op : Op} {request : Request} {make : Routine}
    (h : op.creation? = some (request, make)) (engine : Engine) :
    op.run engine = (Operations.create engine request make >>= fun made =>
      pure (.found (some made))) := by
  cases op with
  | getOrCreate id construct =>
    cases h
    rfl
  | create request' construct =>
    cases h
    rfl
  | _ => cases h

open Operations (prepare Prepared)

/-- **A call that creates** is refused, or it creates what it prepared. -/
theorem Call.creation_inv {c : Call} {request : Request} {make : Routine}
    (h : c.op.creation? = some (request, make)) :
    (∃ id s ending, prepare request (c.start.note (.began c.op)) = some (.ok id, s) ∧
        Prepared request id (c.start.note (.began c.op)) s ∧
        Creation.getOrCreate (.ofDepth c.depth) id make s = some (ending, c.stop) ∧
        c.result = ending.map fun made => .found (some made)) ∨
      ∃ failure, prepare request (c.start.note (.began c.op)) = some (.error failure, c.stop) ∧
        c.result = .error failure ∧ failure.isRefusal = true := by
  have hrun := c.run
  rw [Op.run_creation h, Operations.create_eq] at hrun
  obtain ⟨ending, hcreate, hresult⟩ := Run.map_inv hrun
  rcases Run.bind_inv hcreate with ⟨id, s, hprepare, hcreation⟩ | ⟨failure, hprepare, hending⟩ |
      ⟨payload, hprepare, hending⟩
  · rcases Operations.prepare_inv hprepare with ⟨_, hid, hprepared⟩ | ⟨_, hid, -⟩
    · cases hid
      exact .inl ⟨id, s, ending, hprepare, hprepared, hcreation, hresult⟩
    · cases hid
  · rcases Operations.prepare_inv hprepare with ⟨_, hid, -⟩ | ⟨_, hid, hrefusal, -⟩
    · cases hid
    · cases hid
      exact .inr ⟨failure, hprepare, hresult.trans (hending ▸ rfl), hrefusal⟩
  · rcases Operations.prepare_inv hprepare with ⟨_, hid, -⟩ | ⟨_, hid, -⟩ <;> cases hid

/-! ## Constructions -/

/-- A construction takes a course from where it starts. -/
theorem Creation.construct_course {depth : Nat} {make : Routine} {s t : Session}
    {ending : Outcome Cause Instance}
    (h : (Engine.ofDepth depth).construct make s = some (ending, t)) :
    Course (s.note (make.entry .construction)) t := by
  cases depth with
  | zero => cases h
  | succ depth => exact Routine.run_course (onCourse_ofDepth depth) .construction make h

/-- A call that creates announces the name that it accepted, if it announces any. -/
theorem Call.announced_creation {c : Call} {request : Request} {make : Routine} {id : Ident}
    (hop : c.op.creation? = some (request, make))
    (hmaking : c.stop.Making id) :
    c.start.registry.accept request.id = .ok id := by
  have hquiet : ∀ {s : Session}, s.journal = (c.start.note (.began c.op)).journal →
      ¬ s.Making id := by
    rintro s hjournal ⟨f, hf, hcreating⟩
    rw [Session.frames_congr hjournal] at hf
    cases hf
    cases hcreating
  rcases Call.creation_inv hop with ⟨x, s, ending, -, hprepared, hcreation, -⟩ |
      ⟨failure, hprepare, -, -⟩
  · have hannounced : (s.note (.noticed (.creating x))).frames =
        ⟨c.op, some x⟩ :: c.start.frames := by
      rw [Session.frames_note_creating, Session.frames_congr hprepared.journal]
      rfl
    have hid : c.stop.frames = ⟨c.op, some x⟩ :: c.start.frames → x = id := by
      intro hframes
      obtain ⟨f, hf, hcreating⟩ := hmaking
      rw [hframes] at hf
      cases hf
      exact Option.some.inj hcreating
    rcases Creation.getOrCreate_inv hcreation with ⟨_, -, -, hstop⟩ | ⟨-, ⟨-, -, hstop⟩ | ⟨-, h⟩⟩
    · exact absurd hmaking (hquiet (hstop ▸ hprepared.journal))
    · exact absurd hmaking (hquiet (hstop ▸ hprepared.journal))
    · rcases Creation.construct_inv h with ⟨_, -, -, hstop⟩ |
          ⟨outermost, r, ending', t, -, hcallback, hclose⟩
      · exact hid (hstop ▸ hannounced) ▸ hprepared.accepted
      · have hcallback := (Creation.construct_course hcallback).frames
        refine hid ?_ ▸ hprepared.accepted
        rw [hclose.frames, hcallback, Session.frames_note_entry, Session.frames_put, hannounced]
  · rcases Operations.prepare_inv hprepare with ⟨_, hno, _⟩ | ⟨_, -, -, hjournal⟩
    · cases hno
    · exact absurd hmaking (hquiet hjournal)

/-! ## What a creation yields is finished -/

namespace Creation

variable {engine : Engine}

theorem Closes.finished {id : Ident} {outermost : Bool} {t u : Session}
    {ending : Outcome Cause Instance} {made : Instance}
    (h : Closes id outermost t ending (.ok made) u) :
    u.registry.finished.get? id = some made := by
  cases h with
  | bound _ hcommit =>
    rw [Session.registry_put, (Registry.commit_inv hcommit).2.1]
    exact Store.get?_insert_self _ id made
  | recovered hfound => exact hfound

/-- Whatever the callback did: an instance that is handed out is the finished one. -/
theorem getOrCreate_finished {id : Ident} {make : Routine} {s u : Session} {made : Instance}
    (h : getOrCreate engine id make s = some (.ok made, u)) :
    u.registry.finished.get? id = some made := by
  rcases getOrCreate_inv h with ⟨found, hfound, hmade, rfl⟩ | ⟨-, ⟨-, hmade, -⟩ | ⟨-, hconstruct⟩⟩
  · cases hmade
    exact hfound
  · cases hmade
  · rcases construct_inv hconstruct with ⟨_, _, hmade, -⟩ | ⟨_, _, _, _, _, _, hclose⟩
    · cases hmade
    · exact hclose.finished

end Creation

/-- An instance that was asked for and handed out is the finished one. -/
theorem Call.creation_finished {c : Call} {request : Request} {make : Routine} {v : Instance}
    (hop : c.op.creation? = some (request, make)) (hresult : c.result = .ok (.found (some v))) :
    c.stop.registry.finished.get? (c.start.registry.canonical request.id) = some v := by
  rcases Call.creation_inv hop with ⟨id, s, ending, -, hprepared, hcreation, hending⟩ |
      ⟨failure, -, hfailure, -⟩
  · rw [hresult] at hending
    cases ending with
    | ok made =>
      cases hending
      have hfinished := Creation.getOrCreate_finished hcreation
      rw [hprepared.canonical] at hfinished
      exact hfinished
    | error _ | panic _ => cases hending
  · rw [hresult] at hfailure
    cases hfailure

/-! ## Operations that register -/

/-- The instance that is to be registered is made or looked up, which neither the registry nor the
    journal notices. -/
theorem Op.source_inv (id : Ident) (origin : Source) (s : Session) :
    ∃ held t, source id origin s = some (.ok held, t) ∧ t.journal = s.journal ∧
      t.registry = s.registry := by
  cases origin with
  | fresh label => exact ⟨_, _, rfl, rfl, rfl⟩
  | recalled name => exact ⟨_, _, rfl, rfl, rfl⟩

namespace Call

variable {c : Call} {given : Ident}

/-- A factory is offered under the name that is accepted, or refused. -/
theorem registerFactory_inv {factory : Routine} (hop : c.op = .registerFactory given factory) :
    (∃ id, c.start.registry.accept given = .ok id ∧ c.result = .ok .unit ∧
        c.stop = (c.start.note (.began c.op)).put (c.start.registry.offerFactory id factory)) ∨
      ∃ failure, c.result = .error failure ∧ c.stop = c.start.note (.began c.op) := by
  obtain ⟨depth, op, start, result, stop, run⟩ := c
  cases hop
  obtain ⟨ending, hregister, rfl⟩ := Run.map_inv run
  cases haccept : (start.note (.began (.registerFactory given factory))).registry.accept given with
  | ok id =>
    rw [Operations.registerFactory, Run.bind_ok (Operations.accept_eq haccept)] at hregister
    cases hregister
    exact .inl ⟨id, haccept, rfl, rfl⟩
  | error failure =>
    rw [Operations.registerFactory, Run.bind_error (Operations.accept_eq haccept)] at hregister
    cases hregister
    exact .inr ⟨failure, rfl, rfl⟩

/-- An instance that was made elsewhere is bound under the name that is accepted; or there is none, or
    it is refused, and then the registry stays as it was. -/
theorem registerInstance_inv {origin : Source} (hop : c.op = .registerInstance given origin) :
    c.stop.journal = (c.start.note (.began c.op)).journal ∧
      ((∃ id made, (∃ t, Op.source given origin (c.start.note (.began c.op)) =
            some (.ok (some made), t)) ∧
          c.start.registry.accept given = .ok id ∧ c.result = .ok .unit ∧
          c.start.registry.commit id made = .ok c.stop.registry) ∨
        c.stop.registry = c.start.registry ∧ c.result ≠ .ok .unit ∧
          ∀ found, c.result ≠ .ok (.found found)) := by
  obtain ⟨depth, op, start, result, stop, run⟩ := c
  cases hop
  rw [Op.run] at run
  obtain ⟨held, t, hsource, hjournal, hregistry⟩ := Op.source_inv given origin
    (start.note (.began (.registerInstance given origin)))
  rw [Run.bind_ok hsource] at run
  cases held with
  | none =>
    cases run
    exact ⟨hjournal, .inr ⟨hregistry, nofun, nofun⟩⟩
  | some made =>
    obtain ⟨ending, hregister, rfl⟩ := Run.map_inv run
    have hrefused : ending ≠ .ok () →
        (ending.map fun _ => .unit : Outcome Failure (Answer Instance)) ≠ .ok .unit ∧
        ∀ found, (ending.map fun _ => .unit : Outcome Failure (Answer Instance)) ≠
          .ok (.found found) := by
      intro hno
      cases ending with
      | ok _ => exact absurd rfl hno
      | error _ | panic _ => exact ⟨nofun, nofun⟩
    cases haccept : t.registry.accept given with
    | error failure =>
      rw [Operations.registerInstance, Run.bind_error (Operations.accept_eq haccept)] at hregister
      cases hregister
      exact ⟨hjournal, .inr ⟨hregistry, nofun, nofun⟩⟩
    | ok id =>
      rw [Operations.registerInstance, Run.bind_ok (Operations.accept_eq haccept)] at hregister
      rw [hregistry] at haccept
      rcases Creation.registerInstance_inv hregister with ⟨r, -, -, hcommit, rfl, rfl⟩ |
          ⟨rfl, hending, -⟩
      · rw [hregistry] at hcommit
        exact ⟨hjournal, .inl ⟨id, made, ⟨t, hsource⟩, haccept, rfl, hcommit⟩⟩
      · exact ⟨hjournal, .inr ⟨hregistry, hrefused hending⟩⟩

end Call

end InstanceRegistry
