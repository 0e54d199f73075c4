import InstanceRegistry.Session

/-!
  What the pieces of a run do.

  A run is put together from primitives with `>>=`, so it is executed by knowing what each
  primitive does to a session and what `>>=` makes of an outcome.  The primitives' equations hold
  by definition and are simp lemmas; `bind_ok` and its companions go on with work that was executed
  before and is known by its result alone.

  Mathlib-free.
-/

namespace InstanceRegistry.Run

variable {ε ε' α β : Type}

/-! ## Sequencing -/

/-- Work that ended well hands over its value and its session. -/
theorem bind_ok {work : Run ε α} {next : α → Run ε β} {s s' : Session} {value : α}
    (h : work s = some (.ok value, s')) : (work >>= next) s = next value s' := by
  show Run.bind work next s = _
  rw [Run.bind, h]

/-- Work that failed ends the whole. -/
theorem bind_error {work : Run ε α} {next : α → Run ε β} {s s' : Session} {failure : ε}
    (h : work s = some (.error failure, s')) :
    (work >>= next) s = some (.error failure, s') := by
  show Run.bind work next s = _
  rw [Run.bind, h]

/-- Work that panicked ends the whole. -/
theorem bind_panic {work : Run ε α} {next : α → Run ε β} {s s' : Session} {payload : Panic}
    (h : work s = some (.panic payload, s')) :
    (work >>= next) s = some (.panic payload, s') := by
  show Run.bind work next s = _
  rw [Run.bind, h]

/-- Work in three parts may be cut after the first or after the second. -/
theorem bind_assoc {γ : Type} (work : Run ε α) (next : α → Run ε β) (last : β → Run ε γ) :
    ((work >>= next) >>= last) = (work >>= fun value => next value >>= last) := by
  funext s
  cases hwork : work s with
  | none =>
    show Run.bind (Run.bind work next) last s = Run.bind work _ s
    simp only [Run.bind, hwork]
  | some result =>
    obtain ⟨ending, s'⟩ := result
    cases ending with
    | ok value =>
      rw [bind_ok hwork]
      show Run.bind (Run.bind work next) last s = Run.bind (next value) last s'
      simp only [Run.bind, hwork]
    | error failure => rw [bind_error hwork, bind_error (bind_error hwork)]
    | panic payload => rw [bind_panic hwork, bind_panic (bind_panic hwork)]

/-- An attempt ends well whatever the work ended with. -/
theorem attempt_of {work : Run ε α} {s s' : Session} {outcome : Outcome ε α}
    (h : work s = some (outcome, s')) :
    (work.attempt : Run ε' (Outcome ε α)) s = some (.ok outcome, s') := by
  rw [attempt, h]

/-- Errors change their form, and nothing else does. -/
theorem mapError_of {f : ε → ε'} {work : Run ε α} {s s' : Session} {outcome : Outcome ε α}
    (h : work s = some (outcome, s')) :
    work.mapError f s = some (outcome.mapError f, s') := by
  rw [mapError, h]

/-! ## Looking back

What is known of the whole is known of its parts. -/

/-- Work in two parts ended as its second part did, or already in its first. -/
theorem bind_inv {work : Run ε α} {next : α → Run ε β} {s t : Session} {outcome : Outcome ε β}
    (h : (work >>= next) s = some (outcome, t)) :
    (∃ value s', work s = some (.ok value, s') ∧ next value s' = some (outcome, t)) ∨
      (∃ failure, work s = some (.error failure, t) ∧ outcome = .error failure) ∨
      ∃ payload, work s = some (.panic payload, t) ∧ outcome = .panic payload := by
  change Run.bind work next s = _ at h
  rw [Run.bind] at h
  split at h
  · cases h
  · rename_i value s' hwork
    exact .inl ⟨value, s', hwork, h⟩
  · rename_i failure s' hwork
    cases h
    exact .inr (.inl ⟨failure, hwork, rfl⟩)
  · rename_i payload s' hwork
    cases h
    exact .inr (.inr ⟨payload, hwork, rfl⟩)

/-- An attempt is over when the work is, and ends well. -/
theorem attempt_inv {work : Run ε α} {s t : Session} {outcome : Outcome ε' (Outcome ε α)}
    (h : work.attempt s = some (outcome, t)) :
    ∃ ending, work s = some (ending, t) ∧ outcome = .ok ending := by
  rw [attempt] at h
  split at h
  · cases h
  · rename_i ending s' hwork
    cases h
    exact ⟨ending, hwork, rfl⟩

/-- Work that goes on from an attempt goes on from whatever was attempted ended with. -/
theorem attempt_bind_inv {work : Run ε α} {next : Outcome ε α → Run ε' β} {s t : Session}
    {outcome : Outcome ε' β} (h : (work.attempt >>= next) s = some (outcome, t)) :
    ∃ ending s', work s = some (ending, s') ∧ next ending s' = some (outcome, t) := by
  rcases bind_inv h with ⟨ending, s', hwork, hnext⟩ | ⟨failure, hwork, -⟩ | ⟨payload, hwork, -⟩
  · obtain ⟨ending', hwork', hending⟩ := attempt_inv hwork
    cases hending
    exact ⟨ending, s', hwork', hnext⟩
  · obtain ⟨_, _, hending⟩ := attempt_inv hwork
    cases hending
  · obtain ⟨_, _, hending⟩ := attempt_inv hwork
    cases hending

theorem mapError_inv {f : ε → ε'} {work : Run ε α} {s t : Session} {outcome : Outcome ε' α}
    (h : work.mapError f s = some (outcome, t)) :
    ∃ ending, work s = some (ending, t) ∧ outcome = ending.mapError f := by
  rw [mapError] at h
  split at h
  · cases h
  · rename_i ending s' hwork
    cases h
    exact ⟨ending, hwork, rfl⟩

/-- A value that is only handed on in another form changes the outcome's value alone. -/
theorem map_inv {f : α → β} {work : Run ε α} {s t : Session} {outcome : Outcome ε β}
    (h : (work >>= fun value => pure (f value)) s = some (outcome, t)) :
    ∃ ending, work s = some (ending, t) ∧ outcome = ending.map f := by
  rcases bind_inv h with ⟨value, s', hwork, hnext⟩ | ⟨failure, hwork, rfl⟩ | ⟨payload, hwork, rfl⟩
  · cases hnext
    exact ⟨.ok value, hwork, rfl⟩
  · exact ⟨.error failure, hwork, rfl⟩
  · exact ⟨.panic payload, hwork, rfl⟩

/-- A value that is only handed on in another form. -/
theorem map_of {f : α → β} {work : Run ε α} {s t : Session} {ending : Outcome ε α}
    (h : work s = some (ending, t)) :
    (work >>= fun value => pure (f value)) s = some (ending.map f, t) := by
  cases ending with
  | ok value => exact bind_ok h
  | error failure => exact bind_error h
  | panic payload => exact bind_panic h

/-- A step that may be refused was taken, or was refused and changed nothing. -/
theorem tryEdit_inv {f : Registry → Except ε (α × Registry)} {s t : Session} {outcome : Outcome ε α}
    (h : tryEdit f s = some (outcome, t)) :
    (∃ value r, f s.registry = .ok (value, r) ∧ outcome = .ok value ∧ t = { s with registry := r }) ∨
      ∃ failure, f s.registry = .error failure ∧ outcome = .error failure ∧ t = s := by
  rw [tryEdit] at h
  split at h
  · rename_i value r hf
    cases h
    exact .inl ⟨value, r, hf, rfl, rfl⟩
  · rename_i failure hf
    cases h
    exact .inr ⟨failure, hf, rfl, rfl⟩

/-! ## Primitives -/

section Primitives

variable (s : Session)

@[simp] theorem pure_apply (value : α) : (pure value : Run ε α) s = some (.ok value, s) := rfl

@[simp] theorem read_apply (f : Session → α) : (read f : Run ε α) s = some (.ok (f s), s) := rfl

@[simp] theorem registry_apply : (registry : Run ε Registry) s = some (.ok s.registry, s) := rfl

@[simp] theorem edit_apply (f : Registry → Registry) :
    (edit f : Run ε Unit) s = some (.ok (), { s with registry := f s.registry }) := rfl

@[simp] theorem transact_apply (f : Registry → α × Registry) :
    (transact f : Run ε α) s =
      some (.ok (f s.registry).1, { s with registry := (f s.registry).2 }) := rfl

@[simp] theorem record_apply (event : Event) :
    (record event : Run ε Unit) s =
      some (.ok (), { s with journal := ⟨event, s.registry⟩ :: s.journal }) := rfl

@[simp] theorem report_apply (notice : Notice) :
    (report notice : Run ε Unit) s =
      some (.ok (), { s with journal := ⟨.noticed notice, s.registry⟩ :: s.journal }) := rfl

end Primitives

/-- A step that is not refused changes the registry. -/
theorem tryEdit_ok {f : Registry → Except ε (α × Registry)} {s : Session} {value : α}
    {registry : Registry} (h : f s.registry = .ok (value, registry)) :
    tryEdit f s = some (.ok value, { s with registry }) := by
  rw [tryEdit, h]

end InstanceRegistry.Run
