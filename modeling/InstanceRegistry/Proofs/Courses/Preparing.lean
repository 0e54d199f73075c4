import InstanceRegistry.Script
import InstanceRegistry.Proofs.Courses.Course

/-!
  What is done for a request before anything is created.

  A request is PREPARED before anything is created: its identifier is accepted, excluded if the
  request says so, and its dependencies are recorded.  None of this touches what is finished, what
  is marked or the journal.  Asking for an instance by name is asking with a bare request, so every
  creation is a preparation followed by the creation proper.

  Mathlib-free.
-/

namespace InstanceRegistry

/-! ## Accepting -/

/-- The failures with which a request is refused before its creation begins. -/
def Failure.isRefusal : Failure → Bool
  | badIdentifier _ | circularDependency .. => true
  | _ => false

/-- What is accepted goes by its canonical name; what is not is refused. -/
theorem Registry.accept_inv (r : Registry) (id : Ident) :
    r.accept id = .ok (r.canonical id) ∨
      ∃ failure, r.accept id = .error failure ∧ failure.isRefusal = true := by
  rw [accept]
  cases r.guarded with
  | false => exact .inl rfl
  | true =>
    rw [Config.validateIdentifier]
    by_cases hempty : id = ""
    · rw [if_pos hempty]
      exact .inr ⟨_, rfl, rfl⟩
    · by_cases hlong : r.config.identifierLimit < id.utf8ByteSize
      · simp only [if_neg hempty, if_pos hlong]
        exact .inr ⟨_, rfl, rfl⟩
      · simp only [if_neg hempty, if_neg hlong]
        exact .inl rfl

/-- A name that is accepted goes by its canonical name. -/
theorem Registry.canonical_of_accept {r : Registry} {given id : Ident}
    (h : r.accept given = .ok id) : id = r.canonical given := by
  rcases r.accept_inv given with haccept | ⟨_, haccept, -⟩
  · exact Except.ok.inj (h.symm.trans haccept)
  · rw [h] at haccept
    cases haccept

namespace Operations

variable {engine : Engine} {request : Request} {make : Routine} {id : Ident} {s t : Session}

/-- Accepting an identifier answers what the registry says, and changes nothing. -/
theorem accept_eq {result : Except Failure Ident} (h : s.registry.accept id = result) :
    accept id s = some (.ofExcept result, s) := by
  rw [← h]
  rfl

/-! ## Preparing -/

/-- Exclude an identifier if a request says so. -/
def excludeIf (excluded : Bool) (id : Ident) : Run Failure Unit :=
  if excluded then Run.edit fun r => { r with marks := r.marks.setExcluded id true } else pure ()

/-- All that is done for a request before the creation itself. -/
def prepare (request : Request) : Run Failure Ident := do
  let id ← accept request.id
  excludeIf request.excluded id
  addDependencies id request.dependsOn
  return id

/-- Creating is preparing and then creating. -/
theorem create_eq (engine : Engine) (request : Request) (make : Routine) :
    create engine request make =
      (prepare request >>= fun id => Creation.getOrCreate engine id make) := by
  rw [create, prepare, Run.bind_assoc]
  refine congrArg (accept request.id >>= ·) (funext fun id => ?_)
  rw [Run.bind_assoc, Run.bind_assoc]
  cases request.excluded with
  | false => rfl
  | true => rfl

/-- What a request that was prepared leaves as it was, and what it excludes. -/
structure Prepared (request : Request) (id : Ident) (s t : Session) : Prop where
  accepted : s.registry.accept request.id = .ok id
  acceptable : t.registry.accept request.id = .ok id
  journal : t.journal = s.journal
  finished : t.registry.finished = s.registry.finished
  lifecycle : t.registry.lifecycle = s.registry.lifecycle
  suppressed : t.registry.suppressed = s.registry.suppressed
  config : t.registry.config = s.registry.config
  marks : t.registry.marks =
    if request.excluded then s.registry.marks.setExcluded id true else s.registry.marks

theorem Prepared.canonical (h : Prepared request id s t) : id = s.registry.canonical request.id :=
  Registry.canonical_of_accept h.accepted

/-- Recording dependencies changes the graph at most, and is refused if one of them is circular or
    not usable. -/
theorem addDependencies_inv {dependencies : List Ident} {outcome : Outcome Failure Unit}
    (h : addDependencies id dependencies s = some (outcome, t)) :
    (t.journal = s.journal ∧ ∃ g, t.registry = { s.registry with graph := g }) ∧
      (outcome = .ok () ∨ ∃ failure, outcome = .error failure ∧ failure.isRefusal = true) := by
  induction dependencies generalizing s with
  | nil =>
    cases h
    exact ⟨⟨rfl, _, rfl⟩, .inl rfl⟩
  | cons dependency rest ih =>
    rw [addDependencies] at h
    rcases s.registry.accept_inv dependency with haccept | ⟨failure, haccept, hrefusal⟩
    · rw [Run.bind_ok (accept_eq haccept), Run.bind_ok (Run.registry_apply s)] at h
      cases hcircular : s.registry.graph.isDependent id (s.registry.canonical dependency) with
      | true =>
        rw [hcircular] at h
        cases h
        exact ⟨⟨rfl, _, rfl⟩, .inr ⟨_, rfl, rfl⟩⟩
      | false =>
        rw [hcircular] at h
        simp only [Bool.false_eq_true, if_false] at h
        rw [Run.bind_ok (Run.edit_put s _)] at h
        obtain ⟨⟨hjournal, g, hgraph⟩, houtcome⟩ := ih h
        exact ⟨⟨hjournal, g, hgraph⟩, houtcome⟩
    · rw [Run.bind_error (accept_eq haccept)] at h
      cases h
      exact ⟨⟨rfl, _, rfl⟩, .inr ⟨failure, rfl, hrefusal⟩⟩

/-- A request is prepared or refused, of which the journal says nothing. -/
theorem prepare_inv {outcome : Outcome Failure Ident} (h : prepare request s = some (outcome, t)) :
    (∃ id, outcome = .ok id ∧ Prepared request id s t) ∨
      ∃ failure, outcome = .error failure ∧ failure.isRefusal = true ∧ t.journal = s.journal := by
  rw [prepare] at h
  rcases s.registry.accept_inv request.id with haccept | ⟨failure, haccept, hrefusal⟩
  · obtain ⟨marks, hmarks, hexclude⟩ : ∃ marks,
        marks = (if request.excluded then
          s.registry.marks.setExcluded (s.registry.canonical request.id) true
          else s.registry.marks) ∧
        excludeIf request.excluded (s.registry.canonical request.id) s =
          some (.ok (), s.put { s.registry with marks }) := by
      cases request.excluded <;> exact ⟨_, rfl, rfl⟩
    rw [Run.bind_ok (accept_eq haccept), Run.bind_ok hexclude] at h
    obtain ⟨ending, hdependencies, rfl⟩ := Run.map_inv h
    obtain ⟨⟨hjournal, g, hgraph⟩, rfl | ⟨failure, rfl, hrefusal⟩⟩ :=
      addDependencies_inv hdependencies
    · refine .inl ⟨_, rfl, ⟨haccept, ?_, hjournal, ?_, ?_, ?_, ?_, ?_⟩⟩
      · rw [hgraph]
        exact haccept
      · rw [hgraph]
        rfl
      · rw [hgraph]
        rfl
      · rw [hgraph]
        rfl
      · rw [hgraph]
        rfl
      · rw [hgraph, ← hmarks]
        rfl
    · exact .inr ⟨failure, rfl, hrefusal, hjournal⟩
  · rw [Run.bind_error (accept_eq haccept)] at h
    cases h
    exact .inr ⟨failure, rfl, hrefusal, rfl⟩

/-- Asking by name is asking with a bare request. -/
theorem getOrCreate_eq (engine : Engine) (id : Ident) (make : Routine) :
    getOrCreate engine id make = create engine { id } make := rfl

end Operations

/-- An operation that creates excludes its identifier if the request says so. -/
theorem Op.exclusion?_creation {op : Op} {request : Request} {make : Routine}
    (h : op.creation? = some (request, make)) (r : Registry) :
    op.exclusion? r =
      if request.excluded then (r.accept request.id).toOption.map (·, true) else none := by
  cases op with
  | getOrCreate id construct =>
    cases h
    rfl
  | create request' construct =>
    cases h
    rfl
  | _ => cases h

end InstanceRegistry
