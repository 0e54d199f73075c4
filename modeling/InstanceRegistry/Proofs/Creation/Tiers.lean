import InstanceRegistry.Proofs.Courses.Calls

/-!
  The tiers of an identifier.

  An identifier moves from a factory to an early reference to a finished instance, and is meant to be
  in one of these TIERS at a time.  A lookup takes the factory out, runs it, and keeps the reference
  that it made.  It does not look again, so it keeps the reference even if the factory has bound an
  instance or offered another factory meanwhile.  That is the only way for two tiers to be occupied:
  whoever binds an instance or offers a factory empties the other tiers, and everything else only
  takes away.

  So whether the tiers exclude each other throughout a run can be read off the entries that announce
  early references.  An announced reference is kept, which makes them necessary, and no other step
  adds to a tier without emptying the others, which makes them sufficient.

  Mathlib-free.
-/

namespace InstanceRegistry

/-! ## What follows the announcement of an early reference -/

/-- Whose early reference an event announces. -/
def Event.exposed? : Event → Option Ident
  | .noticed (.exposing id) => some id
  | _ => none

theorem Event.exposed?_of_isAside {event : Event} (h : event.isAside = true) :
    event.exposed? = none := by
  cases event with
  | began _ | done _ _ _ | entered _ _ _ => cases h
  | wired _ _ _ | fetched _ _ => rfl
  | noticed notice =>
    cases notice with
    | creating _ | exposing _ | disposing _ => cases h
    | _ => rfl

theorem Routine.exposed?_entry (role : Role) (routine : Routine) :
    (routine.entry role).exposed? = none := by
  cases routine <;> rfl

/-- The early reference that an entry announces is kept at some entry: nothing else has changed
    between the two. -/
def Session.Keeps (s : Session) (e : Entry) : Prop :=
  ∀ id ∈ e.event.exposed?, ∃ early, ∃ e' ∈ s.journal, e'.registry = e.registry.expose id early

namespace Session.Keeps

variable {s t : Session} {e : Entry}

theorem mono (h : s.Keeps e) (hst : s.journal <:+ t.journal) : t.Keeps e := by
  intro id hid
  obtain ⟨early, e', he', hregistry⟩ := h id hid
  exact ⟨early, e', hst.subset he', hregistry⟩

/-- An entry that announces no early reference has nothing to keep. -/
theorem of_none (h : e.event.exposed? = none) : s.Keeps e := by
  intro id hid
  rw [h] at hid
  cases hid

end Session.Keeps

namespace Course

/-- What a course leaves of an announcement: it is kept, or it is kept as soon as the call is over
    that ends with it. -/
def Exit.Keeps (s : Session) (e : Entry) : Exit → Prop
  | exposed => ∀ event, (s.note event).Keeps e
  | onward | created _ | processed => s.Keeps e

theorem Exit.keeps_of {s : Session} {e : Entry} (h : s.Keeps e) (exit : Exit) :
    exit.Keeps s e := by
  cases exit with
  | exposed => exact fun event => h.mono (s.suffix_note event)
  | onward | created _ | processed => exact h

/-- **Early references that are announced are kept**, each right after its announcement. -/
theorem keeps {s t : Session} {exit : Exit} (h : Course s t exit) :
    Newly (fun e _ => exit.Keeps t e) s t := by
  have later : ∀ {s t u : Session}, t.journal <:+ u.journal →
      Newly (fun e _ => t.Keeps e) s t → Newly (fun e _ => u.Keeps e) s t :=
    fun htu h => h.imp fun _ _ he => he.mono htu
  have silent : ∀ {s u : Session} {event : Event}, event.exposed? = none →
      Newly (fun e _ => u.Keeps e) s (s.note event) := fun hnone => .note (.of_none hnone)
  induction h with
  | rest s => exact .of_eq rfl
  | @next s t u exit _ second ih ih' =>
    exact .trans ((later second.suffix ih).imp fun _ _ he => Exit.keeps_of he exit) ih'
  | aside _ hjournal => exact .of_eq hjournal
  | note haside => exact silent (Event.exposed?_of_isAside haside)
  | enter _ | announce _ _ _ => exact silent rfl
  | @expose s t id early _ _ ih =>
    have hsuffix := t.suffix_note (.noticed (.exposing id))
    have hinside : Newly (fun e _ => Session.Keeps
        ((t.note (.noticed (.exposing id))).put (t.registry.expose id early)) e) s t :=
      later hsuffix ih
    refine (hinside.imp fun _ _ he => Exit.keeps_of he .exposed).trans (.put (.note fun event id' hid => ?_) _)
    cases hid
    exact ⟨early, _, List.mem_cons_self, rfl⟩
  | @call c asStep exit _ _ ih =>
    have hinside : Newly (fun e _ => (c.stop.note (.done c.op asStep c.result)).Keeps e)
        (c.start.note (.began c.op)) c.stop := by
      refine ih.imp fun e _ he => ?_
      cases exit with
      | exposed => exact he _
      | onward | created _ | processed => exact he.mono (c.stop.suffix_note _)
    exact .trans (silent rfl) (hinside.trans (silent rfl))
  | shift _ | drop _ _ | exclude _ _ | setMarks _ _ | register _ _ _ _ _ => exact .of_eq rfl
  | create _ _ _ _ _ _ hclose ih =>
    refine .trans (.put (silent rfl) _) (.trans (later hclose.suffix ih) ?_)
    exact hclose.newly fun _ haside => .of_none (Event.exposed?_of_isAside haside)
  | process _ _ _ _ ih => exact ih
  | @dispose s t id hook _ _ ih =>
    refine .trans (later (t.suffix_note_note _ _) ih) (.trans (silent ?_) (silent ?_))
    · rfl
    · exact Routine.exposed?_entry _ hook
  | destroy _ _ _ hrest ih =>
    refine .put (.trans (later hrest.suffix ih) ?_) _
    exact hrest.newly fun _ haside => .of_none (Event.exposed?_of_isAside haside)

end Course

/-! ## One tier at a time -/

namespace Registry

/-- Whom a factory is kept for has no finished instance. -/
def Unmade (r : Registry) (x : Ident) : Prop := x ∈ r.factories.keys → x ∉ r.finished.keys

/-- An identifier is in one tier at most. -/
structure OneTier (r : Registry) (x : Ident) : Prop where
  unmade : r.Unmade x
  exposed : x ∈ r.early.keys → x ∉ r.finished.keys ∧ x ∉ r.factories.keys

instance (r : Registry) (x : Ident) : Decidable (r.OneTier x) :=
  decidable_of_iff
    ((x ∈ r.factories.keys → x ∉ r.finished.keys) ∧
      (x ∈ r.early.keys → x ∉ r.finished.keys ∧ x ∉ r.factories.keys))
    ⟨fun h => ⟨h.1, h.2⟩, fun h => ⟨h.unmade, h.exposed⟩⟩

/-- Every tier of a registry has in it at most whom it has in another one. -/
structure Fewer (r r' : Registry) : Prop where
  finished : r'.finished.keys ⊆ r.finished.keys
  early : r'.early.keys ⊆ r.early.keys
  factories : r'.factories.keys ⊆ r.factories.keys

namespace Fewer

variable {r r' r'' : Registry}

theorem of_eq (hfinished : r'.finished = r.finished) (hearly : r'.early = r.early)
    (hfactories : r'.factories = r.factories) : r.Fewer r' := by
  constructor
  · rw [hfinished]
    exact List.Subset.refl _
  · rw [hearly]
    exact List.Subset.refl _
  · rw [hfactories]
    exact List.Subset.refl _

theorem trans (h : r.Fewer r') (h' : r'.Fewer r'') : r.Fewer r'' where
  finished := List.Subset.trans h'.finished h.finished
  early := List.Subset.trans h'.early h.early
  factories := List.Subset.trans h'.factories h.factories

theorem takeFactory (r : Registry) (id : Ident) : r.Fewer (r.takeFactory id) where
  finished := List.Subset.refl _
  early := List.Subset.refl _
  factories := Store.keys_erase_subset _ id

theorem retract (r : Registry) (id : Ident) : r.Fewer (r.retract id) where
  finished := List.Subset.refl _
  early := Store.keys_erase_subset _ id
  factories := Store.keys_erase_subset _ id

theorem purge (r : Registry) (id : Ident) : r.Fewer (r.purge id) where
  finished := Store.keys_erase_subset _ id
  early := Store.keys_erase_subset _ id
  factories := Store.keys_erase_subset _ id

theorem purgeAll (r : Registry) : r.Fewer r.purgeAll where
  finished := List.nil_subset _
  early := List.nil_subset _
  factories := List.nil_subset _

theorem abandonCreation (r : Registry) (outermost : Bool) (id : Ident) :
    r.Fewer (r.abandonCreation outermost id) := by
  rw [abandonCreation_eq]
  exact of_eq rfl rfl rfl

variable {x : Ident}

theorem unmade (h : r.Fewer r') (hx : r.Unmade x) : r'.Unmade x :=
  fun hfactory hfinished => hx (h.factories hfactory) (h.finished hfinished)

/-- Who is in one tier at most is so when the tiers have fewer in them. -/
theorem oneTier (h : r.Fewer r') (hx : r.OneTier x) : r'.OneTier x := by
  refine ⟨h.unmade hx.unmade, fun hearly => ?_⟩
  obtain ⟨hfinished, hfactory⟩ := hx.exposed (h.early hearly)
  exact ⟨fun hmem => hfinished (h.finished hmem), fun hmem => hfactory (h.factories hmem)⟩

end Fewer

end Registry

/-! ### What adds to a tier -/

/-- What a change does to the tiers, unless it keeps an early reference. -/
inductive Registry.Refills (r : Registry) : Registry → Prop
  | fewer {r' : Registry} (h : r.Fewer r') : Refills r r'
  | offer (id : Ident) (factory : Routine) : Refills r (r.offerFactory id factory)
  | commit {r' r'' : Registry} {id : Ident} {made : Instance} (h : r.Fewer r')
      (hcommit : r'.commit id made = .ok r'') : Refills r r''

namespace Registry

variable {r r' : Registry} {x id : Ident} {made : Instance}

/-- A factory is not kept for whom there is an instance. -/
theorem Unmade.offer (h : r.Unmade x) (id : Ident) (factory : Routine) :
    (r.offerFactory id factory).Unmade x := by
  rw [offerFactory]
  cases hfound : r.finished.contains id with
  | true => exact h
  | false =>
    have hfree : id ∉ r.finished.keys := by
      rw [← Store.contains_iff_mem_keys, hfound]
      decide
    intro hfactory
    rcases Store.mem_keys_insert.1 hfactory with hfactory | rfl
    · exact h hfactory
    · exact hfree

/-- The factory goes of whom an instance is bound for. -/
theorem Unmade.commit (h : r.Unmade x) (hcommit : r.commit id made = .ok r') : r'.Unmade x := by
  obtain ⟨-, rfl⟩ := commit_eq hcommit
  intro hfactory hfinished
  obtain ⟨hfactory, hne⟩ := Store.mem_keys_erase.1 hfactory
  rcases Store.mem_keys_insert.1 hfinished with hfinished | heq
  · exact h hfactory hfinished
  · exact hne heq

/-- The early reference goes of whom a factory is kept for. -/
theorem OneTier.offer (h : r.OneTier x) (id : Ident) (factory : Routine) :
    (r.offerFactory id factory).OneTier x := by
  refine ⟨h.unmade.offer id factory, ?_⟩
  rw [offerFactory]
  cases r.finished.contains id with
  | true => exact h.exposed
  | false =>
    intro hearly
    obtain ⟨hearly, hne⟩ := Store.mem_keys_erase.1 hearly
    obtain ⟨hfinished, hfactory⟩ := h.exposed hearly
    refine ⟨hfinished, fun hmem => ?_⟩
    rcases Store.mem_keys_insert.1 hmem with hmem | heq
    · exact hfactory hmem
    · exact hne heq

/-- The early reference goes of whom an instance is bound for. -/
theorem OneTier.commit (h : r.OneTier x) (hcommit : r.commit id made = .ok r') :
    r'.OneTier x := by
  refine ⟨h.unmade.commit hcommit, ?_⟩
  obtain ⟨-, rfl⟩ := commit_eq hcommit
  intro hearly
  obtain ⟨hearly, hne⟩ := Store.mem_keys_erase.1 hearly
  obtain ⟨hfinished, hfactory⟩ := h.exposed hearly
  constructor
  · intro hmem
    rcases Store.mem_keys_insert.1 hmem with hmem | heq
    · exact hfinished hmem
    · exact hne heq
  · intro hmem
    exact hfactory (Store.keys_erase_subset _ _ hmem)

/-- Keeping an early reference leaves its identifier in one tier if it is in no other. -/
theorem OneTier.expose (h : r.OneTier x) (early : Instance)
    (hfree : id = x → x ∉ r.finished.keys ∧ x ∉ r.factories.keys) :
    (r.expose id early).OneTier x := by
  refine ⟨h.unmade, fun hearly => ?_⟩
  rcases Store.mem_keys_insert.1 hearly with hearly | heq
  · exact h.exposed hearly
  · exact hfree heq.symm

theorem Refills.unmade (h : r.Refills r') (hx : r.Unmade x) : r'.Unmade x := by
  cases h with
  | fewer h => exact h.unmade hx
  | offer id factory => exact hx.offer id factory
  | commit h hcommit => exact (h.unmade hx).commit hcommit

theorem Refills.oneTier (h : r.Refills r') (hx : r.OneTier x) : r'.OneTier x := by
  cases h with
  | fewer h => exact h.oneTier hx
  | offer id factory => exact hx.offer id factory
  | commit h hcommit => exact (h.oneTier hx).commit hcommit

end Registry

/-- Taking something away empties tiers at most. -/
theorem Registry.Drops.fewer {r r' : Registry} (h : r.Drops r') : r.Fewer r' := by
  cases h with
  | one id => exact .purge r id
  | all => exact .purgeAll r

theorem Registry.Drops.marks {r r' : Registry} (h : r.Drops r') : r'.marks = r.marks := by
  cases h <;> rfl

theorem Session.Shift.refills {s : Session} {r : Registry} (h : s.Shift r) :
    s.registry.Refills r := by
  cases h with
  | @offerFactory _ id factory _ _ => exact .offer id factory
  | takeFactory id => exact .fewer (.takeFactory _ id)
  | @storeProduct id _ _ _ =>
    rw [Registry.storeProduct]
    cases s.registry.finished.contains id <;> exact .fewer (.of_eq rfl rfl rfl)
  | suppress _ _ | graph _ | aliases _ | keepHook _ _ => exact .fewer (.of_eq rfl rfl rfl)

theorem Creation.Closes.refills {id : Ident} {outermost : Bool} {t u : Session}
    {ending : Outcome Cause Instance} {outcome : Outcome Failure Instance}
    (h : Creation.Closes id outermost t ending outcome u) : t.registry.Refills u.registry := by
  have habandon := Registry.Fewer.abandonCreation t.registry outermost id
  cases h with
  | stuck _ | occupied _ _ | unwound => exact .fewer habandon
  | bound _ hcommit => exact .commit habandon hcommit
  | recovered _ => exact .fewer (habandon.trans (.retract _ id))
  | failed _ _ | mismatched _ _ =>
    have hretract := habandon.trans (.retract _ id)
    exact .fewer (hretract.trans (.of_eq rfl rfl rfl))

/-- What a step does to the tiers, unless it keeps the early reference that was announced. -/
theorem Course.Step.refills {s : Session} {r : Registry} (h : Course.Step s r) :
    s.registry.Refills r ∨
      ∃ id early, r = s.registry.expose id early ∧
        ∃ rest, s.journal = ⟨.noticed (.exposing id), s.registry⟩ :: rest := by
  cases h with
  | @expose id early hnoted => exact .inr ⟨id, early, rfl, hnoted⟩
  | shift h => exact .inl h.refills
  | drop _ h => exact .inl (.fewer h.fewer)
  | register _ _ _ _ hcommit => exact .inl (.commit (.of_eq rfl rfl rfl) hcommit)
  | opening hmark =>
    obtain ⟨marks, -, ⟨-, -, rfl⟩ | ⟨_, -, -, rfl⟩⟩ := Registry.openCreation_eq hmark
    · exact .inl (.fewer (.of_eq rfl rfl rfl))
    · exact .inl (.fewer (.of_eq rfl rfl rfl))
  | closing _ _ _ _ hclose => exact .inl hclose.refills
  | empty _ => exact .inl (.fewer ((Registry.Fewer.purgeAll _).trans (.of_eq rfl rfl rfl)))
  | takeHook _ | exclude _ _ | setMarks _ _ | mark _ | unmark _ | close _ _ | finish _ _ =>
    exact .inl (.fewer (.of_eq rfl rfl rfl))

/-- An early reference of an identifier is announced only while it is in neither of the other tiers. -/
def Session.ExposesFree (s : Session) (x : Ident) : Prop :=
  ∀ e ∈ s.journal, e.event.exposed? = some x →
    x ∉ e.registry.finished.keys ∧ x ∉ e.registry.factories.keys

instance (s : Session) (x : Ident) : Decidable (s.ExposesFree x) :=
  inferInstanceAs (Decidable (∀ e ∈ s.journal, e.event.exposed? = some x →
    x ∉ e.registry.finished.keys ∧ x ∉ e.registry.factories.keys))

/-- **Every step leaves an identifier in one tier** that was in one at most, if its early references
    are announced only while it is in neither of the other tiers. -/
theorem Course.Step.oneTier {s : Session} {r : Registry} {x : Ident} (h : Course.Step s r)
    (hexposes : s.ExposesFree x) (hx : s.registry.OneTier x) : r.OneTier x := by
  rcases h.refills with hrefills | ⟨id, early, rfl, rest, hrest⟩
  · exact hrefills.oneTier hx
  · refine hx.expose early ?_
    rintro rfl
    exact hexposes _ (hrest ▸ List.mem_cons_self) rfl

theorem Course.Step.unmade {s : Session} {r : Registry} {x : Ident} (h : Course.Step s r)
    (hx : s.registry.Unmade x) : r.Unmade x := by
  rcases h.refills with hrefills | ⟨id, early, rfl, -⟩
  · exact hrefills.unmade hx
  · exact hx

/-! ## Whole runs -/

/-- **The tiers exclude each other** for an identifier at all moments of a script, also at those that
    callbacks see, just if its early references are announced only while it is in neither of the
    other tiers.  A factory and a finished instance exclude each other anyway. -/
theorem tiers_exclusive_iff {script : Script} {depth : Nat} {outcome : Outcome Cause Unit}
    {s : Session} (h : script.runWithin depth = some (outcome, s)) (x : Ident)
    (hstart : script.registry.OneTier x) :
    (∀ r ∈ s.moments, r.Unmade x) ∧ ((∀ r ∈ s.moments, r.OneTier x) ↔ s.ExposesFree x) := by
  refine ⟨?_, ?_, ?_⟩
  · exact Script.invariant h (fun _ _ _ hstep => hstep.unmade) hstart.unmade
  · intro hmoments e he hexposed
    obtain ⟨later, earlier, hjournal⟩ := List.append_of_mem he
    -- the reference was kept, and then the identifier was in its tier
    obtain ⟨early, e', he', hregistry⟩ := (Script.course h).keeps.all rfl hjournal x hexposed
    have hone := hmoments e'.registry (List.mem_cons_of_mem _ (List.mem_map_of_mem he'))
    rw [hregistry] at hone
    exact hone.exposed (Store.mem_keys_insert.2 (.inr rfl))
  · intro hexposes
    refine Script.invariant h (fun u r hu hstep => hstep.oneTier fun e he => ?_) hstart
    exact hexposes e (hu.subset he)

/-- A lamp whose construction offers an early factory and looks the lamp up twice.  The factory may
    offer another one while it runs. -/
def secondThoughts (again : Bool) : Script where
  registry := {}
  steps :=
    let second := .scripted "lamp" [] (.fresh (some "second"))
    let offering := if again then [.step (.registerFactory "lamp" second) true none] else []
    [.step (.getOrCreate "lamp" (.scripted "lamp"
      [.step (.registerFactory "lamp" (.scripted "lamp" offering (.fresh (some "first")))) true none,
        .step (.get "lamp") true none,
        .step (.get "lamp") true none] .same)) true none]

/-- A lamp that offers one factory goes from one tier to the next. -/
theorem tiers_exclusive_iff_lamp :
    ∃ outcome s, (secondThoughts false).runWithin 4 = some (outcome, s) ∧
      (secondThoughts false).registry.OneTier "lamp" ∧
      (∃ e ∈ s.journal, e.event.exposed? = some "lamp") ∧ s.ExposesFree "lamp" ∧
      ∀ r ∈ s.moments, r.OneTier "lamp" := by
  have hends : ∃ outcome s, (secondThoughts false).runWithin 4 = some (outcome, s) ∧
      (∃ e ∈ s.journal, e.event.exposed? = some "lamp") ∧ s.ExposesFree "lamp" :=
    Script.ends_of_check (by decide +kernel)
  obtain ⟨outcome, s, hrun, hexposed, hfree⟩ := hends
  have hstart : (secondThoughts false).registry.OneTier "lamp" := by decide
  have hiff := (tiers_exclusive_iff hrun "lamp" hstart).2
  exact ⟨outcome, s, hrun, hstart, hexposed, hfree, hiff.2 hfree⟩

/-- A lamp whose factory offers another one has an early reference and a factory at once. -/
theorem second_factory_kept :
    ∃ outcome s, (secondThoughts true).runWithin 4 = some (outcome, s) ∧
      (secondThoughts true).registry.OneTier "lamp" ∧
      ∃ r ∈ s.moments, ¬ r.OneTier "lamp" ∧ "lamp" ∈ r.early.keys ∧ "lamp" ∈ r.factories.keys :=
  Script.ends_of_check (by decide +kernel)

end InstanceRegistry
