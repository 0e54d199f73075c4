import InstanceRegistry.Proofs.Courses.Course

/-!
  What holds from one moment of a course to every later one.

  A course changes the registry by STEPS, one at a time.  A preorder that every step respects holds
  between any two moments of a course, the earlier and the later: the registry as it was found, as
  every new entry of the journal keeps it, and as it was left.  That is how a law about whole runs
  is proved from one case per step.

  A law that is only about what is finished, what is marked and the lifecycle need not tell all
  steps apart.  What they do to these three is a MOVE, and there are fewer of them.

  The step that closes a creation carries the course of the callback.  A law may need that to know
  what became of the mark.

  Mathlib-free.
-/

namespace InstanceRegistry

/-! ## Single changes -/

namespace Registry

/-- Abandoning a creation clears its mark, and the buffer if it was the outermost one. -/
theorem abandonCreation_eq (r : Registry) (outermost : Bool) (id : Ident) :
    r.abandonCreation outermost id =
      { r with
        marks := r.marks.leaveQuietly id
        suppressed := if outermost then none else r.suppressed } := by
  cases outermost <;> rfl

@[simp] theorem finished_abandonCreation (r : Registry) (outermost : Bool) (id : Ident) :
    (r.abandonCreation outermost id).finished = r.finished := by
  cases outermost <;> rfl

@[simp] theorem marks_abandonCreation (r : Registry) (outermost : Bool) (id : Ident) :
    (r.abandonCreation outermost id).marks = r.marks.leaveQuietly id := by
  cases outermost <;> rfl

@[simp] theorem lifecycle_abandonCreation (r : Registry) (outermost : Bool) (id : Ident) :
    (r.abandonCreation outermost id).lifecycle = r.lifecycle := by
  cases outermost <;> rfl

/-- Opening a creation enters its mark.  It is the outermost one if there is no buffer, and then it
    opens one. -/
theorem openCreation_eq {r r' : Registry} {id : Ident} {outermost : Bool}
    (h : r.openCreation id = .ok (outermost, r')) :
    ∃ marks, r.marks.enter id = .ok marks ∧
      ((r.suppressed = none ∧ outermost = true ∧ r' = { r with marks, suppressed := some [] }) ∨
        ∃ texts, r.suppressed = some texts ∧ outermost = false ∧ r' = { r with marks }) := by
  rw [openCreation] at h
  cases hmark : r.marks.enter id with
  | error failure =>
    rw [hmark] at h
    cases h
  | ok marks =>
    rw [hmark] at h
    refine ⟨marks, rfl, ?_⟩
    cases hbuffer : r.suppressed with
    | none =>
      simp only [Except.map, hbuffer] at h
      cases h
      exact .inl ⟨rfl, rfl, rfl⟩
    | some texts =>
      simp only [Except.map, hbuffer] at h
      cases h
      exact .inr ⟨texts, rfl, rfl, rfl⟩

/-- Opening a creation enters the mark, and leaves what is finished alone. -/
theorem openCreation_inv {r r' : Registry} {id : Ident} {outermost : Bool}
    (h : r.openCreation id = .ok (outermost, r')) :
    r.marks.enter id = .ok r'.marks ∧ r'.finished = r.finished ∧ r'.lifecycle = r.lifecycle := by
  obtain ⟨marks, hmark, ⟨-, -, rfl⟩ | ⟨_, -, -, rfl⟩⟩ := openCreation_eq h
  · exact ⟨hmark, rfl, rfl⟩
  · exact ⟨hmark, rfl, rfl⟩

/-- Binding fills a place that was free, and drops what was provisional about the identifier. -/
theorem commit_eq {r r' : Registry} {id : Ident} {made : Instance}
    (h : r.commit id made = .ok r') :
    r.finished.get? id = none ∧
      r' = { r with
        finished := r.finished.insert id made
        factories := r.factories.erase id
        early := r.early.erase id
        listed := Roster.add r.listed id } := by
  rw [commit] at h
  cases hfound : r.finished.contains id with
  | true =>
    rw [hfound] at h
    cases h
  | false =>
    rw [hfound] at h
    cases h
    exact ⟨Option.not_isSome_iff_eq_none.1 (by rw [← Store.contains, hfound]; decide), rfl⟩

/-- Binding fills a place that was free. -/
theorem commit_inv {r r' : Registry} {id : Ident} {made : Instance}
    (h : r.commit id made = .ok r') :
    r.finished.get? id = none ∧ r'.finished = r.finished.insert id made ∧ r'.marks = r.marks ∧
      r'.lifecycle = r.lifecycle := by
  obtain ⟨hfree, rfl⟩ := commit_eq h
  exact ⟨hfree, rfl, rfl, rfl⟩

/-- Keeping a product changes the products at most. -/
theorem storeProduct_eq (r : Registry) (id : Ident) (product : Instance) :
    r.storeProduct id product = { r with products := (r.storeProduct id product).products } := by
  rw [storeProduct]
  cases r.finished.contains id <;> rfl

@[simp] theorem finished_storeProduct (r : Registry) (id : Ident) (product : Instance) :
    (r.storeProduct id product).finished = r.finished := by
  rw [storeProduct_eq]

/-- A product is kept for who is finished. -/
theorem products_storeProduct_self {r : Registry} {id : Ident} (product : Instance)
    (h : id ∈ r.finished.keys) : (r.storeProduct id product).products.get? id = some product := by
  rw [storeProduct, Store.contains_iff_mem_keys.2 h]
  exact Store.get?_insert_self _ id product

/-- Nobody else's product changes. -/
theorem products_storeProduct_of_ne {r : Registry} {id x : Ident} (product : Instance)
    (h : x ≠ id) : (r.storeProduct id product).products.get? x = r.products.get? x := by
  rw [storeProduct]
  split
  · exact Store.get?_insert_of_ne _ h product
  · rfl

end Registry

/-- Creation is allowed in the active state only. -/
theorem Lifecycle.allowsCreation_iff {l : Lifecycle} : l.allowsCreation = true ↔ l = .active :=
  decide_eq_true_iff

/-! ## How creations close -/

section

variable {id : Ident} {outermost : Bool} {t u : Session} {ending : Outcome Cause Instance}
  {outcome : Outcome Failure Instance}

/-- However a creation closes, nothing but tiers, the list, its mark and the buffer may change. -/
theorem Creation.Closes.registry_eq (h : Creation.Closes id outermost t ending outcome u) :
    ∃ finished early factories listed, u.registry =
      { t.registry with
        finished, early, factories, listed
        marks := t.registry.marks.leaveQuietly id
        suppressed := if outermost then none else t.registry.suppressed } := by
  have habandon := Registry.abandonCreation_eq t.registry outermost id
  cases h with
  | bound _ hcommit =>
    obtain ⟨-, rfl⟩ := Registry.commit_eq hcommit
    rw [habandon]
    exact ⟨_, _, _, _, rfl⟩
  | stuck _ | occupied _ _ | recovered _ | failed _ _ | mismatched _ _ | unwound =>
    rw [habandon]
    exact ⟨_, _, _, _, rfl⟩

/-- However a creation closes, its mark is cleared if it is found. -/
theorem Creation.Closes.marks (h : Creation.Closes id outermost t ending outcome u) :
    u.registry.marks = t.registry.marks.leaveQuietly id := by
  obtain ⟨_, _, _, _, hregistry⟩ := h.registry_eq
  rw [hregistry]

/-- However a creation closes, the lifecycle stays. -/
theorem Creation.Closes.lifecycle (h : Creation.Closes id outermost t ending outcome u) :
    u.registry.lifecycle = t.registry.lifecycle := by
  obtain ⟨_, _, _, _, hregistry⟩ := h.registry_eq
  rw [hregistry]

/-- However the creation of somebody else closes, who was not finished is not. -/
theorem Creation.Closes.unfinished (h : Creation.Closes id outermost t ending outcome u) {x : Ident}
    (hne : id ≠ x) (hfree : t.registry.finished.get? x = none) :
    u.registry.finished.get? x = none := by
  have habandon : (t.registry.abandonCreation outermost id).finished.get? x = none := by
    rw [Registry.finished_abandonCreation]
    exact hfree
  cases h with
  | bound _ hcommit =>
    rw [Session.registry_put, (Registry.commit_inv hcommit).2.1,
      Store.get?_insert_of_ne _ hne.symm]
    exact habandon
  | stuck _ | occupied _ _ | recovered _ | failed _ _ | mismatched _ _ | unwound =>
    exact habandon

/-- However a creation closes, the settings stay. -/
theorem Creation.Closes.settings (h : Creation.Closes id outermost t ending outcome u) :
    u.registry.config = t.registry.config ∧ u.registry.guarded = t.registry.guarded := by
  obtain ⟨_, _, _, _, hregistry⟩ := h.registry_eq
  rw [hregistry]
  exact ⟨rfl, rfl⟩

end

/-- A creation closes with one change of the registry, and may report something after it. -/
theorem Creation.Closes.split {id : Ident} {outermost : Bool} {t u : Session}
    {ending : Outcome Cause Instance} {outcome : Outcome Failure Instance}
    (h : Creation.Closes id outermost t ending outcome u) :
    u = t.put u.registry ∨ ∃ event, u = (t.put u.registry).note event := by
  cases h with
  | recovered _ | mismatched _ _ => exact .inr ⟨_, rfl⟩
  | stuck _ | occupied _ _ | bound _ _ | failed _ _ | unwound => exact .inl rfl

/-! ## Steps -/

/-- A change of the registry as courses make them, in the session where it is made. -/
inductive Course.Step (s : Session) : Registry → Prop
  | shift {r : Registry} (h : s.Shift r) : Step s r
  /-- An early reference is kept right after it was announced. -/
  | expose {id : Ident} {early : Instance}
      (hnoted : ∃ rest, s.journal = ⟨.noticed (.exposing id), s.registry⟩ :: rest) :
      Step s (s.registry.expose id early)
  | takeHook (id : Ident) : Step s { s.registry with hooks := s.registry.hooks.erase id }
  | drop {r : Registry} (hbegan : s.Began Op.drops) (h : s.registry.Drops r) : Step s r
  | exclude {op : Op} {id : Ident} {value : Bool} (hbegins : s.Begins op)
      (h : op.exclusion? s.registry = some (id, value)) :
      Step s { s.registry with marks := s.registry.marks.setExcluded id value }
  | setMarks {marks : Marks} (hbegan : s.Began Op.setsMarks)
      (h : marks.excluded = s.registry.marks.excluded) : Step s { s.registry with marks }
  | register {given id : Ident} {origin : Source} {made : Instance} {r : Registry}
      (hbegins : s.Begins (.registerInstance given origin))
      (haccept : s.registry.accept given = .ok id)
      (hopen : s.registry.lifecycle.allowsCreation = true)
      (hchecked : s.registry.marks.isChecked id = false)
      (hcommit : s.registry.commit id made = .ok r) : Step s r
  | opening {id : Ident} {outermost : Bool} {r : Registry}
      (hmark : s.registry.openCreation id = .ok (outermost, r)) : Step s r
  /-- A creation closes after the course that its callback took. -/
  | closing {s₀ u : Session} {id : Ident} {outermost : Bool} {r₀ : Registry}
      {ending : Outcome Cause Instance} {outcome : Outcome Failure Instance}
      (hasked : s₀.Asked id) (hopen : s₀.registry.lifecycle.allowsCreation = true)
      (hmark : s₀.registry.openCreation id = .ok (outermost, r₀))
      (inside : Course ((s₀.note (.noticed (.creating id))).put r₀) s)
      (hclose : Creation.Closes id outermost s ending outcome u) : Step s u.registry
  | mark {id : Ident} {marks : Marks} (hmark : s.registry.marks.enter id = .ok marks) :
      Step s { s.registry with marks }
  | unmark {id : Ident} {products : Store Instance}
      (hproducts : products = s.registry.products ∨
        ∃ processed, products = (s.registry.storeProduct id processed).products) :
      Step s { s.registry with marks := s.registry.marks.leaveQuietly id, products }
  | close (hbegan : s.Began Op.endsAll) (hactive : s.registry.lifecycle = .active) :
      Step s { s.registry with lifecycle := .destroying }
  | empty (hbegan : s.Began Op.endsAll) : Step s s.registry.empty
  | finish {r : Registry} (hbegan : s.Began Op.endsAll) (hempty : s.registry = r.empty) :
      Step s { s.registry with lifecycle := .destroyed }

/-! ## Moves -/

/-- What a step does to what is finished, what is marked and the lifecycle. -/
inductive Course.Move (s : Session) : Registry → Prop
  | still {r : Registry} (h : s.registry.Still r) : Move s r
  | drop {r : Registry} (hbegan : s.Began Op.drops) (h : s.registry.Drops r) : Move s r
  | exclude {op : Op} {id : Ident} {value : Bool} (hbegins : s.Begins op)
      (h : op.exclusion? s.registry = some (id, value)) :
      Move s { s.registry with marks := s.registry.marks.setExcluded id value }
  | setMarks {marks : Marks} (hbegan : s.Began Op.setsMarks)
      (h : marks.excluded = s.registry.marks.excluded) : Move s { s.registry with marks }
  | mark {id : Ident} {r : Registry} (hmark : s.registry.marks.enter id = .ok r.marks)
      (hfinished : r.finished = s.registry.finished)
      (hlifecycle : r.lifecycle = s.registry.lifecycle) : Move s r
  | unmark {id : Ident} {r : Registry} (hmarks : r.marks = s.registry.marks.leaveQuietly id)
      (hfinished : r.finished = s.registry.finished)
      (hlifecycle : r.lifecycle = s.registry.lifecycle) : Move s r
  | register {id : Ident} {made : Instance} {r : Registry}
      (hopen : s.registry.lifecycle.allowsCreation = true)
      (hchecked : s.registry.marks.isChecked id = false)
      (hcommit : s.registry.commit id made = .ok r) : Move s r
  /-- What a callback made is bound, after the course it took. -/
  | create {s₀ : Session} {id : Ident} {outermost : Bool} {r₀ r : Registry} {made : Instance}
      {marks : Marks} (hopen : s₀.registry.lifecycle.allowsCreation = true)
      (hmark : s₀.registry.openCreation id = .ok (outermost, r₀))
      (inside : Course ((s₀.note (.noticed (.creating id))).put r₀) s)
      (hleave : s.registry.marks.leave id = .ok marks)
      (hcommit : (s.registry.abandonCreation outermost id).commit id made = .ok r) : Move s r
  | close (hbegan : s.Began Op.endsAll) (hactive : s.registry.lifecycle = .active) :
      Move s { s.registry with lifecycle := .destroying }
  | empty (hbegan : s.Began Op.endsAll) : Move s s.registry.empty
  | finish {r : Registry} (hbegan : s.Began Op.endsAll) (hempty : s.registry = r.empty) :
      Move s { s.registry with lifecycle := .destroyed }

/-- Abandoning a creation clears its mark at most. -/
theorem Course.Move.abandon {s : Session} {outermost : Bool} {id : Ident} {r : Registry}
    (h : (s.registry.abandonCreation outermost id).Still r) : Move s r :=
  .unmark (h.marks.trans (Registry.marks_abandonCreation ..))
    (h.finished.trans (Registry.finished_abandonCreation ..))
    (h.lifecycle.trans (Registry.lifecycle_abandonCreation ..))

/-- Every step is a move. -/
theorem Course.Step.move {s : Session} {r : Registry} (h : Step s r) : Move s r := by
  cases h with
  | shift h => exact .still h.still
  | expose _ | takeHook _ => exact .still ⟨rfl, rfl, rfl⟩
  | drop hbegan h => exact .drop hbegan h
  | exclude hbegins h => exact .exclude hbegins h
  | setMarks hbegan h => exact .setMarks hbegan h
  | register _ _ hopen hchecked hcommit => exact .register hopen hchecked hcommit
  | opening hmark =>
    obtain ⟨hmarks, hfinished, hlifecycle⟩ := Registry.openCreation_inv hmark
    exact .mark hmarks hfinished hlifecycle
  | closing _ hopen hmark inside hclose =>
    cases hclose with
    | bound hleave hcommit => exact .create hopen hmark inside hleave hcommit
    | stuck _ | occupied _ _ | recovered _ | failed _ _ | mismatched _ _ | unwound =>
      exact .abandon ⟨rfl, rfl, rfl⟩
  | mark hmark => exact .mark hmark rfl rfl
  | unmark _ => exact .unmark rfl rfl rfl
  | close hbegan hactive => exact .close hbegan hactive
  | empty hbegan => exact .empty hbegan
  | finish hbegan hempty => exact .finish hbegan hempty

/-! ## From moment to moment -/

/-- The registry at every moment of a session's past that the journal keeps, the present first. -/
def Session.moments (s : Session) : List Registry := s.registry :: s.journal.map Entry.registry

/-- What holds from every moment to every later one holds from every entry to every later one. -/
theorem Session.entries_of_moments {R : Registry → Registry → Prop} {s : Session}
    (h : s.moments.Pairwise fun later earlier => R earlier later) {e e' : Entry}
    {earlier : List Entry} (he : (e :: earlier) <:+ s.journal) (he' : e' ∈ earlier) :
    R e'.registry e.registry := by
  have hentries := List.pairwise_map.1 (List.pairwise_cons.1 h).2
  exact (List.pairwise_cons.1 (hentries.sublist he.sublist)).1 e' he'

/-- A relation holds from every moment between two sessions to every later one. -/
def Through (R : Registry → Registry → Prop) (s t : Session) : Prop :=
  ∃ new, t.journal = new ++ s.journal ∧
    ((t.registry :: new.map Entry.registry) ++ [s.registry]).Pairwise
      fun later earlier => R earlier later

namespace Through

variable {R : Registry → Registry → Prop} {s t u : Session}

/-- A change that the journal does not notice. -/
theorem of_eq (hregistry : R s.registry t.registry) (hjournal : t.journal = s.journal) :
    Through R s t :=
  ⟨[], hjournal, by simpa using hregistry⟩

/-- An entry for a moment. -/
theorem note (hrefl : ∀ r, R r r) (event : Event) : Through R s (s.note event) :=
  ⟨[⟨event, s.registry⟩], rfl, by simp [hrefl]⟩

/-- What holds up to a moment and from there on holds throughout. -/
theorem trans (htrans : ∀ {r r' r''}, R r r' → R r' r'' → R r r'') (h : Through R s t)
    (h' : Through R t u) : Through R s u := by
  obtain ⟨new, hjournal, hnew⟩ := h
  obtain ⟨new', hjournal', hnew'⟩ := h'
  refine ⟨new' ++ new, by rw [hjournal', hjournal, List.append_assoc], ?_⟩
  have hafter := List.pairwise_append.1 hnew'
  have hbefore := List.pairwise_cons.1 hnew
  have hsplit : (u.registry :: (new' ++ new).map Entry.registry) ++ [s.registry] =
      (u.registry :: new'.map Entry.registry) ++ (new.map Entry.registry ++ [s.registry]) := by
    simp
  rw [hsplit]
  -- `t` stands between everything later and everything earlier
  refine List.pairwise_append.2 ⟨hafter.1, hbefore.2, fun later hlater earlier hearlier => ?_⟩
  exact htrans (hbefore.1 earlier hearlier) (hafter.2.2 later hlater t.registry List.mem_cons_self)

theorem whole (h : Through R s t) : R s.registry t.registry := by
  obtain ⟨new, -, hnew⟩ := h
  exact (List.pairwise_cons.1 hnew).1 _ (by simp)

/-- It holds from each entry on the way to the end. -/
theorem from_entry (h : Through R s t) {e : Entry} {earlier : List Entry}
    (he : (e :: earlier) <:+ t.journal) (hs : s.journal <:+ earlier) : R e.registry t.registry := by
  obtain ⟨new, hjournal, hnew⟩ := h
  obtain ⟨later, hlater⟩ := he
  obtain ⟨front, rfl⟩ := hs
  rw [hjournal, ← List.cons_append, ← List.append_assoc] at hlater
  have hmem : e ∈ new := by
    rw [← List.append_cancel_right hlater]
    exact List.mem_append_right _ List.mem_cons_self
  exact (List.pairwise_cons.1 hnew).1 _ (List.mem_append_left _ (List.mem_map_of_mem hmem))

/-- From a start without a past, all moments there are were passed through. -/
theorem moments (h : Through R s t) (hstart : s.journal = []) :
    t.moments.Pairwise fun later earlier => R earlier later := by
  obtain ⟨new, hjournal, hnew⟩ := h
  rw [hstart, List.append_nil] at hjournal
  rw [Session.moments, hjournal]
  exact (List.pairwise_append.1 hnew).1

/-- What held at the start holds at every moment after it. -/
theorem since (h : Through R s t) (hstart : s.journal = []) : ∀ r ∈ t.moments, R s.registry r := by
  obtain ⟨new, hjournal, hnew⟩ := h
  rw [hstart, List.append_nil] at hjournal
  rw [Session.moments, hjournal]
  exact fun r hr => (List.pairwise_append.1 hnew).2.2 r hr _ (List.mem_singleton.2 rfl)

end Through

/-- A property of the registry holds at every moment between two sessions and at the later one. -/
def Throughout (P : Registry → Prop) (s t : Session) : Prop :=
  (∃ new, t.journal = new ++ s.journal ∧ ∀ e ∈ new, P e.registry) ∧ P t.registry

namespace Throughout

variable {P Q : Registry → Prop} {s t u : Session}

theorem of_eq (hregistry : P t.registry) (hjournal : t.journal = s.journal) : Throughout P s t :=
  ⟨⟨[], hjournal, fun _ he => absurd he List.not_mem_nil⟩, hregistry⟩

theorem note (hs : P s.registry) (event : Event) : Throughout P s (s.note event) := by
  refine ⟨⟨[⟨event, s.registry⟩], rfl, fun e he => ?_⟩, hs⟩
  rw [List.mem_singleton.1 he]
  exact hs

theorem trans (h : Throughout P s t) (h' : Throughout P t u) : Throughout P s u := by
  obtain ⟨⟨new, hjournal, hnew⟩, -⟩ := h
  obtain ⟨⟨new', hjournal', hnew'⟩, hu⟩ := h'
  refine ⟨⟨new' ++ new, by rw [hjournal', hjournal, List.append_assoc], fun e he => ?_⟩, hu⟩
  rcases List.mem_append.1 he with he | he
  · exact hnew' e he
  · exact hnew e he

/-- It holds at each entry on the way. -/
theorem at_entry (h : Throughout P s t) {e : Entry} {earlier : List Entry}
    (he : (e :: earlier) <:+ t.journal) (hs : s.journal <:+ earlier) : P e.registry := by
  obtain ⟨⟨new, hjournal, hnew⟩, -⟩ := h
  exact (Newly.stretch hjournal hnew).after he hs

/-- Where it begins, only the journal matters. -/
theorem congr {s' : Session} (h : Throughout P s t) (hjournal : s'.journal = s.journal) :
    Throughout P s' t := by
  rw [Throughout, hjournal]
  exact h

theorem imp (h : Throughout P s t) (hPQ : ∀ r, P r → Q r) : Throughout Q s t := by
  obtain ⟨⟨new, hjournal, hnew⟩, ht⟩ := h
  exact ⟨⟨new, hjournal, fun e he => hPQ _ (hnew e he)⟩, hPQ _ ht⟩

theorem and (h : Throughout P s t) (h' : Throughout Q s t) :
    Throughout (fun r => P r ∧ Q r) s t := by
  obtain ⟨⟨new, hjournal, hnew⟩, ht⟩ := h
  obtain ⟨⟨new', hjournal', hnew'⟩, ht'⟩ := h'
  obtain rfl : new = new' := List.append_cancel_right (hjournal.symm.trans hjournal')
  exact ⟨⟨new, hjournal, fun e he => ⟨hnew e he, hnew' e he⟩⟩, ht, ht'⟩

end Throughout

/-- What holds from every moment to every later one holds from the first to all of them. -/
theorem Through.throughout {R : Registry → Registry → Prop} {s t : Session} (h : Through R s t) :
    Throughout (R s.registry) s t := by
  obtain ⟨new, hjournal, hnew⟩ := h
  have hfirst : ∀ r ∈ t.registry :: new.map Entry.registry, R s.registry r :=
    fun r hr => (List.pairwise_append.1 hnew).2.2 r hr _ (List.mem_singleton.2 rfl)
  exact ⟨⟨new, hjournal, fun e he =>
    hfirst _ (List.mem_cons_of_mem _ (List.mem_map_of_mem he))⟩, hfirst _ List.mem_cons_self⟩

/-! ## Laws of steps are laws of courses -/

namespace Course

variable {R : Registry → Registry → Prop} {s t : Session} {exit : Exit}

/-- **A preorder that every step respects** holds throughout a course. -/
theorem steps (hrefl : ∀ r, R r r) (htrans : ∀ {r r' r''}, R r r' → R r' r'' → R r r'')
    (h : Course s t exit) (hstep : ∀ u r, u.journal <:+ t.journal → Step u r → R u.registry r) :
    Through R s t := by
  induction h with
  | rest s => exact .of_eq (hrefl _) rfl
  | next first second ih ih' =>
    exact .trans htrans (ih fun u r hu => hstep u r (hu.trans second.suffix)) (ih' hstep)
  | aside hregistry hjournal => exact .of_eq (hregistry ▸ hrefl _) hjournal
  | note _ | enter _ | announce _ _ _ => exact .note hrefl _
  | @expose s t id early _ inside ih =>
    have hsuffix := t.suffix_note (.noticed (.exposing id))
    have htaking : Through R s (s.put (s.registry.takeFactory id)) :=
      .of_eq (hstep s _ (inside.suffix.trans hsuffix) (.shift (.takeFactory id))) rfl
    have hfactory := ih fun u r hu => hstep u r (hu.trans hsuffix)
    have hkept : R t.registry (t.registry.expose id early) :=
      hstep (t.note (.noticed (.exposing id))) _ List.suffix_rfl (.expose ⟨_, rfl⟩)
    exact .trans htrans htaking
      (.trans htrans hfactory (.trans htrans (.note hrefl _) (.of_eq hkept rfl)))
  | call c asStep _ _ ih =>
    have hinside := ih fun u r hu => hstep u r (hu.trans (List.suffix_cons _ _))
    exact .trans htrans (.note hrefl _) (.trans htrans hinside (.note hrefl _))
  | @shift s r h => exact .of_eq (hstep s _ List.suffix_rfl (.shift h)) rfl
  | @drop s r hdoing h =>
    exact .of_eq (hstep s _ List.suffix_rfl (.drop hdoing.began h)) rfl
  | @exclude s op id value hbegins h =>
    exact .of_eq (hstep s _ List.suffix_rfl (.exclude hbegins h)) rfl
  | @setMarks s marks hdoing h =>
    exact .of_eq (hstep s _ List.suffix_rfl (.setMarks hdoing.began h)) rfl
  | @register s given id origin made r hbegins haccept hopen hchecked hcommit =>
    have hregister := Step.register hbegins haccept hopen hchecked hcommit
    exact .of_eq (hstep s _ List.suffix_rfl hregister) rfl
  | @create s t u id outermost r ending outcome hasked _ hopen hmark inside _ hclose ih =>
    have hbefore : s.journal <:+ u.journal :=
      (List.suffix_cons _ _).trans (inside.suffix.trans hclose.suffix)
    have hopening : Through R (s.note (.noticed (.creating id)))
        ((s.note (.noticed (.creating id))).put r) :=
      .of_eq (hstep s r hbefore (.opening hmark)) rfl
    have hcallback := ih fun u r hu => hstep u r (hu.trans hclose.suffix)
    have hclosed : R t.registry u.registry :=
      hstep t u.registry hclose.suffix (.closing hasked hopen hmark inside hclose)
    have hchange : Through R t (t.put u.registry) := .of_eq hclosed rfl
    have hclosing : Through R t u := by
      rcases hclose.split with hput | ⟨event, hnote⟩
      · rw [hput]
        exact hchange
      · rw [hnote]
        exact .trans htrans hchange (.note hrefl _)
    exact .trans htrans (.note hrefl _)
      (.trans htrans hopening (.trans htrans hcallback hclosing))
  | @process s t id marks products hmark inside _ hproducts ih =>
    have hopening : Through R s (s.put { s.registry with marks }) :=
      .of_eq (hstep s _ inside.suffix (.mark hmark)) rfl
    have hclosing : Through R t
        (t.put { t.registry with marks := t.registry.marks.leaveQuietly id, products }) :=
      .of_eq (hstep t _ List.suffix_rfl (.unmark hproducts)) rfl
    exact .trans htrans hopening (.trans htrans (ih hstep) hclosing)
  | @dispose s t id hook hpending inside ih =>
    have hsuffix := t.suffix_note_note (.noticed (.disposing id)) (hook.entry .disposal)
    have htaking : Through R s (s.put { s.registry with hooks := s.registry.hooks.erase id }) :=
      .of_eq (hstep s _ (inside.suffix.trans hsuffix) (.takeHook id)) rfl
    have hbefore := ih fun u r hu => hstep u r (hu.trans hsuffix)
    exact .trans htrans htaking
      (.trans htrans hbefore (.trans htrans (.note hrefl _) (.note hrefl _)))
  | @destroy s t u hdoing hactive inside hrest ih =>
    have hsuffix := hrest.suffix
    have hbegan := hdoing.began
    have hbegan' : t.Began Op.endsAll := hbegan.mono inside.suffix
    have hclosing : Through R s (s.put { s.registry with lifecycle := .destroying }) :=
      .of_eq (hstep s _ (inside.suffix.trans hsuffix) (.close hbegan hactive)) rfl
    have hhooks := ih fun v r hv => hstep v r (hv.trans hsuffix)
    have hempty : Through R t (t.put t.registry.empty) :=
      .of_eq (hstep t _ hsuffix (.empty hbegan')) rfl
    have hemptied : Through R t u := by
      cases hrest with
      | silently => exact hempty
      | reporting ids => exact .trans htrans hempty (.note hrefl _)
    have hend : Through R u (u.put { u.registry with lifecycle := .destroyed }) :=
      .of_eq (hstep u _ List.suffix_rfl (.finish (hbegan'.mono hsuffix) hrest.registry)) rfl
    exact .trans htrans hclosing (.trans htrans hhooks (.trans htrans hemptied hend))

/-- A preorder that every move respects holds throughout a course. -/
theorem through (hrefl : ∀ r, R r r) (htrans : ∀ {r r' r''}, R r r' → R r' r'' → R r r'')
    (h : Course s t exit) (hmove : ∀ u r, u.journal <:+ t.journal → Move u r → R u.registry r) :
    Through R s t :=
  h.steps hrefl htrans fun u r hu hstep => hmove u r hu hstep.move

end Course

/-! ## The settings -/

/-- No step changes the settings. -/
theorem Course.Step.settings {s : Session} {r : Registry} (h : Course.Step s r) :
    r.config = s.registry.config ∧ r.guarded = s.registry.guarded := by
  cases h with
  | shift h =>
    cases h with
    | @offerFactory _ id _ _ _ =>
      rw [Registry.offerFactory]
      cases s.registry.finished.contains id <;> exact ⟨rfl, rfl⟩
    | @storeProduct id _ _ _ =>
      rw [Registry.storeProduct]
      cases s.registry.finished.contains id <;> exact ⟨rfl, rfl⟩
    | takeFactory _ | suppress _ _ | graph _ | aliases _ | keepHook _ _ => exact ⟨rfl, rfl⟩
  | drop _ h => cases h <;> exact ⟨rfl, rfl⟩
  | register _ _ _ _ hcommit =>
    obtain ⟨-, rfl⟩ := Registry.commit_eq hcommit
    exact ⟨rfl, rfl⟩
  | opening hmark =>
    obtain ⟨marks, -, ⟨-, -, rfl⟩ | ⟨_, -, -, rfl⟩⟩ := Registry.openCreation_eq hmark
    · exact ⟨rfl, rfl⟩
    · exact ⟨rfl, rfl⟩
  | closing _ _ _ _ hclose => exact hclose.settings
  | expose _ | takeHook _ | exclude _ _ | setMarks _ _ | mark _ | unmark _ | close _ _ | empty _
  | finish _ _ => exact ⟨rfl, rfl⟩

theorem Course.settings {s t : Session} {exit : Course.Exit} (h : Course s t exit) :
    t.registry.config = s.registry.config ∧ t.registry.guarded = s.registry.guarded :=
  (h.steps (R := fun r r' => r'.config = r.config ∧ r'.guarded = r.guarded) (fun _ => ⟨rfl, rfl⟩)
    (fun h h' => ⟨h'.1.trans h.1, h'.2.trans h.2⟩) fun _ _ _ hstep => hstep.settings).whole

end InstanceRegistry
