import InstanceRegistry.Proofs.Courses.Calls

/-!
  From one entry to the next.

  A law that holds from every moment to every later one says little about a registry from which things
  may be removed: what is gone may come back as something else.  But it does not come back unseen.
  Whatever is added to the registry is added immediately after an entry, so from one entry to the next
  a registry SHEDS things and then nothing more, or something is added to what the entry shows.

  Either way the registry HOLDS what it has, as far as that stays: who is finished at both entries
  has the same instance, who is listed at both stands in the same order, and the product of somebody
  who is still finished is still the product.  There is one exception.  A product that was processed
  is kept without another look, so at the end of a request for a product nothing is said of products.

  What holds from each entry of a stretch to the next is carried along the stretch.  That is how
  something is shown of identifiers that are there throughout it.

  Mathlib-free.
-/

namespace InstanceRegistry

/-! ## What a registry continues -/

/-- Who is entered in a list comes last. -/
theorem Roster.sublist_add (l : Roster) (id : Ident) : l.Sublist (Roster.add l id) := by
  rw [add]
  split
  · exact List.Sublist.refl l
  · exact List.sublist_append_left l [id]

namespace Registry

/-- Who is finished in both of two registries has the same instance in both, and who is listed in
    both stands in the same order. -/
structure Continues (r r' : Registry) : Prop where
  finished : ∀ {x v w}, r.finished.get? x = some v → r'.finished.get? x = some w → w = v
  listed : ∀ {x y}, [x, y].Sublist r.listed → x ∈ r'.listed → y ∈ r'.listed →
    [x, y].Sublist r'.listed

/-- The same, and who is still finished has the product that was there. -/
structure Holds (r r' : Registry) : Prop extends r.Continues r' where
  products : ∀ {x p}, r.products.get? x = some p → x ∈ r'.finished.keys →
    r'.products.get? x = some p

/-- A registry loses instances and places in the list, and products of those at most who lose their
    instances as well. -/
structure Sheds (r r' : Registry) : Prop where
  finished : ∀ {x v}, r'.finished.get? x = some v → r.finished.get? x = some v
  listed : ∃ keep : Ident → Bool, r'.listed = r.listed.filter keep
  products : ∀ {x p}, r.products.get? x = some p → x ∈ r'.finished.keys →
    r'.products.get? x = some p

variable {r r' r'' : Registry} {id : Ident}

theorem Holds.refl (r : Registry) : r.Holds r where
  finished hv hw := Option.some.inj (hw.symm.trans hv)
  listed hxy _ _ := hxy
  products hp _ := hp

namespace Sheds

theorem of_eq (hfinished : r'.finished = r.finished) (hlisted : r'.listed = r.listed)
    (hproducts : r'.products = r.products) : r.Sheds r' where
  finished hv := by rwa [hfinished] at hv
  listed := ⟨fun _ => true, hlisted.trans (List.filter_eq_self.2 fun _ _ => rfl).symm⟩
  products hp _ := by rwa [hproducts]

theorem keys (h : r.Sheds r') : r'.finished.keys ⊆ r.finished.keys := by
  intro x hx
  obtain ⟨v, hv⟩ := Store.exists_get?_of_mem_keys hx
  exact Store.mem_keys_of_get? (h.finished hv)

theorem purge (r : Registry) (id : Ident) : r.Sheds (r.purge id) := by
  refine ⟨fun {x v} hv => ?_, ⟨_, rfl⟩, fun {x p} hp hx => ?_⟩
  · have hne : x ≠ id := by
      rintro rfl
      exact absurd (Store.mem_keys_of_get? hv) fun hx => (Store.mem_keys_erase.1 hx).2 rfl
    exact (Store.get?_erase_of_ne _ hne).symm.trans hv
  · exact (Store.get?_erase_of_ne _ (Store.mem_keys_erase.1 hx).2).trans hp

/-- A registry that has nothing left has lost all there was. -/
theorem of_bare (hfinished : r'.finished = ∅) (hlisted : r'.listed = []) : r.Sheds r' where
  finished hv := by
    rw [hfinished] at hv
    cases hv
  listed := ⟨fun _ => false, by rw [hlisted, List.filter_eq_nil_iff.2]; exact fun _ _ => nofun⟩
  products _ hx := by
    rw [hfinished] at hx
    cases hx

theorem of_drops (h : r.Drops r') : r.Sheds r' := by
  cases h with
  | one id => exact purge r id
  | all => exact of_bare rfl rfl

end Sheds

/-- What is held is held as well when more is lost. -/
theorem Holds.sheds (h : r.Holds r') (h' : r'.Sheds r'') : r.Holds r'' where
  finished hv hw := h.finished hv (h'.finished hw)
  listed {x y} hxy hx hy := by
    obtain ⟨keep, hlisted⟩ := h'.listed
    rw [hlisted] at hx hy ⊢
    obtain ⟨hx, hkeepx⟩ := List.mem_filter.1 hx
    obtain ⟨hy, hkeepy⟩ := List.mem_filter.1 hy
    have hkept : [x, y].filter keep = [x, y] := by simp [hkeepx, hkeepy]
    exact hkept ▸ (h.listed hxy hx hy).filter keep
  products hp hx := h'.products (h.products hp (h'.keys hx)) hx

/-! ### What is added -/

theorem Holds.commit {made : Instance} (h : r.commit id made = .ok r') : r.Holds r' := by
  obtain ⟨hfree, rfl⟩ := commit_eq h
  refine ⟨⟨fun {x v w} hv hw => ?_, fun hxy _ _ => hxy.trans (Roster.sublist_add _ _)⟩,
    fun hp _ => hp⟩
  have hne : x ≠ id := by
    rintro rfl
    rw [hfree] at hv
    cases hv
  rw [Store.get?_insert_of_ne _ hne, hv] at hw
  exact (Option.some.inj hw).symm

theorem Holds.offerFactory (r : Registry) (id : Ident) (factory : Routine) :
    r.Holds (r.offerFactory id factory) := by
  rw [Registry.offerFactory]
  cases r.finished.contains id with
  | true => exact .refl r
  | false =>
    exact ⟨⟨(refl r).finished, fun hxy _ _ => hxy.trans (Roster.sublist_add _ _)⟩, fun hp _ => hp⟩

/-- A product that is kept where there is none replaces none. -/
theorem Holds.storeProduct (hnone : r.products.get? id = none) (product : Instance) :
    r.Holds (r.storeProduct id product) := by
  rw [Registry.storeProduct]
  split
  · refine ⟨⟨(refl r).finished, fun hxy _ _ => hxy⟩, fun {x p} hp _ => ?_⟩
    have hne : x ≠ id := by
      rintro rfl
      rw [hnone] at hp
      cases hp
    exact (Store.get?_insert_of_ne _ hne _).trans hp
  · exact .refl r

end Registry

/-! ## What stands behind an entry -/

/-- Whether an event says that a request for a product is done. -/
def Event.resolves : Event → Bool
  | .done op _ _ => op.resolves
  | _ => false

/-- What an entry continues and holds is what the entry before it shows. -/
def Entry.Follows (e : Entry) (earlier : List Entry) : Prop :=
  ∀ e' rest, earlier = e' :: rest → e'.registry.Continues e.registry ∧
    (e'.registry.Holds e.registry ∨ e.event.resolves = true)

/-- The registry is in a relation to what the last entry shows. -/
def Session.Since (R : Registry → Registry → Prop) (s : Session) : Prop :=
  ∀ e rest, s.journal = e :: rest → R e.registry s.registry

/-- From a session that holds what its last entry shows, all entries follow upon the ones before, and
    what the last one shows is held again. -/
def Passes (s t : Session) : Prop :=
  s.Since Registry.Holds → Newly Entry.Follows s t ∧ t.Since Registry.Holds

namespace Passes

variable {s t u : Session}

theorem of_eq (hregistry : t.registry = s.registry) (hjournal : t.journal = s.journal) :
    Passes s t := by
  intro hs
  refine ⟨.of_eq hjournal, ?_⟩
  rw [Session.Since, hregistry, hjournal]
  exact hs

theorem trans (h : Passes s t) (h' : Passes t u) : Passes s u := by
  intro hs
  obtain ⟨hst, ht⟩ := h hs
  obtain ⟨htu, hu⟩ := h' ht
  exact ⟨hst.trans htu, hu⟩

/-- An entry shows the registry as it is. -/
theorem note (event : Event) : Passes s (s.note event) := by
  intro hs
  refine ⟨.note fun e' rest hrest => ?_, fun e rest hrest => ?_⟩
  · have hholds := hs e' rest hrest
    exact ⟨hholds.toContinues, .inl hholds⟩
  · cases hrest
    exact .refl _

/-- What is lost may be lost at any time. -/
theorem shed {r : Registry} (h : s.registry.Sheds r) : Passes s (s.put r) :=
  fun hs => ⟨.of_eq rfl, fun e rest hrest => (hs e rest hrest).sheds h⟩

/-- What is added is added right after an entry. -/
theorem add {r : Registry} (hshown : s.Shown) (h : s.registry.Holds r) : Passes s (s.put r) := by
  obtain ⟨e₀, rest₀, hjournal, marks, hregistry⟩ := hshown
  intro _
  refine ⟨.of_eq rfl, fun e rest hrest => ?_⟩
  have heq : e₀ :: rest₀ = e :: rest := hjournal.symm.trans hrest
  cases heq
  rw [hregistry] at h
  -- the marks, which the entry may not show, are nothing that is held
  exact ⟨⟨h.finished, h.listed⟩, h.products⟩

end Passes

/-! ## Courses -/

theorem Session.Shift.passes {s : Session} {r : Registry} (h : s.Shift r) : Passes s (s.put r) := by
  cases h with
  | offerFactory hbegins _ => exact .add hbegins.shown (.offerFactory _ _ _)
  | storeProduct product hshown hnone => exact .add hshown (.storeProduct hnone product)
  | takeFactory _ | suppress _ _ | graph _ | aliases _ | keepHook _ _ =>
    exact .shed (.of_eq rfl rfl rfl)

theorem Creation.Closes.passes {id : Ident} {outermost : Bool} {t u : Session}
    {ending : Outcome Cause Instance} {outcome : Outcome Failure Instance} (hshown : t.Shown)
    (h : Creation.Closes id outermost t ending outcome u) : Passes t u := by
  have habandon := Registry.abandonCreation_eq t.registry outermost id
  have habandoned : t.registry.Sheds (t.registry.abandonCreation outermost id) := by
    rw [habandon]
    exact .of_eq rfl rfl rfl
  have hretracted : t.registry.Sheds ((t.registry.abandonCreation outermost id).retract id) := by
    rw [habandon]
    exact .of_eq rfl rfl rfl
  have hunlisted : t.registry.Sheds
      (((t.registry.abandonCreation outermost id).retract id).unlist id) := by
    rw [habandon]
    exact ⟨fun hv => hv, ⟨_, rfl⟩, fun hp _ => hp⟩
  cases h with
  | bound _ hcommit =>
    rw [habandon] at hcommit
    have hholds := Registry.Holds.commit hcommit
    exact .add hshown ⟨⟨hholds.finished, hholds.listed⟩, hholds.products⟩
  | failed _ _ => exact .shed hunlisted
  | mismatched _ _ => exact .trans (.shed hunlisted) (.note _)
  | recovered _ => exact .trans (.shed hretracted) (.note _)
  | stuck _ | occupied _ _ | unwound => exact .shed habandoned

namespace Course

/-- The same for a course; if that ends with a product that was processed, nothing is said of
    products in the end. -/
def Exit.Passes (s t : Session) : Exit → Prop
  | processed =>
    s.Since Registry.Holds → Newly Entry.Follows s t ∧ t.Since Registry.Continues
  | onward | created _ | exposed => InstanceRegistry.Passes s t

theorem Exit.Passes.after {s t u : Session} {exit : Exit} (h : exit.Passes t u)
    (hbefore : InstanceRegistry.Passes s t) : exit.Passes s u := by
  cases exit with
  | onward | created _ | exposed => exact hbefore.trans h
  | processed =>
    intro hs
    obtain ⟨hst, ht⟩ := hbefore hs
    obtain ⟨htu, hu⟩ := h ht
    exact ⟨hst.trans htu, hu⟩

/-- After a call everything is held that the entry for its end shows. -/
theorem Exit.Passes.call {s t : Session} {exit : Exit} {op : Op} {asStep : Bool}
    {result : Outcome Failure (Answer Instance)} (h : exit.Passes s t) (hfits : exit.Fits op result) :
    InstanceRegistry.Passes s (t.note (.done op asStep result)) := by
  cases exit with
  | onward | created _ | exposed => exact InstanceRegistry.Passes.trans h (.note _)
  | processed =>
    intro hs
    obtain ⟨hst, ht⟩ := h hs
    refine ⟨hst.trans (.note fun e rest hrest => ⟨ht e rest hrest, .inr hfits⟩), fun e rest hrest => ?_⟩
    cases hrest
    exact .refl _

/-- **Every entry follows upon the one before it** in a course. -/
theorem passes {s t : Session} {exit : Exit} (h : Course s t exit) : exit.Passes s t := by
  induction h with
  | rest s => exact .of_eq rfl rfl
  | next _ _ ih ih' => exact ih'.after ih
  | aside hregistry hjournal => exact .of_eq hregistry hjournal
  | note _ | enter _ | announce _ _ _ => exact .note _
  | @expose s t id early _ _ ih =>
    have htaking : Passes s (s.put (s.registry.takeFactory id)) := .shed (.of_eq rfl rfl rfl)
    have hkeeping : Passes t
        ((t.note (.noticed (.exposing id))).put (t.registry.expose id early)) :=
      .trans (.note _) (.shed (.of_eq rfl rfl rfl))
    exact htaking.trans (.trans ih hkeeping)
  | call c asStep hfits _ ih => exact .trans (.note _) (ih.call hfits)
  | shift h => exact h.passes
  | drop _ h => exact .shed (.of_drops h)
  | exclude _ _ | setMarks _ _ => exact .shed (.of_eq rfl rfl rfl)
  | register hbegins _ _ _ hcommit => exact .add hbegins.shown (.commit hcommit)
  | @create s t u id outermost r _ _ _ _ _ hmark _ hshown hclose ih =>
    have hopened : s.registry.Sheds r := by
      obtain ⟨marks, -, ⟨-, -, rfl⟩ | ⟨_, -, -, rfl⟩⟩ := Registry.openCreation_eq hmark
      · exact .of_eq rfl rfl rfl
      · exact .of_eq rfl rfl rfl
    have hopening : Passes s ((s.note (.noticed (.creating id))).put r) :=
      .trans (.note _) (.shed hopened)
    exact hopening.trans (.trans ih (hclose.passes hshown))
  | @process s t id marks products _ _ _ _ ih =>
    have hopening : Passes s (s.put { s.registry with marks }) := .shed (.of_eq rfl rfl rfl)
    intro hs
    obtain ⟨hnew, ht⟩ := hopening.trans ih hs
    exact ⟨hnew, fun e rest hrest => ⟨(ht e rest hrest).finished, (ht e rest hrest).listed⟩⟩
  | @dispose s t id hook _ _ ih =>
    have htaking : Passes s (s.put { s.registry with hooks := s.registry.hooks.erase id }) :=
      .shed (.of_eq rfl rfl rfl)
    exact htaking.trans (.trans ih (.trans (.note _) (.note _)))
  | @destroy s t u _ _ _ hrest ih =>
    have hclosing : Passes s (s.put { s.registry with lifecycle := .destroying }) :=
      .shed (.of_eq rfl rfl rfl)
    have hempty : Passes t (t.put t.registry.empty) := .shed (.of_bare rfl rfl)
    have hemptied : Passes t u := by
      cases hrest with
      | silently => exact hempty
      | reporting ids => exact hempty.trans (.note _)
    have hend : Passes u (u.put { u.registry with lifecycle := .destroyed }) :=
      .shed (.of_eq rfl rfl rfl)
    exact hclosing.trans (.trans ih (hemptied.trans hend))

end Course

/-! ## Stretches -/

/-- In the journal of a script every entry follows upon the one before it. -/
theorem Script.follows {script : Script} {depth : Nat} {outcome : Outcome Cause Unit} {s : Session}
    (h : script.runWithin depth = some (outcome, s)) {later earlier : List Entry} {e : Entry}
    (he : s.journal = later ++ e :: earlier) : e.Follows earlier := by
  have hstart : script.start.Since Registry.Holds := fun e rest hrest => by cases hrest
  exact ((Script.course h).passes hstart).1.all rfl he

/-- What holds at every entry of a stretch if it holds at those before it holds throughout the
    stretch. -/
theorem Entry.throughout {P : Entry → Prop} {between : List Entry}
    (hnext : ∀ later e before, between = later ++ e :: before → (∀ e' ∈ before, P e') → P e) :
    ∀ e ∈ between, P e := by
  induction between with
  | nil => exact fun e he => absurd he List.not_mem_nil
  | cons b between ih =>
    have hbefore : ∀ e ∈ between, P e :=
      ih fun later e before heq => hnext (b :: later) e before (by rw [heq, List.cons_append])
    intro e he
    rcases List.mem_cons.1 he with rfl | he
    · exact hnext [] e between rfl hbefore
    · exact hbefore e he

/-- **What each entry of a stretch hands on to the next holds throughout the stretch**, if it holds
    at the entry before that. -/
theorem Entry.along {P : Entry → Prop} {between : List Entry} (earlier : List Entry) {e : Entry}
    (he : P e)
    (hnext : ∀ later e₂ e₁ rest, between ++ e :: earlier = later ++ e₂ :: e₁ :: rest →
      e₂ ∈ between → P e₁ → P e₂) : ∀ e' ∈ between, P e' := by
  refine Entry.throughout fun later e₂ before heq hbefore => ?_
  have hmem : e₂ ∈ between := heq ▸ List.mem_append_right _ List.mem_cons_self
  cases before with
  | nil => exact hnext later e₂ e earlier (by rw [heq, List.append_assoc]; rfl) hmem he
  | cons e₁ before =>
    have hhead : P e₁ := hbefore e₁ List.mem_cons_self
    exact hnext later e₂ e₁ (before ++ e :: earlier) (by rw [heq, List.append_assoc]; rfl) hmem hhead

end InstanceRegistry
