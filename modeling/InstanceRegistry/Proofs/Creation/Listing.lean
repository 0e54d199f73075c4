import InstanceRegistry.Proofs.Courses.Entries

/-!
  The books of a registry.

  A registry keeps its instances, its factories and its products under identifiers, and beside that a
  list of the identifiers that reached a tier.  Its BOOKS agree if the list has everybody in it who is
  finished or has a factory, each once, and products are kept for finished identifiers only.

  Each of a dozen changes touches some of the four and has to leave the others in agreement.  The one
  that needs a look is the end of a failed creation, which strikes its identifier off: nobody with a
  finished instance is struck off, because a creation fails only if there is none, and nobody with a
  factory, because that was dropped before.

  That is about single moments.  What the list and the instances were before matters as well: somebody
  who is listed throughout a stretch of a run keeps his place before or behind everybody else who is,
  and whose product is there throughout has the same instance throughout.

  Mathlib-free.
-/

namespace InstanceRegistry

namespace Registry

/-! ## The books -/

/-- Who is finished or has a factory is listed, nobody is listed twice, and only who is finished has a
    product. -/
structure Bookkept (r : Registry) : Prop where
  finished : r.finished.keys ⊆ r.listed
  factories : r.factories.keys ⊆ r.listed
  distinct : r.listed.Nodup
  products : r.products.keys ⊆ r.finished.keys

instance (r : Registry) : Decidable r.Bookkept :=
  decidable_of_iff
    ((∀ x ∈ r.finished.keys, x ∈ r.listed) ∧ (∀ x ∈ r.factories.keys, x ∈ r.listed) ∧
      r.listed.Nodup ∧ ∀ x ∈ r.products.keys, x ∈ r.finished.keys)
    ⟨fun h => ⟨fun x => h.1 x, fun x => h.2.1 x, h.2.2.1, fun x => h.2.2.2 x⟩,
      fun h => ⟨fun _ hx => h.finished hx, fun _ hx => h.factories hx, h.distinct,
        fun _ hx => h.products hx⟩⟩

namespace Bookkept

variable {r r' : Registry} {id : Ident}

/-- A registry that keeps nothing has books that agree. -/
theorem of_bare (hfinished : r.finished = ∅) (hfactories : r.factories = ∅)
    (hproducts : r.products = ∅) (hlisted : r.listed = []) : r.Bookkept where
  finished _ hx := by
    rw [hfinished] at hx
    cases hx
  factories _ hx := by
    rw [hfactories] at hx
    cases hx
  distinct := by
    rw [hlisted]
    exact .nil
  products _ hx := by
    rw [hproducts] at hx
    cases hx

/-- New registries have. -/
theorem ofConfig {c : Config} (h : Registry.ofConfig c = .ok r) : r.Bookkept := by
  rw [Registry.ofConfig] at h
  cases hvalid : c.validate with
  | error failure =>
    rw [hvalid] at h
    cases h
  | ok _ =>
    rw [hvalid] at h
    cases h
    exact of_bare rfl rfl rfl rfl

theorem unguarded (c : Config) : (Registry.unguarded c).Bookkept := of_bare rfl rfl rfl rfl

/-- The books are not about anything else, and a factory may go. -/
theorem fewer (h : r.Bookkept) (hfinished : r'.finished = r.finished)
    (hfactories : r'.factories.keys ⊆ r.factories.keys) (hlisted : r'.listed = r.listed)
    (hproducts : r'.products = r.products) : r'.Bookkept := by
  refine ⟨?_, ?_, ?_, ?_⟩
  · rw [hfinished, hlisted]
    exact h.finished
  · rw [hlisted]
    exact fun _ hx => h.factories (hfactories hx)
  · rw [hlisted]
    exact h.distinct
  · rw [hfinished, hproducts]
    exact h.products

theorem of_eq (h : r.Bookkept) (hfinished : r'.finished = r.finished)
    (hfactories : r'.factories = r.factories) (hlisted : r'.listed = r.listed)
    (hproducts : r'.products = r.products) : r'.Bookkept :=
  h.fewer hfinished (hfactories ▸ List.Subset.refl _) hlisted hproducts

theorem takeFactory (h : r.Bookkept) (id : Ident) : (r.takeFactory id).Bookkept :=
  h.fewer rfl (Store.keys_erase_subset _ id) rfl rfl

theorem retract (h : r.Bookkept) (id : Ident) : (r.retract id).Bookkept :=
  h.fewer rfl (Store.keys_erase_subset _ id) rfl rfl

/-- Who is struck off has neither an instance nor a factory. -/
theorem unlist (h : r.Bookkept) (hfinished : id ∉ r.finished.keys)
    (hfactory : id ∉ r.factories.keys) : (r.unlist id).Bookkept where
  finished _ hx := Roster.mem_drop.2 ⟨h.finished hx, fun heq => hfinished (heq ▸ hx)⟩
  factories _ hx := Roster.mem_drop.2 ⟨h.factories hx, fun heq => hfactory (heq ▸ hx)⟩
  distinct := Roster.nodup_drop h.distinct id
  products := h.products

theorem commit {made : Instance} (h : r.Bookkept) (hcommit : r.commit id made = .ok r') :
    r'.Bookkept := by
  obtain ⟨-, rfl⟩ := commit_eq hcommit
  refine ⟨fun x hx => ?_, fun x hx => ?_, Roster.nodup_add h.distinct id, fun x hx => ?_⟩
  · rcases Store.mem_keys_insert.1 hx with hx | rfl
    · exact Roster.mem_add.2 (.inl (h.finished hx))
    · exact Roster.mem_add.2 (.inr rfl)
  · exact Roster.mem_add.2 (.inl (h.factories (Store.keys_erase_subset _ id hx)))
  · exact Store.mem_keys_insert.2 (.inl (h.products hx))

theorem offerFactory (h : r.Bookkept) (id : Ident) (factory : Routine) :
    (r.offerFactory id factory).Bookkept := by
  rw [Registry.offerFactory]
  split
  · exact h
  · refine ⟨fun x hx => ?_, fun x hx => ?_, Roster.nodup_add h.distinct id, h.products⟩
    · exact Roster.mem_add.2 (.inl (h.finished hx))
    · rcases Store.mem_keys_insert.1 hx with hx | rfl
      · exact Roster.mem_add.2 (.inl (h.factories hx))
      · exact Roster.mem_add.2 (.inr rfl)

theorem storeProduct (h : r.Bookkept) (id : Ident) (product : Instance) :
    (r.storeProduct id product).Bookkept := by
  rw [Registry.storeProduct]
  split
  · rename_i hfinished
    refine ⟨h.finished, h.factories, h.distinct, fun x hx => ?_⟩
    rcases Store.mem_keys_insert.1 hx with hx | rfl
    · exact h.products hx
    · exact Store.contains_iff_mem_keys.1 hfinished
  · exact h

theorem purge (h : r.Bookkept) (id : Ident) : (r.purge id).Bookkept where
  finished x hx := by
    obtain ⟨hx, hne⟩ := Store.mem_keys_erase.1 hx
    exact Roster.mem_drop.2 ⟨h.finished hx, hne⟩
  factories x hx := by
    obtain ⟨hx, hne⟩ := Store.mem_keys_erase.1 hx
    exact Roster.mem_drop.2 ⟨h.factories hx, hne⟩
  distinct := Roster.nodup_drop h.distinct id
  products x hx := by
    obtain ⟨hx, hne⟩ := Store.mem_keys_erase.1 hx
    exact Store.mem_keys_erase.2 ⟨h.products hx, hne⟩

theorem drops (h : r.Bookkept) (hdrops : r.Drops r') : r'.Bookkept := by
  cases hdrops with
  | one id => exact h.purge id
  | all => exact of_bare rfl rfl rfl rfl

theorem abandonCreation (h : r.Bookkept) (outermost : Bool) (id : Ident) :
    (r.abandonCreation outermost id).Bookkept := by
  rw [abandonCreation_eq]
  exact h.of_eq rfl rfl rfl rfl

end Bookkept

end Registry

/-! ## Every change leaves the books in agreement -/

theorem Session.Shift.bookkept {s : Session} {r : Registry} (h : s.Shift r)
    (hs : s.registry.Bookkept) : r.Bookkept := by
  cases h with
  | offerFactory _ _ => exact hs.offerFactory _ _
  | takeFactory id => exact hs.takeFactory id
  | storeProduct product _ _ => exact hs.storeProduct _ product
  | suppress _ _ | graph _ | aliases _ | keepHook _ _ => exact hs.of_eq rfl rfl rfl rfl

theorem Creation.Closes.bookkept {id : Ident} {outermost : Bool} {t u : Session}
    {ending : Outcome Cause Instance} {outcome : Outcome Failure Instance}
    (h : Creation.Closes id outermost t ending outcome u) (ht : t.registry.Bookkept) :
    u.registry.Bookkept := by
  have habandon := ht.abandonCreation outermost id
  -- what a failed creation had exposed is dropped before its identifier is struck off
  have hstrike : (t.registry.abandonCreation outermost id).finished.get? id = none →
      (((t.registry.abandonCreation outermost id).retract id).unlist id).Bookkept := by
    intro hfree
    refine (habandon.retract id).unlist (Store.get?_eq_none_iff.1 hfree) fun hfactory => ?_
    exact (Store.mem_keys_erase.1 hfactory).2 rfl
  cases h with
  | bound _ hcommit => exact habandon.commit hcommit
  | failed hfree _ | mismatched hfree _ => exact hstrike hfree
  | recovered _ => exact habandon.retract id
  | stuck _ | occupied _ _ | unwound => exact habandon

/-- **Every step leaves the books in agreement.** -/
theorem Course.Step.bookkept {s : Session} {r : Registry} (h : Course.Step s r)
    (hs : s.registry.Bookkept) : r.Bookkept := by
  cases h with
  | shift h => exact h.bookkept hs
  | drop _ h => exact hs.drops h
  | register _ _ _ _ hcommit => exact hs.commit hcommit
  | opening hmark =>
    obtain ⟨marks, -, ⟨-, -, rfl⟩ | ⟨_, -, -, rfl⟩⟩ := Registry.openCreation_eq hmark
    · exact hs.of_eq rfl rfl rfl rfl
    · exact hs.of_eq rfl rfl rfl rfl
  | closing _ _ _ _ hclose => exact hclose.bookkept hs
  | @unmark id products hproducts =>
    rcases hproducts with rfl | ⟨processed, rfl⟩
    · exact hs.of_eq rfl rfl rfl rfl
    · have hstored := hs.storeProduct id processed
      rw [Registry.storeProduct_eq] at hstored
      exact hstored.of_eq rfl rfl rfl rfl
  | empty _ => exact .of_bare rfl rfl rfl rfl
  | expose _ | takeHook _ | exclude _ _ | setMarks _ _ | mark _ | close _ _ | finish _ _ =>
    exact hs.of_eq rfl rfl rfl rfl

/-! ## Whole runs -/

/-- **The books agree at every moment** of a script, also at those that callbacks see: the identifiers
    that are listed are as many as are counted, each is listed once, and among them are all that are
    finished or have a factory; only who is finished has a product.  From one entry to any later one,
    who has a product all the time has the same instance all the time, so no product is there longer
    than the instance it was made of; and two identifiers that are listed all the time stay in the
    order in which they are listed, throughout an operation as throughout any other stretch. -/
theorem books_kept {script : Script} {depth : Nat} {outcome : Outcome Cause Unit} {s : Session}
    (h : script.runWithin depth = some (outcome, s)) (hstart : script.registry.Bookkept) :
    (∀ r ∈ s.moments, ∃ ids, r.answer .identifiers = .texts ids ∧
      r.answer .count = .number ids.length ∧ ids.Nodup ∧ r.finished.keys ⊆ ids ∧
      r.factories.keys ⊆ ids ∧ r.products.keys ⊆ r.finished.keys) ∧
    ∀ later between earlier e, s.journal = later ++ (between ++ e :: earlier) →
      (∀ x v, e.registry.finished.get? x = some v →
        (∀ e' ∈ between, x ∈ e'.registry.products.keys) →
          ∀ e' ∈ between, e'.registry.finished.get? x = some v) ∧
      ∀ x y, [x, y].Sublist e.registry.listed →
        (∀ e' ∈ between, x ∈ e'.registry.listed ∧ y ∈ e'.registry.listed) →
          ∀ e' ∈ between, [x, y].Sublist e'.registry.listed := by
  have hkept : ∀ r ∈ s.moments, r.Bookkept :=
    Script.invariant h (fun _ _ _ hstep => hstep.bookkept) hstart
  constructor
  · intro r hr
    have hbooks := hkept r hr
    exact ⟨r.listed, rfl, rfl, hbooks.distinct, hbooks.finished, hbooks.factories, hbooks.products⟩
  intro later between earlier e hjournal
  have hfollows : ∀ {before e₂ e₁ rest}, between ++ e :: earlier = before ++ e₂ :: e₁ :: rest →
      e₁.registry.Continues e₂.registry := by
    intro before e₂ e₁ rest heq
    have hentry : s.journal = (later ++ before) ++ e₂ :: e₁ :: rest := by
      rw [hjournal, heq, List.append_assoc]
    exact (Script.follows h hentry e₁ rest rfl).1
  constructor
  · intro x v hv hproducts
    refine Entry.along earlier hv fun before e₂ e₁ rest heq he₂ hv₁ => ?_
    have hmoment : e₂.registry ∈ s.moments := by
      refine List.mem_cons_of_mem _ (List.mem_map_of_mem ?_)
      rw [hjournal]
      exact List.mem_append_right _ (List.mem_append_left _ he₂)
    have hfinished := (hkept _ hmoment).products (hproducts e₂ he₂)
    obtain ⟨w, hw⟩ := Store.exists_get?_of_mem_keys hfinished
    rw [hw, (hfollows heq).finished hv₁ hw]
  · intro x y hxy hlisted
    refine Entry.along earlier hxy fun before e₂ e₁ rest heq he₂ hxy₁ => ?_
    obtain ⟨hx, hy⟩ := hlisted e₂ he₂
    exact (hfollows heq).listed hxy₁ hx hy

/-- A desk with a polish and a lamp, and a shelf whose construction exposes it, puts the desk in
    another place and fails. -/
def stocktaking : Script where
  registry := {}
  steps :=
    [.step (.registerInstance "desk" (.fresh none)) true none,
      .step (.registerInstance "lamp" (.fresh none)) true none,
      .step (.resolveProduct "desk" (.scripted "desk" [] (.fresh (some "polish"))) true false) true
        none,
      .step (.getOrCreate "shelf" (.scripted "shelf"
        [.step (.registerFactory "shelf" (.scripted "shelf" [] .same)) true none,
          .step (.change (.remove "desk")) true none,
          .step (.registerInstance "desk" (.fresh none)) true none] (.fail "no wood"))) false none]

/-- The desk comes last in the end, and its polish went with it; the shelf was listed while it was
    being made. -/
theorem books_kept_stocktaking :
    ∃ outcome s, stocktaking.runWithin 3 = some (outcome, s) ∧ stocktaking.registry.Bookkept ∧
      s.registry.listed = ["lamp", "desk"] ∧ s.registry.products.keys = [] ∧
      (∃ e ∈ s.journal, e.registry.listed = ["desk", "lamp", "shelf"]) ∧
      (∃ e ∈ s.journal, e.registry.listed = ["lamp", "shelf"]) ∧
      ∀ r ∈ s.moments, ∃ ids, r.answer .identifiers = .texts ids ∧
        r.answer .count = .number ids.length ∧ ids.Nodup ∧ r.finished.keys ⊆ ids ∧
        r.factories.keys ⊆ ids ∧ r.products.keys ⊆ r.finished.keys := by
  have hends : ∃ outcome s, stocktaking.runWithin 3 = some (outcome, s) ∧
      s.registry.listed = ["lamp", "desk"] ∧ s.registry.products.keys = [] ∧
      (∃ e ∈ s.journal, e.registry.listed = ["desk", "lamp", "shelf"]) ∧
      ∃ e ∈ s.journal, e.registry.listed = ["lamp", "shelf"] :=
    Script.ends_of_check (by decide +kernel)
  obtain ⟨outcome, s, hrun, hlisted, hproducts, hshelf, hmoved⟩ := hends
  have hstart : stocktaking.registry.Bookkept := .of_bare rfl rfl rfl rfl
  exact ⟨outcome, s, hrun, hstart, hlisted, hproducts, hshelf, hmoved, (books_kept hrun hstart).1⟩

end InstanceRegistry
