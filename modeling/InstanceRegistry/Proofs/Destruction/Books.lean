import InstanceRegistry.Proofs.Destruction.Walk

/-!
  The books of a walk: what is left in the registry at any moment.

  Two facts hold at the start of a walk and after every step of it.

    * Of everything but the graph, exactly what belongs to the identifiers that were ENTERED is
      gone (`Books`): entering drops all of it at once, and the other steps touch only edges.
    * The graph is trimmed (`Pruned`).  An identifier that was not entered has lost only neighbours
      that were CLOSED; one that was closed has no neighbours left; and in between nobody ever
      gains a neighbour.

  When a walk is over, everyone who was entered was closed, and the two facts together say what the
  registry is then.
-/

namespace InstanceRegistry

/-- What a registry keeps once some identifiers are gone, its edges apart. -/
def Registry.without (r : Registry) (gone : List Ident) : Registry :=
  { r with
    finished := r.finished.restrict (· ∉ gone)
    early := r.early.restrict (· ∉ gone)
    factories := r.factories.restrict (· ∉ gone)
    products := r.products.restrict (· ∉ gone)
    listed := r.listed.filter (· ∉ gone)
    hooks := r.hooks.restrict (· ∉ gone) }

namespace Destruction

/-! ## Stores -/

/-- What is left without some identifiers, less one more. -/
theorem erase_restrict {α : Type} (s : Store α) (gone : List Ident) (id : Ident) :
    (s.restrict (· ∉ gone)).erase id = s.restrict (· ∉ id :: gone) := by
  rw [Store.erase, Store.restrict_restrict]
  refine Store.restrict_congr s fun x => ?_
  by_cases h : x = id <;> simp [h]

theorem get?_without {α : Type} (s : Store α) (gone : List Ident) (id : Ident) :
    (s.restrict (· ∉ gone)).get? id = if id ∈ gone then none else s.get? id := by
  rw [Store.get?_restrict]
  by_cases h : id ∈ gone <;> simp [h]

theorem drop_filter (r : Roster) (gone : List Ident) (id : Ident) :
    Roster.drop (r.filter (· ∉ gone)) id = r.filter (· ∉ id :: gone) := by
  rw [Roster.drop, List.filter_filter]
  refine List.filter_congr fun x _ => ?_
  by_cases h : x = id <;> simp [h]

/-- Of everything but the graph, what belongs to the identifiers that were entered is gone. -/
def Books (start : Registry) (w : Walk) : Prop :=
  w.registry = { start.without w.entered with graph := w.registry.graph }

theorem books_start (r : Registry) (ids : List Ident) : Books r (.start r ids) := by
  have hl : r.listed.filter (fun _ => true) = r.listed := List.filter_eq_self.2 fun _ _ => rfl
  simp [Books, Walk.start, Registry.without, Store.restrict_true, hl]

theorem Step.books {start : Registry} {w w' : Walk} (hs : Step w w')
    (h : Books start w) : Books start w' := by
  cases hs with
  | @enter id rest _ =>
    show detach w.registry id = _
    rw [h]
    simp only [detach, Registry.purge, Registry.without, erase_restrict, drop_filter]
    rfl
  | settle _ _ =>
    show release w.registry _ = _
    rw [h]
    rfl
  | close _ =>
    show forget w.registry _ = _
    rw [h]
    rfl

/-- A hook is found as long as its identifier was not entered. -/
theorem Books.hook? {start : Registry} {w : Walk} (h : Books start w) (id : Ident) :
    w.registry.hooks.get? id = if id ∈ w.entered then none else start.hooks.get? id := by
  rw [h]
  exact get?_without _ _ _

/-! ## Edges -/

/-- What is left of an adjacency map when some identifiers were entered and some of these closed. -/
structure Trimmed (before after : Adjacency) (entered closed : List Ident) : Prop where
  /-- Who was not entered has lost only neighbours that were closed. -/
  outside : ∀ x, x ∉ entered → after.neighbours x = (before.neighbours x).filter (· ∉ closed)
  /-- Who was closed has no neighbours. -/
  within : ∀ x ∈ closed, after.neighbours x = []
  /-- Nobody has new neighbours. -/
  subset : ∀ x, after.neighbours x ⊆ before.neighbours x

namespace Trimmed

variable {before after : Adjacency} {entered closed : List Ident} {id : Ident}

theorem refl (m : Adjacency) : Trimmed m m [] [] where
  outside _ _ := (List.filter_eq_self.2 fun _ _ => by simp).symm
  within _ h := absurd h List.not_mem_nil
  subset _ := List.Subset.refl _

/-- Entering one more identifier says less. -/
theorem enter (h : Trimmed before after entered closed) :
    Trimmed before after (id :: entered) closed where
  outside x hx := h.outside x fun hm => hx (List.mem_cons_of_mem _ hm)
  within := h.within
  subset := h.subset

/-- Erasing the neighbours of an identifier that was entered. -/
theorem erase (h : Trimmed before after entered closed) (hid : id ∈ entered) :
    Trimmed before (after.erase id) entered closed where
  outside x hx := by
    have hne : x ≠ id := fun he => hx (he ▸ hid)
    rw [Adjacency.neighbours_erase, if_neg hne, h.outside x hx]
  within x hx := by
    rw [Adjacency.neighbours_erase, h.within x hx, ite_self]
  subset x := by
    rw [Adjacency.neighbours_erase]
    split
    · exact List.nil_subset _
    · exact h.subset x

/-- Forgetting an identifier that was entered closes it. -/
theorem forget (h : Trimmed before after entered closed) (hid : id ∈ entered) :
    Trimmed before (after.forget id) entered (id :: closed) where
  outside x hx := by
    have hne : x ≠ id := fun he => hx (he ▸ hid)
    rw [Adjacency.neighbours_forget, if_neg hne, h.outside x hx, drop_filter]
  within x hx := by
    rw [Adjacency.neighbours_forget]
    rcases List.mem_cons.1 hx with rfl | hx
    · exact if_pos rfl
    · rw [h.within x hx]
      exact ite_self _
  subset x := by
    intro y hy
    exact h.subset x (Adjacency.mem_neighbours_forget.1 hy).1

end Trimmed

/-- The identifier of a task that goes on with something that was entered. -/
def Task.begun? : Task → Option Ident
  | enter _ => none
  | settle id _ _ => some id
  | close id _ => some id

/-- The graph has lost only what a walk takes from it. -/
structure Pruned (start : Graph) (w : Walk) : Prop where
  /-- What is to be settled or closed was entered. -/
  begun : ∀ x ∈ w.todo.filterMap Task.begun?, x ∈ w.entered
  /-- What was closed was entered. -/
  closed : ∀ x ∈ w.closed, x ∈ w.entered
  dependents : Trimmed start.dependents w.registry.graph.dependents w.entered w.closed
  dependencies : Trimmed start.dependencies w.registry.graph.dependencies w.entered w.closed
  contained : Trimmed start.contained w.registry.graph.contained w.entered w.closed

theorem pruned_start (r : Registry) (ids : List Ident) : Pruned r.graph (.start r ids) where
  begun x hx := by
    rw [filterMap_todo_start fun _ => rfl] at hx
    exact absurd hx List.not_mem_nil
  closed _ hx := absurd hx List.not_mem_nil
  dependents := .refl _
  dependencies := .refl _
  contained := .refl _

theorem Step.pruned {start : Graph} {w w' : Walk} (hs : Step w w')
    (h : Pruned start w) : Pruned start w' := by
  have hbegun := h.begun
  cases hs with
  | @enter id rest htodo =>
    rw [htodo] at hbegun
    have hid : id ∈ id :: w.entered := List.mem_cons_self
    refine ⟨fun x hx => ?_, fun x hx => List.mem_cons_of_mem _ (h.closed x hx),
      h.dependents.enter.erase hid, h.dependencies.enter, h.contained.enter⟩
    rw [filterMap_todo_enter fun _ => rfl] at hx
    rcases List.mem_cons.1 hx with rfl | hx
    · exact hid
    · exact List.mem_cons_of_mem _ (hbegun x hx)
  | @settle id hook first rest own htodo _ =>
    rw [htodo] at hbegun
    have hid : id ∈ w.entered := hbegun id List.mem_cons_self
    refine ⟨fun x hx => hbegun x ?_, h.closed, h.dependents, h.dependencies, h.contained.erase hid⟩
    rw [filterMap_todo_settle fun _ => rfl] at hx
    exact hx
  | @close id first rest htodo =>
    rw [htodo] at hbegun
    have hid : id ∈ w.entered := hbegun id List.mem_cons_self
    refine ⟨fun x hx => hbegun x (List.mem_cons_of_mem _ hx), fun x hx => ?_,
      h.dependents.forget hid, h.dependencies.forget hid, h.contained.forget hid⟩
    rcases List.mem_cons.1 hx with rfl | hx
    · exact hid
    · exact h.closed x hx

end Destruction

end InstanceRegistry
