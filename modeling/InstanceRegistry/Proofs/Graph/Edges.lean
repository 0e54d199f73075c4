import InstanceRegistry.Graph

/-!
  Edges: what every change of a graph does to the neighbours of an identifier.

  `neighbours` is the view through which the adjacency maps are looked at.  Each change has one
  equation for it: erasing an identifier empties its own list, forgetting it strikes it off every
  other list as well, adding an edge adds one neighbour.

  From the equations for adding follows the one law that a graph keeps while it is BUILT, that is,
  while edges are only recorded: whoever contains something depends on it (`owner_depends`).

  Mathlib-free.
-/

namespace InstanceRegistry

/-! ## Adjacency -/

namespace Adjacency

variable (m : Adjacency) (id x : Ident)

theorem neighbours_eq_nil {m : Adjacency} {x : Ident} (h : x ∉ m.keys) : m.neighbours x = [] := by
  rw [neighbours, Store.get?_eq_none_iff.2 h]
  rfl

/-- Only a listed identifier has neighbours. -/
theorem mem_keys_of_mem_neighbours {m : Adjacency} {x y : Ident} (h : y ∈ m.neighbours x) :
    x ∈ m.keys := by
  by_cases hx : x ∈ m.keys
  · exact hx
  · rw [neighbours_eq_nil hx] at h
    exact absurd h List.not_mem_nil

theorem neighbours_erase :
    Adjacency.neighbours (m.erase id) x = if x = id then [] else m.neighbours x := by
  rw [neighbours, Store.get?_erase]
  by_cases h : x = id
  · rw [if_pos h, if_pos h]; rfl
  · rw [if_neg h, if_neg h]; rfl

/-- Forgetting an identifier empties its list and strikes it off every other one. -/
theorem neighbours_forget :
    (m.forget id).neighbours x = if x = id then [] else Roster.drop (m.neighbours x) id := by
  rw [neighbours, forget, Store.get?_update, Store.get?_erase]
  by_cases h : x = id
  · rw [if_pos h, if_pos h]; rfl
  · rw [if_neg h, if_neg h, neighbours]
    cases m.get? x with
    | none => rfl
    | some targets =>
      -- a list that becomes empty is dropped, and no list is the empty one
      cases hd : Roster.drop targets id with
      | nil => simp [hd]
      | cons y left => simp [hd]

theorem mem_neighbours_forget {m : Adjacency} {id x y : Ident} :
    y ∈ (m.forget id).neighbours x ↔ y ∈ m.neighbours x ∧ x ≠ id ∧ y ≠ id := by
  rw [neighbours_forget]
  by_cases h : x = id
  · simp [h]
  · simp [h]

theorem mem_neighbours_addEdge {m : Adjacency} {source target x y : Ident} :
    y ∈ (m.addEdge source target).neighbours x ↔
      y ∈ m.neighbours x ∨ (x = source ∧ y = target) := by
  rw [neighbours, addEdge, Store.get?_insert]
  by_cases h : x = source
  · subst h; simp
  · simp [h, neighbours]

end Adjacency

/-! ## Building -/

namespace Graph

/-- Recording a dependency adds this one dependent. -/
theorem mem_dependentsOf_addDependency {g : Graph} {dependency dependent x y : Ident} :
    y ∈ (g.addDependency dependency dependent).dependentsOf x ↔
      y ∈ g.dependentsOf x ∨ (x = dependency ∧ y = dependent) := by
  by_cases h : dependent ∈ g.dependentsOf dependency
  · rw [addDependency, if_pos h]
    constructor
    · exact Or.inl
    · rintro (hy | ⟨rfl, rfl⟩)
      · exact hy
      · exact h
  · rw [addDependency, if_neg h]
    exact Adjacency.mem_neighbours_addEdge

theorem containedIn_addDependency (g : Graph) (dependency dependent x : Ident) :
    (g.addDependency dependency dependent).containedIn x = g.containedIn x := by
  rw [addDependency]
  split <;> rfl

/-- Recording a containment adds the outer identifier to the dependents of the inner one. -/
theorem mem_dependentsOf_addContainment {g : Graph} {inner outer x y : Ident}
    (h : inner ∉ g.containedIn outer) :
    y ∈ (g.addContainment inner outer).dependentsOf x ↔
      y ∈ g.dependentsOf x ∨ (x = inner ∧ y = outer) := by
  rw [addContainment, if_neg h, mem_dependentsOf_addDependency]
  rfl

theorem mem_containedIn_addContainment {g : Graph} {inner outer x y : Ident}
    (h : inner ∉ g.containedIn outer) :
    y ∈ (g.addContainment inner outer).containedIn x ↔
      y ∈ g.containedIn x ∨ (x = outer ∧ y = inner) := by
  rw [addContainment, if_neg h, containedIn_addDependency]
  exact Adjacency.mem_neighbours_addEdge

/-- A graph in which edges have only been recorded. -/
inductive Built : Graph → Prop where
  | empty : Built {}
  | dependency {g : Graph} (h : Built g) (dependency dependent : Ident) :
      Built (g.addDependency dependency dependent)
  | containment {g : Graph} (h : Built g) (inner outer : Ident) :
      Built (g.addContainment inner outer)

/-- **Owners depend.**  In a graph that was built, whoever contains something depends on it. -/
theorem Built.owner_depends {g : Graph} (h : Built g) {inner outer : Ident}
    (hc : inner ∈ g.containedIn outer) : outer ∈ g.dependentsOf inner := by
  induction h with
  | empty => exact absurd hc List.not_mem_nil
  | dependency _ dependency dependent ih =>
    rw [containedIn_addDependency] at hc
    exact mem_dependentsOf_addDependency.2 (Or.inl (ih hc))
  | @containment g _ i o ih =>
    by_cases h : i ∈ g.containedIn o
    · rw [addContainment, if_pos h] at hc ⊢
      exact ih hc
    · rw [mem_containedIn_addContainment h] at hc
      rw [mem_dependentsOf_addContainment h]
      rcases hc with hc | ⟨rfl, rfl⟩
      · exact Or.inl (ih hc)
      · exact Or.inr ⟨rfl, rfl⟩

end Graph

end InstanceRegistry
