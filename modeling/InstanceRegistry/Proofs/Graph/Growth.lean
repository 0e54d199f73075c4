import InstanceRegistry.Proofs.Graph.Cycles

/-!
  Growth: what can be reached in a graph to which dependencies are added.

  One added edge lengthens paths in one way only: whoever gets from `x` to `y` by it went from `x`
  to the dependency, took the edge, and went on from the dependent to `y`
  (`depends_addDependency_iff`).  So the edge closes a ring exactly if the dependency was at or
  downstream of the dependent before.

  The dependencies of a request are added one by one, each after a look at the graph with those
  before it.  The looks are not disturbed by what was added: all the new edges end at the same
  dependent, so as long as none of the dependencies is downstream of it, nothing new is
  (`upstream_addDependency_iff`).  Looking at one edge after another therefore decides about all of
  them at once (`admits_iff`, `acyclic_addDependencies_iff`).

  A dependent that depends on itself is not found by a look at a graph in which it does not yet.
  What stays true with such loops is that two identifiers never depend on each other (`Layered`).
-/

namespace InstanceRegistry.Graph

open Relation

variable {g : Graph} {id dependency dependent x y z : Ident} {targets : List Ident}

/-! ## Downstream -/

/-- `y` is `x`, or depends on it. -/
def Upstream (g : Graph) : Ident → Ident → Prop := ReflTransGen g.Precedes

theorem upstream_iff : g.Upstream x y ↔ y = x ∨ g.Depends x y := reflTransGen_iff_eq_or_transGen

theorem Depends.upstream (h : g.Depends x y) : g.Upstream x y := TransGen.to_reflTransGen h

/-- For another identifier, being downstream is depending. -/
theorem upstream_iff_depends (h : y ≠ x) : g.Upstream x y ↔ g.Depends x y := by
  rw [upstream_iff]
  exact or_iff_right h

/-! ## One dependency -/

/-- Nothing is lost when a dependency is added. -/
theorem Depends.addDependency (h : g.Depends x y) (dependency dependent : Ident) :
    (g.addDependency dependency dependent).Depends x y :=
  TransGen.mono (fun _ _ he => mem_dependentsOf_addDependency.2 (.inl he)) x y h

theorem Upstream.addDependency (h : g.Upstream x y) (dependency dependent : Ident) :
    (g.addDependency dependency dependent).Upstream x y :=
  ReflTransGen.mono (fun _ _ he => mem_dependentsOf_addDependency.2 (.inl he)) x y h

/-- **An added dependency is passed once.**  Whoever depends on `x` after it did before, or comes to
    it by the new edge. -/
theorem depends_addDependency_iff :
    (g.addDependency dependency dependent).Depends x y ↔
      g.Depends x y ∨ (g.Upstream x dependency ∧ g.Upstream dependent y) := by
  constructor
  · intro h
    induction h with
    | single hedge =>
      rcases mem_dependentsOf_addDependency.1 hedge with hedge | ⟨rfl, rfl⟩
      · exact .inl (.single hedge)
      · exact .inr ⟨.refl, .refl⟩
    | tail _ hedge ih =>
      rcases mem_dependentsOf_addDependency.1 hedge with hedge | ⟨rfl, rfl⟩
      · exact ih.imp (·.tail hedge) fun ⟨hto, hon⟩ => ⟨hto, hon.tail hedge⟩
      · -- the path takes the new edge, perhaps not for the first time: the last time counts
        exact .inr ⟨ih.elim Depends.upstream (·.1), .refl⟩
  · rintro (h | ⟨hto, hon⟩)
    · exact h.addDependency _ _
    · have hedge : (g.addDependency dependency dependent).Precedes dependency dependent :=
        mem_dependentsOf_addDependency.2 (.inr ⟨rfl, rfl⟩)
      exact TransGen.trans_left (TransGen.tail' (hto.addDependency _ _) hedge)
        (hon.addDependency _ _)

/-- What is downstream of the dependent stays the same, unless the dependency is. -/
theorem upstream_addDependency_iff (h : ¬ g.Upstream dependent dependency) :
    (g.addDependency dependency dependent).Upstream dependent y ↔ g.Upstream dependent y := by
  rw [upstream_iff, upstream_iff, depends_addDependency_iff]
  exact or_congr_right (or_iff_left fun hback => h hback.1)

/-! ## Without rings -/

/-- Nothing depends on itself. -/
def Acyclic (g : Graph) : Prop := ∀ x, ¬ g.Depends x x

/-- Two identifiers never depend on each other, whether or not one depends on itself. -/
def Layered (g : Graph) : Prop := ∀ x y, g.Depends x y → g.Depends y x → x = y

/-- Where every edge leads to a higher rank there is no ring. -/
theorem acyclic_of_rank (rank : Ident → Nat)
    (h : ∀ e ∈ g.dependents.entries, ∀ y ∈ e.2, rank e.1 < rank y) : g.Acyclic := fun x =>
  not_depends_of_isDependent_eq_false (isDependent_self_eq_false rank h x)

theorem Acyclic.layered (h : g.Acyclic) : g.Layered := fun x _ hxy hyx =>
  absurd (hxy.trans hyx) (h x)

/-- A dependency closes a ring exactly if it is downstream of its dependent. -/
theorem acyclic_addDependency_iff :
    (g.addDependency dependency dependent).Acyclic ↔
      g.Acyclic ∧ ¬ g.Upstream dependent dependency := by
  constructor
  · intro h
    exact ⟨fun x hx => h x (hx.addDependency _ _),
      fun hback => h dependency (depends_addDependency_iff.2 (.inr ⟨.refl, hback⟩))⟩
  · rintro ⟨h, hback⟩ x hx
    rcases depends_addDependency_iff.1 hx with hx | ⟨hto, hon⟩
    · exact h x hx
    · exact hback (hon.trans hto)

/-- In a layered graph, what is both upstream and downstream of an identifier is the identifier. -/
theorem Layered.antisymm (h : g.Layered) (hxy : g.Upstream x y) (hyx : g.Upstream y x) : x = y := by
  rcases upstream_iff.1 hxy with rfl | hdxy
  · rfl
  · rcases upstream_iff.1 hyx with rfl | hdyx
    · rfl
    · exact h x y hdxy hdyx

/-- A dependency that does not depend on its dependent keeps the graph layered, even if it is the
    dependent itself. -/
theorem Layered.addDependency (h : g.Layered) (hback : ¬ g.Depends dependent dependency) :
    (g.addDependency dependency dependent).Layered := by
  -- whoever is on a way that closes over the new edge is the one identifier that it may join
  have hjoined : ∀ {v}, g.Upstream v dependency → g.Upstream dependent v → v = dependency := by
    intro v hto hon
    rcases upstream_iff.1 (hon.trans hto) with rfl | hdepends
    · exact h.antisymm hto hon
    · exact absurd hdepends hback
  intro x y hxy hyx
  rcases depends_addDependency_iff.1 hxy with hxy | ⟨hxto, hony⟩
  · rcases depends_addDependency_iff.1 hyx with hyx | ⟨hyto, honx⟩
    · exact h x y hxy hyx
    · rw [hjoined (hxy.upstream.trans hyto) honx, hjoined hyto (honx.trans hxy.upstream)]
  · rcases depends_addDependency_iff.1 hyx with hyx | ⟨hyto, honx⟩
    · rw [hjoined hxto (hony.trans hyx.upstream), hjoined (hyx.upstream.trans hxto) hony]
    · rw [hjoined hxto honx, hjoined hyto hony]

/-! ## The dependencies of a request -/

/-- Record that `id` depends on each of the targets, in turn. -/
def addDependencies (g : Graph) (id : Ident) : List Ident → Graph
  | [] => g
  | target :: rest => (g.addDependency target id).addDependencies id rest

/-- Each of the targets, looked at in the graph with those before it, does not depend on `id`. -/
def Admits (g : Graph) (id : Ident) : List Ident → Prop
  | [] => True
  | target :: rest => ¬ g.Depends id target ∧ (g.addDependency target id).Admits id rest

/-- The dependents there were, and `id` beside those of each target. -/
theorem mem_dependentsOf_addDependencies :
    y ∈ (g.addDependencies id targets).dependentsOf x ↔
      y ∈ g.dependentsOf x ∨ (x ∈ targets ∧ y = id) := by
  induction targets generalizing g with
  | nil => simp [addDependencies]
  | cons target rest ih =>
    rw [addDependencies, ih, mem_dependentsOf_addDependency, or_assoc, List.mem_cons, or_and_right]

/-- The dependencies there were, and beside those of `id` each target that did not have it for a
    dependent. -/
theorem mem_dependenciesOf_addDependencies :
    x ∈ (g.addDependencies id targets).dependenciesOf y ↔
      x ∈ g.dependenciesOf y ∨ (y = id ∧ x ∈ targets ∧ id ∉ g.dependentsOf x) := by
  induction targets generalizing g with
  | nil => simp [addDependencies]
  | cons target rest ih =>
    rw [addDependencies, ih, mem_dependentsOf_addDependency]
    by_cases hthere : id ∈ g.dependentsOf target
    · rw [addDependency, if_pos hthere, List.mem_cons]
      grind
    · rw [addDependency, if_neg hthere]
      change (x ∈ (g.dependencies.addEdge id target).neighbours y ∨ _) ↔ _
      rw [Adjacency.mem_neighbours_addEdge, List.mem_cons]
      change (x ∈ g.dependenciesOf y ∨ _) ∨ _ ↔ _
      grind

theorem containedIn_addDependencies (g : Graph) (id : Ident) (targets : List Ident) (x : Ident) :
    (g.addDependencies id targets).containedIn x = g.containedIn x := by
  induction targets generalizing g with
  | nil => rfl
  | cons target rest ih => rw [addDependencies, ih, containedIn_addDependency]

/-- What is recorded already is not recorded again. -/
theorem addDependencies_eq_self (h : ∀ target ∈ targets, id ∈ g.dependentsOf target) :
    g.addDependencies id targets = g := by
  induction targets with
  | nil => rfl
  | cons target rest ih =>
    rw [addDependencies, addDependency, if_pos (h target List.mem_cons_self)]
    exact ih fun other hother => h other (List.mem_cons_of_mem _ hother)

/-- Targets that are not downstream of `id` put nothing downstream of it. -/
theorem upstream_addDependencies_iff (h : ∀ target ∈ targets, ¬ g.Upstream id target) :
    (g.addDependencies id targets).Upstream id y ↔ g.Upstream id y := by
  induction targets generalizing g with
  | nil => exact Iff.rfl
  | cons target rest ih =>
    obtain ⟨hfirst, hrest⟩ := List.forall_mem_cons.1 h
    rw [addDependencies, ih, upstream_addDependency_iff hfirst]
    exact fun other hother => (upstream_addDependency_iff hfirst).not.2 (hrest other hother)

/-- **The looks decide at once.**  If `id` is not among its targets, each passes in its turn exactly
    if none of them depended on `id` to begin with. -/
theorem admits_iff (hne : ∀ target ∈ targets, target ≠ id) :
    g.Admits id targets ↔ ∀ target ∈ targets, ¬ g.Depends id target := by
  induction targets generalizing g with
  | nil => simp [Admits]
  | cons target rest ih =>
    have hrest : ∀ other ∈ rest, other ≠ id := fun other hother =>
      hne other (List.mem_cons_of_mem _ hother)
    have htarget : g.Upstream id target ↔ g.Depends id target :=
      upstream_iff_depends (hne target List.mem_cons_self)
    rw [Admits, ih hrest, List.forall_mem_cons]
    refine and_congr_right fun hfirst => forall₂_congr fun other hother => not_congr ?_
    rw [← upstream_iff_depends (hrest other hother), ← upstream_iff_depends (hrest other hother),
      upstream_addDependency_iff (htarget.not.2 hfirst)]

/-- All the targets together close no ring exactly if none of them is downstream of `id`. -/
theorem acyclic_addDependencies_iff :
    (g.addDependencies id targets).Acyclic ↔
      g.Acyclic ∧ ∀ target ∈ targets, ¬ g.Upstream id target := by
  induction targets generalizing g with
  | nil => simp [addDependencies]
  | cons target rest ih =>
    rw [addDependencies, ih, acyclic_addDependency_iff, List.forall_mem_cons, and_assoc]
    refine and_congr_right fun _ => and_congr_right fun hfirst => ?_
    exact forall₂_congr fun other _ => not_congr (upstream_addDependency_iff hfirst)

/-- What passes keeps the graph layered. -/
theorem Layered.addDependencies (h : g.Layered) (hadmits : g.Admits id targets) :
    (g.addDependencies id targets).Layered := by
  induction targets generalizing g with
  | nil => exact h
  | cons target rest ih => exact ih (h.addDependency hadmits.1) hadmits.2

end InstanceRegistry.Graph
