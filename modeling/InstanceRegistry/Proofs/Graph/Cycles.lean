import Mathlib.Data.List.Cycle
import InstanceRegistry.Proofs.Graph.Paths

/-!
  Routes and rings: dependence said with lists of identifiers.

  `Depends` is a closure, built step by step.  Here it is told by the identifiers that are passed on
  the way.  A ROUTE from `x` to `y` lists the stops between them, each a dependent of the one before;
  a RING is a cycle of dependents, without a first stop and without a repetition.

  The crux is that stops need not repeat (`Depends.exists_route`): a route that comes back to where
  it began is cut short there, so whoever depends does so along a route without repetitions, and a
  route from an identifier to itself is a ring.
-/

namespace InstanceRegistry.Graph

open Relation

variable {g : Graph} {x y z : Ident} {between : List Ident}

/-! ## Routes -/

/-- `y` depends directly on `x`. -/
def Precedes (g : Graph) (x y : Ident) : Prop := y ∈ g.dependentsOf x

/-- From `x` through `between` to `y`, every stop depends directly on the one before. -/
def Route (g : Graph) (x : Ident) (between : List Ident) (y : Ident) : Prop :=
  List.IsChain g.Precedes (x :: (between ++ [y]))

/-- A direct dependent is one step away. -/
theorem route_nil (h : g.Precedes x y) : g.Route x [] y := .cons_cons h (.singleton y)

/-- A route may be begun one step earlier. -/
theorem Route.cons (h : g.Precedes x z) (hr : g.Route z between y) : g.Route x (z :: between) y :=
  .cons_cons h hr

/-- A route may be entered at any of its stops. -/
theorem Route.enter {before after : List Ident} (h : g.Route z between y)
    (hx : z :: between = before ++ x :: after) : g.Route x after y := by
  rw [Route, ← List.cons_append, hx, List.append_assoc] at h
  exact h.suffix (List.suffix_append before _)

/-- A route leads from what is needed to what depends on it. -/
theorem Route.depends (h : g.Route x between y) : g.Depends x y := by
  induction between generalizing x with
  | nil =>
    obtain ⟨hfirst, -⟩ := List.isChain_cons_cons.1 h
    exact .single hfirst
  | cons z between ih =>
    obtain ⟨hfirst, hrest⟩ := List.isChain_cons_cons.1 h
    exact .head hfirst (ih hrest)

/-- Whoever depends on `x` does so along a route that passes no stop twice. -/
theorem Depends.exists_route (h : g.Depends x y) :
    ∃ between, g.Route x between y ∧ (x :: between).Nodup ∧ y ∉ between := by
  induction h using TransGen.head_induction_on with
  | single hlast => exact ⟨[], route_nil hlast, List.nodup_singleton _, List.not_mem_nil⟩
  | @head x z hfirst _ ih =>
    obtain ⟨between, hroute, hnodup, hend⟩ := ih
    by_cases hy : y = z
    · exact ⟨[], route_nil (hy ▸ hfirst), List.nodup_singleton _, List.not_mem_nil⟩
    by_cases hx : x ∈ z :: between
    · -- the rest of the way comes back to `x`: it is entered there
      obtain ⟨before, after, hsplit⟩ := List.append_of_mem hx
      have hafter : after ⊆ between := by
        cases before with
        | nil =>
          obtain ⟨-, rfl⟩ := List.cons.inj hsplit
          exact List.Subset.refl _
        | cons first before =>
          obtain ⟨-, rfl⟩ := List.cons.inj hsplit
          exact (List.sublist_append_of_sublist_right (List.sublist_cons_self x after)).subset
      rw [hsplit] at hnodup
      exact ⟨after, hroute.enter hsplit, (List.nodup_append.1 hnodup).2.1, fun hm => hend (hafter hm)⟩
    · refine ⟨z :: between, hroute.cons hfirst, List.nodup_cons.2 ⟨hx, hnodup⟩, ?_⟩
      exact List.not_mem_cons_of_ne_of_not_mem hy hend

/-! ## Rings -/

/-- Identifiers in a ring: each depends directly on the one before, and none stands there twice. -/
structure Ring (g : Graph) (ring : Cycle Ident) : Prop where
  nodup : ring.Nodup
  chain : ring.Chain g.Precedes

/-- Exactly those depend on themselves that stand in a ring. -/
theorem depends_self_iff : g.Depends x x ↔ ∃ ring, g.Ring ring ∧ x ∈ ring := by
  constructor
  · intro h
    obtain ⟨between, hroute, hnodup, -⟩ := h.exists_route
    exact ⟨(x :: between : List Ident), ⟨hnodup, hroute⟩, List.mem_cons_self⟩
  · rintro ⟨ring, ⟨-, hchain⟩, hx⟩
    induction ring using Quotient.inductionOn' with
    | h stops =>
      -- the ring is turned so that `x` stands first
      obtain ⟨before, after, rfl⟩ := List.append_of_mem (Cycle.mem_coe_iff.1 hx)
      have hturn : ((before ++ x :: after : List Ident) : Cycle Ident)
          = ((x :: after) ++ before : List Ident) :=
        Cycle.coe_eq_coe.2 (List.isRotated_append)
      change Cycle.Chain g.Precedes ((before ++ x :: after : List Ident) : Cycle Ident) at hchain
      rw [hturn, List.cons_append, Cycle.chain_coe_cons] at hchain
      exact Route.depends hchain

/-! ## What the search decides -/

/-- **The search along dependents decides reachability.**  In every graph it ends, and it answers yes
    exactly if a route leads from `id` to the candidate; then there is one that passes no stop twice.
    An identifier depends on itself exactly if it stands in a ring. -/
theorem dependence_decided (g : Graph) (id candidate : Ident) :
    (g.isDependent id candidate = true ↔ ∃ between, g.Route id between candidate) ∧
    (g.isDependent id candidate = true →
      ∃ between, g.Route id between candidate ∧ (id :: between).Nodup ∧ candidate ∉ between) ∧
    (g.isDependent id id = true ↔ ∃ ring, g.Ring ring ∧ id ∈ ring) := by
  refine ⟨⟨fun h => ?_, ?_⟩, fun h => (isDependent_iff.1 h).exists_route, ?_⟩
  · obtain ⟨between, hroute, -⟩ := (isDependent_iff.1 h).exists_route
    exact ⟨between, hroute⟩
  · rintro ⟨between, hroute⟩
    exact isDependent_iff.2 hroute.depends
  · rw [isDependent_iff, depends_self_iff]

/-- Two rings through one identifier, and one identifier that needs only itself. -/
def knotted : Graph :=
  (((({} : Graph).addDependency "a" "b").addDependency "b" "a").addDependency "b" "c"
    |>.addDependency "c" "b").addDependency "d" "d"

example : knotted.isDependent "a" "c" = true ∧ knotted.isDependent "d" "d" = true ∧
    knotted.isDependent "a" "d" = false := by decide +kernel

end InstanceRegistry.Graph
