import Mathlib.Logic.Relation
import InstanceRegistry.Proofs.Graph.Edges

/-!
  Paths: what is reachable in a graph, and what the search along dependents finds.

  Three relations on identifiers are built from the edges.

    * `Depends x y`: `y` is reached from `x` in one or more steps along dependents.
    * `Reaches x y`: `y` is reached from `x` in any number of steps along dependents and contained
      edges, mixed in any way; these are the identifiers that destroying `x` comes to.
    * `ReachesEarly x y`: `y` is reached from a DEPENDENT of `x`; destroying `x` comes to these
      identifiers before it runs the hook of `x` itself.

  `isDependent_iff` says that the search decides the first.  It shares one list of visited
  identifiers between all branches, and a revisit answers no; that loses nothing, because what has
  been visited and what is on the work list together are always closed under dependents when the
  search ends without an answer (`reaches_eq_false`).
-/

namespace InstanceRegistry

open Relation

namespace Graph

variable {g : Graph} {x y z : Ident}

/-! ## The relations -/

/-- `y` depends on `x`, directly or through others. -/
def Depends (g : Graph) : Ident → Ident → Prop := TransGen fun x y => y ∈ g.dependentsOf x

/-- Destroying `x` goes on to `y` in one step. -/
def Leads (g : Graph) (x y : Ident) : Prop := y ∈ g.dependentsOf x ∨ y ∈ g.containedIn x

/-- Destroying `x` comes to `y`. -/
def Reaches (g : Graph) : Ident → Ident → Prop := ReflTransGen g.Leads

/-- Destroying what depends on `x` comes to `y`. -/
def ReachesEarly (g : Graph) (x y : Ident) : Prop := ∃ d ∈ g.dependentsOf x, g.Reaches d y

theorem ReachesEarly.of_dependent (h : y ∈ g.dependentsOf x) : g.ReachesEarly x y :=
  ⟨y, h, .refl⟩

/-- What is reached early is reached early with all that follows it. -/
theorem ReachesEarly.tail (h : g.ReachesEarly x y) (hl : g.Leads y z) : g.ReachesEarly x z := by
  obtain ⟨d, hd, hr⟩ := h
  exact ⟨d, hd, hr.tail hl⟩

/-- Without containment, reaching early is depending. -/
theorem reachesEarly_iff_depends (hc : ∀ x, g.containedIn x = []) :
    g.ReachesEarly x y ↔ g.Depends x y := by
  have hl : g.Leads = fun x y => y ∈ g.dependentsOf x := by
    funext a b
    simp only [Leads, hc a, List.not_mem_nil, or_false]
  rw [ReachesEarly, Depends, Reaches, hl, TransGen.head'_iff]

/-! ## The search -/

/-- Nothing gets lost: an identifier was visited, is on the work list or has no neighbours. -/
def Accounted (m : Adjacency) (visited work : Roster) (v : Ident) : Prop :=
  v ∈ visited ∨ v ∈ work ∨ m.neighbours v = []

/-- What leaves the work list without being visited is accounted for all the same, if it was
    visited before or has no neighbours. -/
theorem Accounted.of_cons {m : Adjacency} {visited rest : Roster} {id v : Ident}
    (hid : id ∈ visited ∨ m.neighbours id = []) (h : Accounted m visited (id :: rest) v) :
    Accounted m visited rest v := by
  rcases h with h | h | h
  · exact Or.inl h
  · rcases List.mem_cons.1 h with rfl | h
    · exact hid.imp_right Or.inr
    · exact Or.inr (Or.inl h)
  · exact Or.inr (Or.inr h)

/-- Where the search may be in the middle of its work: nothing visited has the target for a
    neighbour, and every neighbour of something visited is accounted for. -/
def Searched (m : Adjacency) (target : Ident) (visited work : Roster) : Prop :=
  ∀ v ∈ visited, target ∉ m.neighbours v ∧ ∀ n ∈ m.neighbours v, Accounted m visited work n

/-- Identifiers may leave the work list as long as they stay accounted for. -/
theorem Searched.move {m : Adjacency} {target : Ident} {visited work work' : Roster}
    (h : Searched m target visited work)
    (hmove : ∀ v, Accounted m visited work v → Accounted m visited work' v) :
    Searched m target visited work' := by
  intro v hv
  obtain ⟨hnot, hall⟩ := h v hv
  exact ⟨hnot, fun n hn => hmove n (hall n hn)⟩

/-- Visiting an identifier keeps everything accounted for. -/
theorem Accounted.visit {m : Adjacency} {visited rest : Roster} {id v : Ident}
    (h : Accounted m visited (id :: rest) v) :
    Accounted m (id :: visited) (m.neighbours id ++ rest) v := by
  rcases h with h | h | h
  · exact Or.inl (List.mem_cons_of_mem _ h)
  · rcases List.mem_cons.1 h with rfl | h
    · exact Or.inl List.mem_cons_self
    · exact Or.inr (Or.inl (List.mem_append_right _ h))
  · exact Or.inr (Or.inr h)

/-- Visiting an identifier that does not have the target for a neighbour. -/
theorem Searched.visit {m : Adjacency} {target id : Ident} {visited rest : Roster}
    (h : Searched m target visited (id :: rest)) (hid : target ∉ m.neighbours id) :
    Searched m target (id :: visited) (m.neighbours id ++ rest) := by
  intro v hv
  rcases List.mem_cons.1 hv with rfl | hv
  · exact ⟨hid, fun n hn => Or.inr (Or.inl (List.mem_append_left _ hn))⟩
  · obtain ⟨hnot, hall⟩ := h v hv
    exact ⟨hnot, fun n hn => (hall n hn).visit⟩

/-- A search that finds nothing has looked at a set of identifiers that is closed under neighbours
    and in which nothing has the target for a neighbour. -/
theorem reaches_eq_false {m : Adjacency} {target : Ident} {visited work : Roster}
    (h : m.reaches target visited work = false) (hv : Searched m target visited work) :
    ∃ seen : Ident → Prop, (∀ v, Accounted m visited work v → seen v) ∧
      ∀ v, seen v → target ∉ m.neighbours v ∧ ∀ n ∈ m.neighbours v, seen n := by
  fun_induction Adjacency.reaches m target visited work with
  | case1 visited =>
    -- nothing is left to look at, so what is accounted for is closed under neighbours
    refine ⟨Accounted m visited [], fun v hm => hm, ?_⟩
    rintro v (hm | hm | hm)
    · exact hv v hm
    · exact absurd hm List.not_mem_nil
    · simp [hm]
  | case2 visited id rest hid ih =>
    have hmove : ∀ v, Accounted m visited (id :: rest) v → Accounted m visited rest v :=
      fun v => Accounted.of_cons (Or.inl hid)
    obtain ⟨seen, hw, hs⟩ := ih h (hv.move hmove)
    exact ⟨seen, fun v hm => hw v (hmove v hm), hs⟩
  | case3 visited id rest hid hn ih =>
    have hnil : m.neighbours id = [] := by rw [Adjacency.neighbours, hn]; rfl
    have hmove : ∀ v, Accounted m visited (id :: rest) v → Accounted m visited rest v :=
      fun v => Accounted.of_cons (Or.inr hnil)
    obtain ⟨seen, hw, hs⟩ := ih h (hv.move hmove)
    exact ⟨seen, fun v hm => hw v (hmove v hm), hs⟩
  | case4 visited id rest hid targets ht ih =>
    have hnext : m.neighbours id = targets := by rw [Adjacency.neighbours, ht]; rfl
    rw [Bool.or_eq_false_iff, decide_eq_false_iff_not] at h
    rw [← hnext] at h ih
    obtain ⟨seen, hw, hs⟩ := ih h.2 (hv.visit h.1)
    exact ⟨seen, fun v hm => hw v hm.visit, hs⟩

/-- A search that finds something has a path to it from its work list. -/
theorem exists_depends_of_reaches {target : Ident} {visited work : Roster}
    (h : g.dependents.reaches target visited work = true) :
    ∃ x ∈ work, g.Depends x target := by
  fun_induction Adjacency.reaches g.dependents target visited work with
  | case1 => cases h
  | case2 visited id rest hid ih =>
    obtain ⟨x, hx, hd⟩ := ih h
    exact ⟨x, List.mem_cons_of_mem _ hx, hd⟩
  | case3 visited id rest hid hn ih =>
    obtain ⟨x, hx, hd⟩ := ih h
    exact ⟨x, List.mem_cons_of_mem _ hx, hd⟩
  | case4 visited id rest hid targets ht ih =>
    have hnext : g.dependentsOf id = targets := by
      rw [dependentsOf, Adjacency.neighbours, ht]; rfl
    rw [Bool.or_eq_true, decide_eq_true_iff] at h
    rcases h with h | h
    · exact ⟨id, List.mem_cons_self, TransGen.single (hnext ▸ h)⟩
    · obtain ⟨x, hx, hd⟩ := ih h
      rcases List.mem_append.1 hx with hx | hx
      · exact ⟨id, List.mem_cons_self, TransGen.head (hnext ▸ hx) hd⟩
      · exact ⟨x, List.mem_cons_of_mem _ hx, hd⟩

/-- A search that finds nothing shows that there is no path. -/
theorem not_depends_of_isDependent_eq_false (h : g.isDependent x y = false) : ¬ g.Depends x y := by
  intro hd
  obtain ⟨seen, hw, hs⟩ := reaches_eq_false h fun v hm => absurd hm List.not_mem_nil
  -- the path stays inside the set up to its last edge, and that edge is not there
  have hin : ∀ v, ReflTransGen (fun x y => y ∈ g.dependentsOf x) x v → seen v := by
    intro v hpath
    induction hpath with
    | refl => exact hw x (Or.inr (Or.inl List.mem_cons_self))
    | tail _ he ih => exact (hs _ ih).2 _ he
  obtain ⟨v, hpath, hlast⟩ := TransGen.tail'_iff.1 hd
  exact (hs v (hin v hpath)).1 hlast

/-- **The search decides dependence.** -/
theorem isDependent_iff : g.isDependent x y = true ↔ g.Depends x y := by
  constructor
  · intro h
    obtain ⟨v, hv, hd⟩ := exists_depends_of_reaches h
    rwa [List.mem_singleton.1 hv] at hd
  · intro hd
    rw [← Bool.not_eq_false]
    exact fun h => not_depends_of_isDependent_eq_false h hd

/-- Where every edge leads to a higher rank nobody depends on itself. -/
theorem isDependent_self_eq_false (rank : Ident → Nat)
    (h : ∀ e ∈ g.dependents.entries, ∀ y ∈ e.2, rank e.1 < rank y) (x : Ident) :
    g.isDependent x x = false := by
  have hedge : ∀ v w, w ∈ g.dependentsOf v → rank v < rank w := by
    intro v w hw
    cases hv : g.dependents.get? v with
    | none =>
      rw [dependentsOf, Adjacency.neighbours, hv] at hw
      exact absurd hw List.not_mem_nil
    | some targets =>
      rw [dependentsOf, Adjacency.neighbours, hv] at hw
      exact h (v, targets) (Store.mem_entries_of_get? hv) w hw
  -- ranks grow along every edge, hence along every path
  have hpath : ∀ v, g.Depends x v → rank x < rank v := by
    intro v hv
    induction hv with
    | single hw => exact hedge _ _ hw
    | tail _ hw ih => exact Nat.lt_trans ih (hedge _ _ hw)
  rw [← Bool.not_eq_true, isDependent_iff]
  exact fun hx => Nat.lt_irrefl _ (hpath x hx)

end Graph

end InstanceRegistry
