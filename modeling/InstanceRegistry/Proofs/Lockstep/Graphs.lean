import InstanceRegistry.Proofs.Graph.Edges
import InstanceRegistry.Proofs.Graph.Paths
import InstanceRegistry.Proofs.Lockstep.Stores

/-!
  Graphs side by side.

  Adjacency maps are looked at through neighbours, since the order in which an identifier came by
  its first edge is seen nowhere.  Two graphs are abreast if every identifier in view has the same
  neighbours in both, in the same order, and every other one has those that it had at the start.

  No edge may cross the border of the view, and this is part of being abreast.  Forgetting an
  identifier strikes it off EVERY list, and a list out of view is left alone only because nothing in
  view stands in it.  A search along dependents stays in view for the same reason.

  Where the whole registry is compared, the two maps have to be equal and in view altogether, so
  that they can be cleared and asked whether they are empty.
-/

namespace InstanceRegistry

open Relation

variable {inside : Ident → Bool} {whole : Prop} {a b id : Ident}

/-! ## Adjacency -/

namespace Adjacency

variable {m m' o o' : Adjacency}

/-- No edge leads into view or out of it. -/
def Uncrossed (inside : Ident → Bool) (m : Adjacency) : Prop :=
  ∀ x y, y ∈ m.neighbours x → inside y = inside x

/-- Whatever has an edge is in view. -/
structure Confined (inside : Ident → Bool) (m : Adjacency) : Prop where
  keys : Store.Confined inside m
  uncrossed : m.Uncrossed inside

/-- The same neighbours in view, and out of view those that there were. -/
structure Abreast (inside : Ident → Bool) (whole : Prop) (o o' m m' : Adjacency) : Prop where
  within : ∀ x, inside x = true → m.neighbours x = m'.neighbours x
  left : ∀ x, inside x = false → m.neighbours x = o.neighbours x
  right : ∀ x, inside x = false → m'.neighbours x = o'.neighbours x
  uncrossed : m.Uncrossed inside
  uncrossed' : m'.Uncrossed inside
  same : whole → m = m' ∧ Store.Confined inside m

theorem neighbours_addEdge (m : Adjacency) (a b x : Ident) :
    (m.addEdge a b).neighbours x = if x = a then Roster.add (m.neighbours a) b else m.neighbours x := by
  rw [neighbours, addEdge, Store.get?_insert]
  by_cases h : x = a
  · rw [if_pos h, if_pos h]
    rfl
  · rw [if_neg h, if_neg h]
    rfl

theorem uncrossed_empty : Adjacency.Uncrossed inside ∅ := fun _ _ hy => absurd hy List.not_mem_nil

theorem Uncrossed.addEdge (h : m.Uncrossed inside) (hab : inside b = inside a) :
    (m.addEdge a b).Uncrossed inside := by
  intro x y hy
  rcases mem_neighbours_addEdge.1 hy with hy | ⟨rfl, rfl⟩
  · exact h x y hy
  · exact hab

theorem Uncrossed.erase (h : m.Uncrossed inside) (id : Ident) :
    Adjacency.Uncrossed inside (m.erase id) := by
  intro x y hy
  rw [neighbours_erase] at hy
  split at hy
  · exact absurd hy List.not_mem_nil
  · exact h x y hy

theorem Uncrossed.forget (h : m.Uncrossed inside) (id : Ident) :
    (m.forget id).Uncrossed inside :=
  fun x y hy => h x y (mem_neighbours_forget.1 hy).1

theorem confined_forget (h : Store.Confined inside m) (id : Ident) :
    Store.Confined inside (m.forget id) := by
  intro x hx
  refine h x (Store.keys_erase_subset m id ?_)
  obtain ⟨targets, htargets⟩ := Store.exists_get?_of_mem_keys hx
  rw [forget, Store.get?_update] at htargets
  obtain ⟨before, hbefore, -⟩ := Option.bind_eq_some_iff.1 htargets
  exact Store.mem_keys_of_get? hbefore

/-- What is not in view is not in a list out of view, so striking it off changes nothing. -/
theorem Uncrossed.drop_neighbours (h : m.Uncrossed inside) (hid : inside id = true) {x : Ident}
    (hx : inside x = false) : Roster.drop (m.neighbours x) id = m.neighbours x := by
  refine List.filter_eq_self.2 fun y hy => bne_iff_ne.2 ?_
  rintro rfl
  rw [h x y hy, hx] at hid
  exact Bool.false_ne_true hid

/-- An identifier in view is none out of view. -/
theorem ne_of_inside {x : Ident} (hx : inside x = false) (hid : inside id = true) : x ≠ id := by
  rintro rfl
  exact Bool.false_ne_true (hx.symm.trans hid)

namespace Abreast

variable (h : Abreast inside whole o o' m m')

include h

theorem addEdge (ha : inside a = true) (hb : inside b = true) :
    Abreast inside whole o o' (m.addEdge a b) (m'.addEdge a b) where
  within x hx := by
    rw [neighbours_addEdge, neighbours_addEdge, h.within a ha, h.within x hx]
  left x hx := by
    rw [neighbours_addEdge, if_neg (ne_of_inside hx ha), h.left x hx]
  right x hx := by
    rw [neighbours_addEdge, if_neg (ne_of_inside hx ha), h.right x hx]
  uncrossed := h.uncrossed.addEdge (hb.trans ha.symm)
  uncrossed' := h.uncrossed'.addEdge (hb.trans ha.symm)
  same hwhole := by
    obtain ⟨rfl, hconfined⟩ := h.same hwhole
    refine ⟨rfl, fun x hx => ?_⟩
    rcases Store.mem_keys_insert.1 hx with hx | rfl
    · exact hconfined x hx
    · exact ha

theorem erase (hid : inside id = true) :
    Abreast inside whole o o' (m.erase id) (m'.erase id) where
  within x hx := by rw [neighbours_erase, neighbours_erase, h.within x hx]
  left x hx := by rw [neighbours_erase, if_neg (ne_of_inside hx hid), h.left x hx]
  right x hx := by rw [neighbours_erase, if_neg (ne_of_inside hx hid), h.right x hx]
  uncrossed := h.uncrossed.erase id
  uncrossed' := h.uncrossed'.erase id
  same hwhole := by
    obtain ⟨rfl, hconfined⟩ := h.same hwhole
    exact ⟨rfl, fun x hx => hconfined x (Store.keys_erase_subset m id hx)⟩

/-- Forgetting an identifier in view leaves the lists out of view alone, since no edge leads from
    there into view. -/
theorem forget (hid : inside id = true) :
    Abreast inside whole o o' (m.forget id) (m'.forget id) where
  within x hx := by rw [neighbours_forget, neighbours_forget, h.within x hx]
  left x hx := by
    rw [neighbours_forget, if_neg (ne_of_inside hx hid), h.uncrossed.drop_neighbours hid hx,
      h.left x hx]
  right x hx := by
    rw [neighbours_forget, if_neg (ne_of_inside hx hid), h.uncrossed'.drop_neighbours hid hx,
      h.right x hx]
  uncrossed := h.uncrossed.forget id
  uncrossed' := h.uncrossed'.forget id
  same hwhole := by
    obtain ⟨rfl, hconfined⟩ := h.same hwhole
    exact ⟨rfl, confined_forget hconfined id⟩

/-- Neighbours of what is in view are in view. -/
theorem inside_of_mem (hid : inside id = true) {x : Ident} (hx : x ∈ m.neighbours id) :
    inside x = true := by
  rw [h.uncrossed id x hx, hid]

end Abreast

/-- Dropping every edge, where nothing was out of view. -/
theorem abreast_empty (ho : o.Confined inside) (ho' : o'.Confined inside) :
    Abreast inside whole o o' ∅ ∅ where
  within _ _ := rfl
  left x hx := by
    rw [neighbours_eq_nil fun hmem => ne_of_inside hx (ho.keys x hmem) rfl]
    rfl
  right x hx := by
    rw [neighbours_eq_nil fun hmem => ne_of_inside hx (ho'.keys x hmem) rfl]
    rfl
  uncrossed := uncrossed_empty
  uncrossed' := uncrossed_empty
  same _ := ⟨rfl, fun _ hx => absurd hx List.not_mem_nil⟩

end Adjacency

/-! ## Graphs -/

namespace Graph

variable {g g' o o' : Graph}

/-- The same edges in view, and out of view those that there were. -/
structure Abreast (inside : Ident → Bool) (whole : Prop) (o o' g g' : Graph) : Prop where
  dependents : Adjacency.Abreast inside whole o.dependents o'.dependents g.dependents g'.dependents
  dependencies : Adjacency.Abreast inside whole o.dependencies o'.dependencies g.dependencies
    g'.dependencies
  contained : Adjacency.Abreast inside whole o.contained o'.contained g.contained g'.contained

/-- Whatever has an edge is in view. -/
structure Confined (inside : Ident → Bool) (g : Graph) : Prop where
  dependents : g.dependents.Confined inside
  dependencies : g.dependencies.Confined inside
  contained : g.contained.Confined inside

/-- What depends on an identifier in view is in view, and depends on it in the other graph too. -/
theorem Depends.within (hwithin : ∀ x, inside x = true → g.dependentsOf x = g'.dependentsOf x)
    (huncrossed : g.dependents.Uncrossed inside) {x y : Ident} (hx : inside x = true)
    (h : g.Depends x y) : inside y = true ∧ g'.Depends x y := by
  induction h with
  | single hy =>
    rw [hwithin x hx] at hy
    refine ⟨?_, .single hy⟩
    rw [← hwithin x hx] at hy
    rw [huncrossed x _ hy, hx]
  | tail _ hz ih =>
    obtain ⟨hinside, hdepends⟩ := ih
    have hz' := hz
    rw [hwithin _ hinside] at hz'
    exact ⟨by rw [huncrossed _ _ hz, hinside], hdepends.tail hz'⟩

namespace Abreast

variable (h : Abreast inside whole o o' g g')

include h

theorem dependentsOf_eq (hid : inside id = true) : g.dependentsOf id = g'.dependentsOf id :=
  h.dependents.within id hid

theorem dependenciesOf_eq (hid : inside id = true) : g.dependenciesOf id = g'.dependenciesOf id :=
  h.dependencies.within id hid

theorem containedIn_eq (hid : inside id = true) : g.containedIn id = g'.containedIn id :=
  h.contained.within id hid

theorem hasDependents_eq (hid : inside id = true) : g.hasDependents id = g'.hasDependents id := by
  rw [hasDependents, hasDependents, h.dependentsOf_eq hid]

/-- A search from an identifier in view stays in view, and finds the same. -/
theorem isDependent_eq (hid : inside id = true) (candidate : Ident) :
    g.isDependent id candidate = g'.isDependent id candidate := by
  rw [Bool.eq_iff_iff, isDependent_iff, isDependent_iff]
  constructor
  · intro hdepends
    exact (hdepends.within h.dependents.within h.dependents.uncrossed hid).2
  · intro hdepends
    exact (hdepends.within (fun x hx => (h.dependents.within x hx).symm) h.dependents.uncrossed'
      hid).2

theorem addDependency (ha : inside a = true) (hb : inside b = true) :
    Abreast inside whole o o' (g.addDependency a b) (g'.addDependency a b) := by
  rw [Graph.addDependency, Graph.addDependency, h.dependentsOf_eq ha]
  split
  · exact h
  · exact ⟨h.dependents.addEdge ha hb, h.dependencies.addEdge hb ha, h.contained⟩

theorem addContainment (ha : inside a = true) (hb : inside b = true) :
    Abreast inside whole o o' (g.addContainment a b) (g'.addContainment a b) := by
  rw [Graph.addContainment, Graph.addContainment, h.containedIn_eq hb]
  split
  · exact h
  · have hadded : Abreast inside whole o o' { g with contained := g.contained.addEdge b a }
        { g' with contained := g'.contained.addEdge b a } :=
      ⟨h.dependents, h.dependencies, h.contained.addEdge hb ha⟩
    exact hadded.addDependency ha hb

theorem takeDependents (hid : inside id = true) :
    (g.takeDependents id).1 = (g'.takeDependents id).1 ∧
      Abreast inside whole o o' (g.takeDependents id).2 (g'.takeDependents id).2 :=
  ⟨h.dependentsOf_eq hid, h.dependents.erase hid, h.dependencies, h.contained⟩

theorem takeContained (hid : inside id = true) :
    (g.takeContained id).1 = (g'.takeContained id).1 ∧
      Abreast inside whole o o' (g.takeContained id).2 (g'.takeContained id).2 :=
  ⟨h.containedIn_eq hid, h.dependents, h.dependencies, h.contained.erase hid⟩

theorem forget (hid : inside id = true) :
    Abreast inside whole o o' (g.forget id) (g'.forget id) :=
  ⟨h.dependents.forget hid, h.dependencies.forget hid, h.contained.forget hid⟩

/-- Where everything is compared, the graphs are equal. -/
theorem eq (hwhole : whole) : g = g' := by
  obtain ⟨dependents, dependencies, contained⟩ := g
  obtain ⟨dependents', dependencies', contained'⟩ := g'
  obtain ⟨rfl, -⟩ := h.dependents.same hwhole
  obtain ⟨rfl, -⟩ := h.dependencies.same hwhole
  obtain ⟨rfl, -⟩ := h.contained.same hwhole
  rfl

theorem confined (hwhole : whole) : g.Confined inside where
  dependents := ⟨(h.dependents.same hwhole).2, h.dependents.uncrossed⟩
  dependencies := ⟨(h.dependencies.same hwhole).2, h.dependencies.uncrossed⟩
  contained := ⟨(h.contained.same hwhole).2, h.contained.uncrossed⟩

end Abreast

/-- Dropping every edge, where nothing was out of view. -/
theorem abreast_empty (ho : o.Confined inside) (ho' : o'.Confined inside) :
    Abreast inside whole o o' {} {} :=
  ⟨Adjacency.abreast_empty ho.dependents ho'.dependents,
    Adjacency.abreast_empty ho.dependencies ho'.dependencies,
    Adjacency.abreast_empty ho.contained ho'.contained⟩

/-! ### Commands -/

/-- The command is about identifiers in view, or about the whole graph where that is compared. -/
def Command.Within (inside : Ident → Bool) (whole : Prop) : Command → Prop
  | addDependency x y | addContainment x y | isDependent x y => inside x = true ∧ inside y = true
  | dependentsOf id | dependenciesOf id | containedIn id | hasDependents id | forget id =>
    inside id = true
  | clear | isEmpty => whole

/-- **A command in view** gets the same answer from both graphs and leaves them abreast. -/
theorem Abreast.run (h : Abreast inside whole o o' g g')
    (hconfined : whole → o.Confined inside ∧ o'.Confined inside) {command : Command}
    (hcommand : command.Within inside whole) :
    (g.run command : Answer Instance × Graph).1 = (g'.run command).1 ∧
      Abreast inside whole o o' (g.run command : Answer Instance × Graph).2
        (g'.run command : Answer Instance × Graph).2 := by
  cases command with
  | addDependency x y => exact ⟨rfl, h.addDependency hcommand.1 hcommand.2⟩
  | addContainment x y => exact ⟨rfl, h.addContainment hcommand.1 hcommand.2⟩
  | isDependent x y => exact ⟨congrArg Answer.flag (h.isDependent_eq hcommand.1 y), h⟩
  | dependentsOf id => exact ⟨congrArg Answer.texts (h.dependentsOf_eq hcommand), h⟩
  | dependenciesOf id => exact ⟨congrArg Answer.texts (h.dependenciesOf_eq hcommand), h⟩
  | containedIn id => exact ⟨congrArg Answer.texts (h.containedIn_eq hcommand), h⟩
  | hasDependents id => exact ⟨congrArg Answer.flag (h.hasDependents_eq hcommand), h⟩
  | forget id => exact ⟨rfl, h.forget hcommand⟩
  | clear =>
    obtain ⟨ho, ho'⟩ := hconfined hcommand
    exact ⟨rfl, abreast_empty ho ho'⟩
  | isEmpty => exact ⟨by rw [h.eq hcommand], h⟩

end Graph

end InstanceRegistry
