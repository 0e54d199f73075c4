import InstanceRegistry.Proofs.Graph.Edges
import InstanceRegistry.Proofs.Courses.Upheld

/-!
  The graph is kept from both ends, and stays in agreement with itself.

  Who depends on an identifier and what an identifier depends on are two readings of the same edges,
  kept apart.  Destroying an identifier detaches its dependents, which is one end of its edges only,
  and then runs hooks that may do anything with the graph; the other end goes when everything
  is over.  Meanwhile the identifier is OPEN: its dependencies may be said without its dependents.

  So the invariant (`Graph.Mirrors`) has a list of the open identifiers.  Detaching adds one to it,
  forgetting takes one off, and all else keeps it whatever it is.  Both ends of the bracket are in
  one constructor of upkeep, so a whole run keeps the list it began with, which is the empty one,
  and so does every stretch of it that no destruction surrounds.

  Of a list of dependents the two directions are not alike: while an identifier is open edges are
  missing from its dependents, but never from anyone's dependencies.
-/

namespace InstanceRegistry

/-! ## Lists that are kept -/

namespace Adjacency

/-- No identifier is kept with an empty list. -/
def Filled (m : Adjacency) : Prop := ∀ x, m.get? x ≠ some []

variable {m : Adjacency}

theorem filled_empty : Filled ∅ := by
  intro x h
  cases h

theorem Filled.addEdge (h : m.Filled) (source target : Ident) : (m.addEdge source target).Filled := by
  intro x hx
  rw [Adjacency.addEdge, Store.get?_insert] at hx
  split at hx
  · have htarget : target ∈ Roster.add (m.neighbours source) target := Roster.mem_add.2 (.inr rfl)
    rw [Option.some.inj hx] at htarget
    exact absurd htarget List.not_mem_nil
  · exact h x hx

theorem Filled.erase (h : m.Filled) (id : Ident) : Filled (m.erase id) := by
  intro x hx
  rw [Store.get?_erase] at hx
  split at hx
  · cases hx
  · exact h x hx

/-- A list that becomes empty is dropped. -/
theorem filled_forget (m : Adjacency) (id : Ident) : (m.forget id).Filled := by
  intro x hx
  rw [forget, Store.get?_update] at hx
  obtain ⟨targets, -, hleft⟩ := Option.bind_eq_some_iff.1 hx
  cases hdrop : Roster.drop targets id with
  | nil =>
    rw [hdrop] at hleft
    cases hleft
  | cons y left =>
    rw [hdrop] at hleft
    cases hleft

/-- Where no list is empty, a map without lists is a map without neighbours. -/
theorem Filled.isEmpty_iff (h : m.Filled) :
    m.isEmpty = true ↔ ∀ x, m.neighbours x = [] := by
  rw [Store.isEmpty, List.isEmpty_iff]
  constructor
  · intro hnone x
    refine neighbours_eq_nil ?_
    rw [Store.keys, hnone]
    exact List.not_mem_nil
  · intro hnone
    refine List.eq_nil_iff_forall_not_mem.2 fun e he => ?_
    have hget : m.get? e.1 = some e.2 := Store.get?_of_mem_entries he
    have hlist := hnone e.1
    rw [neighbours, hget] at hlist
    exact h e.1 (hget.trans (congrArg some hlist))

end Adjacency

/-! ## One graph -/

namespace Graph

variable {g : Graph} {opened : List Ident}

/-- The two readings of the edges agree, but that the dependents of an open identifier may be
    missing; and no list is kept that is empty. -/
structure Mirrors (opened : List Ident) (g : Graph) : Prop where
  grounded : ∀ {x y}, y ∈ g.dependentsOf x → x ∈ g.dependenciesOf y
  mirrored : ∀ {x y}, x ∈ g.dependenciesOf y → y ∈ g.dependentsOf x ∨ x ∈ opened
  owned : ∀ {inner outer}, inner ∈ g.containedIn outer →
    outer ∈ g.dependentsOf inner ∨ inner ∈ opened
  dependents : g.dependents.Filled
  dependencies : g.dependencies.Filled
  contained : g.contained.Filled

/-- To record a containment is to record the dependency, and the containment beside it. -/
theorem addContainment_eq {inner outer : Ident} (h : inner ∉ g.containedIn outer) :
    g.addContainment inner outer =
      { g.addDependency inner outer with contained := g.contained.addEdge outer inner } := by
  rw [Graph.addContainment, if_neg h]
  unfold Graph.addDependency
  by_cases hdepends : outer ∈ g.dependentsOf inner
  · rw [if_pos hdepends]
    exact if_pos hdepends
  · rw [if_neg hdepends]
    exact if_neg hdepends

namespace Mirrors

theorem empty (opened : List Ident) : Mirrors opened {} where
  grounded h := absurd h List.not_mem_nil
  mirrored h := absurd h List.not_mem_nil
  owned h := absurd h List.not_mem_nil
  dependents := Adjacency.filled_empty
  dependencies := Adjacency.filled_empty
  contained := Adjacency.filled_empty

/-- Recording a dependency adds this one dependency, even where the search for it ends at the
    dependents. -/
theorem mem_dependenciesOf_addDependency (h : Mirrors opened g) {dependency dependent x y : Ident} :
    x ∈ (g.addDependency dependency dependent).dependenciesOf y ↔
      x ∈ g.dependenciesOf y ∨ (y = dependent ∧ x = dependency) := by
  by_cases hthere : dependent ∈ g.dependentsOf dependency
  · rw [Graph.addDependency, if_pos hthere]
    constructor
    · exact .inl
    · rintro (hx | ⟨rfl, rfl⟩)
      · exact hx
      · exact h.grounded hthere
  · rw [Graph.addDependency, if_neg hthere]
    exact Adjacency.mem_neighbours_addEdge

theorem addDependency (h : Mirrors opened g) (dependency dependent : Ident) :
    Mirrors opened (g.addDependency dependency dependent) where
  grounded hy := by
    rw [h.mem_dependenciesOf_addDependency]
    rcases mem_dependentsOf_addDependency.1 hy with hy | ⟨rfl, rfl⟩
    · exact .inl (h.grounded hy)
    · exact .inr ⟨rfl, rfl⟩
  mirrored hx := by
    rw [mem_dependentsOf_addDependency]
    rcases h.mem_dependenciesOf_addDependency.1 hx with hx | ⟨rfl, rfl⟩
    · exact (h.mirrored hx).imp_left .inl
    · exact .inl (.inr ⟨rfl, rfl⟩)
  owned hc := by
    rw [containedIn_addDependency] at hc
    rw [mem_dependentsOf_addDependency]
    exact (h.owned hc).imp_left .inl
  dependents := by
    rw [Graph.addDependency]
    split
    · exact h.dependents
    · exact h.dependents.addEdge _ _
  dependencies := by
    rw [Graph.addDependency]
    split
    · exact h.dependencies
    · exact h.dependencies.addEdge _ _
  contained := by
    rw [Graph.addDependency]
    split <;> exact h.contained

theorem addContainment (h : Mirrors opened g) (inner outer : Ident) :
    Mirrors opened (g.addContainment inner outer) := by
  by_cases hthere : inner ∈ g.containedIn outer
  · rw [Graph.addContainment, if_pos hthere]
    exact h
  · have hdependency := h.addDependency inner outer
    rw [addContainment_eq hthere]
    refine
      { grounded := hdependency.grounded
        mirrored := hdependency.mirrored
        owned := fun {i o} hi => ?_
        dependents := hdependency.dependents
        dependencies := hdependency.dependencies
        contained := h.contained.addEdge _ _ }
    show o ∈ (g.addDependency inner outer).dependentsOf i ∨ i ∈ opened
    rw [mem_dependentsOf_addDependency]
    rcases Adjacency.mem_neighbours_addEdge.1 hi with hi | ⟨rfl, rfl⟩
    · exact (h.owned hi).imp_left .inl
    · exact .inl (.inr ⟨rfl, rfl⟩)

/-- Detaching the dependents of an identifier opens it. -/
theorem takeDependents (h : Mirrors opened g) (id : Ident) :
    Mirrors (id :: opened) (g.takeDependents id).2 where
  grounded hy := by
    rw [dependentsOf, Graph.takeDependents, Adjacency.neighbours_erase] at hy
    split at hy
    · exact absurd hy List.not_mem_nil
    · exact h.grounded hy
  mirrored {x y} hx := by
    by_cases hid : x = id
    · exact .inr (hid ▸ List.mem_cons_self)
    · rw [dependentsOf, Graph.takeDependents, Adjacency.neighbours_erase, if_neg hid]
      exact (h.mirrored hx).imp_right (List.mem_cons_of_mem _)
  owned {inner outer} hc := by
    by_cases hid : inner = id
    · exact .inr (hid ▸ List.mem_cons_self)
    · rw [dependentsOf, Graph.takeDependents, Adjacency.neighbours_erase, if_neg hid]
      exact (h.owned hc).imp_right (List.mem_cons_of_mem _)
  dependents := h.dependents.erase id
  dependencies := h.dependencies
  contained := h.contained

theorem takeContained (h : Mirrors opened g) (id : Ident) :
    Mirrors opened (g.takeContained id).2 where
  grounded := h.grounded
  mirrored := h.mirrored
  owned hc := by
    rw [containedIn, Graph.takeContained, Adjacency.neighbours_erase] at hc
    split at hc
    · exact absurd hc List.not_mem_nil
    · exact h.owned hc
  dependents := h.dependents
  dependencies := h.dependencies
  contained := h.contained.erase id

/-- Forgetting an identifier closes it: none of its edges is left at either end. -/
theorem forget {id : Ident} (h : Mirrors (id :: opened) g) : Mirrors opened (g.forget id) where
  grounded hy := by
    obtain ⟨hy, hx, hne⟩ := Adjacency.mem_neighbours_forget.1 hy
    exact Adjacency.mem_neighbours_forget.2 ⟨h.grounded hy, hne, hx⟩
  mirrored hx := by
    obtain ⟨hx, hy, hne⟩ := Adjacency.mem_neighbours_forget.1 hx
    rcases h.mirrored hx with hthere | hopen
    · exact .inl (Adjacency.mem_neighbours_forget.2 ⟨hthere, hne, hy⟩)
    · exact .inr ((List.mem_cons.1 hopen).resolve_left hne)
  owned hc := by
    obtain ⟨hc, houter, hinner⟩ := Adjacency.mem_neighbours_forget.1 hc
    rcases h.owned hc with hthere | hopen
    · exact .inl (Adjacency.mem_neighbours_forget.2 ⟨hthere, hinner, houter⟩)
    · exact .inr ((List.mem_cons.1 hopen).resolve_left hinner)
  dependents := Adjacency.filled_forget _ _
  dependencies := Adjacency.filled_forget _ _
  contained := Adjacency.filled_forget _ _

/-- With one more identifier open, less is said. -/
theorem cons (h : Mirrors opened g) (id : Ident) : Mirrors (id :: opened) g where
  grounded := h.grounded
  mirrored hx := (h.mirrored hx).imp_right (List.mem_cons_of_mem _)
  owned hc := (h.owned hc).imp_right (List.mem_cons_of_mem _)
  dependents := h.dependents
  dependencies := h.dependencies
  contained := h.contained

/-- **No command on a graph disturbs it**, whatever is open. -/
theorem run {ι : Type} (h : Mirrors opened g) (command : Command) :
    Mirrors opened (@Graph.run ι g command).2 := by
  cases command with
  | addDependency dependency dependent => exact h.addDependency dependency dependent
  | addContainment inner outer => exact h.addContainment inner outer
  | forget id => exact (h.cons id).forget
  | clear => exact .empty opened
  | _ => exact h

end Mirrors

/-- A graph that agrees with itself: each edge is known at both ends, owners depend on what they
    own, no list is kept that is empty, and so the summary answers are those of the lists. -/
structure Whole (g : Graph) : Prop where
  mirrored : ∀ x y, y ∈ g.dependentsOf x ↔ x ∈ g.dependenciesOf y
  owned : ∀ inner outer, inner ∈ g.containedIn outer → outer ∈ g.dependentsOf inner
  filled : g.dependents.Filled ∧ g.dependencies.Filled ∧ g.contained.Filled
  hasDependents : ∀ x, g.hasDependents x = true ↔ g.dependentsOf x ≠ []
  isEmpty : g.isEmpty = true ↔
    ∀ x, g.dependentsOf x = [] ∧ g.dependenciesOf x = [] ∧ g.containedIn x = []

/-- A graph is whole if its readings agree with nothing open. -/
theorem whole_iff : g.Whole ↔ Mirrors [] g := by
  constructor
  · intro h
    exact
      { grounded := (h.mirrored _ _).1
        mirrored := fun hx => .inl ((h.mirrored _ _).2 hx)
        owned := fun hc => .inl (h.owned _ _ hc)
        dependents := h.filled.1
        dependencies := h.filled.2.1
        contained := h.filled.2.2 }
  · intro h
    have hclosed : ∀ {p : Prop} {x : Ident}, p ∨ x ∈ ([] : List Ident) → p :=
      fun hor => hor.resolve_right List.not_mem_nil
    refine ⟨fun x y => ⟨h.grounded, fun hx => hclosed (h.mirrored hx)⟩,
      fun _ _ hc => hclosed (h.owned hc), ⟨h.dependents, h.dependencies, h.contained⟩,
      fun x => ?_, ?_⟩
    · rw [hasDependents, Bool.not_eq_true', ne_eq, ← List.isEmpty_iff, Bool.not_eq_true]
    · rw [isEmpty, Bool.and_eq_true, Bool.and_eq_true, h.dependents.isEmpty_iff,
        h.dependencies.isEmpty_iff, h.contained.isEmpty_iff]
      exact ⟨fun hall x => ⟨hall.1.1 x, hall.1.2 x, hall.2 x⟩,
        fun hall => ⟨⟨fun x => (hall x).1, fun x => (hall x).2.1⟩, fun x => (hall x).2.2⟩⟩

theorem whole_empty : Whole {} := whole_iff.2 (.empty [])

end Graph

/-! ## Whole runs -/

theorem Session.graph_keep (s : Session) (id : Ident) (hook : Routine) :
    (s.keep id hook).registry.graph = s.registry.graph := by
  rw [keep]
  split <;> rfl

namespace Upkeep

variable {s t : Session} {ids opened : List Ident}

/-- **What is open in the beginning is open in the end, and nothing else.** -/
theorem mirrors (h : Upkeep s t ids) (hs : s.registry.graph.Mirrors opened) :
    t.registry.graph.Mirrors opened := by
  induction h generalizing opened with
  | rest s => exact hs
  | next _ _ ih ih' => exact ih' (ih hs)
  | apart hgraph _ _ =>
    rw [hgraph]
    exact hs
  | note _ => exact hs
  | graph command => exact hs.run command
  | call _ _ _ ih | destroy _ _ ih => exact ih hs
  | @keep s op asStep id hook _ =>
    have hgraph := (s.note (.began op)).graph_keep id hook
    show Graph.Mirrors opened ((s.note (.began op)).keep id hook).registry.graph
    rw [hgraph]
    exact hs
  | dispose _ _ _ _ ih ih' => exact ih' (ih hs)
  | @detach s t ids id _ _ ih => exact (ih (hs.takeDependents id)).forget
  | @release s id _ => exact hs.takeContained id
  | empty s => exact .empty opened

/-- At every entry the readings agree but for what is open then. -/
theorem mirrors_throughout (h : Upkeep s t ids) (hs : s.registry.graph.Mirrors opened) :
    Newly (fun e _ => ∃ opened, e.registry.graph.Mirrors opened) s t := by
  induction h generalizing opened with
  | rest s => exact .of_eq rfl
  | next first _ ih ih' => exact (ih hs).trans (ih' (first.mirrors hs))
  | apart _ _ hjournal => exact .of_eq hjournal
  | note _ => exact .note ⟨opened, hs⟩
  | graph _ | release _ => exact .of_eq rfl
  | call _ _ inside ih | destroy _ inside ih =>
    exact .trans (.note ⟨opened, hs⟩) ((ih hs).trans (.note ⟨opened, inside.mirrors hs⟩))
  | keep _ => exact .trans (.note ⟨opened, hs⟩) (.trans (.keep fun _ => ⟨opened, hs⟩)
      (.note ⟨opened, (Session.graph_keep _ _ _).symm ▸ hs⟩))
  | @dispose s t u ids id hook _ _ before run ih ih' =>
    have ht := before.mirrors hs
    exact .trans (ih hs) (.trans (.note ⟨opened, ht⟩) (.trans (.note ⟨opened, ht⟩) (ih' ht)))
  | @detach s t ids id _ _ ih => exact ih (hs.takeDependents id)
  | empty s => exact .note ⟨opened, .empty opened⟩

/-- At quiet entries nothing is open, if nothing was in the beginning. -/
theorem mirrors_quietly (h : Upkeep s t ids) (hs : s.registry.graph.Mirrors []) :
    Newly (fun e earlier => Quiet e earlier → e.registry.graph.Mirrors []) s t := by
  induction h with
  | rest s => exact .of_eq rfl
  | next first _ ih ih' => exact (ih hs).trans (ih' (first.mirrors hs))
  | apart _ _ hjournal => exact .of_eq hjournal
  | note _ => exact .note fun _ => hs
  | graph _ => exact .of_eq rfl
  | call _ _ inside ih =>
    exact .trans (.note fun _ => hs) ((ih hs).trans (.note fun _ => inside.mirrors hs))
  | keep _ => exact .trans (.note fun _ => hs) (.trans (.keep fun _ _ => hs)
      (.note fun _ => (Session.graph_keep _ _ _).symm ▸ hs))
  | dispose hdoing hpending before run =>
    exact (Upkeep.dispose hdoing hpending before run).loud hdoing.within
  | detach hdoing inside => exact (Upkeep.detach hdoing inside).loud hdoing.within
  | release hdoing => exact (Upkeep.release hdoing).loud hdoing.within
  | empty s => exact .note fun _ => .empty []
  | @destroy s t op _ _ hop inside =>
    have hwithin : (s.note (.began op)).Within Op.destroys := (s.begins_note op).within hop
    exact .trans (.note fun _ => hs) ((inside.loud hwithin).trans (.note fun _ => inside.mirrors hs))

end Upkeep

/-- **The graph stays in agreement with itself**, whatever a script does with it, in hooks or
    elsewhere: it is whole at every quiet moment and in the end.  While something is being destroyed
    dependencies may be said whose dependents are not, but no dependent is ever said that is no
    dependency, and no list is ever kept that is empty. -/
theorem graph_whole {script : Script} {depth : Nat} {outcome : Outcome Cause Unit} {s : Session}
    (h : script.runWithin depth = some (outcome, s)) (hstart : script.registry.graph.Whole) :
    (∀ later e earlier, s.journal = later ++ e :: earlier →
      (∀ x y, y ∈ e.registry.graph.dependentsOf x → x ∈ e.registry.graph.dependenciesOf y) ∧
        (e.registry.graph.dependents.Filled ∧ e.registry.graph.dependencies.Filled ∧
          e.registry.graph.contained.Filled) ∧
        (Quiet e earlier → e.registry.graph.Whole)) ∧
      s.registry.graph.Whole := by
  have hupkeep : Upkeep script.start s [] := Script.upkeep h
  have hmirrors : script.start.registry.graph.Mirrors [] := Graph.whole_iff.1 hstart
  refine ⟨fun later e earlier hjournal => ?_, Graph.whole_iff.2 (hupkeep.mirrors hmirrors)⟩
  obtain ⟨opened, hopened⟩ := (hupkeep.mirrors_throughout hmirrors).all rfl hjournal
  refine ⟨fun _ _ => hopened.grounded,
    ⟨hopened.dependents, hopened.dependencies, hopened.contained⟩, fun hquiet => ?_⟩
  exact Graph.whole_iff.2 ((hupkeep.mirrors_quietly hmirrors).all rfl hjournal hquiet)

/-- A lamp on the mains with a bulb in it.  When the mains go, the hook of the lamp puts it on the
    mains again, puts a radio there as well, destroys that, and has the house own the mains. -/
def rewiring : Script where
  registry := {}
  steps :=
    [.step (.graph (.addDependency "mains" "lamp")) true none,
      .step (.graph (.addContainment "bulb" "lamp")) true none,
      .step (.registerHook "lamp" (.scripted "lamp"
        [.step (.graph (.addDependency "mains" "lamp")) true none,
          .step (.graph (.addDependency "mains" "radio")) true none,
          .step (.destroyOne "radio") true none,
          .step (.graph (.addContainment "mains" "house")) true none] (.fail "sparks"))) true none,
      .step (.destroyOne "mains") true none,
      .step (.graph (.addContainment "house" "street")) true none]

/-- The hook of the lamp finds a dependency without a dependent; in the end only the last edge is
    left, and it is known at both ends. -/
theorem graph_whole_rewiring :
    ∃ outcome s, rewiring.runWithin 4 = some (outcome, s) ∧ rewiring.registry.graph.Whole ∧
      (∃ e ∈ s.journal, "mains" ∈ e.registry.graph.dependenciesOf "lamp" ∧
        "lamp" ∉ e.registry.graph.dependentsOf "mains") ∧
      s.registry.graph.dependents.keys = ["house"] ∧ s.registry.graph.Whole := by
  have hends : ∃ outcome s, rewiring.runWithin 4 = some (outcome, s) ∧
      (∃ e ∈ s.journal, "mains" ∈ e.registry.graph.dependenciesOf "lamp" ∧
        "lamp" ∉ e.registry.graph.dependentsOf "mains") ∧
      s.registry.graph.dependents.keys = ["house"] :=
    Script.ends_of_check (by decide +kernel)
  obtain ⟨outcome, s, hrun, hopen, hkeys⟩ := hends
  have hstart : rewiring.registry.graph.Whole := Graph.whole_empty
  exact ⟨outcome, s, hrun, hstart, hopen, hkeys, (graph_whole hrun hstart).2⟩

end InstanceRegistry
