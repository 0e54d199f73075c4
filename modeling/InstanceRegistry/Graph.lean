import InstanceRegistry.Answer

/-!
  The graph of who needs whom and who owns whom.

  Edges are kept in three adjacency maps: the DEPENDENTS of an identifier, its DEPENDENCIES, which
  are the same edges seen from the other end, and what it CONTAINS.  Owning implies depending: the
  outer identifier becomes a dependent of the inner one.  Neighbours are listed in the order in
  which their edges were added, and no identifier is kept with an empty list.

  `isDependent` is a depth-first search along dependents.  It ends because an identifier puts its
  neighbours on the work list only once, when it is visited for the first time.

  Destruction takes the graph apart from the middle: it first detaches the neighbours it has to
  visit (`takeDependents`, `takeContained`) and removes what is left of an identifier at the end
  (`forget`).

  Mathlib-free.
-/

namespace InstanceRegistry

/-- For each identifier its neighbours, in the order in which the edges were added. -/
abbrev Adjacency := Store Roster

namespace Adjacency

/-- The neighbours of `id`. -/
def neighbours (m : Adjacency) (id : Ident) : Roster := (m.get? id).getD []

/-- Add an edge, at the end of the neighbours there are. -/
def addEdge (m : Adjacency) (source target : Ident) : Adjacency :=
  m.insert source (Roster.add (m.neighbours source) target)

/-- Remove every edge from or to `id`, and the identifiers that have no neighbours then. -/
def forget (m : Adjacency) (id : Ident) : Adjacency :=
  (m.erase id).update fun targets =>
    match Roster.drop targets id with
    | [] => none
    | left => some left

/-- How much work the entries that have not been visited can still make: one step for each, and
    one for each of its neighbours. -/
def pending (visited : Roster) : List (Ident × Roster) → Nat
  | [] => 0
  | (id, targets) :: rest =>
    (if id ∈ visited then 0 else targets.length + 1) + pending visited rest

theorem pending_cons_le (visited : Roster) (id : Ident) (entries : List (Ident × Roster)) :
    pending (id :: visited) entries ≤ pending visited entries := by
  induction entries with
  | nil => simp [pending]
  | cons e rest ih =>
    obtain ⟨key, targets⟩ := e
    by_cases h : key ∈ visited
    · simpa [pending, h] using ih
    · by_cases hk : key = id <;> simp [pending, h, hk] <;> omega

/-- Visiting an identifier pays for the neighbours it puts on the work list. -/
theorem pending_visit {visited targets : Roster} {id : Ident} (hid : id ∉ visited)
    (entries : List (Ident × Roster)) (h : Store.find id entries = some targets) :
    pending (id :: visited) entries + targets.length + 1 ≤ pending visited entries := by
  induction entries with
  | nil => simp [Store.find] at h
  | cons e rest ih =>
    obtain ⟨key, found⟩ := e
    by_cases hk : key = id
    · subst hk
      have hle := pending_cons_le visited key rest
      simp only [Store.find, if_true, Option.some.injEq] at h
      subst h
      simp only [pending, List.mem_cons, true_or, if_true, hid, if_false]
      omega
    · simp only [Store.find, if_neg hk] at h
      have := ih h
      simp only [pending, List.mem_cons, hk, false_or]
      omega

/-- Whether `target` is a neighbour of something on the work list, or of something reachable from
    there past identifiers not yet visited. -/
def reaches (m : Adjacency) (target : Ident) (visited : Roster) : Roster → Bool
  | [] => false
  | id :: rest =>
    if _hid : id ∈ visited then m.reaches target visited rest
    else
      match _h : m.get? id with
      | none => m.reaches target visited rest
      | some targets => target ∈ targets || m.reaches target (id :: visited) (targets ++ rest)
termination_by work => pending visited m.entries + work.length
decreasing_by
  · simp
  · simp
  · have := pending_visit _hid m.entries _h
    simp only [List.length_append, List.length_cons]
    omega

end Adjacency

/-! ## Graphs -/

/-- Who depends on whom, seen from both ends, and who contains whom. -/
structure Graph where
  dependents : Adjacency := ∅
  dependencies : Adjacency := ∅
  contained : Adjacency := ∅
  deriving DecidableEq

namespace Graph

/-! ### Queries -/

/-- The identifiers that depend on `id`. -/
def dependentsOf (g : Graph) (id : Ident) : Roster := g.dependents.neighbours id

/-- The identifiers that `id` depends on. -/
def dependenciesOf (g : Graph) (id : Ident) : Roster := g.dependencies.neighbours id

/-- The identifiers that `id` contains. -/
def containedIn (g : Graph) (id : Ident) : Roster := g.contained.neighbours id

/-- Whether anything depends on `id`. -/
def hasDependents (g : Graph) (id : Ident) : Bool := !(g.dependentsOf id).isEmpty

/-- Whether `candidate` depends on `id`, directly or through others. -/
def isDependent (g : Graph) (id candidate : Ident) : Bool := g.dependents.reaches candidate [] [id]

/-- Whether there are no edges at all. -/
def isEmpty (g : Graph) : Bool :=
  g.dependents.isEmpty && g.dependencies.isEmpty && g.contained.isEmpty

/-! ### Changes -/

/-- Record that `dependent` depends on `dependency`. -/
def addDependency (g : Graph) (dependency dependent : Ident) : Graph :=
  if dependent ∈ g.dependentsOf dependency then g
  else
    { g with
      dependents := g.dependents.addEdge dependency dependent
      dependencies := g.dependencies.addEdge dependent dependency }

/-- Record that `outer` contains `inner`, and therefore depends on it. -/
def addContainment (g : Graph) (inner outer : Ident) : Graph :=
  if inner ∈ g.containedIn outer then g
  else { g with contained := g.contained.addEdge outer inner }.addDependency inner outer

/-- Detach the dependents of `id`. -/
def takeDependents (g : Graph) (id : Ident) : Roster × Graph :=
  (g.dependentsOf id, { g with dependents := g.dependents.erase id })

/-- Detach what `id` contains. -/
def takeContained (g : Graph) (id : Ident) : Roster × Graph :=
  (g.containedIn id, { g with contained := g.contained.erase id })

/-- Remove every edge from or to `id`. -/
def forget (g : Graph) (id : Ident) : Graph where
  dependents := g.dependents.forget id
  dependencies := g.dependencies.forget id
  contained := g.contained.forget id

/-! ### Commands -/

/-- The operations on a graph. -/
inductive Command where
  | addDependency (dependency dependent : Ident)
  | addContainment (inner outer : Ident)
  | isDependent (id candidate : Ident)
  | dependentsOf (id : Ident)
  | dependenciesOf (id : Ident)
  | containedIn (id : Ident)
  | hasDependents (id : Ident)
  | forget (id : Ident)
  | clear
  | isEmpty
  deriving DecidableEq, Repr

namespace Command

/-- The command's name in scripts. -/
def name : Command → String
  | addDependency .. => "register_dependency"
  | addContainment .. => "register_containment"
  | isDependent .. => "is_dependent"
  | dependentsOf _ => "dependents_of"
  | dependenciesOf _ => "dependencies_of"
  | containedIn _ => "contained_in"
  | hasDependents _ => "has_dependents"
  | forget _ => "forget"
  | clear => "graph_clear"
  | isEmpty => "graph_is_empty"

/-- The same command for other identifiers. -/
def rename (f : Ident → Ident) : Command → Command
  | addDependency dependency dependent => addDependency (f dependency) (f dependent)
  | addContainment inner outer => addContainment (f inner) (f outer)
  | isDependent id candidate => isDependent (f id) (f candidate)
  | dependentsOf id => dependentsOf (f id)
  | dependenciesOf id => dependenciesOf (f id)
  | containedIn id => containedIn (f id)
  | hasDependents id => hasDependents (f id)
  | forget id => forget (f id)
  | clear => clear
  | isEmpty => isEmpty

end Command

/-- Carry out a command: its answer, and the graph after it. -/
def run {ι : Type} (g : Graph) : Command → Answer ι × Graph
  | .addDependency dependency dependent => (.unit, g.addDependency dependency dependent)
  | .addContainment inner outer => (.unit, g.addContainment inner outer)
  | .isDependent id candidate => (.flag (g.isDependent id candidate), g)
  | .dependentsOf id => (.texts (g.dependentsOf id), g)
  | .dependenciesOf id => (.texts (g.dependenciesOf id), g)
  | .containedIn id => (.texts (g.containedIn id), g)
  | .hasDependents id => (.flag (g.hasDependents id), g)
  | .forget id => (.unit, g.forget id)
  | .clear => (.unit, {})
  | .isEmpty => (.flag g.isEmpty, g)

/-! ### Samples -/

example : ((({} : Graph).addDependency "db" "shop").addDependency "shop" "web").isDependent "db" "web"
    = true := by decide +kernel
example : (({} : Graph).addContainment "pool" "db").dependentsOf "pool" = ["db"] := by decide
example : ((({} : Graph).addContainment "pool" "db").forget "pool").isEmpty = true := by decide

end Graph

end InstanceRegistry
