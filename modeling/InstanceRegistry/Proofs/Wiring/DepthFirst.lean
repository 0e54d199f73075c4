import Mathlib.Logic.Relation
import InstanceRegistry.Store

/-!
  Depth-first order: the order in which a recursive walk first comes to identifiers.

  `DepthFirst needs seen work out` says that a walk which has SEEN some identifiers, in that order,
  and has a list of others to look at, has seen `out` when it is done.  An identifier that was seen
  is skipped; any other one is entered at the end, then what it needs is walked, then the rest.

  The relation is a function of its inputs (`DepthFirst.unique`).  From nothing seen it finds
  exactly what is reachable from its work (`DepthFirst.mem_iff`): what it finds is closed under
  needs, because an identifier is not left before everything it needs was seen.
-/

namespace InstanceRegistry.Wiring

open Relation

/-- A depth-first walk, and the identifiers it has seen in the end. -/
inductive DepthFirst (needs : Ident → List Ident) : Roster → List Ident → Roster → Prop where
  | done (seen : Roster) : DepthFirst needs seen [] seen
  | skip {seen out : Roster} {id : Ident} {rest : List Ident} (hid : id ∈ seen)
      (hrest : DepthFirst needs seen rest out) : DepthFirst needs seen (id :: rest) out
  | visit {seen inner out : Roster} {id : Ident} {rest : List Ident} (hid : id ∉ seen)
      (hneeds : DepthFirst needs (seen ++ [id]) (needs id) inner)
      (hrest : DepthFirst needs inner rest out) : DepthFirst needs seen (id :: rest) out

namespace DepthFirst

variable {needs : Ident → List Ident} {seen mid out : Roster} {work work' : List Ident} {x : Ident}

/-- A walk can be cut anywhere in its work. -/
theorem append (h : DepthFirst needs seen work mid) (h' : DepthFirst needs mid work' out) :
    DepthFirst needs seen (work ++ work') out := by
  induction h with
  | done _ => exact h'
  | skip hid _ ih => exact .skip hid (ih h')
  | visit hid hneeds _ _ ih => exact .visit hid hneeds (ih h')

/-- What was seen stays where it is. -/
theorem exists_append (h : DepthFirst needs seen work out) : ∃ new, out = seen ++ new := by
  induction h with
  | done seen => exact ⟨[], (List.append_nil seen).symm⟩
  | skip _ _ ih => exact ih
  | @visit seen _ _ id _ _ _ _ ihneeds ihrest =>
    obtain ⟨first, rfl⟩ := ihneeds
    obtain ⟨second, rfl⟩ := ihrest
    exact ⟨[id] ++ first ++ second, by simp only [List.append_assoc]⟩

theorem subset (h : DepthFirst needs seen work out) : seen ⊆ out := by
  obtain ⟨new, rfl⟩ := h.exists_append
  exact List.subset_append_left _ _

/-- All work is done. -/
theorem work_subset (h : DepthFirst needs seen work out) : ∀ y ∈ work, y ∈ out := by
  induction h with
  | done _ => exact fun y hy => absurd hy List.not_mem_nil
  | skip hid hrest ih =>
    intro y hy
    rcases List.mem_cons.1 hy with rfl | hy
    · exact hrest.subset hid
    · exact ih y hy
  | visit _ hneeds hrest _ ih =>
    intro y hy
    rcases List.mem_cons.1 hy with rfl | hy
    · exact hrest.subset (hneeds.subset (List.mem_append_right _ List.mem_cons_self))
    · exact ih y hy

/-- Whatever is new was found with all it needs. -/
theorem closed (h : DepthFirst needs seen work out) :
    ∀ y ∈ out, y ∈ seen ∨ ∀ z ∈ needs y, z ∈ out := by
  induction h with
  | done _ => exact fun y hy => Or.inl hy
  | skip _ _ ih => exact ih
  | @visit seen inner out id rest _ hneeds hrest ihneeds ihrest =>
    intro y hy
    rcases ihrest y hy with hinner | hall
    · rcases ihneeds y hinner with hy | hall
      · rcases List.mem_append.1 hy with hy | hy
        · exact Or.inl hy
        · rw [List.mem_singleton.1 hy]
          exact Or.inr fun z hz => hrest.subset (hneeds.work_subset z hz)
      · exact Or.inr fun z hz => hrest.subset (hall z hz)
    · exact Or.inr hall

/-- Whatever is new is reachable from the work. -/
theorem reachable (h : DepthFirst needs seen work out) :
    ∀ y ∈ out, y ∈ seen ∨ ∃ w ∈ work, ReflTransGen (fun a b => b ∈ needs a) w y := by
  induction h with
  | done _ => exact fun y hy => Or.inl hy
  | skip _ _ ih =>
    intro y hy
    refine (ih y hy).imp_right fun hfrom => ?_
    obtain ⟨w, hw, hpath⟩ := hfrom
    exact ⟨w, List.mem_cons_of_mem _ hw, hpath⟩
  | @visit seen inner out id rest _ _ _ ihneeds ihrest =>
    intro y hy
    rcases ihrest y hy with hinner | ⟨w, hw, hpath⟩
    · rcases ihneeds y hinner with hy | ⟨w, hw, hpath⟩
      · rcases List.mem_append.1 hy with hy | hy
        · exact Or.inl hy
        · rw [List.mem_singleton.1 hy]
          exact Or.inr ⟨id, List.mem_cons_self, .refl⟩
      · exact Or.inr ⟨id, List.mem_cons_self, .head hw hpath⟩
    · exact Or.inr ⟨w, List.mem_cons_of_mem _ hw, hpath⟩

/-- **A walk that starts fresh sees what is reachable.** -/
theorem mem_iff {root : Ident} (h : DepthFirst needs [] [root] out) :
    x ∈ out ↔ ReflTransGen (fun a b => b ∈ needs a) root x := by
  constructor
  · intro hx
    obtain ⟨w, hw, hpath⟩ := (h.reachable x hx).resolve_left List.not_mem_nil
    rwa [List.mem_singleton.1 hw] at hpath
  · intro hpath
    induction hpath with
    | refl => exact h.work_subset root List.mem_cons_self
    | tail _ hstep ih => exact (h.closed _ ih).resolve_left List.not_mem_nil _ hstep

/-- A walk has only one end. -/
theorem unique {out' : Roster} (h : DepthFirst needs seen work out)
    (h' : DepthFirst needs seen work out') : out = out' := by
  induction h generalizing out' with
  | done _ => cases h'; rfl
  | skip hid _ ih =>
    cases h' with
    | skip _ hrest => exact ih hrest
    | visit hnot _ _ => exact absurd hid hnot
  | visit hnot _ _ ihneeds ihrest =>
    cases h' with
    | skip hid _ => exact absurd hid hnot
    | visit _ hneeds hrest =>
      obtain rfl := ihneeds hneeds
      exact ihrest hrest

end DepthFirst

end InstanceRegistry.Wiring
