import InstanceRegistry.Proofs.Wiring.DepthFirst
import InstanceRegistry.Proofs.Wiring.Scene

/-!
  Assembly: cycles are resolved, whatever needs what.

  A component is assembled by offering itself, being given what it needs, and then being bound.
  Each need is looked up first and created only if nothing is there, so the assembly is a
  depth-first walk along needs: an identifier that is LISTED was seen, finished or not.

  What carries the proof is that every listed identifier STANDS for one instance (`Scene.Stands`),
  from the moment it offers itself until it is finished: as an offer, then perhaps as an early
  reference, in the end as the finished instance.  So whoever is given something early is given
  what will be finished.  A scene in which this holds, and in which constructions, list and
  what was given fit together, is ORDERLY.  Opening, exposing, giving and closing keep scenes
  orderly, and the recursion goes from one orderly scene to another (`create_plays`).

  The recursion has no structure to follow; it ends because each level lists one more component
  (`room`).
-/

namespace InstanceRegistry.Wiring

open Relation

/-! ## Blueprints -/

/-- What a component needs. -/
def needsIn (comps : Store Component) (id : Ident) : List Ident :=
  ((comps.get? id).map Component.needs).getD []

/-- Components that do nothing but expose themselves and need others of their kind, under
    identifiers that are usable. -/
structure Blueprint (c : Config) (comps : Store Component) : Prop where
  plain : ∀ id component, comps.get? id = some component → component = { needs := component.needs }
  closed : ∀ id, ∀ need ∈ needsIn comps id, comps.contains need = true
  usable : ∀ id, comps.contains id = true → c.validateIdentifier id = .ok ()

/-! ## Standing for an instance -/

/-- The instance that an identifier is known by, whatever tier it is in. -/
inductive Scene.Stands (sc : Scene) (x : Ident) (i : Instance) : Prop where
  | finished (hactive : x ∉ sc.active) (hfinished : sc.finished.get? x = some i)
      (hearly : sc.early.get? x = none) (hoffer : sc.factories.get? x = none)
  | early (hactive : x ∈ sc.active) (hfinished : sc.finished.get? x = none)
      (hearly : sc.early.get? x = some i)
  | offered (hactive : x ∈ sc.active) (hfinished : sc.finished.get? x = none)
      (hearly : sc.early.get? x = none) (hoffer : sc.factories.get? x = some (.handover x i))

/-- What an identifier stands for depends only on what is kept under it. -/
theorem Scene.Stands.congr {sc sc' : Scene} {x : Ident} {i : Instance} (h : sc.Stands x i)
    (hactive : x ∈ sc'.active ↔ x ∈ sc.active)
    (hfinished : sc'.finished.get? x = sc.finished.get? x)
    (hearly : sc'.early.get? x = sc.early.get? x)
    (hoffer : sc'.factories.get? x = sc.factories.get? x) : sc'.Stands x i := by
  cases h with
  | finished h₁ h₂ h₃ h₄ =>
    exact .finished (mt hactive.1 h₁) (hfinished.trans h₂) (hearly.trans h₃) (hoffer.trans h₄)
  | early h₁ h₂ h₃ => exact .early (hactive.2 h₁) (hfinished.trans h₂) (hearly.trans h₃)
  | offered h₁ h₂ h₃ h₄ =>
    exact .offered (hactive.2 h₁) (hfinished.trans h₂) (hearly.trans h₃) (hoffer.trans h₄)

/-- An identifier stands for one instance only. -/
theorem Scene.Stands.unique {sc : Scene} {x : Ident} {i j : Instance} (h : sc.Stands x i)
    (h' : sc.Stands x j) : i = j := by
  cases h with
  | finished h₁ h₂ _ _ =>
    cases h' with
    | finished _ h₂' _ _ => exact Option.some.inj (h₂.symm.trans h₂')
    | early h₁' _ _ => exact absurd h₁' h₁
    | offered h₁' _ _ _ => exact absurd h₁' h₁
  | early h₁ _ h₃ =>
    cases h' with
    | finished h₁' _ _ _ => exact absurd h₁ h₁'
    | early _ _ h₃' => exact Option.some.inj (h₃.symm.trans h₃')
    | offered _ _ h₃' _ => cases h₃.symm.trans h₃'
  | offered h₁ _ h₃ h₄ =>
    cases h' with
    | finished h₁' _ _ _ => exact absurd h₁ h₁'
    | early _ _ h₃' => cases h₃.symm.trans h₃'
    | offered _ _ _ h₄' => cases h₄.symm.trans h₄'; rfl

/-! ## Orderly scenes -/

/-- An identifier under which nothing was ever done. -/
structure Scene.Untouched (sc : Scene) (x : Ident) : Prop where
  finished : sc.finished.get? x = none
  early : sc.early.get? x = none
  offer : sc.factories.get? x = none
  active : x ∉ sc.active
  wired : sc.wired x = []

/-- A scene in which everything that is listed stands for an instance, and everything fits. -/
structure Orderly (needs : Ident → List Ident) (sc : Scene) : Prop where
  stands : ∀ x ∈ sc.listed, ∃ i, sc.Stands x i
  untouched : ∀ x, x ∉ sc.listed → sc.Untouched x
  /-- Every listed identifier is constructed once, in the order of the list. -/
  started : sc.started = sc.listed
  nodup : sc.listed.Nodup
  /-- Whatever was given is what its identifier stands for. -/
  given : ∀ x, ∀ e ∈ sc.wired x, sc.Stands e.1 e.2
  /-- Whoever is finished was given everything it needs, in order. -/
  complete : ∀ x ∈ sc.listed, x ∉ sc.active → (sc.wired x).map Prod.fst = needs x

/-- Who stands for something is listed. -/
theorem Orderly.listed {needs : Ident → List Ident} {sc : Scene} {x : Ident} {i : Instance}
    (h : Orderly needs sc) (hx : sc.Stands x i) : x ∈ sc.listed := by
  by_cases hm : x ∈ sc.listed
  · exact hm
  · have hnone := h.untouched x hm
    cases hx with
    | finished _ h₂ _ _ => cases hnone.finished.symm.trans h₂
    | early h₁ _ _ => exact absurd h₁ hnone.active
    | offered h₁ _ _ _ => exact absurd h₁ hnone.active

/-- A scene that goes on: marks are balanced, what stands keeps standing, and those who were listed
    are given nothing new unless they are at it themselves. -/
structure Grows (busy : List Ident) (sc sc' : Scene) : Prop where
  active : sc'.active = sc.active
  listed : ∀ x ∈ sc.listed, x ∈ sc'.listed
  stands : ∀ x i, sc.Stands x i → sc'.Stands x i
  wired : ∀ x ∈ sc.listed, x ∉ busy → sc'.wired x = sc.wired x

/-- Orderly progress along some work: the list goes on as a depth-first walk does. -/
structure Advance (needs : Ident → List Ident) (busy : List Ident) (sc : Scene) (work : List Ident)
    (sc' : Scene) : Prop where
  orderly : Orderly needs sc'
  grows : Grows busy sc sc'
  walk : DepthFirst needs sc.listed work sc'.listed

theorem Grows.refl (busy : List Ident) (sc : Scene) : Grows busy sc sc :=
  ⟨rfl, fun _ h => h, fun _ _ h => h, fun _ _ _ => rfl⟩

theorem Grows.trans {busy : List Ident} {sc mid sc' : Scene} (h : Grows busy sc mid)
    (h' : Grows busy mid sc') : Grows busy sc sc' where
  active := h'.active.trans h.active
  listed x hx := h'.listed x (h.listed x hx)
  stands x i hi := h'.stands x i (h.stands x i hi)
  wired x hx hbusy := (h'.wired x (h.listed x hx) hbusy).trans (h.wired x hx hbusy)

/-- Someone may be at it as well. -/
theorem Grows.busy {sc sc' : Scene} (h : Grows [] sc sc') (busy : List Ident) :
    Grows busy sc sc' :=
  ⟨h.active, h.listed, h.stands, fun x hx _ => h.wired x hx List.not_mem_nil⟩

theorem Advance.trans {needs : Ident → List Ident} {busy work work' : List Ident}
    {sc mid sc' : Scene} (h : Advance needs busy sc work mid)
    (h' : Advance needs busy mid work' sc') : Advance needs busy sc (work ++ work') sc' :=
  ⟨h'.orderly, h.grows.trans h'.grows, h.walk.append h'.walk⟩

/-! ### Steps -/

section Steps

variable {needs : Ident → List Ident} {sc : Scene} {id : Ident} {me : Instance}

/-- The scene in which a component has just offered itself. -/
def Scene.opened (sc : Scene) (id : Ident) (me : Instance) : Scene :=
  ((sc.mark id).start id).offer id me

/-- The scene in which a component has just been bound. -/
def Scene.closed (sc : Scene) (id : Ident) (me : Instance) : Scene := (sc.unmark id).bind id me

theorem listed_opened (hid : id ∉ sc.listed) :
    (sc.opened id me).listed = sc.listed ++ [id] := if_neg hid

/-- Opening touches only the component that is opened. -/
theorem stands_opened {x : Ident} {i : Instance} (hx : x ≠ id) (h : sc.Stands x i) :
    (sc.opened id me).Stands x i := by
  refine h.congr ?_ rfl ?_ ?_
  · show x ∈ sc.active ++ [id] ↔ _
    simp [hx]
  · exact Store.get?_erase_of_ne _ hx
  · exact Store.get?_insert_of_ne _ hx _

/-- The component that is opened stands for what it offers. -/
theorem stands_opened_self (hfinished : sc.finished.get? id = none) :
    (sc.opened id me).Stands id me := by
  refine .offered ?_ hfinished ?_ ?_
  · exact List.mem_append_right _ List.mem_cons_self
  · exact Store.get?_erase_self _ _
  · exact Store.get?_insert_self _ _ _

/-- **Opening** keeps a scene orderly. -/
theorem Orderly.opened (h : Orderly needs sc) (hid : id ∉ sc.listed) :
    Orderly needs (sc.opened id me) where
  stands x hx := by
    rw [listed_opened hid, List.mem_append, List.mem_singleton] at hx
    rcases hx with hx | rfl
    · obtain ⟨i, hi⟩ := h.stands x hx
      exact ⟨i, stands_opened (fun he => hid (he ▸ hx)) hi⟩
    · exact ⟨me, stands_opened_self (h.untouched x hid).finished⟩
  untouched x hx := by
    rw [listed_opened hid, List.mem_append, List.mem_singleton, not_or] at hx
    obtain ⟨hx, hne⟩ := hx
    have hnone := h.untouched x hx
    refine ⟨hnone.finished, ?_, ?_, ?_, hnone.wired⟩
    · exact (Store.get?_erase_of_ne _ hne).trans hnone.early
    · exact (Store.get?_insert_of_ne _ hne _).trans hnone.offer
    · intro hm
      rcases List.mem_append.1 hm with hm | hm
      · exact hnone.active hm
      · exact hne (List.mem_singleton.1 hm)
  started := by
    rw [listed_opened hid, ← h.started]
    rfl
  nodup := by
    have hadd := Roster.nodup_add h.nodup id
    rw [Roster.add, if_neg hid] at hadd
    rw [listed_opened hid]
    exact hadd
  given x e he := by
    have hi := h.given x e he
    exact stands_opened (fun heq => hid (heq ▸ h.listed hi)) hi
  complete x hx hfree := by
    have hne : x ≠ id := fun heq => hfree (List.mem_append_right _ (List.mem_singleton.2 heq))
    rw [listed_opened hid, List.mem_append, List.mem_singleton] at hx
    exact h.complete x (hx.resolve_right hne) fun hm => hfree (List.mem_append_left _ hm)

/-- An offer that is taken up stands for the same instance, as an early reference. -/
theorem stands_exposed {x : Ident} {i : Instance} (hactive : id ∈ sc.active)
    (hfinished : sc.finished.get? id = none) (hearly : sc.early.get? id = none)
    (hoffer : sc.factories.get? id = some (.handover id me)) (h : sc.Stands x i) :
    ((sc.withdraw id).expose id me).Stands x i := by
  by_cases hx : x = id
  · subst hx
    rw [h.unique (.offered hactive hfinished hearly hoffer)]
    exact .early hactive hfinished (Store.get?_insert_self _ _ _)
  · refine h.congr Iff.rfl rfl ?_ ?_
    · exact Store.get?_insert_of_ne _ hx _
    · exact Store.get?_erase_of_ne _ hx

/-- **Exposing** keeps a scene orderly. -/
theorem Orderly.exposed (h : Orderly needs sc) (hid : id ∈ sc.listed) (hactive : id ∈ sc.active)
    (hfinished : sc.finished.get? id = none) (hearly : sc.early.get? id = none)
    (hoffer : sc.factories.get? id = some (.handover id me)) :
    Orderly needs ((sc.withdraw id).expose id me) where
  stands x hx := by
    obtain ⟨i, hi⟩ := h.stands x hx
    exact ⟨i, stands_exposed hactive hfinished hearly hoffer hi⟩
  untouched x hx := by
    have hne : x ≠ id := fun heq => hx (heq ▸ hid)
    have hnone := h.untouched x hx
    refine ⟨hnone.finished, ?_, ?_, hnone.active, hnone.wired⟩
    · exact (Store.get?_insert_of_ne _ hne _).trans hnone.early
    · exact (Store.get?_erase_of_ne _ hne).trans hnone.offer
  started := h.started
  nodup := h.nodup
  given x e he := stands_exposed hactive hfinished hearly hoffer (h.given x e he)
  complete := h.complete

/-- It is progress along what is listed already. -/
theorem Advance.exposed (h : Orderly needs sc) (hid : id ∈ sc.listed) (hactive : id ∈ sc.active)
    (hfinished : sc.finished.get? id = none) (hearly : sc.early.get? id = none)
    (hoffer : sc.factories.get? id = some (.handover id me)) :
    Advance needs [] sc [id] ((sc.withdraw id).expose id me) where
  orderly := h.exposed hid hactive hfinished hearly hoffer
  grows :=
    { active := rfl
      listed := fun _ hx => hx
      stands := fun _ _ hi => stands_exposed hactive hfinished hearly hoffer hi
      wired := fun _ _ _ => rfl }
  walk := .skip hid (.done _)

/-- What was given to a component changes nothing about who stands for what. -/
theorem stands_wire {need x : Ident} {given i : Instance} (h : sc.Stands x i) :
    (sc.wire id need given).Stands x i :=
  h.congr Iff.rfl rfl rfl rfl

/-- **Giving** a component what an identifier stands for keeps a scene orderly, as long as the
    component is not finished. -/
theorem Orderly.wire {need : Ident} {given : Instance} (h : Orderly needs sc)
    (hid : id ∈ sc.listed) (hactive : id ∈ sc.active) (hgiven : sc.Stands need given) :
    Orderly needs (sc.wire id need given) where
  stands x hx := by
    obtain ⟨i, hi⟩ := h.stands x hx
    exact ⟨i, stands_wire hi⟩
  untouched x hx := by
    have hne : x ≠ id := fun heq => hx (heq ▸ hid)
    have hnone := h.untouched x hx
    exact { hnone with wired := (if_neg hne).trans hnone.wired }
  started := h.started
  nodup := h.nodup
  given x e he := by
    have he : e ∈ if x = id then sc.wired x ++ [(need, given)] else sc.wired x := he
    by_cases hx : x = id
    · rw [if_pos hx] at he
      rcases List.mem_append.1 he with he | he
      · exact stands_wire (h.given x e he)
      · rw [List.mem_singleton.1 he]
        exact stands_wire hgiven
    · rw [if_neg hx] at he
      exact stands_wire (h.given x e he)
  complete x hx hfree := by
    have hne : x ≠ id := fun heq => hfree (heq ▸ hactive)
    show ((if x = id then _ else sc.wired x) : List (Ident × Instance)).map Prod.fst = needs x
    rw [if_neg hne]
    exact h.complete x hx hfree

theorem grows_wire (sc : Scene) (id need : Ident) (given : Instance) :
    Grows [id] sc (sc.wire id need given) where
  active := rfl
  listed _ hx := hx
  stands _ _ hi := stands_wire hi
  wired _ _ hbusy := if_neg fun heq => hbusy (List.mem_singleton.2 heq)

/-- Closing touches only the component that is closed. -/
theorem stands_closed {x : Ident} {i : Instance} (hx : x ≠ id) (h : sc.Stands x i) :
    (sc.closed id me).Stands x i := by
  refine h.congr ?_ ?_ ?_ ?_
  · show x ∈ Roster.drop sc.active id ↔ _
    simp [hx]
  · exact Store.get?_insert_of_ne _ hx _
  · exact Store.get?_erase_of_ne _ hx
  · exact Store.get?_erase_of_ne _ hx

/-- The component that is closed is finished. -/
theorem stands_closed_self : (sc.closed id me).Stands id me := by
  refine .finished ?_ ?_ ?_ ?_
  · show id ∉ Roster.drop sc.active id
    simp
  · exact Store.get?_insert_self _ _ _
  · exact Store.get?_erase_self _ _
  · exact Store.get?_erase_self _ _

theorem listed_closed (hid : id ∈ sc.listed) : (sc.closed id me).listed = sc.listed := if_pos hid

/-- What stands before a component is closed stands afterwards, if the component is bound to the
    instance it stood for. -/
theorem stands_of_closed {x : Ident} {i : Instance} (hme : sc.Stands id me)
    (h : sc.Stands x i) : (sc.closed id me).Stands x i := by
  by_cases hx : x = id
  · subst hx
    rw [h.unique hme]
    exact stands_closed_self
  · exact stands_closed hx h

/-- **Closing** keeps a scene orderly, if the component was given all it needs. -/
theorem Orderly.closed (h : Orderly needs sc) (hid : id ∈ sc.listed)
    (hme : sc.Stands id me) (hall : (sc.wired id).map Prod.fst = needs id) :
    Orderly needs (sc.closed id me) where
  stands x hx := by
    rw [listed_closed hid] at hx
    obtain ⟨i, hi⟩ := h.stands x hx
    exact ⟨i, stands_of_closed hme hi⟩
  untouched x hx := by
    rw [listed_closed hid] at hx
    have hne : x ≠ id := fun heq => hx (heq ▸ hid)
    have hnone := h.untouched x hx
    refine ⟨?_, ?_, ?_, ?_, hnone.wired⟩
    · exact (Store.get?_insert_of_ne _ hne _).trans hnone.finished
    · exact (Store.get?_erase_of_ne _ hne).trans hnone.early
    · exact (Store.get?_erase_of_ne _ hne).trans hnone.offer
    · exact fun hm => hnone.active (Roster.mem_drop.1 hm).1
  started := by
    rw [listed_closed hid]
    exact h.started
  nodup := by
    rw [listed_closed hid]
    exact h.nodup
  given x e he := stands_of_closed hme (h.given x e he)
  complete x hx hfree := by
    rw [listed_closed hid] at hx
    by_cases hne : x = id
    · rw [hne]
      exact hall
    · exact h.complete x hx fun hm => hfree (Roster.mem_drop.2 ⟨hm, hne⟩)

/-- What an identifier stands for when it was opened and others were assembled since. -/
theorem Advance.stands {sc' : Scene} {work : List Ident} (h : Orderly needs sc)
    (hid : id ∉ sc.listed) (ha : Advance needs [id] (sc.opened id me) work sc') :
    sc'.Stands id me :=
  ha.grows.stands id me (stands_opened_self (h.untouched id hid).finished)

/-- The mark of a component is gone when the component is closed. -/
theorem active_closed {sc' : Scene} (hid : id ∉ sc.active) (hmarked : sc'.active = sc.active ++ [id]) :
    (sc'.closed id me).active = sc.active := by
  have hkept : sc.active.filter (· != id) = sc.active := by
    refine List.filter_eq_self.2 fun x hx => bne_iff_ne.2 ?_
    rintro rfl
    exact hid hx
  have hgone : [id].filter (· != id) = [] := List.filter_cons_of_neg (by simp)
  show Roster.drop sc'.active id = sc.active
  rw [hmarked, Roster.drop, List.filter_append, hkept, hgone, List.append_nil]

/-- **A round is closed**: opening a component, giving it what it needs and closing it is progress
    along this component. -/
theorem Advance.closed {sc' : Scene} (h : Orderly needs sc) (hid : id ∉ sc.listed)
    (ha : Advance needs [id] (sc.opened id me) (needs id) sc')
    (hall : (sc'.wired id).map Prod.fst = needs id) :
    Advance needs [] sc [id] (sc'.closed id me) := by
  have hopened : (sc.opened id me).listed = sc.listed ++ [id] := listed_opened hid
  have hmem : ∀ x ∈ sc.listed ++ [id], x ∈ sc'.listed := by
    intro x hx
    rw [← hopened] at hx
    exact ha.grows.listed x hx
  have hid' : id ∈ sc'.listed := hmem id (List.mem_append_right _ List.mem_cons_self)
  have hlisted : (sc'.closed id me).listed = sc'.listed := listed_closed hid'
  have hme : sc'.Stands id me := ha.stands h hid
  have hother : ∀ x ∈ sc.listed, x ≠ id := fun x hx heq => hid (heq ▸ hx)
  constructor
  case orderly => exact ha.orderly.closed hid' hme hall
  case grows =>
    constructor
    case active => exact active_closed (h.untouched id hid).active ha.grows.active
    case listed =>
      intro x hx
      rw [hlisted]
      exact hmem x (List.mem_append_left _ hx)
    case stands =>
      intro x i hi
      have hi' : (sc.opened id me).Stands x i := stands_opened (hother x (h.listed hi)) hi
      exact stands_of_closed hme (ha.grows.stands x i hi')
    case wired =>
      intro x hx _
      have hx' : x ∈ (sc.opened id me).listed := by
        rw [hopened]
        exact List.mem_append_left _ hx
      exact ha.grows.wired x hx' fun hm => hother x hx (List.mem_singleton.1 hm)
  case walk =>
    rw [hlisted]
    have hwalk := ha.walk
    rw [hopened] at hwalk
    exact .visit hid hwalk (.done _)

end Steps

/-! ## Room -/

/-- The number of components that are not listed yet. -/
def room (comps : Store Component) (sc : Scene) : Nat := comps.keys.countP (· ∉ sc.listed)

theorem room_le {comps : Store Component} {sc sc' : Scene}
    (h : ∀ x ∈ sc.listed, x ∈ sc'.listed) : room comps sc' ≤ room comps sc := by
  refine List.countP_mono_left fun x _ hx => ?_
  exact decide_eq_true fun hm => of_decide_eq_true hx (h x hm)

/-- Listing one more component takes room. -/
theorem room_lt {comps : Store Component} {sc sc' : Scene} {id : Ident}
    (h : ∀ x ∈ sc.listed, x ∈ sc'.listed) (hid : comps.contains id = true)
    (hnot : id ∉ sc.listed) (hnow : id ∈ sc'.listed) : room comps sc' < room comps sc := by
  obtain ⟨before, after, hkeys⟩ := List.append_of_mem (Store.contains_iff_mem_keys.1 hid)
  have hle : ∀ l : List Ident, l.countP (· ∉ sc'.listed) ≤ l.countP (· ∉ sc.listed) := by
    intro l
    refine List.countP_mono_left fun x _ hx => ?_
    exact decide_eq_true fun hm => of_decide_eq_true hx (h x hm)
  have hbefore := hle before
  have hafter := hle after
  rw [room, room, hkeys, List.countP_append, List.countP_append,
    List.countP_cons_of_neg (by simp [hnow]), List.countP_cons_of_pos (by simp [hnot])]
  omega

/-! ## The recursion -/

section Recursion

variable {c : Config} {comps : Store Component} {sc : Scene} {id need : Ident} {depth : Nat}

/-- Something listed is found: finished, early, or as an offer that is taken up. -/
theorem get_listed (hallowed : c.earlyReferences = true) (h : Orderly (needsIn comps) sc)
    (hneed : need ∈ sc.listed) :
    Plays c comps (Inner.get (.ofDepth (depth + 1)) need) sc fun found sc' =>
      ∃ there, found = some there ∧ sc'.Stands need there ∧
        Advance (needsIn comps) [] sc [need] sc' := by
  refine Plays.noted (Plays.bind (canonical_plays need) ?_)
  rintro _ sc ⟨rfl, rfl⟩
  obtain ⟨there, hstands⟩ := h.stands _ hneed
  have hstay : Advance (needsIn comps) [] sc [_] sc := ⟨h, .refl [] sc, .skip hneed (.done _)⟩
  cases hstands with
  | finished h₁ h₂ h₃ h₄ =>
    refine (lookup_finished _ h₂).mono ?_
    rintro _ _ ⟨rfl, rfl⟩
    exact ⟨there, rfl, .finished h₁ h₂ h₃ h₄, hstay⟩
  | early h₁ h₂ h₃ =>
    refine (lookup_early _ h₂ h₁ h₃).mono ?_
    rintro _ _ ⟨rfl, rfl⟩
    exact ⟨there, rfl, .early h₁ h₂ h₃, hstay⟩
  | offered h₁ h₂ h₃ h₄ =>
    refine (lookup_offered depth hallowed h₂ h₁ h₃ h₄).mono ?_
    rintro _ _ ⟨rfl, rfl⟩
    exact ⟨there, rfl, stands_exposed h₁ h₂ h₃ h₄ (.offered h₁ h₂ h₃ h₄),
      .exposed h hneed h₁ h₂ h₃ h₄⟩

/-- Under anything else nothing is found. -/
theorem get_unlisted (engine : Engine) (h : Orderly (needsIn comps) sc)
    (hneed : need ∉ sc.listed) :
    Plays c comps (Inner.get engine need) sc fun found sc' => found = none ∧ sc' = sc := by
  refine Plays.noted (Plays.bind (canonical_plays need) ?_)
  rintro _ sc ⟨rfl, rfl⟩
  have hnone := h.untouched _ hneed
  exact lookup_absent engine hnone.finished hnone.active

/-- Creating with this depth is orderly progress, as long as there is no more room than that. -/
def Creates (c : Config) (comps : Store Component) (depth : Nat) : Prop :=
  ∀ sc id, Orderly (needsIn comps) sc → id ∉ sc.listed → comps.contains id = true →
    room comps sc < depth →
    Plays c comps (Creation.getOrCreate (.ofDepth depth) id (.assembly id)) sc fun made sc' =>
      sc'.Stands id made ∧ Advance (needsIn comps) [] sc [id] sc'

/-- The same for the operation that accepts the identifier first. -/
theorem Creates.inner (hcreate : Creates c comps depth) (hplan : Blueprint c comps)
    (h : Orderly (needsIn comps) sc) (hid : id ∉ sc.listed) (hcomponent : comps.contains id = true)
    (hroom : room comps sc < depth) :
    Plays c comps (Inner.getOrCreate (.ofDepth depth) id (.assembly id)) sc fun made sc' =>
      sc'.Stands id made ∧ Advance (needsIn comps) [] sc [id] sc' := by
  refine Plays.noted (Plays.bind (accept_plays (hplan.usable id hcomponent)) ?_)
  rintro _ sc ⟨rfl, rfl⟩
  exact hcreate sc _ h hid hcomponent hroom

/-- Giving comes last, whether the need was there or had to be created. -/
theorem give_plays {sc' : Scene} {given : Instance} (hid : id ∈ sc.listed) (hactive : id ∈ sc.active)
    (hgiven : sc'.Stands need given) (hadvance : Advance (needsIn comps) [] sc [need] sc') :
    Plays c comps (do Run.record (.wired id need given); Inner.addDependency need id) sc'
      fun _ sc'' => Advance (needsIn comps) [id] sc [need] sc'' ∧
        (sc''.wired id).map Prod.fst = (sc.wired id).map Prod.fst ++ [need] := by
  refine Plays.bind (wired_plays need) ?_
  rintro _ _ rfl
  refine (addDependency_plays need id).mono ?_
  rintro _ _ rfl
  have hid' : id ∈ sc'.listed := hadvance.grows.listed id hid
  have hactive' : id ∈ sc'.active := hadvance.grows.active ▸ hactive
  have hwired : sc'.wired id = sc.wired id := hadvance.grows.wired id hid List.not_mem_nil
  constructor
  · exact ⟨hadvance.orderly.wire hid' hactive' hgiven,
      (hadvance.grows.busy [id]).trans (grows_wire sc' id need given), hadvance.walk⟩
  · show ((if id = id then sc'.wired id ++ [(need, given)] else _) : List _).map Prod.fst = _
    rw [if_pos rfl, hwired, List.map_append]
    rfl

/-- A component is given one of its needs, and what it is given stands for the need. -/
theorem supply_plays (hplan : Blueprint c comps) (hallowed : c.earlyReferences = true)
    (hcreate : Creates c comps depth) (h : Orderly (needsIn comps) sc) (hid : id ∈ sc.listed)
    (hactive : id ∈ sc.active) (hneed : comps.contains need = true)
    (hroom : room comps sc < depth) :
    Plays c comps (Assembly.supply (.ofDepth depth) id need) sc fun _ sc' =>
      Advance (needsIn comps) [id] sc [need] sc' ∧
        (sc'.wired id).map Prod.fst = (sc.wired id).map Prod.fst ++ [need] := by
  by_cases hlisted : need ∈ sc.listed
  · -- taking up an offer runs a callback, for which there must be some depth
    cases depth with
    | zero => exact absurd hroom (Nat.not_lt_zero _)
    | succ depth =>
      refine Plays.bind (get_listed hallowed h hlisted) ?_
      rintro _ sc' ⟨there, rfl, hstands, hadvance⟩
      exact give_plays hid hactive hstands hadvance
  · refine Plays.bind (get_unlisted _ h hlisted) ?_
    rintro _ sc ⟨rfl, rfl⟩
    refine Plays.bind (hcreate.inner hplan h hlisted hneed hroom) ?_
    rintro made sc' ⟨hstands, hadvance⟩
    exact give_plays hid hactive hstands hadvance

theorem supplyNeeds_plays (hplan : Blueprint c comps) (hallowed : c.earlyReferences = true)
    (hcreate : Creates c comps depth) (rest : List Ident) (h : Orderly (needsIn comps) sc)
    (hid : id ∈ sc.listed) (hactive : id ∈ sc.active)
    (hrest : ∀ need ∈ rest, comps.contains need = true) (hroom : room comps sc < depth) :
    Plays c comps (Assembly.supplyNeeds (.ofDepth depth) id rest) sc fun _ sc' =>
      Advance (needsIn comps) [id] sc rest sc' ∧
        (sc'.wired id).map Prod.fst = (sc.wired id).map Prod.fst ++ rest := by
  induction rest generalizing sc with
  | nil => exact Plays.pure ⟨⟨h, .refl _ _, .done _⟩, (List.append_nil _).symm⟩
  | cons need rest ih =>
    have hneed := hrest need List.mem_cons_self
    refine Plays.bind (supply_plays hplan hallowed hcreate h hid hactive hneed hroom) ?_
    rintro _ mid ⟨hfirst, hwired⟩
    -- the list has only become longer, so the rest has room enough
    have hrest' := ih hfirst.orderly (hfirst.grows.listed id hid) (hfirst.grows.active ▸ hactive)
      (fun x hx => hrest x (List.mem_cons_of_mem _ hx))
      (Nat.lt_of_le_of_lt (room_le hfirst.grows.listed) hroom)
    refine hrest'.mono ?_
    rintro _ sc' ⟨hlast, hwired'⟩
    refine ⟨hfirst.trans hlast, ?_⟩
    rw [hwired', hwired, List.append_assoc]
    rfl

/-- Furnishing a component that has just been started: it offers itself and is given its needs. -/
theorem furnish_plays {me : Instance} {needs : List Ident} (hplan : Blueprint c comps)
    (hallowed : c.earlyReferences = true) (hcreate : Creates c comps depth)
    (h : Orderly (needsIn comps) sc) (hid : id ∉ sc.listed) (hcomponent : comps.contains id = true)
    (hneeds : ∀ need ∈ needs, comps.contains need = true) (hroom : room comps sc < depth + 1) :
    Plays c comps (Assembly.furnish (.ofDepth depth) { needs := needs } id me)
      ((sc.mark id).start id) fun _ sc' =>
        Advance (needsIn comps) [id] (sc.opened id me) needs sc' ∧
          (sc'.wired id).map Prod.fst = needs := by
  have hnone := h.untouched id hid
  refine Plays.bind (registerFactory_plays (hplan.usable id hcomponent) hnone.finished) ?_
  rintro _ _ rfl
  refine Plays.bind (Plays.stay ()) ?_
  rintro _ _ rfl
  have hlisted : id ∈ (sc.opened id me).listed := by
    rw [listed_opened hid]
    exact List.mem_append_right _ List.mem_cons_self
  have hactive : id ∈ (sc.opened id me).active := List.mem_append_right _ List.mem_cons_self
  -- the component that is listed now takes the room that the deeper level must do without
  have hless : room comps (sc.opened id me) < depth := by
    have hsub : ∀ x ∈ sc.listed, x ∈ (sc.opened id me).listed := by
      intro x hx
      rw [listed_opened hid]
      exact List.mem_append_left _ hx
    have hlt := room_lt hsub hcomponent hid hlisted
    omega
  refine Plays.bind (supplyNeeds_plays hplan hallowed hcreate needs (h.opened hid) hlisted hactive
    hneeds hless) ?_
  rintro _ sc' ⟨hadvance, hgiven⟩
  refine Plays.pure ⟨hadvance, hgiven.trans ?_⟩
  show (sc.wired id).map Prod.fst ++ needs = needs
  rw [hnone.wired]
  rfl

/-- Assembling a component that has just been started yields what it offered. -/
theorem assemble_plays (hplan : Blueprint c comps) (hallowed : c.earlyReferences = true)
    (hcreate : Creates c comps depth) (h : Orderly (needsIn comps) sc) (hid : id ∉ sc.listed)
    (hcomponent : comps.contains id = true) (hroom : room comps sc < depth + 1) :
    Plays c comps (Assembly.assemble (.ofDepth depth) id) ((sc.mark id).start id) fun made sc' =>
      Advance (needsIn comps) [id] (sc.opened id made) (needsIn comps id) sc' ∧
        (sc'.wired id).map Prod.fst = needsIn comps id := by
  obtain ⟨component, hget⟩ := Option.isSome_iff_exists.1 hcomponent
  have hneeds : needsIn comps id = component.needs := by rw [needsIn, hget]; rfl
  have hclosed := hplan.closed id
  rw [hneeds] at hclosed ⊢
  refine Plays.bind (Plays.component id) ?_
  rintro _ _ ⟨rfl, rfl⟩
  rw [hget, hplan.plain id component hget]
  refine Plays.bind (Plays.fresh _) ?_
  rintro me _ rfl
  refine Plays.bind
    (furnish_plays hplan hallowed hcreate h hid hcomponent hclosed hroom).mapError ?_
  rintro _ sc' hpost
  exact Plays.pure hpost

/-- **Creating is orderly progress**, at any depth: the component is opened, given what it needs
    one level deeper, and closed. -/
theorem create_plays (hplan : Blueprint c comps) (hallowed : c.earlyReferences = true)
    (depth : Nat) : Creates c comps depth := by
  induction depth with
  | zero => exact fun _ _ _ _ _ hroom => absurd hroom (Nat.not_lt_zero _)
  | succ depth ih =>
    intro sc id h hid hcomponent hroom
    have hnone := h.untouched id hid
    have hstart : Plays c comps
        (Run.record (.entered .construction id none) : Run Cause Unit) (sc.mark id)
        fun _ sc' => sc' = (sc.mark id).start id :=
      Plays.record (fun _ hr => { hr with }) rfl fun _ => (List.append_nil _).symm
    refine getOrCreate_plays hnone.finished (construct_plays hnone.active (Plays.bind hstart ?_))
    rintro _ _ rfl
    refine (assemble_plays hplan hallowed ih h hid hcomponent hroom).mono ?_
    rintro made sc' ⟨hadvance, hgiven⟩
    have hactive' : id ∈ sc'.active := by
      rw [hadvance.grows.active]
      exact List.mem_append_right _ List.mem_cons_self
    -- it still stands for what it offered, and it is marked, so it is not finished yet
    have hfree : sc'.finished.get? id = none := by
      cases hadvance.stands h hid with
      | finished hnot _ _ _ => exact absurd hactive' hnot
      | early _ hnone _ => exact hnone
      | offered _ hnone _ _ => exact hnone
    exact ⟨hactive', hfree, stands_closed_self, hadvance.closed h hid hgiven⟩

end Recursion

/-! ## Whole assemblies -/

/-- Nothing was assembled yet. -/
theorem orderly_fresh (needs : Ident → List Ident) : Orderly needs {} where
  stands _ h := absurd h List.not_mem_nil
  untouched _ _ := ⟨rfl, rfl, rfl, List.not_mem_nil, rfl⟩
  started := rfl
  nodup := List.nodup_nil
  given _ _ h := absurd h List.not_mem_nil
  complete _ h := absurd h List.not_mem_nil

/-- A fresh registry shows the scene in which nothing was assembled. -/
theorem shows_fresh (c : Config) (comps : Store Component) :
    Shows c comps { registry := { config := c }, components := comps } {} :=
  ⟨⟨rfl, rfl, rfl, rfl, rfl, rfl, rfl, rfl, rfl⟩, rfl, rfl, fun _ => rfl⟩

theorem stage_eq_finished_iff (r : Registry) (id : Ident) :
    r.stage id = .finished ↔ r.finished.contains id = true := by
  rw [Registry.stage]
  constructor
  · intro h
    split at h
    · assumption
    · split at h
      · cases h
      · split at h
        · cases h
        · split at h <;> cases h
  · exact fun h => if_pos h

/-! ### At rest -/

section Rest

variable {needs : Ident → List Ident} {sc : Scene} {x : Ident}

/-- With nobody in creation, whoever stands for an instance is finished, and nothing else is kept
    under it. -/
theorem Scene.Stands.at_rest {i : Instance} (h : sc.Stands x i) (hrest : sc.active = []) :
    sc.finished.get? x = some i ∧ sc.early.get? x = none ∧ sc.factories.get? x = none := by
  have hfree : x ∉ sc.active := by
    rw [hrest]
    exact List.not_mem_nil
  cases h with
  | finished _ h₂ h₃ h₄ => exact ⟨h₂, h₃, h₄⟩
  | early h₁ _ _ => exact absurd h₁ hfree
  | offered h₁ _ _ _ => exact absurd h₁ hfree

/-- With nobody in creation, those are finished that are listed. -/
theorem Orderly.finished_iff (h : Orderly needs sc) (hrest : sc.active = []) :
    sc.finished.contains x = true ↔ x ∈ sc.listed := by
  constructor
  · intro hx
    by_cases hm : x ∈ sc.listed
    · exact hm
    · rw [Store.contains, (h.untouched x hm).finished] at hx
      cases hx
  · intro hx
    obtain ⟨i, hi⟩ := h.stands x hx
    rw [Store.contains, (hi.at_rest hrest).1]
    rfl

/-- With nobody in creation, nothing is early or on offer. -/
theorem Orderly.cleared (h : Orderly needs sc) (hrest : sc.active = []) (x : Ident) :
    sc.early.get? x = none ∧ sc.factories.get? x = none := by
  by_cases hx : x ∈ sc.listed
  · obtain ⟨i, hi⟩ := h.stands x hx
    exact (hi.at_rest hrest).2
  · exact ⟨(h.untouched x hx).early, (h.untouched x hx).offer⟩

end Rest

/-- **Cycles are resolved.**  Take any components that need one another in any way, under usable
    identifiers, and a fresh registry that allows early references.  Assembling any of them comes
    to an end and succeeds.  Afterwards exactly those are finished that are reachable along needs,
    each was constructed once, and was given for each of its needs, in order, the very instance that
    is finished under it.  Nothing is left in creation, as an early reference or as an offer, and
    the list is the depth-first order of the walk. -/
theorem wire_resolves {c : Config} {comps : Store Component} {root : Ident} {depth : Nat}
    (hplan : Blueprint c comps) (hallowed : c.earlyReferences = true)
    (hroot : comps.contains root = true) (hdepth : comps.size < depth) :
    ∃ made s', (Op.wire root).run (.ofDepth depth)
        { registry := { config := c }, components := comps } =
          some (.ok (.found (some made)), s') ∧
      s'.registry.finished.get? root = some made ∧
      (∀ id, s'.registry.stage id = .finished ↔
        ReflTransGen (fun x y => y ∈ needsIn comps x) root id) ∧
      (constructions s' = s'.registry.listed ∧ s'.registry.listed.Nodup) ∧
      (∀ id, s'.registry.stage id = .finished →
        (wirings s' id).map Prod.fst = needsIn comps id) ∧
      (∀ id need given, (need, given) ∈ wirings s' id →
        s'.registry.finished.get? need = some given) ∧
      s'.registry.marks.active = [] ∧
      (∀ id, s'.registry.early.get? id = none ∧ s'.registry.factories.get? id = none) ∧
      DepthFirst (needsIn comps) [] [root] s'.registry.listed := by
  have hroom : room comps {} < depth := by
    refine Nat.lt_of_le_of_lt List.countP_le_length ?_
    rw [Store.keys, List.length_map]
    exact hdepth
  obtain ⟨made, s', sc', hrun, hshows, hstands, hadvance⟩ :=
    (create_plays hplan hallowed depth).inner hplan (orderly_fresh _) List.not_mem_nil hroot hroom
      _ (shows_fresh c comps)
  obtain ⟨hstages, _, hstarted, hwired⟩ := hshows
  obtain ⟨_, _, _, _, hactive, hfinished, hearly, hfactories, hlisted⟩ := hstages
  have horderly := hadvance.orderly
  have hrest : sc'.active = [] := hadvance.grows.active
  -- nobody is in creation any more, so those are finished that are listed
  have hstage : ∀ x, s'.registry.stage x = .finished ↔ x ∈ sc'.listed := by
    intro x
    rw [stage_eq_finished_iff, hfinished]
    exact horderly.finished_iff hrest
  refine ⟨made, s', ?_, ?_, fun x => ?_, ⟨?_, ?_⟩, fun x hx => ?_, fun x need given hgiven => ?_, ?_,
    fun x => ?_, ?_⟩
  · rw [Op.run, Run.bind_ok hrun]
    rfl
  · rw [hfinished]
    exact (hstands.at_rest hrest).1
  · rw [hstage]
    exact hadvance.walk.mem_iff
  · rw [hstarted, hlisted]
    exact horderly.started
  · rw [hlisted]
    exact horderly.nodup
  · rw [hwired]
    refine horderly.complete x ((hstage x).1 hx) ?_
    rw [hrest]
    exact List.not_mem_nil
  · rw [hwired] at hgiven
    rw [hfinished]
    exact ((horderly.given x _ hgiven).at_rest hrest).1
  · rw [hactive]
    exact hrest
  · rw [hearly, hfactories]
    exact horderly.cleared hrest x
  · rw [hlisted]
    exact hadvance.walk

/-- Two components that need each other, one of them itself as well, one that both need, and one
    that nobody needs. -/
def knot : Store Component :=
  ⟨[("a", { needs := ["b", "a", "c"] }), ("b", { needs := ["c", "a"] }), ("c", {}),
    ("d", { needs := ["a"] })], by decide⟩

theorem blueprint_knot : Blueprint {} knot where
  plain id component h := by
    have hm := Store.mem_entries_of_get? h
    have hall : ∀ e ∈ knot.entries, e.2 = { needs := e.2.needs } := by simp [knot]
    exact hall _ hm
  closed id need h := by
    have hall : ∀ e ∈ knot.entries, ∀ need ∈ e.2.needs, knot.contains need = true := by decide
    cases hget : knot.get? id with
    | none =>
      rw [needsIn, hget] at h
      exact absurd h List.not_mem_nil
    | some component =>
      rw [needsIn, hget] at h
      exact hall (id, component) (Store.mem_entries_of_get? hget) need h
  usable id h := by
    have hall : ∀ x ∈ knot.keys, x ≠ "" ∧ x.utf8ByteSize ≤ 256 := by decide +kernel
    obtain ⟨hne, hle⟩ := hall id (Store.contains_iff_mem_keys.1 h)
    rw [Config.validateIdentifier, if_neg hne]
    exact if_neg (Nat.not_lt.2 hle)

/-- The knot is tied from any of its ends; nobody asks for what nobody needs. -/
theorem wire_resolves_knot :
    (Blueprint {} knot ∧ ({} : Config).earlyReferences = true ∧ knot.contains "a" = true ∧
      knot.size < 5) ∧
    ∃ made s', (Op.wire "a").run (.ofDepth 5) { registry := { config := {} }, components := knot } =
        some (.ok (.found (some made)), s') ∧
      s'.registry.listed = ["a", "b", "c"] ∧
      ∀ given, ("a", given) ∈ wirings s' "b" → given = made := by
  refine ⟨⟨blueprint_knot, rfl, by decide, by decide⟩, ?_⟩
  have hroot : knot.contains "a" = true := by decide
  have hdepth : knot.size < 5 := by decide
  obtain ⟨made, s', hrun, hmade, -, -, -, hgiven, -, -, hwalk⟩ :=
    wire_resolves blueprint_knot rfl hroot hdepth
  have hc : DepthFirst (needsIn knot) ["a", "b"] ["c", "a"] ["a", "b", "c"] :=
    .visit (by decide) (.done _) (.skip (by decide) (.done _))
  have ha : DepthFirst (needsIn knot) [] ["a"] ["a", "b", "c"] :=
    .visit (by decide) (.visit (by decide) hc
      (.skip (by decide) (.skip (by decide) (.done _)))) (.done _)
  refine ⟨made, s', hrun, hwalk.unique ha, fun given hm => ?_⟩
  exact Option.some.inj ((hgiven "b" "a" given hm).symm.trans hmade)

end InstanceRegistry.Wiring
