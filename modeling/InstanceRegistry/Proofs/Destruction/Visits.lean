import InstanceRegistry.Proofs.Destruction.Books

/-!
  The visits of a walk: who is visited, and what a visit has done when it ends.

  A walk may enter an identifier many times, also while an earlier visit of it is still going on.
  What counts is the FIRST visit: it takes the hook, and it finds whatever the graph still leads to.
  Later visits find no hook, and of the edges only what the first one has not taken yet.

    * Hooks run once (`Firsts`): whoever was entered is due or settled, never both and never twice,
      and the hooks that were run are those of the settled identifiers that had one at the start.
    * Debts are paid (`Frames`).  Take a first visit on the list of tasks.  Everything its
      identifier led to at the start is closed, or stands ABOVE it on the list, or can still be
      taken when it is settled.  When it comes to the top nothing is above it, so when it is closed
      everything it led to is closed (`covered`).
    * Nothing else is visited (`Within`), and what stands on the list is closed in the end
      (`owed`).

  Together: when a walk is over, those who were closed are exactly those whom the graph led to at
  the start (`mem_closed_iff`).
-/

namespace InstanceRegistry.Destruction

/-! ## First visits -/

/-- The identifier whose first visit is to be settled by a task. -/
def Task.due? : Task → Option Ident
  | settle id _ true => some id
  | _ => none

/-- Every identifier has one first visit, which runs the hook it had at the start. -/
structure Firsts (start : Registry) (w : Walk) : Prop where
  /-- No first visit is due twice, or due and settled. -/
  nodup : (w.todo.filterMap Task.due? ++ w.settled).Nodup
  /-- Whoever was entered is due or settled. -/
  entered : ∀ x, x ∈ w.entered ↔ x ∈ w.todo.filterMap Task.due? ∨ x ∈ w.settled
  /-- A first visit has taken the hook of its identifier; later ones found none. -/
  taken : ∀ x hook first, .settle x hook first ∈ w.todo →
    hook = if first then start.hooks.get? x else none
  /-- The hooks that were run are those of the settled identifiers. -/
  disposed : w.endings.map Prod.fst = w.settled.filter start.hooks.contains

theorem firsts_start (r : Registry) (ids : List Ident) : Firsts r (.start r ids) where
  nodup := by
    rw [filterMap_todo_start fun _ => rfl]
    exact List.nodup_nil
  entered x := by
    rw [filterMap_todo_start fun _ => rfl]
    show x ∈ ([] : List Ident) ↔ _ ∨ x ∈ ([] : List Ident)
    rw [or_self]
  taken x hook first h := by
    obtain ⟨y, _, hy⟩ := List.mem_map.1 h
    cases hy
  disposed := rfl

/-- The hook that was taken decides what a settled identifier adds to the endings. -/
theorem own_of_ran {start : Registry} {id : Ident} {hook : Option Routine}
    {own : List (Ident × Outcome Cause Unit)} (hran : Ran id hook own)
    (hhook : hook = start.hooks.get? id) :
    own.map Prod.fst = [id].filter start.hooks.contains := by
  cases hran with
  | none =>
    have hc : start.hooks.contains id = false := by rw [Store.contains, ← hhook]; rfl
    rw [List.filter_cons_of_neg (by rw [hc]; exact Bool.false_ne_true)]
    rfl
  | some routine ending =>
    have hc : start.hooks.contains id = true := by rw [Store.contains, ← hhook]; rfl
    rw [List.filter_cons_of_pos hc]
    rfl

section Entering

variable {start : Registry} {w : Walk} {id : Ident} {rest : List Task}

/-- Entering makes a first visit due, if it is one. -/
theorem due_enter : (w.enter id rest).todo.filterMap Task.due? =
    if id ∈ w.entered then rest.filterMap Task.due? else id :: rest.filterMap Task.due? := by
  rw [filterMap_todo_enter fun _ => rfl]
  by_cases hid : id ∈ w.entered <;> simp [hid, List.filterMap_cons, Task.due?]

/-- Entering keeps first visits in order: a new one takes the hook, another finds none. -/
theorem Firsts.enter (hbooks : Books start w) (h : Firsts start w)
    (htodo : w.todo = .enter id :: rest) : Firsts start (w.enter id rest) := by
  have hnodup := h.nodup
  have hentered := h.entered
  have htaken := h.taken
  rw [htodo] at hnodup hentered htaken
  constructor
  case nodup =>
    rw [due_enter]
    split
    · exact hnodup
    · rename_i hid
      refine List.nodup_cons.2 ⟨fun hm => hid ((hentered id).2 ?_), hnodup⟩
      exact List.mem_append.1 hm
  case entered =>
    intro x
    have hx : x ∈ w.entered ↔ x ∈ rest.filterMap Task.due? ∨ x ∈ w.settled := hentered x
    rw [due_enter]
    show x ∈ id :: w.entered ↔ _ ∨ x ∈ w.settled
    split
    · rename_i hid
      rw [← hx, List.mem_cons]
      constructor
      · rintro (rfl | hm)
        · exact hid
        · exact hm
      · exact Or.inr
    · rw [List.mem_cons, List.mem_cons, hx, or_assoc]
  case taken =>
    intro x hook first hm
    rcases List.mem_append.1 hm with hm | hm
    · obtain ⟨y, _, hy⟩ := List.mem_map.1 hm
      cases hy
    · rcases List.mem_cons.1 hm with hm | hm
      · cases hm
        rw [hbooks.hook?]
        by_cases hid : id ∈ w.entered <;> simp [hid]
      · exact htaken x hook first (List.mem_cons_of_mem _ hm)
  case disposed => exact h.disposed

end Entering

section Settling

variable {start : Registry} {w : Walk} {id : Ident} {rest : List Task}
  {own : List (Ident × Outcome Cause Unit)}

/-- What stays on the list has taken what it had taken. -/
theorem Firsts.taken_settle {hook : Option Routine} {first : Bool} (h : Firsts start w)
    (htodo : w.todo = .settle id hook first :: rest) (x : Ident) (hook' : Option Routine)
    (first' : Bool) (hm : .settle x hook' first' ∈ (w.settle id first rest own).todo) :
    hook' = if first' then start.hooks.get? x else none := by
  refine h.taken x hook' first' ?_
  rw [htodo]
  rcases List.mem_append.1 hm with hm | hm
  · obtain ⟨y, _, hy⟩ := List.mem_map.1 hm
    cases hy
  · rcases List.mem_cons.1 hm with hm | hm
    · cases hm
    · exact List.mem_cons_of_mem _ hm

/-- Settling a first visit runs the hook that the identifier had at the start. -/
theorem Firsts.settle_first {hook : Option Routine} (h : Firsts start w)
    (htodo : w.todo = .settle id hook true :: rest) (hran : Ran id hook own) :
    Firsts start (w.settle id true rest own) := by
  have hhook : hook = start.hooks.get? id := h.taken id hook true (htodo ▸ List.mem_cons_self)
  have hmap := own_of_ran hran hhook
  have hnodup := h.nodup
  have hentered := h.entered
  rw [htodo] at hnodup hentered
  have hdue : (w.settle id true rest own).todo.filterMap Task.due? = rest.filterMap Task.due? :=
    filterMap_todo_settle (fun _ => rfl) w id true rest own
  -- the identifier was due and is settled now, and so it is counted once before and after
  have hperm : (rest.filterMap Task.due? ++ (w.settled ++ [id])).Perm
      (id :: rest.filterMap Task.due? ++ w.settled) := by
    rw [← List.append_assoc]
    exact List.perm_append_singleton id _
  constructor
  case nodup =>
    rw [hdue]
    exact hperm.nodup_iff.2 hnodup
  case entered =>
    intro x
    rw [hdue, ← List.mem_append]
    show _ ↔ x ∈ rest.filterMap Task.due? ++ (w.settled ++ [id])
    rw [hperm.mem_iff, List.mem_append]
    exact hentered x
  case taken => exact h.taken_settle htodo
  case disposed =>
    show (w.endings ++ own).map Prod.fst = (w.settled ++ [id]).filter start.hooks.contains
    rw [List.map_append, List.filter_append, h.disposed, hmap]

/-- Settling a later visit runs nothing, and nothing is settled by it. -/
theorem Firsts.settle_later {hook : Option Routine} (h : Firsts start w)
    (htodo : w.todo = .settle id hook false :: rest) (hran : Ran id hook own) :
    Firsts start (w.settle id false rest own) := by
  have hhook : hook = none := h.taken id hook false (htodo ▸ List.mem_cons_self)
  have hends : (w.settle id false rest own).endings = w.endings := by
    rw [hhook] at hran
    cases hran
    exact List.append_nil _
  have hnodup := h.nodup
  have hentered := h.entered
  rw [htodo] at hnodup hentered
  have hdue : (w.settle id false rest own).todo.filterMap Task.due? = rest.filterMap Task.due? :=
    filterMap_todo_settle (fun _ => rfl) w id false rest own
  constructor
  case nodup =>
    rw [hdue]
    exact hnodup
  case entered =>
    intro x
    rw [hdue]
    exact hentered x
  case taken => exact h.taken_settle htodo
  case disposed =>
    rw [hends]
    exact h.disposed

end Settling

theorem Step.firsts {start : Registry} {w w' : Walk} (hs : Step w w')
    (hbooks : Books start w) (h : Firsts start w) : Firsts start w' := by
  cases hs with
  | enter htodo => exact h.enter hbooks htodo
  | @settle id hook first rest own htodo hran =>
    cases first with
    | false => exact h.settle_later htodo hran
    | true => exact h.settle_first htodo hran
  | @close id first rest htodo =>
    have hnodup := h.nodup
    have hentered := h.entered
    have htaken := h.taken
    rw [htodo] at hnodup hentered htaken
    exact ⟨hnodup, hentered, fun x hook first hm => htaken x hook first (List.mem_cons_of_mem _ hm),
      h.disposed⟩

/-! ## Debts -/

/-- What the first visits on a list of tasks owe.  `above` holds the identifiers that stand above
    the list, `start` is the graph the walk began with and `now` what is left of it. -/
def Frames (start now : Graph) (closed : List Ident) : List Ident → List Task → Prop
  | _, [] => True
  | above, .enter id :: rest => Frames start now closed (id :: above) rest
  | above, .settle id _ first :: rest =>
    (first = true → (∀ y ∈ start.dependentsOf id, y ∈ closed ∨ y ∈ above) ∧
      ∀ y ∈ start.containedIn id, y ∈ now.containedIn id ∨ y ∈ closed ∨ y ∈ above) ∧
    Frames start now closed (id :: above) rest
  | above, .close id first :: rest =>
    (now.containedIn id = [] ∧ (first = true → ∀ y, start.Leads id y → y ∈ closed ∨ y ∈ above)) ∧
    Frames start now closed (id :: above) rest

/-- A debt is kept when the graph loses only what is closed or put above. -/
theorem Frames.mono {start now now' : Graph} {closed closed' : List Ident} {todo : List Task}
    {above above' : List Ident}
    (hpaid : ∀ y, y ∈ closed ∨ y ∈ above → y ∈ closed' ∨ y ∈ above')
    (hleft : ∀ x, ∀ y ∈ now.containedIn x, y ∈ now'.containedIn x ∨ y ∈ closed' ∨ y ∈ above')
    (hnil : ∀ x, now.containedIn x = [] → now'.containedIn x = [])
    (h : Frames start now closed above todo) : Frames start now' closed' above' todo := by
  induction todo generalizing above above' with
  | nil => trivial
  | cons task rest ih =>
    -- one more identifier stands above the rest, on both sides
    have hrest : ∀ id, Frames start now closed (id :: above) rest →
        Frames start now' closed' (id :: above') rest := by
      intro id
      refine ih (fun y hy => ?_) (fun x y hy => ?_)
      · rcases hy with hy | hy
        · exact (hpaid y (Or.inl hy)).imp_right (List.mem_cons_of_mem _)
        · rcases List.mem_cons.1 hy with rfl | hy
          · exact Or.inr List.mem_cons_self
          · exact (hpaid y (Or.inr hy)).imp_right (List.mem_cons_of_mem _)
      · exact (hleft x y hy).imp_right fun hy => hy.imp_right (List.mem_cons_of_mem _)
    cases task with
    | enter id => exact hrest id h
    | settle id hook first =>
      refine ⟨fun hfirst => ⟨fun y hy => hpaid y ((h.1 hfirst).1 y hy), fun y hy => ?_⟩,
        hrest id h.2⟩
      rcases (h.1 hfirst).2 y hy with hy | hy
      · exact hleft id y hy
      · exact Or.inr (hpaid y hy)
    | close id first =>
      exact ⟨⟨hnil id h.1.1, fun hfirst y hy => hpaid y (h.1.2 hfirst y hy)⟩, hrest id h.2⟩

/-- Identifiers that are to be entered stand above what follows them. -/
theorem Frames.enters {start now : Graph} {closed above : List Ident} {rest : List Task}
    (ids : List Ident) (h : Frames start now closed (ids ++ above) rest) :
    Frames start now closed above (ids.map .enter ++ rest) := by
  induction ids generalizing above with
  | nil => exact h
  | cons id ids ih =>
    -- it does not matter in which order they stand above
    refine ih (h.mono (fun y hy => hy.imp_right fun hy => ?_) (fun x y hy => Or.inl hy)
      fun x hx => hx)
    rcases List.mem_append.1 hy with hy | hy
    · rcases List.mem_cons.1 hy with rfl | hy
      · exact List.mem_append_right _ List.mem_cons_self
      · exact List.mem_append_left _ hy
    · exact List.mem_append_right _ (List.mem_cons_of_mem _ hy)

/-- The identifier whose first visit is still going on in a task. -/
def Task.open? : Task → Option Ident
  | settle id _ true => some id
  | close id true => some id
  | _ => none

/-- A walk pays its debts. -/
structure Paying (start : Graph) (w : Walk) : Prop where
  /-- What first visits owe is on its way. -/
  frames : Frames start w.registry.graph w.closed [] w.todo
  /-- Once a first visit is over, everything its identifier led to is closed. -/
  covered : ∀ x ∈ w.entered, x ∈ w.todo.filterMap Task.open? ∨
    x ∈ w.closed ∧ ∀ y, start.Leads x y → y ∈ w.closed

theorem paying_start (r : Registry) (ids : List Ident) : Paying r.graph (.start r ids) where
  frames := by
    have h : Frames r.graph r.graph [] [] (ids.map .enter ++ []) := Frames.enters ids trivial
    rwa [List.append_nil] at h
  covered _ h := absurd h List.not_mem_nil

/-- What is left of an identifier that was never entered, and what is closed, are all it had. -/
theorem Trimmed.paid {before after : Adjacency} {entered closed : List Ident} {x y : Ident}
    (h : Trimmed before after entered closed) (hx : x ∉ entered) (hy : y ∈ before.neighbours x) :
    y ∈ closed ∨ y ∈ after.neighbours x := by
  rw [h.outside x hx]
  by_cases hc : y ∈ closed
  · exact Or.inl hc
  · exact Or.inr (List.mem_filter.2 ⟨hy, decide_eq_true hc⟩)

/-- Entering: what depended on the identifier comes above its settling. -/
theorem Frames.enter {start : Graph} {w : Walk} {id : Ident} {rest : List Task}
    (hp : Pruned start w) (h : Frames start w.registry.graph w.closed [] (.enter id :: rest)) :
    Frames start (w.enter id rest).registry.graph w.closed [] (w.enter id rest).todo := by
  have hrest : Frames start w.registry.graph w.closed [id] rest := h
  refine Frames.enters _ ⟨fun hfirst => ?_, ?_⟩
  · have hid : id ∉ w.entered := of_decide_eq_true hfirst
    refine ⟨fun y hy => ?_, fun y hy => ?_⟩
    · rw [List.append_nil]
      exact hp.dependents.paid hid hy
    · exact (hp.contained.paid hid hy).elim (fun hc => Or.inr (Or.inl hc)) Or.inl
  · refine hrest.mono (fun y hy => hy.imp_right fun hy => ?_) (fun x y hy => Or.inl ?_) fun x hx => ?_
    · rw [List.mem_singleton.1 hy]
      exact List.mem_cons_self
    · exact hy
    · exact hx

/-- Settling: what the identifier contained comes above its closing. -/
theorem Frames.settle {start : Graph} {w : Walk} {id : Ident} {hook : Option Routine}
    {first : Bool} {rest : List Task} {own : List (Ident × Outcome Cause Unit)}
    (h : Frames start w.registry.graph w.closed [] (.settle id hook first :: rest)) :
    Frames start (w.settle id first rest own).registry.graph w.closed []
      (w.settle id first rest own).todo := by
  obtain ⟨howed, hrest⟩ := h
  -- the contained edges of `id` are the only ones that are taken
  have htaken : ∀ x, (release w.registry id).graph.containedIn x =
      if x = id then [] else w.registry.graph.containedIn x :=
    fun x => Adjacency.neighbours_erase _ _ _
  refine Frames.enters _ ⟨⟨?_, fun hfirst y hy => ?_⟩, ?_⟩
  · show (release w.registry id).graph.containedIn id = []
    rw [htaken, if_pos rfl]
  · rw [List.append_nil]
    rcases hy with hy | hy
    · exact ((howed hfirst).1 y hy).imp_right fun hy => absurd hy List.not_mem_nil
    · rcases (howed hfirst).2 y hy with hy | hy | hy
      · exact Or.inr hy
      · exact Or.inl hy
      · exact absurd hy List.not_mem_nil
  · refine hrest.mono (fun y hy => hy.imp_right fun hy => ?_) (fun x y hy => ?_) fun x hx => ?_
    · rw [List.mem_singleton.1 hy]
      exact List.mem_cons_self
    · by_cases hx : x = id
      · rw [hx] at hy
        exact Or.inr (Or.inr (List.mem_cons_of_mem _ (List.mem_append_left _ hy)))
      · refine Or.inl ?_
        show y ∈ (release w.registry id).graph.containedIn x
        rwa [htaken, if_neg hx]
    · show (release w.registry id).graph.containedIn x = []
      rw [htaken, hx, ite_self]

/-- Closing: the identifier itself is paid for, and no edge that matters is lost. -/
theorem Frames.close {start : Graph} {w : Walk} {id : Ident} {first : Bool} {rest : List Task}
    (h : Frames start w.registry.graph w.closed [] (.close id first :: rest)) :
    Frames start (w.close id rest).registry.graph (w.close id rest).closed []
      (w.close id rest).todo := by
  obtain ⟨⟨hnil, _⟩, hrest⟩ := h
  refine hrest.mono (fun y hy => Or.inl ?_) (fun x y hy => ?_) fun x hx => ?_
  · rcases hy with hy | hy
    · exact List.mem_cons_of_mem _ hy
    · rw [List.mem_singleton.1 hy]
      exact List.mem_cons_self
  · by_cases hxy : x ≠ id ∧ y ≠ id
    · exact Or.inl (Adjacency.mem_neighbours_forget.2 ⟨hy, hxy⟩)
    · refine Or.inr (Or.inl ?_)
      have hx : x ≠ id := by
        rintro rfl
        rw [hnil] at hy
        exact absurd hy List.not_mem_nil
      have hyid : y = id := Decidable.not_not.1 fun hne => hxy ⟨hx, hne⟩
      rw [hyid]
      exact List.mem_cons_self
  · show (w.registry.graph.contained.forget id).neighbours x = []
    rw [Adjacency.neighbours_forget, show w.registry.graph.contained.neighbours x = [] from hx]
    exact ite_self _

/-- Entering a first visit leaves it open. -/
theorem Paying.enter {start : Graph} {w : Walk} {id : Ident} {rest : List Task}
    (hp : Pruned start w) (h : Paying start w) (htodo : w.todo = .enter id :: rest) :
    Paying start (w.enter id rest) := by
  have hframes := h.frames
  have hcovered := h.covered
  rw [htodo] at hframes hcovered
  refine ⟨hframes.enter hp, fun x hx => ?_⟩
  show _ ∨ x ∈ w.closed ∧ ∀ y, start.Leads x y → y ∈ w.closed
  rw [filterMap_todo_enter fun _ => rfl]
  by_cases hid : id ∈ w.entered
  · have hx' : x ∈ w.entered := by
      rcases List.mem_cons.1 hx with rfl | hx
      · exact hid
      · exact hx
    simpa [hid, List.filterMap_cons, Task.open?] using hcovered x hx'
  · rcases List.mem_cons.1 hx with rfl | hx
    · exact Or.inl (by simp [hid, Task.open?])
    · refine (hcovered x hx).imp_left fun hm => ?_
      simp only [hid, List.filterMap_cons, Task.open?] at hm ⊢
      exact List.mem_cons_of_mem _ hm

/-- Closing a first visit needs everything its identifier led to to be closed. -/
theorem Paying.close {start : Graph} {w : Walk} {id : Ident} {first : Bool} {rest : List Task}
    (h : Paying start w) (htodo : w.todo = .close id first :: rest) :
    Paying start (w.close id rest) := by
  have hframes := h.frames
  have hcovered := h.covered
  rw [htodo] at hframes hcovered
  refine ⟨hframes.close, fun x hx => ?_⟩
  show _ ∨ x ∈ id :: w.closed ∧ ∀ y, start.Leads x y → y ∈ id :: w.closed
  rcases hcovered x hx with hm | ⟨hc, hl⟩
  · cases first with
    | false => exact Or.inl hm
    | true =>
      rcases List.mem_cons.1 hm with rfl | hm
      · refine Or.inr ⟨List.mem_cons_self, fun y hy => List.mem_cons_of_mem _ ?_⟩
        exact (hframes.1.2 rfl y hy).resolve_right List.not_mem_nil
      · exact Or.inl hm
  · exact Or.inr ⟨List.mem_cons_of_mem _ hc, fun y hy => List.mem_cons_of_mem _ (hl y hy)⟩

theorem Step.paying {start : Graph} {w w' : Walk} (hs : Step w w')
    (hp : Pruned start w) (h : Paying start w) : Paying start w' := by
  cases hs with
  | enter htodo => exact h.enter hp htodo
  | @settle id hook first rest own htodo _ =>
    have hframes := h.frames
    have hcovered := h.covered
    rw [htodo] at hframes hcovered
    refine ⟨hframes.settle, fun x hx => ?_⟩
    rw [filterMap_todo_settle fun _ => rfl]
    cases first with
    | false => exact hcovered x hx
    | true => exact hcovered x hx
  | close htodo => exact h.close htodo

/-! ## Who is visited -/

/-- A walk visits only what the graph led to from the identifiers it started with. -/
structure Within (start : Graph) (roots : List Ident) (w : Walk) : Prop where
  todo : ∀ x ∈ w.todo.map Task.id, ∃ root ∈ roots, start.Reaches root x
  entered : ∀ x ∈ w.entered, ∃ root ∈ roots, start.Reaches root x

theorem map_id_enter (ids : List Ident) : (ids.map Task.enter).map Task.id = ids := by
  rw [List.map_map]
  exact List.map_id ids

theorem within_start (r : Registry) (ids : List Ident) : Within r.graph ids (.start r ids) where
  todo x hx := by
    rw [Walk.start, map_id_enter] at hx
    exact ⟨x, hx, .refl⟩
  entered _ h := absurd h List.not_mem_nil

theorem Step.within {start : Graph} {roots : List Ident} {w w' : Walk} (hs : Step w w')
    (hp : Pruned start w) (h : Within start roots w) : Within start roots w' := by
  have htodo := h.todo
  cases hs with
  | @enter id rest hw =>
    rw [hw] at htodo
    obtain ⟨root, hroot, hid⟩ := htodo id List.mem_cons_self
    refine ⟨fun x hx => ?_, fun x hx => ?_⟩
    · rw [Walk.enter, List.map_append, map_id_enter] at hx
      rcases List.mem_append.1 hx with hx | hx
      · exact ⟨root, hroot, hid.tail (Or.inl (hp.dependents.subset id hx))⟩
      · exact htodo x hx
    · rcases List.mem_cons.1 hx with rfl | hx
      · exact ⟨root, hroot, hid⟩
      · exact h.entered x hx
  | @settle id hook first rest own hw _ =>
    rw [hw] at htodo
    obtain ⟨root, hroot, hid⟩ := htodo id List.mem_cons_self
    refine ⟨fun x hx => ?_, h.entered⟩
    rw [Walk.settle, List.map_append, map_id_enter] at hx
    rcases List.mem_append.1 hx with hx | hx
    · exact ⟨root, hroot, hid.tail (Or.inr (hp.contained.subset id hx))⟩
    · exact htodo x hx
  | @close id first rest hw =>
    rw [hw] at htodo
    exact ⟨fun x hx => htodo x (List.mem_cons_of_mem _ hx), h.entered⟩

/-- What stands on the list of tasks is closed, or it stands there still. -/
theorem Step.owed {w w' : Walk} {x : Ident} (hs : Step w w')
    (h : x ∈ w.closed ∨ x ∈ w.todo.map Task.id) : x ∈ w'.closed ∨ x ∈ w'.todo.map Task.id := by
  rcases h with h | h
  · cases hs with
    | enter _ => exact Or.inl h
    | settle _ _ => exact Or.inl h
    | close _ => exact Or.inl (List.mem_cons_of_mem _ h)
  · cases hs with
    | @enter id rest hw =>
      rw [hw] at h
      rw [Walk.enter, List.map_append]
      exact Or.inr (List.mem_append_right _ h)
    | @settle id hook first rest own hw _ =>
      rw [hw] at h
      rw [Walk.settle, List.map_append]
      exact Or.inr (List.mem_append_right _ h)
    | @close id first rest hw =>
      rw [hw] at h
      rcases List.mem_cons.1 h with rfl | h
      · exact Or.inl List.mem_cons_self
      · exact Or.inr h

/-! ## All together -/

/-- What is known of a walk at any moment. -/
structure Sound (start : Registry) (roots : List Ident) (w : Walk) : Prop where
  books : Books start w
  pruned : Pruned start.graph w
  firsts : Firsts start w
  paying : Paying start.graph w
  within : Within start.graph roots w
  owed : ∀ x ∈ roots, x ∈ w.closed ∨ x ∈ w.todo.map Task.id

theorem sound_start (r : Registry) (roots : List Ident) :
    Sound r roots (.start r roots) where
  books := books_start r roots
  pruned := pruned_start r roots
  firsts := firsts_start r roots
  paying := paying_start r roots
  within := within_start r roots
  owed x hx := by
    rw [Walk.start, map_id_enter]
    exact Or.inr hx

theorem Step.sound {start : Registry} {roots : List Ident} {w w' : Walk} (hs : Step w w')
    (h : Sound start roots w) : Sound start roots w' where
  books := hs.books h.books
  pruned := hs.pruned h.pruned
  firsts := hs.firsts h.books h.firsts
  paying := hs.paying h.pruned h.paying
  within := hs.within h.pruned h.within
  owed x hx := hs.owed (h.owed x hx)

/-- **A walk is sound** from its start to its end. -/
theorem Steps.sound {r : Registry} {roots : List Ident} {w : Walk}
    (hs : Steps (.start r roots) w) : Sound r roots w :=
  Steps.keep (fun _ _ hs h => hs.sound h) hs (sound_start r roots)

namespace Sound

variable {start : Registry} {roots : List Ident} {w : Walk} {x : Ident}

/-- At the end, whoever was entered was closed as well, with all it led to. -/
theorem closed_of_entered (h : Sound start roots w) (hdone : w.todo = [])
    (hx : x ∈ w.entered) : x ∈ w.closed ∧ ∀ y, start.graph.Leads x y → y ∈ w.closed := by
  rcases h.paying.covered x hx with hm | hc
  · rw [hdone] at hm
    exact absurd hm List.not_mem_nil
  · exact hc

/-- **At the end those were closed whom the graph led to at the start.** -/
theorem mem_closed_iff (h : Sound start roots w) (hdone : w.todo = []) :
    x ∈ w.closed ↔ ∃ root ∈ roots, start.graph.Reaches root x := by
  constructor
  · exact fun hx => h.within.entered x (h.pruned.closed x hx)
  · rintro ⟨root, hroot, hpath⟩
    -- along the path: whoever is closed was entered, so all it leads to is closed
    induction hpath with
    | refl =>
      refine (h.owed root hroot).resolve_right fun hm => ?_
      rw [hdone] at hm
      exact absurd hm List.not_mem_nil
    | tail _ hl ih => exact (h.closed_of_entered hdone (h.pruned.closed _ ih)).2 _ hl

theorem mem_entered_iff (h : Sound start roots w) (hdone : w.todo = []) :
    x ∈ w.entered ↔ ∃ root ∈ roots, start.graph.Reaches root x := by
  rw [← h.mem_closed_iff hdone]
  exact ⟨fun hx => (h.closed_of_entered hdone hx).1, h.pruned.closed x⟩

/-- At the end everyone who was entered is settled. -/
theorem mem_settled_iff (h : Sound start roots w) (hdone : w.todo = []) :
    x ∈ w.settled ↔ ∃ root ∈ roots, start.graph.Reaches root x := by
  rw [← h.mem_entered_iff hdone, h.firsts.entered, hdone]
  exact (or_iff_right List.not_mem_nil).symm

end Sound

end InstanceRegistry.Destruction
