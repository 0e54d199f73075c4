import InstanceRegistry.Proofs.Courses.Moments
import InstanceRegistry.Proofs.Creation.Listing
import InstanceRegistry.Proofs.Destruction.Hookless
import InstanceRegistry.Proofs.Production.Memo
import InstanceRegistry.Proofs.Production.Resolution

/-!
  Products are served as by a memo table.

  A registry takes TURNS: it resolves products, binds instances, removes and destroys.  Nothing is in
  creation, there are no hooks, and the callbacks do not call back: each comes to what was dealt with
  its turn.  Then every turn ends as a memo table says, with the same callbacks run in the same
  order and passed the same, and the table tells afterwards what is cached (`serve_eq_memo`).

  A table TELLS of a registry if it holds for every identifier what is kept there, and knows whom
  destroying whom takes away.  The argument goes turn by turn.  What a request makes is a bind of
  callbacks on both sides, and matches callback by callback (`Run.Makes`); the mark under which a
  shared product is processed is cleared again, whatever the post-processor ends with.  The changes of
  the registry each match a change of the table (`Memo.Tells.store` and its companions).
-/

namespace InstanceRegistry

/-! ## Turns of a registry -/

/-- Hand an instance over. -/
def Run.issue {ε : Type} (i : Instance) : Run ε Instance := fun s =>
  some (.ok (i.issue s.supply).1, { s with supply := (i.issue s.supply).2 })

namespace Deal

/-- Run as a step. -/
def produce (deal : Deal) (id : Ident) : Run Cause (Option Instance) := do
  Run.record (.entered .production id none)
  match ← Run.conclude deal.step with
  | none => return none
  | some made => return some (← Run.issue made)

/-- Run as a post-processor. -/
def polish (deal : Deal) (id : Ident) (product : Instance) : Run Cause Instance := do
  Run.record (.entered .postProcessing id (some product))
  Run.issue (← Run.conclude (deal.process product))

/-- The engine whose callbacks come to what is dealt. -/
def engine (deal : Deal) (id : Ident) (base : Engine) : Engine :=
  { base with
    produce := fun _ => deal.produce id
    process := fun _ product x => deal.polish x product }

end Deal

namespace Turn

/-- Take a turn. -/
def run (engine : Engine) : Turn → Run Failure (Answer Instance)
  | .resolve id step shared post deal =>
    (Op.resolveProduct id step shared post).run (deal.engine id engine)
  | .register id made => do
    Operations.registerInstance id (← Run.issue made)
    return .unit
  | .remove id => (Op.change (.remove id)).run engine
  | .destroy id => (Op.destroyOne id).run engine

/-- Take turns one after another, whatever each of them ends with. -/
def serve (engine : Engine) : List Turn → Run Failure (List (Outcome Failure (Answer Instance)))
  | [] => return []
  | turn :: rest => do
    let result ← (turn.run engine).attempt
    return result :: (← serve engine rest)

end Turn

/-- What of a registry stays as it is in every turn. -/
def Registry.terms (r : Registry) : Memo.Terms where
  accept := r.accept
  canonical := r.canonical
  isOpen := r.lifecycle.allowsCreation
  processes := r.postProcessor.isSome

/-! ## What a table tells -/

namespace Memo

/-- A table tells of a registry in which nothing is in creation and nothing hooked. -/
structure Tells (engine : Engine) (memo : Memo) (r : Registry) : Prop where
  /-- It holds something for those who are finished. -/
  finished : ∀ id, (memo.kept id).isSome = r.finished.contains id
  /-- What it holds is the product that is kept. -/
  products : ∀ id, (memo.kept id).join = r.products.get? id
  /-- Destroying takes away what the graph leads to. -/
  takes : ∀ x y, memo.takes x y = true ↔ r.graph.Reaches x y
  /-- Every instance in the registry has got its serial number. -/
  numbered : ∀ id i, r.finished.get? id = some i ∨ r.products.get? id = some i →
    i.serial < memo.supply
  unmarked : r.marks.active = []
  hookless : r.hooks = ∅
  /-- Destructions come to an end within the depth of the engine. -/
  shallow : r.graph.nesting < engine.depth

/-- Every registry at rest has a table that tells of it, if its books agree. -/
theorem exists_tells {engine : Engine} {s : Session} (hbooks : s.registry.Bookkept)
    (hnumbered : ∀ id i, s.registry.finished.get? id = some i ∨ s.registry.products.get? id = some i →
      i.serial < s.supply)
    (hunmarked : s.registry.marks.active = []) (hhookless : s.registry.hooks = ∅)
    (hshallow : s.registry.graph.nesting < engine.depth) :
    ∃ memo : Memo, memo.supply = s.supply ∧ memo.Tells engine s.registry := by
  classical
  refine ⟨⟨fun id => if s.registry.finished.contains id then some (s.registry.products.get? id)
    else none, fun x y => decide (s.registry.graph.Reaches x y), s.supply⟩, rfl, fun id => ?_,
    fun id => ?_, fun x y => decide_eq_true_iff, hnumbered, hunmarked, hhookless, hshallow⟩
  · dsimp only
    cases s.registry.finished.contains id <;> rfl
  · dsimp only
    split
    · rfl
    · -- who is not finished has no product
      rename_i hunfinished
      have hnone : s.registry.products.get? id = none := by
        refine Store.get?_eq_none_iff.2 fun hid => hunfinished ?_
        exact Store.contains_iff_mem_keys.2 (hbooks.products hid)
      rw [hnone]
      rfl

/-- The table of a new registry. -/
def blank (supply : Nat) : Memo := ⟨fun _ => none, fun x y => decide (x = y), supply⟩

/-- It tells of every registry in which there is nothing yet, whatever its settings. -/
theorem tells_blank {engine : Engine} {r : Registry} (supply : Nat) (hfinished : r.finished = ∅)
    (hproducts : r.products = ∅) (hgraph : r.graph = {}) (hmarks : r.marks.active = [])
    (hhooks : r.hooks = ∅) (hdepth : 0 < engine.depth) : (blank supply).Tells engine r := by
  refine ⟨fun id => ?_, fun id => ?_, fun x y => ?_, fun id i hi => ?_, hmarks, hhooks, ?_⟩
  · rw [hfinished]
    rfl
  · rw [hproducts]
    rfl
  · have hleads : ∀ y z, ¬ r.graph.Leads y z := by
      rw [hgraph]
      rintro y z (hz | hz) <;> cases hz
    refine decide_eq_true_iff.trans ⟨?_, fun hpath => ?_⟩
    · rintro rfl
      exact .refl
    · cases hpath with
      | refl => rfl
      | tail _ hlast => exact absurd hlast (hleads _ _)
  · rw [hfinished, hproducts] at hi
    rcases hi with hi | hi <;> cases hi
  · rw [hgraph]
    exact hdepth

/-! ## Changes of a table -/

namespace Tells

variable {engine : Engine} {memo : Memo} {r r' : Registry} {id : Ident}

/-- More serial numbers may be given out. -/
theorem raise (h : memo.Tells engine r) {supply : Nat} (hmore : memo.supply ≤ supply) :
    { memo with supply }.Tells engine r :=
  { h with numbered := fun x i hi => Nat.lt_of_lt_of_le (h.numbered x i hi) hmore }

/-- Keeping a product for who is finished. -/
theorem store (h : memo.Tells engine r) (hfinished : (memo.kept id).isSome = true)
    {product : Instance} (hserial : product.serial < memo.supply) :
    (memo.hold id (some product)).Tells engine (r.storeProduct id product) := by
  have hmem : id ∈ r.finished.keys :=
    Store.contains_iff_mem_keys.1 ((h.finished id).symm.trans hfinished)
  have hproduct : ∀ x, (r.storeProduct id product).products.get? x =
      if x = id then some product else r.products.get? x := by
    intro x
    split
    · subst x
      exact Registry.products_storeProduct_self product hmem
    · rename_i hne
      exact Registry.products_storeProduct_of_ne product hne
  have hrest := Registry.storeProduct_eq r id product
  refine ⟨fun x => ?_, fun x => ?_, ?_, fun x i hi => ?_, ?_, ?_, ?_⟩
  · rw [Registry.finished_storeProduct, ← h.finished, hold]
    dsimp only
    split
    · subst x
      exact hfinished.symm
    · rfl
  · rw [hproduct, ← h.products, hold]
    dsimp only
    split <;> rfl
  · rw [hrest]
    exact h.takes
  · rw [Registry.finished_storeProduct, hproduct] at hi
    rcases hi with hi | hi
    · exact h.numbered x i (.inl hi)
    · split at hi
      · cases hi
        exact hserial
      · exact h.numbered x i (.inr hi)
  · rw [hrest]
    exact h.unmarked
  · rw [hrest]
    exact h.hookless
  · rw [hrest]
    exact h.shallow

/-- Binding an instance: nothing is held for it yet. -/
theorem commit (h : memo.Tells engine r) {made : Instance} (hserial : made.serial < memo.supply)
    (hcommit : r.commit id made = .ok r') : (memo.hold id none).Tells engine r' := by
  obtain ⟨hfree, rfl⟩ := Registry.commit_eq hcommit
  have hnone : memo.kept id = none := by
    have hsome := h.finished id
    rw [Store.contains, hfree] at hsome
    exact Option.not_isSome_iff_eq_none.1 (by rw [hsome]; decide)
  refine ⟨fun x => ?_, fun x => ?_, h.takes, fun x i hi => ?_, h.unmarked, h.hookless, h.shallow⟩
  · rw [Store.contains, Store.get?_insert, hold]
    dsimp only
    split
    · rfl
    · exact h.finished x
  · rw [hold]
    dsimp only
    rw [← h.products]
    split
    · subst x
      rw [hnone]
      rfl
    · rfl
  · rw [Store.get?_insert] at hi
    rcases hi with hi | hi
    · split at hi
      · cases hi
        exact hserial
      · exact h.numbered x i (.inl hi)
    · exact h.numbered x i (.inr hi)

/-- Taking away what is kept under some identifiers, and perhaps edges. -/
theorem drop (h : memo.Tells engine r) {gone : Ident → Bool} {takes : Ident → Ident → Bool}
    (hfinished : ∀ x, r'.finished.get? x = if gone x then none else r.finished.get? x)
    (hproducts : ∀ x, r'.products.get? x = if gone x then none else r.products.get? x)
    (htakes : ∀ x y, takes x y = true ↔ r'.graph.Reaches x y)
    (hunmarked : r'.marks.active = []) (hhookless : r'.hooks = ∅)
    (hshallow : r'.graph.nesting < engine.depth) :
    { memo.drop gone with takes }.Tells engine r' := by
  refine ⟨fun x => ?_, fun x => ?_, htakes, fun x i hi => ?_, hunmarked, hhookless, hshallow⟩
  · rw [Store.contains, hfinished, Memo.drop]
    dsimp only
    split
    · rfl
    · exact h.finished x
  · rw [hproducts, ← h.products, Memo.drop]
    dsimp only
    split <;> rfl
  · rw [hfinished, hproducts] at hi
    split at hi
    · rcases hi with hi | hi <;> cases hi
    · exact h.numbered x i hi

/-- Removing an identifier. -/
theorem purge (h : memo.Tells engine r) (id : Ident) :
    (memo.drop (· = id)).Tells engine (r.purge id) := by
  have herase : ∀ {α : Type} (store : Store α) (x : Ident), (store.erase id).get? x =
      if decide (x = id) then none else store.get? x := by
    intro α store x
    rw [Store.get?_erase]
    by_cases hx : x = id <;> simp [hx]
  have hdrop : { memo.drop (· = id) with takes := memo.takes }.Tells engine (r.purge id) :=
    h.drop (herase _) (herase _) h.takes h.unmarked h.hookless h.shallow
  exact hdrop

/-- Destroying an identifier. -/
theorem destroy (h : memo.Tells engine r) {gone : List Ident}
    (hgone : ∀ x, x ∈ gone ↔ r.graph.Reaches id x)
    (hbooks : r' = { r.without gone with graph := r'.graph })
    (hreaches : ∀ x y, r'.graph.Reaches x y ↔
      x = y ∨ r.graph.Reaches x y ∧ ¬ r.graph.Reaches id y)
    (hshallow : r'.graph.nesting < engine.depth) : (memo.destroy id).Tells engine r' := by
  have hrestrict : ∀ {α : Type} (store : Store α) (x : Ident),
      (store.restrict (· ∉ gone)).get? x = if memo.takes id x then none else store.get? x := by
    intro α store x
    have htaken : x ∈ gone ↔ memo.takes id x = true := (hgone x).trans (h.takes id x).symm
    rw [Destruction.get?_without]
    simp only [htaken]
  refine h.drop (fun x => ?_) (fun x => ?_) (fun x y => ?_) ?_ ?_ hshallow
  · rw [hbooks]
    exact hrestrict r.finished x
  · rw [hbooks]
    exact hrestrict r.products x
  · rw [hreaches, Bool.or_eq_true, Bool.and_eq_true, decide_eq_true_eq, h.takes,
      Bool.not_eq_true', ← Bool.not_eq_true, h.takes]
  · rw [hbooks]
    exact h.unmarked
  · rw [hbooks]
    show r.hooks.restrict (· ∉ gone) = ∅
    rw [h.hookless]
    rfl

/-- Who is not in creation can be. -/
theorem exists_enter (h : memo.Tells engine r) (id : Ident) :
    ∃ marks, r.marks.enter id = .ok marks := by
  cases henter : r.marks.enter id with
  | ok marks => exact ⟨marks, rfl⟩
  | error failure =>
    have hchecked := Marks.enter_refused_iff.1 ⟨failure, henter⟩
    rw [Marks.isChecked, Marks.isActive, h.unmarked] at hchecked
    simp at hchecked

theorem idle (h : memo.Tells engine r) (id : Ident) : r.marks.isActive id = false := by
  rw [Marks.isActive, h.unmarked]
  rfl

end Tells

end Memo

/-! ## Serial numbers -/

/-- Whatever is handed over has got its serial number then. -/
theorem Instance.issue_lt (i : Instance) (supply : Nat) :
    (i.issue supply).1.serial < (i.issue supply).2 := by
  rw [issue]
  split
  · assumption
  · exact Nat.lt_succ_self supply

theorem Instance.le_issue (i : Instance) (supply : Nat) : supply ≤ (i.issue supply).2 := by
  rw [issue]
  split
  · exact Nat.le_refl _
  · exact Nat.le_succ _

namespace Memo

/-- No serial number is given back, and all instances that are made or passed have got theirs. -/
structure Making.Sound (supply : Nat) (m : Making) : Prop where
  more : supply ≤ m.supply
  made : ∀ product, m.outcome = .ok product → product.serial < m.supply
  passed : ∀ role i, (role, some i) ∈ m.callbacks → i.serial < m.supply

namespace Making

variable {supply : Nat}

theorem sound_run (role : Role) {passed : Option Instance} (wrap : Cause → Failure)
    (hpassed : ∀ i, passed = some i → i.serial < supply) (outcome : Outcome Cause Instance) :
    (run role passed wrap supply outcome).Sound supply := by
  have hmore : supply ≤ (run role passed wrap supply outcome).supply := by
    cases outcome with
    | ok made => exact made.le_issue supply
    | error | panic => exact Nat.le_refl _
  refine ⟨hmore, fun product hproduct => ?_, fun role' i hm => ?_⟩
  · cases outcome with
    | ok made =>
      cases hproduct
      exact made.issue_lt supply
    | error | panic => cases hproduct
  · rw [callbacks_run] at hm
    cases List.mem_singleton.1 hm
    exact Nat.lt_of_lt_of_le (hpassed i rfl) hmore

theorem Sound.next {first : Making} {rest : Instance → Nat → Making} (h : first.Sound supply)
    (hrest : ∀ product, product.serial < first.supply →
      (rest product first.supply).Sound first.supply) : (first.next rest).Sound supply := by
  obtain ⟨outcome, callbacks, number⟩ := first
  cases outcome with
  | ok product =>
    have hothers := hrest product (h.made product rfl)
    refine ⟨Nat.le_trans h.more hothers.more, hothers.made, fun role i hm => ?_⟩
    rcases List.mem_append.1 hm with hm | hm
    · exact Nat.lt_of_lt_of_le (h.passed role i hm) hothers.more
    · exact hothers.passed role i hm
  | error failure => exact h
  | panic payload => exact h

theorem Sound.known {m : Making} (h : m.Sound supply) {i : Instance}
    (hi : Mentions [m.outcome.map fun product => .found (some product)] m.callbacks i) :
    i.serial < m.supply := by
  rcases hi with hi | ⟨role, hi⟩
  · have hi := List.mem_singleton.1 hi
    obtain ⟨outcome, callbacks, number⟩ := m
    cases outcome with
    | ok product =>
      cases hi
      exact h.made _ rfl
    | error failure => cases hi
    | panic payload => cases hi
  · exact h.passed role i hi

end Making

theorem sound_make (id : Ident) (deal : Deal) (processed : Bool) (supply : Nat) :
    (make id deal processed supply).Sound supply := by
  have hstep : (step id deal supply).Sound supply :=
    Making.sound_run .production _ (by intro i hi; cases hi) _
  refine hstep.next fun product hserial => ?_
  cases processed with
  | true =>
    refine Making.sound_run _ _ (fun i hi => ?_) _
    cases hi
    exact hserial
  | false =>
    refine ⟨Nat.le_refl _, fun product' hproduct => ?_, nofun⟩
    cases hproduct
    exact hserial

end Memo

/-! ## Making -/

/-- Keep what was made for an identifier, if it was made to the end. -/
def Registry.storeMade (r : Registry) (id : Ident) : Outcome Failure Instance → Registry
  | .ok product => r.storeProduct id product
  | _ => r

/-- Work makes a product as said, and leaves the registry as it is. -/
def Run.Makes (work : Run Failure Instance) (m : Memo.Making) (s : Session) : Prop :=
  ∃ t, work s = some (m.outcome, t) ∧ t.registry = s.registry ∧ t.supply = m.supply ∧
    t.callbacks = s.callbacks ++ m.callbacks

namespace Run.Makes

variable {work : Run Failure Instance} {m : Memo.Making} {s : Session}

theorem pure (product : Instance) (s : Session) :
    (Pure.pure product : Run Failure Instance).Makes ⟨.ok product, [], s.supply⟩ s :=
  ⟨s, rfl, rfl, rfl, (List.append_nil _).symm⟩

/-- A bind of work makes what the two parts make one after the other. -/
theorem bind {next : Instance → Run Failure Instance} {rest : Instance → Nat → Memo.Making}
    (h : work.Makes m s)
    (hnext : ∀ product t, t.registry = s.registry → t.supply = m.supply →
      (next product).Makes (rest product m.supply) t) : (work >>= next).Makes (m.next rest) s := by
  obtain ⟨outcome, callbacks, supply⟩ := m
  obtain ⟨t, hwork, hregistry, hsupply, hcallbacks⟩ := h
  cases outcome with
  | ok product =>
    obtain ⟨u, hrun, hregistry', hsupply', hcallbacks'⟩ := hnext product t hregistry hsupply
    refine ⟨u, (Run.bind_ok hwork).trans hrun, hregistry'.trans hregistry, hsupply', ?_⟩
    rw [hcallbacks', hcallbacks, List.append_assoc]
    rfl
  | error failure => exact ⟨t, Run.bind_error hwork, hregistry, hsupply, hcallbacks⟩
  | panic payload => exact ⟨t, Run.bind_panic hwork, hregistry, hsupply, hcallbacks⟩

end Run.Makes

namespace Production

open Memo (Tells)

variable (engine : Engine) (deal : Deal) (given : Ident) (step : Routine) (post : Bool)
  {id : Ident} {product : Instance} {s : Session}

/-- A step that is dealt makes what the table says. -/
theorem produce_makes (hidle : s.registry.marks.isActive id = false) :
    (produce (deal.engine given engine) id step).Makes (Memo.step id deal s.supply) s := by
  have hentered : ∀ {t : Session},
      t.journal = ⟨.entered .production given none, s.registry⟩ :: s.journal →
      t.callbacks = s.callbacks ++ [(.production, none)] := Session.callbacks_cons
  have hproduce : (deal.engine given engine).produce step s = deal.produce given s := rfl
  cases hdeal : deal.step with
  | ok made =>
    cases made with
    | none =>
      have hstep : deal.produce given s =
          some (.ok none, s.note (.entered .production given none)) := by
        rw [Deal.produce, hdeal]
        rfl
      have hmade : produce (deal.engine given engine) id step s = _ :=
        produce_none (hproduce.trans hstep) hidle
      rw [Memo.step_none hdeal]
      exact ⟨_, hmade, rfl, rfl, hentered rfl⟩
    | some made =>
      have hstep : deal.produce given s = some (.ok (some (made.issue s.supply).1),
          { s.note (.entered .production given none) with supply := (made.issue s.supply).2 }) := by
        rw [Deal.produce, hdeal]
        rfl
      rw [Memo.step, hdeal]
      exact ⟨_, produce_some (hproduce.trans hstep), rfl, rfl, hentered rfl⟩
  | error cause =>
    have hstep : deal.produce given s =
        some (.error cause, s.note (.entered .production given none)) := by
      rw [Deal.produce, hdeal]
      rfl
    rw [Memo.step, hdeal]
    exact ⟨_, produce_error (hproduce.trans hstep), rfl, rfl, hentered rfl⟩
  | panic payload =>
    have hstep : deal.produce given s =
        some (.panic payload, s.note (.entered .production given none)) := by
      rw [Deal.produce, hdeal]
      rfl
    rw [Memo.step, hdeal]
    exact ⟨_, produce_panic (hproduce.trans hstep), rfl, rfl, hentered rfl⟩

/-- A post-processor that is dealt starts, and ends as the table says before failures are told apart. -/
theorem polish_ends (id : Ident) (product : Instance) (s : Session) :
    ∃ ending t, deal.polish id product s = some (ending, t) ∧
      ending.mapError (.postProcessing id ·) = (Memo.process id deal product s.supply).outcome ∧
      t.registry = s.registry ∧ t.supply = (Memo.process id deal product s.supply).supply ∧
      t.journal = ⟨.entered .postProcessing id (some product), s.registry⟩ :: s.journal := by
  rw [Deal.polish, Memo.process]
  cases deal.process product with
  | ok made => exact ⟨_, _, rfl, rfl, rfl, rfl, rfl⟩
  | error cause => exact ⟨_, _, rfl, rfl, rfl, rfl, rfl⟩
  | panic payload => exact ⟨_, _, rfl, rfl, rfl, rfl, rfl⟩

/-- So an installed post-processor makes what the table says; without one the product stays raw. -/
theorem postProcess_makes (id : Ident) (product : Instance) (s : Session) :
    (postProcess (deal.engine given engine) id product).Makes
      (if s.registry.postProcessor.isSome then Memo.process id deal product s.supply
        else ⟨.ok product, [], s.supply⟩) s := by
  cases hprocessor : s.registry.postProcessor with
  | none => exact ⟨s, postProcess_none hprocessor, rfl, rfl, (List.append_nil _).symm⟩
  | some processor =>
    obtain ⟨ending, t, hpolish, hending, hregistry, hsupply, hjournal⟩ :=
      polish_ends deal id product s
    have hprocess : postProcess (deal.engine given engine) id product s =
        some (ending.mapError (.postProcessing id ·), t) :=
      (postProcess_some hprocessor).trans (Run.mapError_of hpolish)
    refine ⟨t, hprocess.trans (congrArg (fun ending => some (ending, t)) hending), hregistry,
      hsupply, (Session.callbacks_cons hjournal).trans ?_⟩
    show _ = s.callbacks ++ (Memo.process id deal product s.supply).callbacks
    rw [Memo.process, Memo.Making.callbacks_run]
    rfl

/-- The mark makes no difference: it is cleared again whatever the post-processor ends with. -/
theorem postProcessMarked_makes {memo : Memo} (h : memo.Tells engine s.registry) :
    (postProcessMarked (deal.engine given engine) id product).Makes
      (if s.registry.postProcessor.isSome then Memo.process id deal product s.supply
        else ⟨.ok product, [], s.supply⟩) s := by
  obtain ⟨marks, henter⟩ := h.exists_enter id
  obtain ⟨t, hrun, hregistry, hsupply, hcallbacks⟩ :=
    postProcess_makes engine deal given id product (s.put { s.registry with marks })
  exact ⟨_, postProcessMarked_of henter hrun hregistry, rfl, hsupply, hcallbacks⟩

/-- Running a step and then processing makes what the table makes, whichever way of processing it is. -/
theorem make_makes {processing : Instance → Run Failure Instance}
    (hidle : s.registry.marks.isActive id = false)
    (hprocessing : ∀ product t, t.registry = s.registry → (processing product).Makes
      (if t.registry.postProcessor.isSome then Memo.process id deal product t.supply
        else ⟨.ok product, [], t.supply⟩) t) :
    (produce (deal.engine given engine) id step >>= fun product =>
        if post then processing product else pure product).Makes
      (Memo.make id deal (post && s.registry.postProcessor.isSome) s.supply) s := by
  refine (produce_makes engine deal given step hidle).bind fun product t hregistry hsupply => ?_
  rw [← hsupply]
  cases post with
  | false => exact .pure product t
  | true =>
    rw [← hregistry]
    exact hprocessing product t hregistry

/-- A shared product for which there is none yet is made, and then kept: nothing can have come in
    between. -/
theorem resolveShared_idle {memo : Memo} (h : memo.Tells engine s.registry)
    (hnone : s.registry.products.get? id = none) :
    resolveShared (deal.engine given engine) id step post s =
      ((produce (deal.engine given engine) id step >>= fun product =>
        if post then postProcessMarked (deal.engine given engine) id product else pure product) >>=
          keep id) s := by
  obtain ⟨t, hstep, hregistry, -, -⟩ :=
    produce_makes engine deal given step (h.idle id)
  rw [Run.bind_assoc]
  cases houtcome : (Memo.step id deal s.supply).outcome with
  | ok product =>
    rw [houtcome] at hstep
    rw [resolveShared_made hnone hstep, Run.bind_ok hstep, hregistry, hnone, h.idle id]
    cases post <;> rfl
  | error failure =>
    rw [houtcome] at hstep
    rw [resolveShared_error hnone hstep, Run.bind_error hstep]
  | panic payload =>
    rw [houtcome] at hstep
    rw [resolveShared_panic hnone hstep, Run.bind_panic hstep]

/-- What is made for a shared request is kept if it was made to the end, and only then. -/
theorem resolveShared_makes {memo : Memo} (h : memo.Tells engine s.registry)
    (hnone : s.registry.products.get? id = none) {m : Memo.Making}
    (hm : m = Memo.make id deal (post && s.registry.postProcessor.isSome) s.supply) :
    ∃ t, resolveShared (deal.engine given engine) id step post s = some (m.outcome, t) ∧
      t.registry = s.registry.storeMade id m.outcome ∧ t.supply = m.supply ∧
      t.callbacks = s.callbacks ++ m.callbacks := by
  subst hm
  obtain ⟨t, hrun, hregistry, hsupply, hcallbacks⟩ :=
    make_makes engine deal given step post (h.idle id) fun product t hregistry =>
      postProcessMarked_makes engine deal given (hregistry ▸ h)
  rw [resolveShared_idle engine deal given step post h hnone]
  cases houtcome : (Memo.make id deal (post && s.registry.postProcessor.isSome) s.supply).outcome with
  | ok product =>
    rw [houtcome] at hrun
    refine ⟨t.put (t.registry.storeProduct id product), (Run.bind_ok hrun).trans rfl, ?_, hsupply,
      hcallbacks⟩
    rw [Session.registry_put, hregistry]
    rfl
  | error failure =>
    rw [houtcome] at hrun
    exact ⟨t, Run.bind_error hrun, hregistry, hsupply, hcallbacks⟩
  | panic payload =>
    rw [houtcome] at hrun
    exact ⟨t, Run.bind_panic hrun, hregistry, hsupply, hcallbacks⟩

end Production

/-! ## Turns -/

/-- From one session to another, turns came to what a table says of them. -/
structure Turn.Follows (engine : Engine) (memo : Memo)
    (results : List (Outcome Failure (Answer Instance)))
    (callbacks : List (Role × Option Instance)) (memo' : Memo) (s t : Session) : Prop where
  tells : memo'.Tells engine t.registry
  supply : memo'.supply = t.supply
  more : memo.supply ≤ memo'.supply
  terms : t.registry.terms = s.registry.terms
  journal : t.callbacks = s.callbacks ++ callbacks
  known : ∀ i, Memo.Mentions results callbacks i → i.serial < memo'.supply

namespace Turn.Follows

variable {engine : Engine} {memo memo' memo'' : Memo}
  {results results' : List (Outcome Failure (Answer Instance))}
  {callbacks callbacks' : List (Role × Option Instance)} {s t u : Session}

theorem trans (h : Follows engine memo results callbacks memo' s t)
    (h' : Follows engine memo' results' callbacks' memo'' t u) :
    Follows engine memo (results ++ results') (callbacks ++ callbacks') memo'' s u := by
  refine ⟨h'.tells, h'.supply, Nat.le_trans h.more h'.more, h'.terms.trans h.terms, ?_, ?_⟩
  · rw [h'.journal, h.journal, List.append_assoc]
  · have hfirst : ∀ i, Memo.Mentions results callbacks i → i.serial < memo''.supply :=
      fun i hi => Nat.lt_of_lt_of_le (h.known i hi) h'.more
    rintro i (hi | ⟨role, hi⟩)
    · exact (List.mem_append.1 hi).elim (hfirst i <| .inl ·) (h'.known i <| .inl ·)
    · exact (List.mem_append.1 hi).elim (hfirst i <| .inr ⟨role, ·⟩) (h'.known i <| .inr ⟨role, ·⟩)

/-- A turn that runs no callback. -/
theorem of_quiet {result : Outcome Failure (Answer Instance)}
    (htells : memo'.Tells engine t.registry) (hsupply : memo'.supply = t.supply)
    (hmore : memo.supply ≤ memo'.supply) (hterms : t.registry.terms = s.registry.terms)
    (hcallbacks : t.callbacks = s.callbacks)
    (hknown : ∀ i, result = .ok (.found (some i)) → i.serial < memo'.supply) :
    Follows engine memo [result] [] memo' s t := by
  refine ⟨htells, hsupply, hmore, hterms, hcallbacks.trans (List.append_nil _).symm, ?_⟩
  rintro i (hi | ⟨role, hi⟩)
  · exact hknown i (List.mem_singleton.1 hi).symm
  · cases hi

/-- A turn that is refused. -/
theorem of_refused {failure : Failure} (htells : memo'.Tells engine t.registry)
    (hsupply : memo'.supply = t.supply) (hmore : memo.supply ≤ memo'.supply)
    (hregistry : t.registry = s.registry) (hcallbacks : t.callbacks = s.callbacks) :
    Follows engine memo [.error failure] [] memo' s t := by
  refine .of_quiet htells hsupply hmore (congrArg Registry.terms hregistry) hcallbacks fun i hi => ?_
  cases hi

end Turn.Follows

namespace Registry

theorem terms_storeMade (r : Registry) (id : Ident) (outcome : Outcome Failure Instance) :
    (r.storeMade id outcome).terms = r.terms := by
  cases outcome with
  | ok product =>
    rw [storeMade, storeProduct_eq]
    rfl
  | error failure => rfl
  | panic payload => rfl

end Registry

namespace Turn

variable {engine : Engine} {memo : Memo} {s : Session}

/-- A turn is served as the table says. -/
def Served (engine : Engine) (memo : Memo) (s : Session) (turn : Turn) (served : Memo.Served) :
    Prop :=
  ∃ t, turn.run engine s = some (served.result, t) ∧
    Follows engine memo [served.result] served.callbacks served.memo s t

/-- **A request for a product** is served what is held, or what is made for it. -/
theorem resolve_served (h : memo.Tells engine s.registry) (hsupply : memo.supply = s.supply)
    {given id : Ident} (haccept : s.registry.accept given = .ok id) (step : Routine)
    (shared post : Bool) (deal : Deal) :
    Served engine memo s (.resolve given step shared post deal)
      (memo.resolve s.registry.terms id shared post deal) := by
  have hrun : ∀ {outcome t},
      Production.resolve (deal.engine given engine) id step shared post s = some (outcome, t) →
      (Turn.resolve given step shared post deal).run engine s =
        some (outcome.map fun product => .found (some product), t) :=
    fun hresolve => Run.map_of ((Operations.resolveProduct_of_accept haccept).trans hresolve)
  generalize hm : Memo.make id deal (post && s.registry.terms.processes) memo.supply = m
  have hsound : m.Sound memo.supply := hm ▸ Memo.sound_make id deal _ memo.supply
  have hraised := h.raise hsound.more
  by_cases hshares : s.registry.MayShare shared id
  · obtain ⟨rfl, hfinished⟩ := hshares
    have hsome : (memo.kept id).isSome = true :=
      (h.finished id).trans (Store.contains_iff_mem_keys.2 hfinished)
    have hresolve : Production.resolve (deal.engine given engine) id step true post s = _ :=
      Production.resolve_shared ⟨rfl, hfinished⟩
    obtain ⟨held, hheld⟩ := Option.isSome_iff_exists.1 hsome
    have hproduct : s.registry.products.get? id = held := by
      rw [← h.products, hheld]
      rfl
    cases held with
    | some product =>
      rw [Memo.resolve_held post deal hheld]
      refine ⟨s, hrun (hresolve.trans (Production.resolveShared_kept hproduct)),
        .of_quiet h hsupply (Nat.le_refl _) rfl rfl fun i hi => ?_⟩
      cases hi
      exact h.numbered id _ (.inr hproduct)
    | none =>
      rw [Memo.resolve_finished post deal hheld hm]
      obtain ⟨t, hmade, hregistry, htsupply, hcallbacks⟩ :=
        Production.resolveShared_makes engine deal given step post h hproduct (hsupply ▸ hm.symm)
      refine ⟨t, hrun (hresolve.trans hmade), ?_, ?_, ?_, ?_, hcallbacks, fun i hi => ?_⟩
      · rw [hregistry]
        cases houtcome : m.outcome with
        | ok product => exact hraised.store hsome (hsound.made product houtcome)
        | error failure => exact hraised
        | panic payload => exact hraised
      · rw [Memo.supply_holdMade, htsupply]
      · rw [Memo.supply_holdMade]
        exact hsound.more
      · rw [hregistry, Registry.terms_storeMade]
      · rw [Memo.supply_holdMade]
        exact hsound.known hi
  · have hnone : shared = true → memo.kept id = none := by
      intro hshared
      have hkept := h.finished id
      rw [Store.contains_eq_false_iff.2 fun hm => hshares ⟨hshared, hm⟩] at hkept
      exact Option.not_isSome_iff_eq_none.1 (by rw [hkept]; decide)
    rw [Memo.resolve_apart post deal hnone hm]
    obtain ⟨t, hmade, hregistry, htsupply, hcallbacks⟩ :=
      Production.make_makes engine deal given step post (h.idle id) fun product t _ =>
        Production.postProcess_makes engine deal given id product t
    rw [← hsupply] at hmade htsupply hcallbacks
    subst hm
    refine ⟨t, hrun ((Production.resolve_apart hshares).trans hmade), ?_, htsupply.symm,
      hsound.more, ?_, hcallbacks, fun i hi => hsound.known hi⟩
    · rw [hregistry]
      exact hraised
    · rw [hregistry]

/-- **Binding an instance** is refused to who is finished, and to everybody once creation is closed. -/
theorem register_served (h : memo.Tells engine s.registry) (hsupply : memo.supply = s.supply)
    (id : Ident) {made : Instance} (hserial : made.serial < memo.supply) :
    ∃ ending t, Creation.registerInstance id made s = some (ending, t) ∧
      ending.map (fun _ => .unit) = (memo.register s.registry.terms id).result ∧
      Follows engine memo [(memo.register s.registry.terms id).result]
        (memo.register s.registry.terms id).callbacks (memo.register s.registry.terms id).memo s t := by
  have hrefused : ∀ failure : Failure, Follows engine memo [.error failure] [] memo s s :=
    fun failure => .of_refused h hsupply (Nat.le_refl _) rfl rfl
  cases hopen : s.registry.lifecycle.allowsCreation with
  | false =>
    have hclosed : s.registry.terms.isOpen = false := hopen
    have hregister : Creation.registerInstance id made s =
        some (.error (.creationClosed id), s) := by
      rw [Creation.registerInstance, Run.bind_ok (Run.registry_apply s), hopen]
      rfl
    rw [Memo.register, hclosed]
    exact ⟨_, s, hregister, rfl, hrefused _⟩
  | true =>
    have hclosed : s.registry.terms.isOpen = true := hopen
    have hchecked : s.registry.marks.isChecked id = false := by
      rw [Marks.isChecked, h.idle, Bool.and_false]
    have hregister : Creation.registerInstance id made s = Creation.commit id made s := by
      rw [Creation.registerInstance, Run.bind_ok (Run.registry_apply s), hopen, hchecked]
      rfl
    rw [hregister, Memo.register, hclosed, h.finished, Creation.commit, Run.tryEdit]
    cases hcommit : s.registry.commit id made with
    | error failure =>
      rw [Registry.commit] at hcommit
      cases hbound : s.registry.finished.contains id with
      | true =>
        rw [hbound] at hcommit
        cases hcommit
        exact ⟨_, s, rfl, rfl, hrefused _⟩
      | false =>
        rw [hbound] at hcommit
        cases hcommit
    | ok r =>
      obtain ⟨hfree, hr⟩ := Registry.commit_eq hcommit
      have hbound : s.registry.finished.contains id = false := by
        rw [Store.contains, hfree]
        rfl
      have hterms : r.terms = s.registry.terms := by
        rw [hr]
        rfl
      rw [hbound]
      refine ⟨_, s.put r, rfl, rfl, .of_quiet (h.commit hserial hcommit) hsupply (Nat.le_refl _)
        hterms rfl fun i hi => ?_⟩
      cases hi

/-- **Every turn is served as the table says.** -/
theorem served (h : memo.Tells engine s.registry) (hsupply : memo.supply = s.supply) (turn : Turn) :
    Served engine memo s turn (memo.serve s.registry.terms turn) := by
  cases turn with
  | resolve given step shared post deal =>
    cases haccept : s.registry.accept given with
    | error failure =>
      rw [Memo.serve_resolve_refused haccept]
      have hrefused : (Turn.resolve given step shared post deal).run engine s =
          some (.error failure, s) :=
        Run.bind_error (Run.bind_error (Operations.accept_eq haccept))
      exact ⟨s, hrefused, .of_refused h hsupply (Nat.le_refl _) rfl rfl⟩
    | ok id =>
      rw [Memo.serve_resolve haccept]
      exact resolve_served h hsupply haccept step shared post deal
  | register given made =>
    -- the instance is handed over first, whatever becomes of it
    let memo' : Memo := { memo with supply := (made.issue memo.supply).2 }
    let s' : Session := { s with supply := (made.issue s.supply).2 }
    have hmore : memo.supply ≤ memo'.supply := made.le_issue memo.supply
    have hsupply' : memo'.supply = s'.supply := by
      show (made.issue memo.supply).2 = (made.issue s.supply).2
      rw [hsupply]
    have htells : memo'.Tells engine s'.registry := h.raise hmore
    cases haccept : s.registry.accept given with
    | error failure =>
      have haccept' : s'.registry.accept given = .error failure := haccept
      rw [Memo.serve_register_refused haccept]
      have hrefused : (Turn.register given made).run engine s = some (.error failure, s') :=
        (Run.bind_ok rfl).trans (Run.bind_error (Run.bind_error (Operations.accept_eq haccept')))
      exact ⟨s', hrefused, .of_refused htells hsupply' hmore rfl rfl⟩
    | ok id =>
      have haccept' : s'.registry.accept given = .ok id := haccept
      have hserial : (made.issue s.supply).1.serial < memo'.supply := by
        rw [hsupply']
        exact made.issue_lt s.supply
      obtain ⟨ending, t, hregister, hresult, hfollows⟩ := register_served htells hsupply' id hserial
      rw [Memo.serve_register haccept]
      refine ⟨t, ?_, hfollows.tells, hfollows.supply, Nat.le_trans hmore hfollows.more,
        hfollows.terms, hfollows.journal, hfollows.known⟩
      show _ = some ((memo'.register s.registry.terms id).result, t)
      rw [← hresult]
      exact (Run.bind_ok rfl).trans
        (Run.map_of ((Run.bind_ok (Operations.accept_eq haccept')).trans hregister))
  | remove given =>
    refine ⟨_, rfl, .of_quiet (h.purge _) hsupply (Nat.le_refl _) rfl rfl fun i hi => ?_⟩
    cases hi
  | destroy given =>
    obtain ⟨gone, t, hrun, hgone, hbooks, hreaches, hshallow, htsupply, hcallbacks⟩ :=
      Destruction.destroyOne_hookless (ε := Failure) h.hookless h.shallow
        (s.registry.canonical given)
    have hterms : t.registry.terms = s.registry.terms := by
      rw [hbooks]
      rfl
    refine ⟨t, Run.map_of ((Run.bind_ok rfl).trans hrun), .of_quiet
      (h.destroy hgone hbooks hreaches hshallow) (hsupply.trans htsupply.symm) (Nat.le_refl _) hterms
      hcallbacks fun i hi => ?_⟩
    cases hi

/-- **Turns are served as the table says.** -/
theorem serve_follows (h : memo.Tells engine s.registry) (hsupply : memo.supply = s.supply)
    (turns : List Turn) :
    ∃ t, serve engine turns s =
        some (.ok (memo.serveAll s.registry.terms turns).results, t) ∧
      Follows engine memo (memo.serveAll s.registry.terms turns).results
        (memo.serveAll s.registry.terms turns).callbacks
        (memo.serveAll s.registry.terms turns).memo s t := by
  induction turns generalizing s memo with
  | nil =>
    refine ⟨s, rfl, h, hsupply, Nat.le_refl _, rfl, (List.append_nil _).symm, ?_⟩
    rintro i (hi | ⟨role, hi⟩) <;> cases hi
  | cons turn rest ih =>
    obtain ⟨t, hrun, hfirst⟩ := served h hsupply turn
    obtain ⟨u, hserve, hothers⟩ := ih hfirst.tells hfirst.supply
    rw [hfirst.terms] at hserve hothers
    refine ⟨u, ?_, hfirst.trans hothers⟩
    exact (Run.bind_ok (Run.attempt_of hrun)).trans (Run.bind_ok hserve)

/-- **Products are served as by a memo table.**  Let a table tell of a registry and its supply of
    serial numbers.  Then turns have the results that the table gives, with the same callbacks run
    and passed the same; afterwards every identifier has the product cached that the table holds for
    it, nothing is in creation, and the table tells of the registry again.  Every instance that was
    handed out, passed to a callback or is kept has got its serial number, so a sentinel that is
    made next is none of them. -/
theorem serve_eq_memo (h : memo.Tells engine s.registry) (hsupply : memo.supply = s.supply)
    (turns : List Turn) :
    ∃ t, serve engine turns s =
        some (.ok (memo.serveAll s.registry.terms turns).results, t) ∧
      t.callbacks = s.callbacks ++ (memo.serveAll s.registry.terms turns).callbacks ∧
      (∀ id, t.registry.answer (.cachedProduct id) =
        .found ((memo.serveAll s.registry.terms turns).memo.kept (s.registry.canonical id)).join) ∧
      (memo.serveAll s.registry.terms turns).memo.Tells engine t.registry ∧
      (memo.serveAll s.registry.terms turns).memo.supply = t.supply ∧
      ∀ i, Memo.Mentions (memo.serveAll s.registry.terms turns).results
          (memo.serveAll s.registry.terms turns).callbacks i →
        i.serial < (memo.serveAll s.registry.terms turns).memo.supply := by
  obtain ⟨t, hrun, hfollows⟩ := serve_follows h hsupply turns
  refine ⟨t, hrun, hfollows.journal, fun id => ?_, hfollows.tells, hfollows.supply, hfollows.known⟩
  have hcanonical : t.registry.canonical = s.registry.canonical :=
    congrArg Memo.Terms.canonical hfollows.terms
  rw [← hcanonical, hfollows.tells.products]
  rfl

/-- A lamp gets a product that is a sentinel and polished, and everybody is served that until the lamp
    is removed.  While it is not finished every product is made anew.  Then it is back, polishing
    fails and the step panics, and the next request has another sentinel made. -/
def lampTurns : List Turn :=
  let step : Routine := .scripted "lamp" [] .nothing
  let spoiled : Deal := ⟨.ok none, fun _ => .error (.foreign "dull")⟩
  let polished : Deal := ⟨.ok none, fun _ => .ok ⟨99, some "polished"⟩⟩
  let plain : Deal := ⟨.ok (some ⟨99, some "plain"⟩), .ok⟩
  let broken : Deal := ⟨.panic (.saying "short"), .ok⟩
  [.register "lamp" ⟨99, some "lamp"⟩, .resolve "lamp" step true true polished,
    .resolve "lamp" step true false broken, .remove "lamp", .resolve "lamp" step true true plain,
    .register "lamp" ⟨0, some "lamp"⟩, .resolve "lamp" step true true spoiled,
    .resolve "lamp" step true false broken, .resolve "lamp" step true false polished]

theorem serve_eq_memo_lamp :
    ∃ t, serve (.ofDepth 1) lampTurns
        { registry := { postProcessor := some (.scripted "polish" [] .same) } } =
        some (.ok [.ok .unit, .ok (.found (some ⟨2, some "polished"⟩)),
          .ok (.found (some ⟨2, some "polished"⟩)), .ok .unit,
          .ok (.found (some ⟨3, some "plain"⟩)), .ok .unit,
          .error (.postProcessing "lamp" (.foreign "dull")), .panic (.saying "short"),
          .ok (.found (some ⟨5, none⟩))], t) ∧
      t.callbacks = [(.production, none), (.postProcessing, some ⟨1, none⟩), (.production, none),
        (.postProcessing, some ⟨3, some "plain"⟩), (.production, none),
        (.postProcessing, some ⟨4, none⟩), (.production, none), (.production, none)] ∧
      t.registry.answer (.cachedProduct "lamp") = .found (some ⟨5, none⟩) := by
  let s : Session := { registry := { postProcessor := some (.scripted "polish" [] .same) } }
  have htells : (Memo.blank 0).Tells (.ofDepth 1) s.registry :=
    Memo.tells_blank 0 rfl rfl rfl rfl rfl (by decide)
  obtain ⟨t, hrun, hcallbacks, hcached, -⟩ := serve_eq_memo (s := s) htells rfl lampTurns
  refine ⟨t, hrun.trans ?_, hcallbacks.trans ?_, (hcached "lamp").trans ?_⟩
  · refine congrArg (fun results => some (Outcome.ok results, t)) ?_
    decide +kernel
  · decide +kernel
  · decide +kernel

end Turn

end InstanceRegistry
