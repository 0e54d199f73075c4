import InstanceRegistry.Session

/-!
  The memo table that products amount to.

  What a registry keeps of products is a MEMO TABLE: for every finished identifier the product that
  was made for it, if one was.  A shared request for a finished identifier is served what the table
  holds, or has a product made that the table then holds; every other request has one made, and the
  table stays as it is.  A product is MADE by its step, and then by the post-processor if that is
  asked for and installed.  Only what was made to the end is held.

  The callbacks are not part of the table.  What they come to is DEALT with each request, so each of
  them may end in any way at any time.  The same goes for instances: one that is handed over was
  made before, and then its serial number was given out, or it is made on the spot and gets the next
  one.

  Nothing here refers to marks, tiers, hooks or how a destruction finds its way.

  Mathlib-free.
-/

namespace InstanceRegistry

/-! ## Turns -/

/-- What the callbacks come to that a request may run: its step, and the post-processor for
    whatever product it is passed. -/
structure Deal where
  step : Outcome Cause (Option Instance)
  process : Instance → Outcome Cause Instance

/-- What is asked of a registry that has to do with products. -/
inductive Turn where
  /-- Have a product made or handed out. -/
  | resolve (id : Ident) (step : Routine) (shared post : Bool) (deal : Deal)
  /-- Bind an instance. -/
  | register (id : Ident) (made : Instance)
  /-- Drop what is kept under an identifier. -/
  | remove (id : Ident)
  /-- Destroy an identifier. -/
  | destroy (id : Ident)

/-- The instance that is handed over, and the supply of serial numbers after that. -/
def Instance.issue (i : Instance) (supply : Nat) : Instance × Nat :=
  if i.serial < supply then (i, supply) else (⟨supply, i.label⟩, supply + 1)

/-! ## The table -/

/-- A memo table, with what it takes to keep it up. -/
structure Memo where
  /-- For every finished identifier the product that is held, if one is. -/
  kept : Ident → Option (Option Instance)
  /-- Whether destroying one identifier takes another one away. -/
  takes : Ident → Ident → Bool
  /-- The serial number of the next new instance. -/
  supply : Nat

namespace Memo

/-- What stays as it is: names, whether instances may still be bound, and whether there is a
    post-processor. -/
structure Terms where
  accept : Ident → Except Failure Ident
  canonical : Ident → Ident
  isOpen : Bool
  processes : Bool

/-- Hold a product for an identifier that is finished, or none yet. -/
def hold (memo : Memo) (id : Ident) (product : Option Instance) : Memo :=
  { memo with kept := fun x => if x = id then some product else memo.kept x }

/-- Hold what was made, if it was made to the end. -/
def holdMade (memo : Memo) (id : Ident) : Outcome Failure Instance → Memo
  | .ok product => memo.hold id (some product)
  | _ => memo

theorem supply_holdMade (memo : Memo) (id : Ident) (outcome : Outcome Failure Instance) :
    (memo.holdMade id outcome).supply = memo.supply := by
  cases outcome <;> rfl

/-- Drop what is held for some identifiers; they are not finished any more. -/
def drop (memo : Memo) (gone : Ident → Bool) : Memo :=
  { memo with kept := fun x => if gone x then none else memo.kept x }

/-- Destroy an identifier, and with it all that this takes away. -/
def destroy (memo : Memo) (id : Ident) : Memo :=
  { memo.drop (memo.takes id) with
    takes := fun x y => decide (x = y) || (memo.takes x y && !memo.takes id y) }

/-! ## Making -/

/-- How making a product ended, the callbacks that it ran with what they were passed, and the supply
    of serial numbers after it. -/
structure Making where
  outcome : Outcome Failure Instance
  callbacks : List (Role × Option Instance)
  supply : Nat

/-- Run one callback that comes to what was dealt. -/
def Making.run (role : Role) (passed : Option Instance) (wrap : Cause → Failure) (supply : Nat) :
    Outcome Cause Instance → Making
  | .ok made => ⟨.ok (made.issue supply).1, [(role, passed)], (made.issue supply).2⟩
  | .error cause => ⟨.error (wrap cause), [(role, passed)], supply⟩
  | .panic payload => ⟨.panic payload, [(role, passed)], supply⟩

/-- However a callback ends, it was run. -/
theorem Making.callbacks_run (role : Role) (passed : Option Instance) (wrap : Cause → Failure)
    (supply : Nat) (outcome : Outcome Cause Instance) :
    (run role passed wrap supply outcome).callbacks = [(role, passed)] := by
  cases outcome <;> rfl

/-- Go on with what was made, if it was. -/
def Making.next (first : Making) (rest : Instance → Nat → Making) : Making :=
  match first.outcome with
  | .ok product =>
    let others := rest product first.supply
    { others with callbacks := first.callbacks ++ others.callbacks }
  | _ => first

/-- Run a step.  If it yields nothing that makes a sentinel, which is as new as it can be. -/
def step (id : Ident) (deal : Deal) (supply : Nat) : Making :=
  .run .production none (.construction id · []) supply
    (deal.step.map fun product => product.getD ⟨supply, none⟩)

theorem step_none {id : Ident} {deal : Deal} (h : deal.step = .ok none) (supply : Nat) :
    step id deal supply = ⟨.ok ⟨supply, none⟩, [(.production, none)], supply + 1⟩ := by
  have hissue : (⟨supply, none⟩ : Instance).issue supply = (⟨supply, none⟩, supply + 1) :=
    if_neg (Nat.lt_irrefl _)
  rw [step, h]
  show Making.mk (.ok ((⟨supply, none⟩ : Instance).issue supply).1) _
    ((⟨supply, none⟩ : Instance).issue supply).2 = _
  rw [hissue]

/-- Run the post-processor. -/
def process (id : Ident) (deal : Deal) (product : Instance) (supply : Nat) : Making :=
  .run .postProcessing (some product) (.postProcessing id ·) supply (deal.process product)

/-- Make a product: run the step, and then the post-processor on what that made, if it should. -/
def make (id : Ident) (deal : Deal) (processed : Bool) (supply : Nat) : Making :=
  (step id deal supply).next fun product supply =>
    if processed then process id deal product supply else ⟨.ok product, [], supply⟩

/-! ## Serving -/

/-- What a turn came to: its result, the callbacks that were run for it, and the table after it. -/
structure Served where
  result : Outcome Failure (Answer Instance)
  callbacks : List (Role × Option Instance)
  memo : Memo

/-- Serve a request for a product. -/
def resolve (terms : Terms) (memo : Memo) (id : Ident) (shared post : Bool) (deal : Deal) : Served :=
  let making := make id deal (post && terms.processes) memo.supply
  let answer := making.outcome.map fun product => .found (some product)
  let memo' := { memo with supply := making.supply }
  match shared, memo.kept id with
  | true, some (some product) => ⟨.ok (.found (some product)), [], memo⟩
  | true, some none => ⟨answer, making.callbacks, memo'.holdMade id making.outcome⟩
  | _, _ => ⟨answer, making.callbacks, memo'⟩

/-- What is held is handed out, and nothing is run. -/
theorem resolve_held {terms : Terms} {memo : Memo} {id : Ident} {product : Instance} (post : Bool)
    (deal : Deal) (h : memo.kept id = some (some product)) :
    memo.resolve terms id true post deal = ⟨.ok (.found (some product)), [], memo⟩ := by
  rw [resolve.eq_def, h]

/-- For who is finished a product is made and held. -/
theorem resolve_finished {terms : Terms} {memo : Memo} {id : Ident} (post : Bool) (deal : Deal)
    (h : memo.kept id = some none) {m : Making}
    (hm : make id deal (post && terms.processes) memo.supply = m) :
    memo.resolve terms id true post deal =
      ⟨m.outcome.map fun product => .found (some product), m.callbacks,
        { memo with supply := m.supply }.holdMade id m.outcome⟩ := by
  subst hm
  rw [resolve.eq_def, h]

/-- For anybody else one is made, and the table stays as it is. -/
theorem resolve_apart {terms : Terms} {memo : Memo} {id : Ident} {shared : Bool} (post : Bool)
    (deal : Deal) (h : shared = true → memo.kept id = none) {m : Making}
    (hm : make id deal (post && terms.processes) memo.supply = m) :
    memo.resolve terms id shared post deal =
      ⟨m.outcome.map fun product => .found (some product), m.callbacks,
        { memo with supply := m.supply }⟩ := by
  subst hm
  cases shared with
  | false => rfl
  | true => rw [resolve.eq_def, h rfl]

/-- Serve the binding of an instance. -/
def register (terms : Terms) (memo : Memo) (id : Ident) : Served :=
  if !terms.isOpen then ⟨.error (.creationClosed id), [], memo⟩
  else if (memo.kept id).isSome then ⟨.error (.alreadyBound id), [], memo⟩
  else ⟨.ok .unit, [], memo.hold id none⟩

/-- Serve a turn. -/
def serve (terms : Terms) (memo : Memo) : Turn → Served
  | .resolve given _ shared post deal =>
    match terms.accept given with
    | .error failure => ⟨.error failure, [], memo⟩
    | .ok id => memo.resolve terms id shared post deal
  | .register given made =>
    let memo' := { memo with supply := (made.issue memo.supply).2 }
    match terms.accept given with
    | .error failure => ⟨.error failure, [], memo'⟩
    | .ok id => memo'.register terms id
  | .remove given => ⟨.ok .unit, [], memo.drop (· = terms.canonical given)⟩
  | .destroy given => ⟨.ok (.report {}), [], memo.destroy (terms.canonical given)⟩

section Accepting

variable {terms : Terms} {memo : Memo} {given id : Ident} {failure : Failure}

theorem serve_resolve_refused (h : terms.accept given = .error failure) (step : Routine)
    (shared post : Bool) (deal : Deal) :
    memo.serve terms (.resolve given step shared post deal) = ⟨.error failure, [], memo⟩ := by
  rw [serve.eq_def]
  dsimp only
  rw [h]

theorem serve_resolve (h : terms.accept given = .ok id) (step : Routine) (shared post : Bool)
    (deal : Deal) :
    memo.serve terms (.resolve given step shared post deal) =
      memo.resolve terms id shared post deal := by
  rw [serve.eq_def]
  dsimp only
  rw [h]

theorem serve_register_refused (h : terms.accept given = .error failure) (made : Instance) :
    memo.serve terms (.register given made) =
      ⟨.error failure, [], { memo with supply := (made.issue memo.supply).2 }⟩ := by
  rw [serve.eq_def]
  dsimp only
  rw [h]

theorem serve_register (h : terms.accept given = .ok id) (made : Instance) :
    memo.serve terms (.register given made) =
      { memo with supply := (made.issue memo.supply).2 }.register terms id := by
  rw [serve.eq_def]
  dsimp only
  rw [h]

end Accepting

/-- What several turns came to. -/
structure Account where
  results : List (Outcome Failure (Answer Instance))
  callbacks : List (Role × Option Instance)
  memo : Memo

/-- Serve turns one after another. -/
def serveAll (terms : Terms) (memo : Memo) : List Turn → Account
  | [] => ⟨[], [], memo⟩
  | turn :: rest =>
    let first := memo.serve terms turn
    let others := first.memo.serveAll terms rest
    ⟨first.result :: others.results, first.callbacks ++ others.callbacks, others.memo⟩

/-- An instance is handed out, or passed to a callback. -/
def Mentions (results : List (Outcome Failure (Answer Instance)))
    (callbacks : List (Role × Option Instance)) (i : Instance) : Prop :=
  .ok (.found (some i)) ∈ results ∨ ∃ role, (role, some i) ∈ callbacks

end Memo

end InstanceRegistry
