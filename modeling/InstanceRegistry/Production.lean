import InstanceRegistry.Session

/-!
  Products of production steps.

  A product that is SHARED is kept for a finished identifier and made only once; every other one is
  made anew on each request.  A post-processor is applied to products that are handed out for good.
  Making a shared product marks its identifier while the post-processor runs, so that one that asks
  for the same product again is given the raw one instead of going round in circles.

  A step that yields nothing makes a sentinel, except while its identifier is being created.

  Mathlib-free.
-/

namespace InstanceRegistry.Production

/-- Run a step: its product, or a sentinel if it yields nothing. -/
def produce (engine : Engine) (id : Ident) (step : Routine) : Run Failure Instance := do
  match ← (engine.produce step).mapError (.construction id · []) with
  | some product => return product
  | none =>
    let r ← Run.registry
    if r.marks.isActive id then Run.fail (.nullProduction id) else Run.fresh none

/-- Apply the post-processor, if one is installed. -/
def postProcess (engine : Engine) (id : Ident) (product : Instance) : Run Failure Instance := do
  let r ← Run.registry
  match r.postProcessor with
  | none => return product
  | some processor => (engine.process processor product id).mapError (.postProcessing id ·)

/-- Apply the post-processor under the identifier's mark. -/
def postProcessMarked (engine : Engine) (id : Ident) (product : Instance) : Run Failure Instance := do
  Run.tryEdit fun r => (r.marks.enter id).map fun marks => ((), { r with marks })
  match ← (postProcess engine id product).attempt with
  | .panic payload =>
    Run.edit fun r => { r with marks := r.marks.leaveQuietly id }
    Run.unwind payload
  | .ok processed =>
    Run.tryEdit fun r => (r.marks.leave id).map fun marks => ((), { r with marks })
    return processed
  | .error failure =>
    Run.tryEdit fun r => (r.marks.leave id).map fun marks => ((), { r with marks })
    Run.fail failure

/-- Keep a product for later requests, and hand it out. -/
def keep (id : Ident) (product : Instance) : Run Failure Instance := do
  Run.edit (·.storeProduct id product)
  return product

/-- The shared product of an identifier: the one that is kept, or a new one.  The step may have
    asked for the same product, and then the inner request decides. -/
def resolveShared (engine : Engine) (id : Ident) (step : Routine) (post : Bool) :
    Run Failure Instance := do
  match (← Run.registry).products.get? id with
  | some kept => return kept
  | none =>
    let product ← produce engine id step
    let r ← Run.registry
    match r.products.get? id with
    | some kept => return kept
    | none =>
      if !post then keep id product
      else if r.marks.isActive id then
        Run.report (.unprocessed id)
        return product
      else keep id (← postProcessMarked engine id product)

/-- The product of a step for an identifier. -/
def resolve (engine : Engine) (id : Ident) (step : Routine) (shared post : Bool) :
    Run Failure Instance := do
  let r ← Run.registry
  if shared && r.finished.contains id then resolveShared engine id step post
  else
    let product ← produce engine id step
    if post then postProcess engine id product else return product

/-- The declared type of a step's product; a step that cannot tell has none. -/
def productType {ε : Type} : ProductType → Run ε (Option String)
  | .declared name => return name
  | .failing text => do
    Run.report (.untyped text)
    return none

end InstanceRegistry.Production
