import InstanceRegistry.Instance

/-!
  What can go wrong, and the three ways in which work can end.

  A `Failure` is an error of the registry itself.  Callbacks fail with a `Cause`: a text of their
  own, or a failure of the registry that they met and passed on.  Failures nest through causes, and
  `Failure.innermost` digs out the one at the bottom of a chain of failed constructions.

  Work ends well, with an error, or with a PANIC that unwinds to whoever catches it; `Outcome`
  keeps the three apart.

  Mathlib-free.
-/

namespace InstanceRegistry

/-! ## Causes and failures -/

mutual

/-- Why a callback failed. -/
inductive Cause where
  /-- The callback's own error text. -/
  | foreign (text : String)
  /-- A failure of the registry that the callback passed on. -/
  | nested (failure : Failure)
  deriving DecidableEq, Repr

/-- A failure of the registry. -/
inductive Failure where
  /-- A finished instance is bound to the identifier already. -/
  | alreadyBound (id : Ident)
  /-- The identifier is being created further up. -/
  | inCreation (id : Ident)
  /-- The registry is being destroyed, or has been. -/
  | creationClosed (id : Ident)
  /-- A construction, an early factory or a production step failed. -/
  | construction (id : Ident) (cause : Cause) (suppressed : List String)
  /-- A production step yielded nothing for an identifier that is still in creation. -/
  | nullProduction (id : Ident)
  /-- The post-processor refused a product. -/
  | postProcessing (id : Ident) (cause : Cause)
  /-- The declared dependency depends on the identifier itself. -/
  | circularDependency (id dependency : Ident)
  /-- The alias stands for another name, and re-pointing is not allowed. -/
  | aliasTaken (nick name existing : Ident)
  /-- The alias would close a chain of aliases. -/
  | circularAlias (nick name : Ident)
  /-- The identifier is empty or too long. -/
  | badIdentifier (problem : String)
  /-- The bookkeeping does not add up: the caller made a mistake. -/
  | inconsistent (problem : String)
  /-- The configuration cannot be used. -/
  | badConfig (problem : String)
  deriving DecidableEq, Repr

end

/-! ## Texts -/

mutual

/-- A cause in words. -/
def Cause.message : Cause → String
  | .foreign text => text
  | .nested failure => failure.message

/-- A failure in words; a wrapped cause ends the sentence. -/
def Failure.message : Failure → String
  | .alreadyBound id =>
    s!"DUPLICATE REGISTRATION: could not register '{id}', an instance is already bound"
  | .inCreation id =>
    s!"CURRENTLY IN CREATION: '{id}' is already being created (unresolvable circular reference?)"
  | .creationClosed id =>
    s!"CREATION NOT ALLOWED: '{id}' requested while the registry is being destroyed"
  | .construction id cause _ => s!"CONSTRUCTION FAILED: '{id}': " ++ cause.message
  | .nullProduction id =>
    s!"PRODUCTION RETURNED NULL: production step for '{id}' returned null while '{id}' is in creation"
  | .postProcessing id cause => s!"POST PROCESSING FAILED: '{id}': " ++ cause.message
  | .circularDependency id dependency =>
    s!"CIRCULAR DEPENDS-ON: '{id}' and '{dependency}' depend on each other"
  | .aliasTaken nick name existing =>
    s!"ALIAS CONFLICT: alias '{nick}' is already bound to '{existing}', cannot rebind to '{name}'"
  | .circularAlias nick name =>
    s!"CIRCULAR ALIAS: registering '{nick}' for '{name}' would form a cycle"
  | .badIdentifier problem => s!"INVALID IDENTIFIER: {problem}"
  | .inconsistent problem => s!"INVARIANT VIOLATION: {problem}"
  | .badConfig problem => s!"CONFIG ERROR: {problem}"

end

/-- The failure's code, the same for every failure of its kind. -/
def Failure.code : Failure → String
  | .alreadyBound _ => "REGISTRY_DUPLICATE_REGISTRATION"
  | .inCreation _ => "REGISTRY_CURRENTLY_IN_CREATION"
  | .creationClosed _ => "REGISTRY_CREATION_NOT_ALLOWED"
  | .construction .. => "REGISTRY_CONSTRUCTION_FAILED"
  | .nullProduction _ => "REGISTRY_PRODUCTION_DURING_CREATION_RETURNED_NULL"
  | .postProcessing .. => "REGISTRY_POST_PROCESSING_FAILED"
  | .circularDependency .. => "REGISTRY_CIRCULAR_DEPENDS_ON"
  | .aliasTaken .. => "REGISTRY_ALIAS_CONFLICT"
  | .circularAlias .. => "REGISTRY_CIRCULAR_ALIAS"
  | .badIdentifier _ => "REGISTRY_INVALID_IDENTIFIER"
  | .inconsistent _ => "REGISTRY_INVARIANT_VIOLATION"
  | .badConfig _ => "REGISTRY_CONFIG"

/-! ## Looking inside a failure -/

mutual

/-- The failure at the bottom of a cause, if the registry had a part in it. -/
def Cause.innermost? : Cause → Option Failure
  | .foreign _ => none
  | .nested failure => some failure.innermost

/-- The failure at the bottom of a chain of failed constructions.  A callback's own error ends
    the chain at the construction that it failed. -/
def Failure.innermost : Failure → Failure
  | .construction id cause suppressed =>
    cause.innermost?.getD (.construction id cause suppressed)
  | failure => failure

end

/-- The non-fatal errors that a failed construction carries along. -/
def Failure.suppressed : Failure → List String
  | .construction _ _ suppressed => suppressed
  | _ => []

mutual

/-- A cause and the causes below it, in words. -/
def Cause.chain : Cause → List String
  | .foreign text => [text]
  | .nested failure => failure.message :: failure.causes

/-- The causes below a failure, in words, from the nearest to the last. -/
def Failure.causes : Failure → List String
  | .construction _ cause _ => cause.chain
  | .postProcessing _ cause => cause.chain
  | _ => []

end

/-! ## Outcomes -/

/-- What a panicking callback leaves behind: a text, or a value nobody can read. -/
inductive Panic where
  | saying (text : String)
  | unreadable
  deriving DecidableEq, Repr

/-- The panic's text, with a stand-in for a value nobody can read. -/
def Panic.text (standIn : String) : Panic → String
  | saying text => text
  | unreadable => standIn

/-- The three ways in which work ends. -/
inductive Outcome (ε α : Type) where
  | ok (value : α)
  | error (failure : ε)
  | panic (payload : Panic)
  deriving DecidableEq, Repr

namespace Outcome

variable {ε ε' α β : Type}

/-- Change the value of work that ended well. -/
def map (f : α → β) : Outcome ε α → Outcome ε β
  | ok value => ok (f value)
  | error failure => error failure
  | panic payload => panic payload

/-- Change the error of work that failed. -/
def mapError (f : ε → ε') : Outcome ε α → Outcome ε' α
  | ok value => ok value
  | error failure => error (f failure)
  | panic payload => panic payload

/-- Work that cannot panic. -/
def ofExcept : Except ε α → Outcome ε α
  | .ok value => ok value
  | .error failure => error failure

end Outcome

/-! ## Samples -/

example : (Failure.construction "a" (.nested (.construction "b" (.nested (.inCreation "a")) [])) []
    ).innermost = .inCreation "a" := by decide
example : (Failure.construction "a" (.nested (.construction "b" (.foreign "x") [])) []).causes
    = ["CONSTRUCTION FAILED: 'b': x", "x"] := by decide

end InstanceRegistry
