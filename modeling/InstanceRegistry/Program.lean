import InstanceRegistry.Alias
import InstanceRegistry.Graph
import InstanceRegistry.Marks

/-!
  Programs: what callbacks do, as data.

  A registry stores callbacks and runs them later, and a callback may use the registry it was
  called from.  Here a callback is a `Routine`: a list of steps, each an operation of the registry,
  and a way to settle at the end.  Operations take routines again, so a program is a tree of
  any depth; what it comes to when it is run is said elsewhere, operation by operation.

  Because programs are data, a registry that stores them is data too, and a statement about "every
  program" is a statement about every value of these types.

  Mathlib-free.
-/

namespace InstanceRegistry

/-! ## Requests -/

/-- What is asked for in one construction: the identifier, the identifiers it depends on, and
    whether it is excluded from the check for re-entrant creation. -/
structure Request where
  id : Ident
  dependsOn : List Ident := []
  excluded : Bool := false
  deriving DecidableEq, Repr

namespace Request

/-- Depend on these identifiers as well. -/
def addDependencies (r : Request) (ids : List Ident) : Request :=
  { r with dependsOn := r.dependsOn ++ ids }

/-- Be excluded, or not. -/
def setExcluded (r : Request) (value : Bool) : Request := { r with excluded := value }

/-- The request as diagnostics show it, without what is to be run for it. -/
def describe (r : Request) : String :=
  Text.record "ConstructionRequest"
    [("id", Text.quoted r.id), ("depends_on", Text.quotedList r.dependsOn),
      ("excluded_from_reentrancy_check", Text.flag r.excluded)] true

end Request

/-! ## Queries -/

/-- The questions a registry answers without changing. -/
inductive Query where
  | contains (id : Ident)
  | count
  | identifiers
  | stage (id : Ident)
  | lifecycle
  | isChecked (id : Ident)
  | isActive (id : Ident)
  | hasHook (id : Ident)
  | cachedProduct (id : Ident)
  | finished (id : Ident)
  | activeCount
  | isExcluded (id : Ident)
  | hookCount
  | config
  | describe
  deriving DecidableEq, Repr

/-- The query's name in scripts. -/
def Query.name : Query → String
  | contains _ => "contains"
  | count => "count"
  | identifiers => "identifiers"
  | stage _ => "state"
  | lifecycle => "lifecycle"
  | isChecked _ => "is_currently_in_creation"
  | isActive _ => "is_actually_in_creation"
  | hasHook _ => "has_hook"
  | cachedProduct _ => "cached_product"
  | finished _ => "get_finished"
  | activeCount => "active"
  | isExcluded _ => "is_excluded"
  | hookCount => "hook_count"
  | config => "config"
  | describe => "debug"

/-! ## Changes that run no callback -/

/-- The operations that change a registry at once, without running a callback. -/
inductive Change where
  /-- Drop what is kept under an identifier. -/
  | remove (id : Ident)
  /-- Drop what is kept under every identifier. -/
  | clear
  /-- Report a non-fatal error to the creation in progress. -/
  | suppress (text : String)
  /-- Exclude an identifier from the check, or subject it to the check again. -/
  | setExcluded (id : Ident) (value : Bool)
  /-- The same, said the other way round. -/
  | setChecked (id : Ident) (value : Bool)
  /-- Mark an identifier as being created. -/
  | enter (id : Ident)
  /-- Clear its mark. -/
  | leave (id : Ident)
  /-- Clear all marks. -/
  | clearMarks
  deriving DecidableEq, Repr

/-- The change's name in scripts. -/
def Change.name : Change → String
  | remove _ => "remove"
  | clear => "clear"
  | suppress _ => "suppressed"
  | setExcluded .. => "set_excluded"
  | setChecked .. => "set_currently_in_creation"
  | enter _ => "begin"
  | leave _ => "end"
  | clearMarks => "tracker_clear"

/-! ## Routines, steps and operations -/

/-- How a routine settles once its steps are done. -/
inductive Settle where
  /-- Fail with a text. -/
  | fail (text : String)
  /-- Panic. -/
  | panic (payload : Panic)
  /-- Produce nothing; only a production step can. -/
  | nothing
  /-- Yield what a variable holds, or fail if it holds nothing. -/
  | recall (name : String)
  /-- Yield a new instance named after the one that was passed; only a post-processor has one. -/
  | wrap (title : String)
  /-- Yield the instance that was passed. -/
  | same
  /-- Yield a new instance, by default labelled with the identifier. -/
  | fresh (label : Option String)
  deriving DecidableEq, Repr

/-- Where an instance that is bound directly comes from. -/
inductive Source where
  /-- It is new, by default labelled with the identifier. -/
  | fresh (label : Option String)
  /-- It is what a variable holds. -/
  | recalled (name : String)
  deriving DecidableEq, Repr

/-- What a production step says about the type of its product. -/
inductive ProductType where
  | declared (name : Option String)
  | failing (text : String)
  deriving DecidableEq, Repr

mutual

/-- A callback. -/
inductive Routine where
  /-- Take the steps, then settle.  The identifier is the one it was written for. -/
  | scripted (id : Ident) (body : List Step) (settle : Settle)
  /-- Settle for one of several callers that ask at once. -/
  | contender (id : Ident) (settle : Settle)
  /-- Assemble the component of that name. -/
  | assembly (id : Ident)
  /-- Hand out an instance that exists already. -/
  | handover (id : Ident) (held : Instance)

/-- An operation as a step of a routine.  If a step that must succeed does not, the routine ends as
    the operation did.  An instance that the operation yields can be kept in a variable. -/
inductive Step where
  | step (op : Op) (must : Bool) (binding : Option String)

/-- The operations that programs can use. -/
inductive Op where
  | ask (query : Query)
  | change (change : Change)
  | graph (command : Graph.Command)
  | aliases (command : AliasTable.Command)
  /-- Make a new instance. -/
  | make (label : String)
  /-- Look an identifier up: its finished instance, or its early reference. -/
  | get (id : Ident)
  /-- Look an identifier up once the running top-level operation is over. -/
  | getLater (id : Ident)
  /-- Look an identifier up, and create its instance if there is none. -/
  | getOrCreate (id : Ident) (construct : Routine)
  /-- Create as a request says. -/
  | create (request : Request) (construct : Routine)
  /-- Bind an instance that was made elsewhere. -/
  | registerInstance (id : Ident) (source : Source)
  /-- Have early references produced on demand. -/
  | registerFactory (id : Ident) (factory : Routine)
  /-- Have a hook run when the identifier is destroyed. -/
  | registerHook (id : Ident) (hook : Routine)
  /-- Destroy an identifier after all that depends on it. -/
  | destroyOne (id : Ident)
  /-- Destroy every identifier. -/
  | destroyAll
  /-- End the registry. -/
  | shutdown
  /-- Have a production step make a product. -/
  | resolveProduct (id : Ident) (step : Routine) (shared postProcess : Bool)
  /-- Ask a production step for the type of its product. -/
  | productType (type : ProductType)
  /-- Assemble a component and all it needs. -/
  | wire (id : Ident)
  /-- Have several callers ask for one identifier at once. -/
  | race (id : Ident) (callers : Nat) (settle : Settle)

end

/-- The operation's name in scripts. -/
def Op.name : Op → String
  | ask q => q.name
  | change c => c.name
  | graph c => c.name
  | aliases c => c.name
  | make _ => "new"
  | get _ => "get"
  | getLater _ => "background_get"
  | getOrCreate .. => "get_or_create"
  | create .. => "create"
  | registerInstance .. => "register_instance"
  | registerFactory .. => "register_factory"
  | registerHook .. => "register_hook"
  | destroyOne _ => "destroy_one"
  | destroyAll => "destroy_all"
  | shutdown => "shutdown"
  | resolveProduct .. => "resolve_product"
  | productType _ => "product_type"
  | wire _ => "wire"
  | race .. => "race"

/-! ## Components -/

/-- A component that can be assembled: what it needs, and what it does along the way. -/
structure Component where
  /-- Whether it exposes itself while it is being assembled. -/
  early : Bool := true
  /-- The hook to run when it is destroyed. -/
  hook : Option Routine := none
  /-- What it cannot do without, in the order of assembly. -/
  needs : List Ident := []
  /-- What it can do without. -/
  wishes : List Ident := []
  /-- The text with which its assembly fails in the end. -/
  fault : Option String := none

end InstanceRegistry
