import InstanceRegistry.Answer

/-!
  Aliases: other names for an identifier.

  A table files, under each alias, the name it stands for, which may be an alias in turn.  The
  name at the end of the chain is the CANONICAL one, and the registry files everything under it.

  The queries look along chains in both directions: `canonical` walks forward from an alias,
  `hasAlias` and `aliasesOf` search backward from a name.  A chain without a cycle is shorter than
  the table is long, so the table's size bounds every walk; `register` refuses what would close a
  cycle, and that keeps the bound good.

  Mathlib-free.
-/

namespace InstanceRegistry

/-- Aliases, each with the name it stands for. -/
structure AliasTable where
  targets : Store Ident := ∅
  /-- Whether an alias may be re-pointed to another name. -/
  overriding : Bool := true
  deriving DecidableEq

namespace AliasTable

/-- The empty table under a configuration's policy. -/
def ofConfig (c : Config) : AliasTable := { overriding := c.aliasOverriding }

/-! ## Queries -/

/-- Whether `id` is an alias. -/
def isAlias (t : AliasTable) (id : Ident) : Bool := t.targets.contains id

/-- The name reached from `id` in at most so many steps. -/
def follow (targets : Store Ident) : Nat → Ident → Ident
  | 0, id => id
  | steps + 1, id =>
    match targets.get? id with
    | none => id
    | some name => follow targets steps name

/-- The canonical name of `id`: the end of its chain, `id` itself when it is no alias. -/
def canonical (t : AliasTable) (id : Ident) : Ident := follow t.targets t.targets.size id

/-- The names that stand directly for `name`. -/
def direct (targets : Store Ident) (name : Ident) : List Ident :=
  (targets.entries.filter fun e => e.2 = name).map Prod.fst

/-- Whether a chain of at most so many steps leads from `nick` back to `name`. -/
def leadsTo (targets : Store Ident) (nick : Ident) : Nat → Ident → Bool
  | 0, _ => false
  | steps + 1, name =>
    (direct targets name).any fun found => found = nick || leadsTo targets nick steps found

/-- Whether `nick` stands for `name`, directly or through a chain. -/
def hasAlias (t : AliasTable) (name nick : Ident) : Bool :=
  leadsTo t.targets nick t.targets.size name

/-- The aliases found from `name` in at most so many steps, nearer before farther. -/
def collect (targets : Store Ident) : Nat → Ident → List Ident
  | 0, _ => []
  | steps + 1, name => (direct targets name).flatMap fun found => found :: collect targets steps found

/-- Put `id` in front of the first identifier that does not come before it. -/
def place (id : Ident) : List Ident → List Ident
  | [] => [id]
  | other :: rest => if other < id then other :: place id rest else id :: other :: rest

/-- All aliases that stand for `name`, directly or through a chain, in the order of their
    characters. -/
def aliasesOf (t : AliasTable) (name : Ident) : List Ident :=
  (collect t.targets t.targets.size name).foldr place []

/-! ## Changes -/

/-- What registering an alias comes to. -/
inductive Decision where
  /-- A name bound to itself is no alias any more. -/
  | release
  /-- The alias stands for that name already. -/
  | keep
  /-- The alias is pointed to the name. -/
  | bind
  deriving DecidableEq, Repr

/-- Bind `nick`, unless `name` stands for it already. -/
def bindOrRefuse (t : AliasTable) (name nick : Ident) : Except Failure Decision :=
  if t.hasAlias nick name then .error (.circularAlias nick name) else .ok .bind

/-- Decide what `register` does: refuse to re-point an alias where that is not allowed, and refuse
    an alias that the name itself leads to. -/
def decision (t : AliasTable) (name nick : Ident) : Except Failure Decision :=
  if nick = name then .ok .release
  else
    match t.targets.get? nick with
    | none => t.bindOrRefuse name nick
    | some existing =>
      if existing = name then .ok .keep
      else if t.overriding then t.bindOrRefuse name nick
      else .error (.aliasTaken nick name existing)

/-- The table after a decision. -/
def apply (t : AliasTable) (name nick : Ident) : Decision → AliasTable
  | .release => { t with targets := t.targets.erase nick }
  | .keep => t
  | .bind => { t with targets := t.targets.insert nick name }

/-- Point `nick` to `name`. -/
def register (t : AliasTable) (name nick : Ident) : Except Failure AliasTable :=
  (t.decision name nick).map (t.apply name nick)

/-- Drop `nick`. -/
def release (t : AliasTable) (nick : Ident) : AliasTable :=
  { t with targets := t.targets.erase nick }

/-! ## Commands -/

/-- The operations on a table. -/
inductive Command where
  | register (name nick : Ident)
  | remove (nick : Ident)
  | isAlias (id : Ident)
  | aliasesOf (id : Ident)
  | hasAlias (name nick : Ident)
  | canonicalName (id : Ident)
  | ownName (id : Ident)
  deriving DecidableEq, Repr

/-- The command's name in scripts. -/
def Command.name : Command → String
  | register .. => "register_alias"
  | remove _ => "remove_alias"
  | isAlias _ => "is_alias"
  | aliasesOf _ => "aliases_of"
  | hasAlias .. => "has_alias"
  | canonicalName _ => "canonical_name"
  | ownName _ => "identity_canonical_name"

/-- Carry out a command: its answer, and the table after it. -/
def run {ι : Type} (t : AliasTable) : Command → Except Failure (Answer ι) × AliasTable
  | .register name nick =>
    match t.register name nick with
    | .ok t' => (.ok .unit, t')
    | .error failure => (.error failure, t)
  | .remove nick => (.ok (.flag (t.isAlias nick)), t.release nick)
  | .isAlias id => (.ok (.flag (t.isAlias id)), t)
  | .aliasesOf id => (.ok (.texts (t.aliasesOf id)), t)
  | .hasAlias name nick => (.ok (.flag (t.hasAlias name nick)), t)
  | .canonicalName id => (.ok (.text (t.canonical id)), t)
  | .ownName id => (.ok (.text id), t)

/-! ## Samples -/

/-- A chain of two aliases and one alias beside it. -/
def sample : AliasTable :=
  { targets := (((∅ : Store Ident).insert "db" "pool").insert "store" "db").insert "pg" "pool" }

example : sample.canonical "store" = "pool" := by decide +kernel
example : sample.hasAlias "pool" "store" = true := by decide +kernel
example : sample.aliasesOf "pool" = ["db", "pg", "store"] := by decide +kernel
example : Outcome.ofExcept (sample.register "store" "pool")
    = .error (.circularAlias "pool" "store") := by decide +kernel

end AliasTable

end InstanceRegistry
