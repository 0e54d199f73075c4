import InstanceRegistry.Failure
import InstanceRegistry.Text.Quoted

/-!
  The settings of a registry, and the check that an identifier is usable under them.

  Mathlib-free.
-/

namespace InstanceRegistry

/-- How one registry behaves. -/
structure Config where
  /-- Whether a lookup may run an early factory and so break a circular reference. -/
  earlyReferences : Bool := true
  /-- How many non-fatal errors one failed creation carries along at most. -/
  suppressedLimit : Nat := 100
  /-- How many bytes an identifier has at most. -/
  identifierLimit : Nat := 256
  /-- Whether an alias may be re-pointed to another name. -/
  aliasOverriding : Bool := true
  deriving DecidableEq, Repr

namespace Config

/-- What is said of a configuration under which no identifier is usable. -/
def zeroLimit : String := "max_identifier_len must be greater than zero"

/-- Refuse settings that no registry can work with. -/
def validate (c : Config) : Except Failure Unit :=
  if c.identifierLimit = 0 then .error (.badConfig zeroLimit) else .ok ()

/-- Refuse an identifier that is empty or has too many bytes. -/
def validateIdentifier (c : Config) (id : Ident) : Except Failure Unit :=
  if id = "" then .error (.badIdentifier "identifier cannot be empty")
  else
    let bytes := id.utf8ByteSize
    if c.identifierLimit < bytes then
      .error (.badIdentifier
        s!"identifier length {bytes} exceeds maximum length ({c.identifierLimit})")
    else .ok ()

/-! ## Fields -/

/-- The four settings by name. -/
inductive Field where
  | earlyReferences
  | suppressedLimit
  | identifierLimit
  | aliasOverriding
  deriving DecidableEq, Repr

namespace Field

/-- All fields, in the order in which a configuration lists them. -/
def all : List Field := [earlyReferences, suppressedLimit, identifierLimit, aliasOverriding]

/-- The field's name in documents. -/
def name : Field → String
  | earlyReferences => "allow_early_references"
  | suppressedLimit => "suppressed_error_limit"
  | identifierLimit => "max_identifier_len"
  | aliasOverriding => "allow_alias_overriding"

/-- The field of that name. -/
def ofName? (name : String) : Option Field := all.find? (·.name = name)

/-- The field's value in a configuration, as documents and diagnostics spell it. -/
def spelling (c : Config) : Field → String
  | earlyReferences => Text.flag c.earlyReferences
  | suppressedLimit => toString c.suppressedLimit
  | identifierLimit => toString c.identifierLimit
  | aliasOverriding => Text.flag c.aliasOverriding

theorem ofName?_name (f : Field) : ofName? f.name = some f := by cases f <;> decide

end Field

/-- The configuration as diagnostics show it. -/
def describe (c : Config) : String :=
  Text.record "RegistryConfig" (Field.all.map fun f => (f.name, f.spelling c)) false

/-! ## Samples -/

example : Outcome.ofExcept (({} : Config).validateIdentifier "db") = .ok () := by decide +kernel
example : Outcome.ofExcept (({ identifierLimit := 1 } : Config).validateIdentifier "é")
    = .error (.badIdentifier "identifier length 2 exceeds maximum length (1)") := by decide +kernel

end Config

end InstanceRegistry
