import InstanceRegistry.Config
import InstanceRegistry.Json

/-!
  Configurations as JSON documents.

  A document is an object or an array.  An OBJECT names the settings it gives, in any order; names
  that are no setting's are skipped with whatever they hold, and a setting may be named once only.
  An ARRAY gives the settings by position, and may stop early.  What a document does not give keeps
  its default.  Truth values are `true` and `false`; numbers are plain rows of digits that fit a
  64-bit word, so that `-0`, `1.0` and `1e2` are refused.

  Writing puts all four settings into one object, in their order, without any blanks.

  Mathlib-free.
-/

namespace InstanceRegistry.Config

/-! ## Reading -/

/-- Why a document is not a usable configuration. -/
inductive Fault where
  /-- It is no JSON document of the right shape. -/
  | unreadable
  /-- It is one, but no registry can work with its settings. -/
  | unusable (failure : Failure)
  deriving DecidableEq, Repr

/-- The fault as a failure of the registry. -/
def Fault.failure : Fault → Failure
  | unreadable => .badConfig "not a configuration document"
  | unusable failure => failure

/-- The numbers that fit a 64-bit word. -/
def wordLimit : Nat := UInt64.size

/-- The truth value a JSON value stands for. -/
def bool? : Json → Option Bool
  | .bool value => some value
  | _ => none

/-- The 64-bit word a JSON value stands for. -/
def word? : Json → Option Nat
  | .number spelling => (Json.natural? spelling).filter (· < wordLimit)
  | _ => none

/-- Set one field from a JSON value. -/
def Field.set? (c : Config) (value : Json) : Field → Option Config
  | .earlyReferences => (bool? value).map fun b => { c with earlyReferences := b }
  | .suppressedLimit => (word? value).map fun n => { c with suppressedLimit := n }
  | .identifierLimit => (word? value).map fun n => { c with identifierLimit := n }
  | .aliasOverriding => (bool? value).map fun b => { c with aliasOverriding := b }

/-- Set the fields that an object's members name; `given` holds the fields named before. -/
def ofMembers? (given : List Field) (c : Config) : List (List Char × Json) → Option Config
  | [] => some c
  | (key, value) :: rest => do
    let name ← Json.unescape? key
    match Field.ofName? (String.ofList name) with
    | none => ofMembers? given c rest
    | some field =>
      if field ∈ given then none
      else ofMembers? (field :: given) (← field.set? c value) rest

/-- Set the fields in turn from an array's items; more items than fields are refused. -/
def ofItems? (c : Config) : List Field → List Json → Option Config
  | _, [] => some c
  | [], _ :: _ => none
  | field :: fields, value :: rest => do ofItems? (← field.set? c value) fields rest

/-- The configuration that a JSON value gives. -/
def ofJson? : Json → Option Config
  | .object members => ofMembers? [] {} members
  | .array items => ofItems? {} Field.all items
  | _ => none

/-- The configuration that a text gives, if it is usable. -/
def read (text : String) : Except Fault Config :=
  match (Json.parse? text.toList).bind ofJson? with
  | none => .error .unreadable
  | some c => (c.validate.mapError .unusable).map fun _ => c

/-! ## Writing -/

/-- The configuration as a compact JSON object. -/
def write (c : Config) : String :=
  "\x7b" ++ ",".intercalate (Field.all.map fun f => "\"" ++ f.name ++ "\":" ++ f.spelling c) ++ "\x7d"

/-! ## Samples -/

example : Outcome.ofExcept (read "\x7b\"x\": [1, \x7b\x7d], \"max_identifier_len\": 9\x7d")
    = .ok { identifierLimit := 9 } := by decide +kernel
example : Outcome.ofExcept (read " [false, 7] ")
    = .ok { earlyReferences := false, suppressedLimit := 7 } := by decide +kernel
example : Outcome.ofExcept (read "[true, -0]") = .error .unreadable := by decide +kernel
example : Outcome.ofExcept (read (write { suppressedLimit := 18446744073709551615 }))
    = .ok { suppressedLimit := 18446744073709551615 } := by decide +kernel

end InstanceRegistry.Config
