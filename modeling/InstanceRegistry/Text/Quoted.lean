import InstanceRegistry.Text.Unprintable

/-!
  Texts and records as diagnostics show them.

  `quoted` puts a text between double quotes and escapes what would be ambiguous or invisible:
  the quote, the backslash, the usual control characters by letter, and every unprintable
  character by its code point.  `quotedList` and `record` build the bracketed and braced forms
  around it, so that every diagnostic of the library is assembled from the same three pieces.

  Mathlib-free.
-/

namespace InstanceRegistry.Text

/-! ## Quoted text -/

/-- A code point in lower-case hexadecimal, without leading zeros. -/
def hex (n : Nat) : String := String.ofList (Nat.toDigits 16 n)

/-- One character of a quoted text; a single quote needs no escape between double quotes. -/
def escapeChar (c : Char) : String :=
  if c = '"' then "\\\""
  else if c = '\\' then "\\\\"
  else if c = '\t' then "\\t"
  else if c = '\n' then "\\n"
  else if c = '\r' then "\\r"
  else if c = '\x00' then "\\0"
  else if isUnprintable c then "\\u\x7b" ++ hex c.toNat ++ "\x7d"
  else c.toString

/-- The text between double quotes, escaped. -/
def quoted (text : String) : String :=
  "\"" ++ String.join (text.toList.map escapeChar) ++ "\""

/-- Texts between square brackets, each quoted, separated by a comma and a space. -/
def quotedList (texts : List String) : String :=
  "[" ++ ", ".intercalate (texts.map quoted) ++ "]"

/-! ## Records -/

/-- A record `Name { field: value, .. }`; `more` says that fields are left out at the end. -/
def record (name : String) (fields : List (String × String)) (more : Bool) : String :=
  name ++ " \x7b " ++ ", ".intercalate (fields.map fun field => field.1 ++ ": " ++ field.2)
    ++ (if more then ", .. \x7d" else " \x7d")

/-- A truth value as diagnostics spell it. -/
def flag (b : Bool) : String := if b then "true" else "false"

/-! ## Samples -/

example : quoted "a\"b\\c\td" = "\"a\\\"b\\\\c\\td\"" := by decide +kernel
example : quoted "e\u0301é'\x00" = "\"e\\u\x7b301\x7dé'\\0\"" := by decide +kernel
example : quotedList ["db", ""] = "[\"db\", \"\"]" := by decide +kernel
example : record "Pool" [("size", "3")] true = "Pool \x7b size: 3, .. \x7d" := by decide +kernel

end InstanceRegistry.Text
