/-!
  JSON documents, read without interpreting them.

  A `Json` value keeps the SPELLING of its strings and numbers: a string is the characters between
  its quotes, escapes and all, and a number is its digits, point and exponent.  So a document can
  be held whose strings no text could represent and whose numbers fit nowhere, and it is for the
  reader of a field to say what a spelling means (`unescape?`, `natural?`).

  Reading is by descent over the characters that are left.  Of two calls in a row at least one
  has taken a character, so twice the length of the text bounds the depth of the descent.

  Mathlib-free.
-/

namespace InstanceRegistry

/-- A JSON value with its strings and numbers as they are spelled. -/
inductive Json where
  | null
  | bool (value : Bool)
  | number (spelling : List Char)
  | string (spelling : List Char)
  | array (items : List Json)
  | object (members : List (List Char × Json))
  deriving Repr

namespace Json

/-! ## Tokens -/

/-- The four characters that may stand between tokens. -/
def isBlank (c : Char) : Bool := c = ' ' || c = '\n' || c = '\t' || c = '\r'

/-- The text after any blanks. -/
def skipBlanks (text : List Char) : List Char := text.dropWhile isBlank

/-- The value of a hexadecimal digit. -/
def hexDigit? (c : Char) : Option Nat :=
  if c.isDigit then some (c.toNat - '0'.toNat)
  else if 'a' ≤ c ∧ c ≤ 'f' then some (c.toNat - 'a'.toNat + 10)
  else if 'A' ≤ c ∧ c ≤ 'F' then some (c.toNat - 'A'.toNat + 10)
  else none

/-- The value of four hexadecimal digits. -/
def hexUnit? (a b c d : Char) : Option Nat := do
  return ((← hexDigit? a) * 16 + (← hexDigit? b)) * 256 + (← hexDigit? c) * 16 + (← hexDigit? d)

/-- The character that a one-letter escape stands for. -/
def escaped? : Char → Option Char
  | '"' => some '"'
  | '\\' => some '\\'
  | '/' => some '/'
  | 'b' => some '\x08'
  | 'f' => some '\x0c'
  | 'n' => some '\n'
  | 'r' => some '\r'
  | 't' => some '\t'
  | _ => none

/-- The rest of a string, from after its opening quote: the spelling up to the closing quote, and
    the text after that.  Control characters have to be escaped. -/
def readString? : List Char → Option (List Char × List Char)
  | '"' :: rest => some ([], rest)
  | '\\' :: 'u' :: a :: b :: c :: d :: rest => do
    let _ ← hexUnit? a b c d
    let (spelling, after) ← readString? rest
    return ('\\' :: 'u' :: a :: b :: c :: d :: spelling, after)
  | '\\' :: c :: rest => do
    let _ ← escaped? c
    let (spelling, after) ← readString? rest
    return ('\\' :: c :: spelling, after)
  | c :: rest => do
    if c = '\\' ∨ c < ' ' then none
    else
      let (spelling, after) ← readString? rest
      return (c :: spelling, after)
  | [] => none

/-- The digits in front of a text, and the text after them. -/
def digits (text : List Char) : List Char × List Char :=
  (text.takeWhile Char.isDigit, text.dropWhile Char.isDigit)

/-- The whole part of a number: a zero, or digits that start with none. -/
def readWhole? : List Char → Option (List Char × List Char)
  | '0' :: rest => some (['0'], rest)
  | text =>
    match digits text with
    | ([], _) => none
    | found => some found

/-- The part of a number from its point on, if it has one; digits have to follow the point. -/
def readFraction? : List Char → Option (List Char × List Char)
  | '.' :: rest =>
    match digits rest with
    | ([], _) => none
    | (found, after) => some ('.' :: found, after)
  | text => some ([], text)

/-- The exponent of a number, if it has one; digits have to follow the mark and its sign. -/
def readExponent? (text : List Char) : Option (List Char × List Char) :=
  match text with
  | e :: rest =>
    if e = 'e' ∨ e = 'E' then
      let (sign, rest) := match rest with
        | '+' :: rest => (['+'], rest)
        | '-' :: rest => (['-'], rest)
        | rest => ([], rest)
      match digits rest with
      | ([], _) => none
      | (found, after) => some (e :: sign ++ found, after)
    else some ([], text)
  | [] => some ([], [])

/-- A number in front of a text, and the text after it. -/
def readNumber? (text : List Char) : Option (List Char × List Char) := do
  let (sign, text) := match text with
    | '-' :: rest => (['-'], rest)
    | text => ([], text)
  let (whole, text) ← readWhole? text
  let (fraction, text) ← readFraction? text
  let (exponent, text) ← readExponent? text
  return (sign ++ whole ++ fraction ++ exponent, text)

/-! ## Values -/

mutual

/-- A value in front of a text that starts with no blank, and the text after the value. -/
def readValue? : Nat → List Char → Option (Json × List Char)
  | 0, _ => none
  | depth + 1, text =>
    match text with
    | 'n' :: 'u' :: 'l' :: 'l' :: rest => some (.null, rest)
    | 't' :: 'r' :: 'u' :: 'e' :: rest => some (.bool true, rest)
    | 'f' :: 'a' :: 'l' :: 's' :: 'e' :: rest => some (.bool false, rest)
    | '"' :: rest => do
      let (spelling, after) ← readString? rest
      return (.string spelling, after)
    | '[' :: rest =>
      match skipBlanks rest with
      | ']' :: after => some (.array [], after)
      | rest => do
        let (items, after) ← readItems? depth rest
        return (.array items, after)
    | '\x7b' :: rest =>
      match skipBlanks rest with
      | '\x7d' :: after => some (.object [], after)
      | rest => do
        let (members, after) ← readMembers? depth rest
        return (.object members, after)
    | text => do
      let (spelling, after) ← readNumber? text
      return (.number spelling, after)

/-- The items of an array up to its closing bracket, from the first character of an item. -/
def readItems? : Nat → List Char → Option (List Json × List Char)
  | 0, _ => none
  | depth + 1, text => do
    let (item, rest) ← readValue? depth text
    match skipBlanks rest with
    | ']' :: after => some ([item], after)
    | ',' :: rest =>
      let (items, after) ← readItems? depth (skipBlanks rest)
      return (item :: items, after)
    | _ => none

/-- The members of an object up to its closing brace, from the first character of a key. -/
def readMembers? : Nat → List Char → Option (List (List Char × Json) × List Char)
  | 0, _ => none
  | depth + 1, text =>
    match text with
    | '"' :: rest => do
      let (key, rest) ← readString? rest
      match skipBlanks rest with
      | ':' :: rest =>
        let (value, rest) ← readValue? depth (skipBlanks rest)
        match skipBlanks rest with
        | '\x7d' :: after => some ([(key, value)], after)
        | ',' :: rest =>
          let (members, after) ← readMembers? depth (skipBlanks rest)
          return ((key, value) :: members, after)
        | _ => none
      | _ => none
    | _ => none

end

/-- The value that a text spells, with nothing but blanks around it. -/
def parse? (text : List Char) : Option Json :=
  match readValue? (2 * text.length + 1) (skipBlanks text) with
  | some (value, rest) => if skipBlanks rest = [] then some value else none
  | none => none

/-! ## What spellings mean -/

/-- The first half of a surrogate pair. -/
def isHighSurrogate (unit : Nat) : Bool := 0xD800 ≤ unit && unit < 0xDC00

/-- The second half of a surrogate pair. -/
def isLowSurrogate (unit : Nat) : Bool := 0xDC00 ≤ unit && unit < 0xE000

/-- The characters that a string's spelling stands for; half a surrogate pair stands for none. -/
def unescape? : List Char → Option (List Char)
  | [] => some []
  | '\\' :: 'u' :: a :: b :: c :: d :: '\\' :: 'u' :: a' :: b' :: c' :: d' :: rest => do
    let unit ← hexUnit? a b c d
    if isHighSurrogate unit then
      let low ← hexUnit? a' b' c' d'
      if isLowSurrogate low then
        return Char.ofNat (0x10000 + (unit - 0xD800) * 0x400 + (low - 0xDC00)) :: (← unescape? rest)
      else none
    else if isLowSurrogate unit then none
    else return Char.ofNat unit :: (← unescape? ('\\' :: 'u' :: a' :: b' :: c' :: d' :: rest))
  | '\\' :: 'u' :: a :: b :: c :: d :: rest => do
    let unit ← hexUnit? a b c d
    if isHighSurrogate unit || isLowSurrogate unit then none
    else return Char.ofNat unit :: (← unescape? rest)
  | '\\' :: c :: rest => return (← escaped? c) :: (← unescape? rest)
  | c :: rest => return c :: (← unescape? rest)

/-- The number that a spelling stands for, if it is a plain row of digits. -/
def natural? (spelling : List Char) : Option Nat :=
  if spelling ≠ [] ∧ spelling.all Char.isDigit then
    some (spelling.foldl (fun n c => 10 * n + (c.toNat - '0'.toNat)) 0)
  else none

end Json

end InstanceRegistry
