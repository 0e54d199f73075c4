import InstanceRegistry.Json

/-!
  The grammar of JSON texts.

  `Spells value text` says that a text is one way to write a value, and `Document value text` that
  it is one with blanks around it.  A value can be written in many ways, for blanks may stand around
  every comma, every colon and inside every bracket; a value itself keeps the spelling of its
  strings and numbers, so there is no choice in those.

  Nothing here reads a text from its front.  What a reader has to know beforehand, how a value
  starts (`Spells.start`) and where a number ends (`Stops`), is said of the grammar.

  Mathlib-free.
-/

namespace InstanceRegistry.Json

/-! ## Blanks and marks -/

/-- Nothing but blanks. -/
def Blank (text : List Char) : Prop := ∀ c ∈ text, isBlank c = true

instance (text : List Char) : Decidable (Blank text) :=
  decidable_of_iff (text.all isBlank = true) List.all_eq_true

/-- One mark, with blanks around it. -/
def Mark (mark : Char) (text : List Char) : Prop :=
  ∃ before after, Blank before ∧ Blank after ∧ text = before ++ mark :: after

theorem blank_nil : Blank [] := fun _ h => absurd h List.not_mem_nil

theorem mark_self (mark : Char) : Mark mark [mark] := ⟨[], [], blank_nil, blank_nil, rfl⟩

/-! ## Strings -/

/-- A hexadecimal digit, of either case. -/
def HexDigit (c : Char) : Prop := c.isDigit = true ∨ ('a' ≤ c ∧ c ≤ 'f') ∨ ('A' ≤ c ∧ c ≤ 'F')

/-- The letters that may follow a backslash, besides the one that four digits follow. -/
def escapeLetters : List Char := ['"', '\\', '/', 'b', 'f', 'n', 'r', 't']

/-- What may stand between the quotes of a string. -/
inductive Inside : List Char → Prop where
  | nil : Inside []
  | plain {c : Char} {rest : List Char} (hquote : c ≠ '"') (hback : c ≠ '\\')
      (hcontrol : ¬ c < ' ') (hrest : Inside rest) : Inside (c :: rest)
  | escape {c : Char} {rest : List Char} (hletter : c ∈ escapeLetters) (hrest : Inside rest) :
      Inside ('\\' :: c :: rest)
  | unit {d₁ d₂ d₃ d₄ : Char} {rest : List Char} (h₁ : HexDigit d₁) (h₂ : HexDigit d₂)
      (h₃ : HexDigit d₃) (h₄ : HexDigit d₄) (hrest : Inside rest) :
      Inside ('\\' :: 'u' :: d₁ :: d₂ :: d₃ :: d₄ :: rest)

/-! ## Numbers -/

/-- One digit or more. -/
def Digits (text : List Char) : Prop := text ≠ [] ∧ ∀ c ∈ text, c.isDigit = true

/-- The whole part of a number: a zero, or digits that start with none. -/
inductive Whole : List Char → Prop where
  | zero : Whole ['0']
  | digits {c : Char} {rest : List Char} (hfirst : c ≠ '0') (hdigits : Digits (c :: rest)) :
      Whole (c :: rest)

/-- The part of a number from its point on. -/
inductive Fraction : List Char → Prop where
  | none : Fraction []
  | digits {text : List Char} (hdigits : Digits text) : Fraction ('.' :: text)

/-- The exponent of a number. -/
inductive Exponent : List Char → Prop where
  | none : Exponent []
  | digits {mark : Char} {sign text : List Char} (hmark : mark = 'e' ∨ mark = 'E')
      (hsign : sign = [] ∨ sign = ['+'] ∨ sign = ['-']) (hdigits : Digits text) :
      Exponent (mark :: sign ++ text)

/-- A number. -/
inductive Number : List Char → Prop where
  | mk {sign whole fraction exponent : List Char} (hsign : sign = [] ∨ sign = ['-'])
      (hwhole : Whole whole) (hfraction : Fraction fraction) (hexponent : Exponent exponent) :
      Number (sign ++ whole ++ fraction ++ exponent)

/-! ## Values -/

mutual

/-- The text writes the value, without blanks around it. -/
inductive Spells : Json → List Char → Prop where
  | null : Spells .null ['n', 'u', 'l', 'l']
  | yes : Spells (.bool true) ['t', 'r', 'u', 'e']
  | no : Spells (.bool false) ['f', 'a', 'l', 's', 'e']
  | number {spelling : List Char} (h : Number spelling) : Spells (.number spelling) spelling
  | string {spelling : List Char} (h : Inside spelling) :
      Spells (.string spelling) ('"' :: spelling ++ ['"'])
  | emptyArray {gap : List Char} (hgap : Blank gap) : Spells (.array []) ('[' :: gap ++ [']'])
  | array {gap text : List Char} {items : List Json} (hgap : Blank gap)
      (hitems : SpellsItems items text) : Spells (.array items) ('[' :: gap ++ text)
  | emptyObject {gap : List Char} (hgap : Blank gap) :
      Spells (.object []) ('\x7b' :: gap ++ ['\x7d'])
  | object {gap text : List Char} {members : List (List Char × Json)} (hgap : Blank gap)
      (hmembers : SpellsMembers members text) : Spells (.object members) ('\x7b' :: gap ++ text)

/-- The text writes an array's items, up to and with the closing bracket. -/
inductive SpellsItems : List Json → List Char → Prop where
  | last {item : Json} {text gap : List Char} (hitem : Spells item text) (hgap : Blank gap) :
      SpellsItems [item] (text ++ gap ++ [']'])
  | cons {item : Json} {items : List Json} {text comma rest : List Char} (hitem : Spells item text)
      (hcomma : Mark ',' comma) (hitems : SpellsItems items rest) :
      SpellsItems (item :: items) (text ++ comma ++ rest)

/-- The text writes an object's members, up to and with the closing brace. -/
inductive SpellsMembers : List (List Char × Json) → List Char → Prop where
  | last {key colon text gap : List Char} {value : Json} (hkey : Inside key)
      (hcolon : Mark ':' colon) (hvalue : Spells value text) (hgap : Blank gap) :
      SpellsMembers [(key, value)] ('"' :: key ++ '"' :: colon ++ text ++ gap ++ ['\x7d'])
  | cons {key colon text comma rest : List Char} {value : Json}
      {members : List (List Char × Json)} (hkey : Inside key) (hcolon : Mark ':' colon)
      (hvalue : Spells value text) (hcomma : Mark ',' comma)
      (hmembers : SpellsMembers members rest) :
      SpellsMembers ((key, value) :: members) ('"' :: key ++ '"' :: colon ++ text ++ comma ++ rest)

end

/-- The text writes the value, with nothing but blanks around it. -/
def Document (value : Json) (text : List Char) : Prop :=
  ∃ before body after, Blank before ∧ Spells value body ∧ Blank after ∧
    text = before ++ body ++ after

/-! ## Plain texts and numerals -/

/-- A text that needs no escapes. -/
def Plain (text : List Char) : Prop := ∀ c ∈ text, c ≠ '"' ∧ c ≠ '\\' ∧ ¬ c < ' '

instance (text : List Char) : Decidable (Plain text) :=
  decidable_of_iff (text.all (fun c => c ≠ '"' ∧ c ≠ '\\' ∧ ¬ c < ' ') = true) <|
    List.all_eq_true.trans <| forall_congr' fun _ => forall_congr' fun _ => decide_eq_true_iff

theorem Plain.inside {text : List Char} (h : Plain text) : Inside text := by
  induction text with
  | nil => exact .nil
  | cons c rest ih =>
    obtain ⟨⟨hquote, hback, hcontrol⟩, hrest⟩ := List.forall_mem_cons.1 h
    exact .plain hquote hback hcontrol (ih hrest)

/-- A numeral starts with a zero only if it stands for zero. -/
theorem exists_toDigits_cons {n : Nat} (hn : 0 < n) :
    ∃ c rest, Nat.toDigits 10 n = c :: rest ∧ c ≠ '0' := by
  induction n using Nat.strongRecOn with
  | ind n ih =>
    by_cases hsmall : n < 10
    · have hchar : ∀ d < 10, 0 < d → Nat.digitChar d ≠ '0' := by decide
      exact ⟨_, _, Nat.toDigits_of_lt_base hsmall, hchar n hsmall hn⟩
    · obtain ⟨c, rest, hrest, hc⟩ := ih (n / 10) (by omega) (by omega)
      refine ⟨c, rest ++ [(n % 10).digitChar], ?_, hc⟩
      rw [Nat.toDigits_of_base_le (by decide) (Nat.not_lt.1 hsmall), hrest, List.cons_append]

theorem digits_toDigits (n : Nat) : Digits (Nat.toDigits 10 n) :=
  ⟨Nat.toDigits_ne_nil, fun _ => Nat.isDigit_of_mem_toDigits (by decide) (by decide)⟩

/-- The decimal numeral of a number is a number of the grammar. -/
theorem number_toDigits (n : Nat) : Number (Nat.toDigits 10 n) := by
  have hwhole : Whole (Nat.toDigits 10 n) := by
    rcases Nat.eq_zero_or_pos n with rfl | hn
    · exact .zero
    · obtain ⟨c, rest, hdigits, hc⟩ := exists_toDigits_cons hn
      have hall := digits_toDigits n
      rw [hdigits] at hall ⊢
      exact .digits hc hall
  have h := Number.mk (.inl rfl) hwhole .none .none
  rwa [List.nil_append, List.append_nil, List.append_nil] at h

/-- A digit is the numeral of its value. -/
theorem toDigits_digit {c : Char} (hc : c.isDigit = true) :
    c.toNat - '0'.toNat < 10 ∧ Nat.toDigits 10 (c.toNat - '0'.toNat) = [c] := by
  obtain ⟨hlow, hhigh⟩ : 48 ≤ c.toNat ∧ c.toNat ≤ 57 := by
    simpa [Char.isDigit, Char.le_def, UInt32.le_iff_toNat_le] using hc
  have hzero : '0'.toNat = 48 := rfl
  have hsmall : c.toNat - '0'.toNat < 10 := by omega
  refine ⟨hsmall, ?_⟩
  rw [Nat.toDigits_of_lt_base hsmall]
  have hvalue : (c.toNat - '0'.toNat).digitChar = c := by
    apply Char.toNat_inj.1
    rw [Nat.toNat_digitChar_of_lt_ten hsmall]
    omega
  rw [hvalue]

/-- Digits after a numeral that is no zero make a numeral. -/
theorem toDigits_append {n : Nat} {text : List Char} (hn : 0 < n)
    (h : ∀ c ∈ text, c.isDigit = true) :
    Nat.toDigits 10 n ++ text = Nat.toDigits 10 (Nat.ofDigitChars 10 text n) := by
  induction text generalizing n with
  | nil => rw [List.append_nil, Nat.ofDigitChars_nil]
  | cons c rest ih =>
    obtain ⟨hc, hrest⟩ := List.forall_mem_cons.1 h
    obtain ⟨hsmall, hdigit⟩ := toDigits_digit hc
    calc Nat.toDigits 10 n ++ c :: rest
        = Nat.toDigits 10 n ++ Nat.toDigits 10 (c.toNat - '0'.toNat) ++ rest := by
          rw [hdigit, List.append_assoc]
          rfl
      _ = Nat.toDigits 10 (10 * n + (c.toNat - '0'.toNat)) ++ rest := by
          rw [Nat.toDigits_append_toDigits (by decide) hn hsmall]
      _ = Nat.toDigits 10 (Nat.ofDigitChars 10 (c :: rest) n) := by
          rw [ih (by omega) hrest, Nat.ofDigitChars_cons]

/-- A whole part is the numeral of its value. -/
theorem Whole.eq_toDigits {text : List Char} (h : Whole text) :
    text = Nat.toDigits 10 (Nat.ofDigitChars 10 text 0) := by
  cases h with
  | zero => rfl
  | @digits c rest hfirst hdigits =>
    obtain ⟨hc, hrest⟩ := List.forall_mem_cons.1 hdigits.2
    obtain ⟨-, hdigit⟩ := toDigits_digit hc
    have hpos : 0 < c.toNat - '0'.toNat := by
      rcases Nat.eq_zero_or_pos (c.toNat - '0'.toNat) with hzero | hpos
      · rw [hzero] at hdigit
        exact absurd (List.head_eq_of_cons_eq hdigit).symm hfirst
      · exact hpos
    have happend := toDigits_append hpos hrest
    rw [hdigit] at happend
    rw [Nat.ofDigitChars_cons, Nat.mul_zero, Nat.zero_add, ← happend]
    rfl

/-! ## How a text starts -/

/-- The text does not start with such a character. -/
def Without (p : Char → Bool) (text : List Char) : Prop := ∀ c ∈ text.head?, p c = false

/-- The characters that can make a number longer. -/
def lengthens (c : Char) : Bool := c.isDigit || c = '.' || c = 'e' || c = 'E'

/-- A number ends where this text starts. -/
def Stops (text : List Char) : Prop := Without lengthens text

variable {p : Char → Bool} {text rest gap : List Char} {value : Json} {items : List Json}
  {members : List (List Char × Json)} {c : Char}

theorem without_nil : Without p [] := fun _ h => by cases h

theorem without_cons : Without p (c :: rest) ↔ p c = false :=
  ⟨fun h => h c rfl, fun h _ hc => Option.some.inj hc ▸ h⟩

theorem Without.mono {q : Char → Bool} (h : Without p text) (hqp : ∀ c, p c = false → q c = false) :
    Without q text := fun c hc => hqp c (h c hc)

/-- Blanks in front of a text are no part of a number. -/
theorem Blank.stops (hgap : Blank gap) (h : Stops rest) : Stops (gap ++ rest) := by
  cases gap with
  | nil => exact h
  | cons c gap =>
    have hc : isBlank c = true := hgap c List.mem_cons_self
    refine without_cons.2 ?_
    simp only [isBlank, Bool.or_eq_true, decide_eq_true_eq] at hc
    rcases hc with ((rfl | rfl) | rfl) | rfl <;> decide

theorem Mark.length_pos {mark : Char} (h : Mark mark text) : 0 < text.length := by
  obtain ⟨before, after, -, -, rfl⟩ := h
  rw [List.length_append, List.length_cons]
  omega

theorem Mark.stops {mark : Char} (h : Mark mark text) (hmark : lengthens mark = false)
    (rest : List Char) : Stops (text ++ rest) := by
  obtain ⟨before, after, hbefore, -, rfl⟩ := h
  rw [List.append_assoc]
  exact hbefore.stops (without_cons.2 hmark)

theorem Digits.start (h : Digits text) : ∃ c rest, text = c :: rest ∧ c.isDigit = true := by
  obtain ⟨c, rest, rfl⟩ := List.exists_cons_of_ne_nil h.1
  exact ⟨c, rest, rfl, h.2 c List.mem_cons_self⟩

theorem Whole.start (h : Whole text) : ∃ c rest, text = c :: rest ∧ c.isDigit = true := by
  cases h with
  | zero => exact ⟨_, _, rfl, by decide⟩
  | digits _ hdigits => exact hdigits.start

/-- Neither an exponent nor what follows a number makes the part in front of it longer. -/
theorem Exponent.ends (h : Exponent text) (hrest : Stops rest) :
    Without (fun c => c.isDigit || c = '.') (text ++ rest) := by
  cases h with
  | none =>
    refine hrest.mono fun c hc => ?_
    simp only [lengthens, Bool.or_eq_false_iff] at hc ⊢
    exact hc.1.1
  | digits hmark =>
    refine without_cons.2 ?_
    rcases hmark with rfl | rfl <;> decide

/-- Neither does a fraction. -/
theorem Fraction.ends (h : Fraction text) (hrest : Without Char.isDigit rest) :
    Without Char.isDigit (text ++ rest) := by
  cases h with
  | none => exact hrest
  | digits => exact without_cons.2 (by decide)

/-- A number starts with its sign or a digit. -/
theorem Number.start (h : Number text) :
    ∃ c rest, text = c :: rest ∧ (c = '-' ∨ c.isDigit = true) := by
  obtain ⟨hsign, hwhole, -, -⟩ := h
  rcases hsign with rfl | rfl
  · obtain ⟨c, rest, rfl, hc⟩ := hwhole.start
    exact ⟨c, _, rfl, .inr hc⟩
  · exact ⟨_, _, rfl, .inl rfl⟩

/-- The text starts with a character that is no blank. -/
def Starts (text : List Char) : Prop := ∃ c rest, text = c :: rest ∧ isBlank c = false

theorem Starts.without (h : Starts text) (rest : List Char) : Without isBlank (text ++ rest) := by
  obtain ⟨c, more, rfl, hc⟩ := h
  exact without_cons.2 hc

theorem Starts.length_pos (h : Starts text) : 0 < text.length := by
  obtain ⟨c, more, rfl, -⟩ := h
  exact Nat.succ_pos _

/-- A value starts with a character that is neither blank nor a closing bracket. -/
theorem Spells.start (h : Spells value text) :
    ∃ c rest, text = c :: rest ∧ isBlank c = false ∧ c ≠ ']' := by
  cases h with
  | number h =>
    obtain ⟨c, rest, rfl, hc⟩ := h.start
    refine ⟨c, rest, rfl, ?_, ?_⟩
    · simp only [isBlank, Bool.or_eq_false_iff, decide_eq_false_iff_not]
      refine ⟨⟨⟨?_, ?_⟩, ?_⟩, ?_⟩ <;> rintro rfl <;> revert hc <;> decide
    · rintro rfl
      revert hc
      decide
  | _ => exact ⟨_, _, rfl, by decide, by decide⟩

theorem Spells.starts (h : Spells value text) : Starts text := by
  obtain ⟨c, rest, htext, hc, -⟩ := h.start
  exact ⟨c, rest, htext, hc⟩

/-- Items start like the first of them. -/
theorem SpellsItems.start (h : SpellsItems items text) :
    ∃ c rest, text = c :: rest ∧ isBlank c = false ∧ c ≠ ']' := by
  cases h with
  | last hitem | cons hitem =>
    obtain ⟨c, rest, rfl, hc⟩ := hitem.start
    exact ⟨c, _, rfl, hc⟩

theorem SpellsItems.starts (h : SpellsItems items text) : Starts text := by
  obtain ⟨c, rest, htext, hc, -⟩ := h.start
  exact ⟨c, rest, htext, hc⟩

/-- Members start with the quote of a key. -/
theorem SpellsMembers.start (h : SpellsMembers members text) : ∃ rest, text = '"' :: rest := by
  cases h <;> exact ⟨_, rfl⟩

theorem SpellsMembers.starts (h : SpellsMembers members text) : Starts text := by
  obtain ⟨rest, htext⟩ := h.start
  exact ⟨'"', rest, htext, by decide⟩

/-- Whatever is written in an object is spelled there. -/
theorem SpellsMembers.spells (h : SpellsMembers members text) :
    ∀ m ∈ members, ∃ body, Spells m.2 body := by
  induction members generalizing text with
  | nil => cases h
  | cons m members ih =>
    cases h with
    | last _ _ hvalue => simpa using ⟨_, hvalue⟩
    | cons _ _ hvalue _ hmembers => exact List.forall_mem_cons.2 ⟨⟨_, hvalue⟩, ih hmembers⟩

theorem Document.spells (h : Document (.object members) text) :
    ∀ m ∈ members, ∃ body, Spells m.2 body := by
  obtain ⟨_, _, _, -, hspells, -, -⟩ := h
  cases hspells with
  | emptyObject => exact fun _ h => absurd h List.not_mem_nil
  | object _ hmembers => exact hmembers.spells

end InstanceRegistry.Json
