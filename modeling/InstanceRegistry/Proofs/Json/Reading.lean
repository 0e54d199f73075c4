import InstanceRegistry.Proofs.Json.Grammar

/-!
  The reader of JSON texts reads the grammar: all of it, and nothing else (`parse?_eq_some_iff`).

  That what is spelled is READ goes along the derivation, with any text after it
  (`readValue?_append`).  So a value that nobody asks for is passed over as far as it goes, whatever
  it holds, and not a character further.  One thing is asked of the text after it, that it make no
  number longer (`Stops`), and neither blanks nor commas nor closing brackets do.  Twice as much
  depth as there are characters is enough, since two steps down the reader has always taken one: a
  value has an opening bracket before its items, an item has the closing bracket after it, and the
  items after the first one have a comma before them.

  That what is read is SPELLED goes along the depth, with the text cut where the reader stopped
  (`spells_of_readValue?`).

  Mathlib-free.
-/

namespace InstanceRegistry.Json

variable {p : Char → Bool} {text rest after gap spelling : List Char} {value : Json}
  {items : List Json} {members : List (List Char × Json)} {c : Char} {depth : Nat}

/-! ## Blanks and digits -/

theorem takeWhile_append (h : ∀ c ∈ text, p c = true) (hrest : Without p rest) :
    (text ++ rest).takeWhile p = text := by
  rw [List.takeWhile_append_of_pos h]
  cases rest with
  | nil => exact List.append_nil _
  | cons c rest => simp [without_cons.1 hrest]

theorem dropWhile_append (h : ∀ c ∈ text, p c = true) (hrest : Without p rest) :
    (text ++ rest).dropWhile p = rest := by
  rw [List.dropWhile_append_of_pos h]
  cases rest with
  | nil => rfl
  | cons c rest => simp [without_cons.1 hrest]

/-- Blanks in front of a text are skipped, and nothing else is. -/
theorem skipBlanks_append (hgap : Blank gap) (hrest : Without isBlank rest) :
    skipBlanks (gap ++ rest) = rest := dropWhile_append hgap hrest

/-- Blanks in front of a mark are skipped. -/
theorem Blank.skipped (hgap : Blank gap) (hc : isBlank c = false) :
    skipBlanks (gap ++ c :: rest) = c :: rest := skipBlanks_append hgap (without_cons.2 hc)

/-- After blanks and a mark, the next skip ends at what follows. -/
theorem Mark.skipped {mark : Char} (h : Mark mark text) (hmark : isBlank mark = false)
    (hrest : Without isBlank rest) :
    ∃ after, skipBlanks (text ++ rest) = mark :: after ∧ skipBlanks after = rest := by
  obtain ⟨before, after, hbefore, hafter, rfl⟩ := h
  refine ⟨after ++ rest, ?_, skipBlanks_append hafter hrest⟩
  rw [List.append_assoc]
  exact hbefore.skipped hmark

theorem exists_blank_skipBlanks (text : List Char) :
    ∃ gap, Blank gap ∧ text = gap ++ skipBlanks text :=
  ⟨text.takeWhile isBlank, fun _ => List.all_eq_true.1 List.all_takeWhile _,
    List.takeWhile_append_dropWhile.symm⟩

/-- A skip that stops at a mark, and another one after it, have passed the mark with its blanks. -/
theorem exists_mark_skipBlanks {mark : Char} (h : skipBlanks text = mark :: rest) :
    ∃ passed, Mark mark passed ∧ text = passed ++ skipBlanks rest := by
  obtain ⟨before, hbefore, htext⟩ := exists_blank_skipBlanks text
  obtain ⟨after, hafter, hrest⟩ := exists_blank_skipBlanks rest
  refine ⟨before ++ mark :: after, ⟨before, after, hbefore, hafter, rfl⟩, ?_⟩
  rw [List.append_assoc, List.cons_append, ← hrest, ← h]
  exact htext

/-- Blanks up to a mark are skipped. -/
theorem exists_blank_of_skipBlanks {mark : Char} (h : skipBlanks text = mark :: rest) :
    ∃ gap, Blank gap ∧ text = gap ++ mark :: rest := h ▸ exists_blank_skipBlanks text

theorem isDigit_ne {mark : Char} (hc : c.isDigit = true) (hmark : mark.isDigit = false) :
    c ≠ mark := by
  rintro rfl
  rw [hc] at hmark
  cases hmark

/-- The digits in front of a text are taken whole. -/
theorem digits_append (h : Digits text) (hrest : Without Char.isDigit rest) :
    digits (text ++ rest) = (text, rest) := by
  rw [digits, takeWhile_append h.2 hrest, dropWhile_append h.2 hrest]

theorem digits_split {found : List Char} (h : digits text = (found, after)) (hne : found ≠ []) :
    Digits found ∧ text = found ++ after := by
  cases h
  exact ⟨⟨hne, fun _ => List.all_eq_true.1 List.all_takeWhile _⟩,
    List.takeWhile_append_dropWhile.symm⟩

/-! ## Strings -/

theorem hexDigit?_isSome_iff : (hexDigit? c).isSome = true ↔ HexDigit c := by
  rw [hexDigit?, HexDigit]
  split
  · simp [*]
  · split
    · simp [*]
    · split <;> simp [*]

theorem hexUnit?_isSome_iff {d₁ d₂ d₃ d₄ : Char} :
    (hexUnit? d₁ d₂ d₃ d₄).isSome = true ↔
      HexDigit d₁ ∧ HexDigit d₂ ∧ HexDigit d₃ ∧ HexDigit d₄ := by
  simp only [← hexDigit?_isSome_iff, hexUnit?]
  cases hexDigit? d₁ <;> cases hexDigit? d₂ <;> cases hexDigit? d₃ <;> cases hexDigit? d₄ <;> simp

theorem escaped?_isSome_iff : (escaped? c).isSome = true ↔ c ∈ escapeLetters := by
  rw [escaped?.eq_def, escapeLetters]
  split <;> simp_all

/-- **What stands between quotes is read up to the closing one.** -/
theorem readString?_append (h : Inside spelling) :
    readString? (spelling ++ '"' :: rest) = some (spelling, rest) := by
  induction h with
  | nil => rfl
  | plain hquote hback hcontrol _ ih =>
    rw [List.cons_append, readString?, if_neg (not_or.2 ⟨hback, hcontrol⟩), ih]
    · rfl
    · exact hquote
    · exact fun _ _ _ _ _ h => absurd h hback
    · exact fun _ _ h => absurd h hback
  | escape hletter _ ih =>
    obtain ⟨c, hc⟩ := Option.isSome_iff_exists.1 (escaped?_isSome_iff.2 hletter)
    rw [List.cons_append, List.cons_append, readString?, hc, ih]
    · rfl
    · rintro _ _ _ _ _ rfl
      exact absurd hletter (by decide)
  | unit h₁ h₂ h₃ h₄ _ ih =>
    obtain ⟨unit, hunit⟩ := Option.isSome_iff_exists.1 (hexUnit?_isSome_iff.2 ⟨h₁, h₂, h₃, h₄⟩)
    simp only [List.cons_append]
    rw [readString?, hunit, ih]
    rfl

theorem inside_of_readString? (h : readString? text = some (spelling, rest)) :
    Inside spelling ∧ text = spelling ++ '"' :: rest := by
  fun_induction readString? text generalizing spelling rest with
  | case1 after =>
    cases h
    exact ⟨.nil, rfl⟩
  | case2 d₁ d₂ d₃ d₄ after ih =>
    obtain ⟨unit, hunit, h⟩ := Option.bind_eq_some_iff.1 h
    obtain ⟨⟨inner, _⟩, hread, h⟩ := Option.bind_eq_some_iff.1 h
    cases h
    obtain ⟨hinner, rfl⟩ := ih hread
    obtain ⟨h₁, h₂, h₃, h₄⟩ := hexUnit?_isSome_iff.1 (Option.isSome_of_eq_some hunit)
    exact ⟨.unit h₁ h₂ h₃ h₄ hinner, rfl⟩
  | case3 c after _ ih =>
    obtain ⟨_, hletter, h⟩ := Option.bind_eq_some_iff.1 h
    obtain ⟨⟨inner, _⟩, hread, h⟩ := Option.bind_eq_some_iff.1 h
    cases h
    obtain ⟨hinner, rfl⟩ := ih hread
    exact ⟨.escape (escaped?_isSome_iff.1 (Option.isSome_of_eq_some hletter)) hinner, rfl⟩
  | case4 => cases h
  | case5 c after hquote _ _ hplain ih =>
    obtain ⟨⟨inner, _⟩, hread, h⟩ := Option.bind_eq_some_iff.1 h
    cases h
    obtain ⟨hinner, rfl⟩ := ih hread
    obtain ⟨hback, hcontrol⟩ := not_or.1 hplain
    exact ⟨.plain hquote hback hcontrol hinner, rfl⟩
  | case6 => cases h

/-- Whether a spelling may stand between quotes is seen by reading it. -/
theorem readString?_self_iff :
    readString? (spelling ++ ['"']) = some (spelling, []) ↔ Inside spelling :=
  ⟨fun h => (inside_of_readString? h).1, readString?_append⟩

instance (spelling : List Char) : Decidable (Inside spelling) :=
  decidable_of_iff _ readString?_self_iff

/-! ## Numbers -/

theorem readWhole?_append (h : Whole text) (hrest : Without Char.isDigit rest) :
    readWhole? (text ++ rest) = some (text, rest) := by
  cases h with
  | zero => rfl
  | digits hfirst hdigits =>
    rw [readWhole?.eq_def]
    split
    · rename_i heq
      exact absurd (List.cons.inj heq).1 hfirst
    · rw [digits_append hdigits hrest]

theorem whole_of_readWhole? (h : readWhole? text = some (spelling, rest)) :
    Whole spelling ∧ text = spelling ++ rest := by
  rw [readWhole?.eq_def] at h
  split at h
  · cases h
    exact ⟨.zero, rfl⟩
  · rename_i hzero
    split at h
    · cases h
    · rename_i hne
      have hfound := Option.some.inj h
      obtain ⟨hdigits, rfl⟩ := digits_split hfound fun hnil => hne _ (hnil ▸ hfound)
      obtain ⟨c, more, rfl, -⟩ := hdigits.start
      exact ⟨.digits (fun hc => hzero (more ++ rest) (by rw [hc]; rfl)) hdigits, rfl⟩

theorem readFraction?_append (h : Fraction text)
    (hrest : Without (fun c => c.isDigit || c = '.') rest) :
    readFraction? (text ++ rest) = some (text, rest) := by
  cases h with
  | none =>
    rw [List.nil_append, readFraction?.eq_def]
    split
    · exact absurd (without_cons.1 hrest) (by decide)
    · rfl
  | digits hdigits =>
    have hdigit : Without Char.isDigit rest := hrest.mono fun c hc => (Bool.or_eq_false_iff.1 hc).1
    rw [List.cons_append, readFraction?, digits_append hdigits hdigit]
    obtain ⟨c, more, rfl, -⟩ := hdigits.start
    rfl

theorem fraction_of_readFraction? (h : readFraction? text = some (spelling, rest)) :
    Fraction spelling ∧ text = spelling ++ rest := by
  rw [readFraction?.eq_def] at h
  split at h
  · split at h
    · cases h
    · rename_i hne hfound
      cases h
      obtain ⟨hdigits, rfl⟩ := digits_split hfound hne
      exact ⟨.digits hdigits, rfl⟩
  · cases h
    exact ⟨.none, rfl⟩

theorem readExponent?_append (h : Exponent text) (hrest : Stops rest) :
    readExponent? (text ++ rest) = some (text, rest) := by
  cases h with
  | none =>
    rw [List.nil_append, readExponent?.eq_def]
    split
    · rw [if_neg]
      rintro (rfl | rfl) <;> exact absurd (without_cons.1 hrest) (by decide)
    · rfl
  | digits hmark hsign hdigits =>
    have hdigit : Without Char.isDigit rest := hrest.mono fun c hc => by
      simp only [lengthens, Bool.or_eq_false_iff] at hc
      exact hc.1.1.1
    have hfound := digits_append hdigits hdigit
    obtain ⟨c, more, rfl, hc⟩ := hdigits.start
    have hplus : c ≠ '+' := isDigit_ne hc (by decide)
    have hminus : c ≠ '-' := isDigit_ne hc (by decide)
    rw [List.cons_append] at hfound
    rcases hsign with rfl | rfl | rfl
    · simp [readExponent?, hmark, hfound, hplus, hminus]
    · simp [readExponent?, hmark, hfound]
    · simp [readExponent?, hmark, hfound]

theorem exponent_of_readExponent? (h : readExponent? text = some (spelling, rest)) :
    Exponent spelling ∧ text = spelling ++ rest := by
  rw [readExponent?.eq_def] at h
  split at h
  · split at h
    · rename_i mark after hmark
      split at h
      rename_i sign after' hsign
      split at h
      · cases h
      · rename_i hne hfound
        cases h
        obtain ⟨hdigits, rfl⟩ := digits_split hfound hne
        split at hsign <;> cases hsign
        · exact ⟨.digits hmark (.inr (.inl rfl)) hdigits, rfl⟩
        · exact ⟨.digits hmark (.inr (.inr rfl)) hdigits, rfl⟩
        · exact ⟨.digits hmark (.inl rfl) hdigits, rfl⟩
    · cases h
      exact ⟨.none, rfl⟩
  · cases h
    exact ⟨.none, rfl⟩

theorem readNumber?_append (h : Number text) (hrest : Stops rest) :
    readNumber? (text ++ rest) = some (text, rest) := by
  obtain ⟨hsign, hwhole, hfraction, hexponent⟩ := h
  have hpoint := hexponent.ends hrest
  have hdigit := hfraction.ends (hpoint.mono fun c hc => (Bool.or_eq_false_iff.1 hc).1)
  have hwhole' := readWhole?_append hwhole hdigit
  have hfraction' := readFraction?_append hfraction hpoint
  have hexponent' := readExponent?_append hexponent hrest
  rcases hsign with rfl | rfl
  · obtain ⟨c, more, rfl, hc⟩ := hwhole.start
    have hminus : c ≠ '-' := isDigit_ne hc (by decide)
    rw [List.cons_append] at hwhole'
    simp [readNumber?, hminus, hwhole', hfraction', hexponent']
  · simp only [List.cons_append, List.nil_append, List.append_assoc, readNumber?.eq_def, hwhole',
      hfraction', hexponent', Option.bind_eq_bind, Option.bind_some]
    rfl

theorem number_of_readNumber? (h : readNumber? text = some (spelling, rest)) :
    Number spelling ∧ text = spelling ++ rest := by
  rw [readNumber?.eq_def] at h
  split at h
  rename_i sign unsigned hsign
  obtain ⟨⟨whole, text₁⟩, hwhole, h⟩ := Option.bind_eq_some_iff.1 h
  obtain ⟨⟨fraction, text₂⟩, hfraction, h⟩ := Option.bind_eq_some_iff.1 h
  obtain ⟨⟨exponent, text₃⟩, hexponent, h⟩ := Option.bind_eq_some_iff.1 h
  cases h
  obtain ⟨hwhole', rfl⟩ := whole_of_readWhole? hwhole
  obtain ⟨hfraction', rfl⟩ := fraction_of_readFraction? hfraction
  obtain ⟨hexponent', rfl⟩ := exponent_of_readExponent? hexponent
  split at hsign <;> cases hsign
  · exact ⟨.mk (.inr rfl) hwhole' hfraction' hexponent', by simp⟩
  · exact ⟨.mk (.inl rfl) hwhole' hfraction' hexponent', by simp⟩

/-! ## Values -/

/-- What starts like a number is read as one. -/
theorem readValue?_number (hc : c = '-' ∨ c.isDigit = true)
    (h : readNumber? (c :: text) = some (spelling, rest)) :
    readValue? (depth + 1) (c :: text) = some (.number spelling, rest) := by
  rw [readValue?.eq_def]
  dsimp only
  split
  case h_7 =>
    rw [h]
    rfl
  all_goals
    rename_i heq
    cases heq
    exact absurd hc (by decide)

/-- An array whose first character is no closing bracket has items. -/
theorem readValue?_array (hstart : skipBlanks text = c :: after) (hc : c ≠ ']')
    (h : readItems? depth (c :: after) = some (items, rest)) :
    readValue? (depth + 1) ('[' :: text) = some (.array items, rest) := by
  simp [readValue?, hstart, hc, h]

theorem readValue?_object (hstart : skipBlanks text = '"' :: after)
    (h : readMembers? depth ('"' :: after) = some (members, rest)) :
    readValue? (depth + 1) ('\x7b' :: text) = some (.object members, rest) := by
  simp [readValue?, hstart, h]

theorem readItems?_last {item : Json} (hitem : readValue? depth text = some (item, after))
    (hclose : skipBlanks after = ']' :: rest) :
    readItems? (depth + 1) text = some ([item], rest) := by
  simp [readItems?, hitem, hclose]

theorem readItems?_cons {item : Json} {next : List Char}
    (hitem : readValue? depth text = some (item, after)) (hcomma : skipBlanks after = ',' :: next)
    (hitems : readItems? depth (skipBlanks next) = some (items, rest)) :
    readItems? (depth + 1) text = some (item :: items, rest) := by
  simp [readItems?, hitem, hcomma, hitems]

section Members

variable {key next last : List Char}

theorem readMembers?_last (hkey : readString? text = some (key, after))
    (hcolon : skipBlanks after = ':' :: next)
    (hvalue : readValue? depth (skipBlanks next) = some (value, last))
    (hclose : skipBlanks last = '\x7d' :: rest) :
    readMembers? (depth + 1) ('"' :: text) = some ([(key, value)], rest) := by
  simp [readMembers?, hkey, hcolon, hvalue, hclose]

theorem readMembers?_cons {others : List Char} (hkey : readString? text = some (key, after))
    (hcolon : skipBlanks after = ':' :: next)
    (hvalue : readValue? depth (skipBlanks next) = some (value, last))
    (hcomma : skipBlanks last = ',' :: others)
    (hmembers : readMembers? depth (skipBlanks others) = some (members, rest)) :
    readMembers? (depth + 1) ('"' :: text) = some ((key, value) :: members, rest) := by
  simp [readMembers?, hkey, hcolon, hvalue, hcomma, hmembers]

end Members

/-- A text that starts with something leaves some depth. -/
theorem Starts.exists_depth (h : Starts text) (hdepth : 2 * text.length ≤ depth) :
    ∃ d, depth = d + 1 := by
  have hpos := h.length_pos
  exact ⟨depth - 1, by omega⟩

mutual

/-- **A value is read up to where it ends**, whatever follows it. -/
theorem readValue?_append {value : Json} {text rest : List Char} {depth : Nat}
    (h : Spells value text) (hdepth : 2 * text.length ≤ depth) (hrest : Stops rest) :
    readValue? depth (text ++ rest) = some (value, rest) := by
  obtain ⟨depth, rfl⟩ := h.starts.exists_depth hdepth
  -- The recursion is on the derivation.  Only a number needs `hrest`: the others end at a character
  -- of their own.
  cases h with
  | null | yes | no => rfl
  | number h =>
    have hread := readNumber?_append h hrest
    obtain ⟨c, more, rfl, hc⟩ := h.start
    exact readValue?_number hc hread
  | string h => simp [readValue?, readString?_append h]
  | @emptyArray gap hgap =>
    have hclose : skipBlanks (gap ++ ']' :: rest) = ']' :: rest := hgap.skipped (by decide)
    simp [readValue?, hclose]
  | @array gap text items hgap hitems =>
    simp only [List.length_append, List.length_cons] at hdepth
    have hread : readItems? depth (text ++ rest) = some (items, rest) :=
      readItems?_append hitems (by omega)
    have hstart := skipBlanks_append hgap (hitems.starts.without rest)
    obtain ⟨c, more, rfl, -, hc⟩ := hitems.start
    rw [List.append_assoc]
    exact readValue?_array hstart hc hread
  | @emptyObject gap hgap =>
    have hclose : skipBlanks (gap ++ '\x7d' :: rest) = '\x7d' :: rest := hgap.skipped (by decide)
    simp [readValue?, hclose]
  | @object gap text members hgap hmembers =>
    simp only [List.length_append, List.length_cons] at hdepth
    have hread : readMembers? depth (text ++ rest) = some (members, rest) :=
      readMembers?_append hmembers (by omega)
    have hstart := skipBlanks_append hgap (hmembers.starts.without rest)
    obtain ⟨more, rfl⟩ := hmembers.start
    rw [List.append_assoc]
    exact readValue?_object hstart hread

theorem readItems?_append {items : List Json} {text rest : List Char} {depth : Nat}
    (h : SpellsItems items text) (hdepth : 2 * text.length ≤ depth) :
    readItems? depth (text ++ rest) = some (items, rest) := by
  obtain ⟨depth, rfl⟩ := h.starts.exists_depth hdepth
  cases h with
  | @last item text gap hitem hgap =>
    simp only [List.length_append, List.length_cons] at hdepth
    have hread : readValue? depth (text ++ (gap ++ ']' :: rest)) =
        some (item, gap ++ ']' :: rest) :=
      readValue?_append hitem (by omega) (hgap.stops (without_cons.2 (by decide)))
    have hclose : skipBlanks (gap ++ ']' :: rest) = ']' :: rest := hgap.skipped (by decide)
    simp only [List.append_assoc, List.cons_append, List.nil_append]
    exact readItems?_last hread hclose
  | @cons item items text comma more hitem hcomma hitems =>
    have hlength := hcomma.length_pos
    simp only [List.length_append] at hdepth
    have hread : readValue? depth (text ++ (comma ++ (more ++ rest))) =
        some (item, comma ++ (more ++ rest)) :=
      readValue?_append hitem (by omega) (hcomma.stops (by decide) _)
    obtain ⟨next, hnext, hskip⟩ := hcomma.skipped (by decide) (hitems.starts.without rest)
    have hreads : readItems? depth (more ++ rest) = some (items, rest) :=
      readItems?_append hitems (by omega)
    simp only [List.append_assoc]
    exact readItems?_cons hread hnext (hskip ▸ hreads)

theorem readMembers?_append {members : List (List Char × Json)} {text rest : List Char}
    {depth : Nat} (h : SpellsMembers members text) (hdepth : 2 * text.length ≤ depth) :
    readMembers? depth (text ++ rest) = some (members, rest) := by
  obtain ⟨depth, rfl⟩ := h.starts.exists_depth hdepth
  cases h with
  | @last key colon text gap value hkey hcolon hvalue hgap =>
    simp only [List.length_append, List.length_cons] at hdepth
    have hread : readValue? depth (text ++ (gap ++ '\x7d' :: rest)) =
        some (value, gap ++ '\x7d' :: rest) :=
      readValue?_append hvalue (by omega) (hgap.stops (without_cons.2 (by decide)))
    have hclose : skipBlanks (gap ++ '\x7d' :: rest) = '\x7d' :: rest := hgap.skipped (by decide)
    obtain ⟨next, hnext, hskip⟩ := hcolon.skipped (by decide) (hvalue.starts.without _)
    simp only [List.append_assoc, List.cons_append, List.nil_append]
    exact readMembers?_last (readString?_append hkey) hnext (hskip ▸ hread) hclose
  | @cons key colon text comma more value members hkey hcolon hvalue hcomma hmembers =>
    have hlength := hcomma.length_pos
    simp only [List.length_append, List.length_cons] at hdepth
    have hread : readValue? depth (text ++ (comma ++ (more ++ rest))) =
        some (value, comma ++ (more ++ rest)) :=
      readValue?_append hvalue (by omega) (hcomma.stops (by decide) _)
    have hreads : readMembers? depth (more ++ rest) = some (members, rest) :=
      readMembers?_append hmembers (by omega)
    obtain ⟨next, hnext, hskip⟩ := hcolon.skipped (by decide) (hvalue.starts.without _)
    obtain ⟨others, hothers, hskip'⟩ := hcomma.skipped (by decide) (hmembers.starts.without rest)
    simp only [List.append_assoc, List.cons_append]
    exact readMembers?_cons (readString?_append hkey) hnext (hskip ▸ hread) hothers
      (hskip' ▸ hreads)

end

/-! ## What is read -/

mutual

theorem spells_of_readValue? {depth : Nat} {text rest : List Char} {value : Json}
    (h : readValue? depth text = some (value, rest)) :
    ∃ body, text = body ++ rest ∧ Spells value body := by
  cases depth with
  | zero => cases h
  | succ depth =>
    -- One case for each way a text can start that the reader tells apart; the last one is a number.
    rw [readValue?.eq_def] at h
    dsimp only at h
    split at h
    · cases h
      exact ⟨_, rfl, .null⟩
    · cases h
      exact ⟨_, rfl, .yes⟩
    · cases h
      exact ⟨_, rfl, .no⟩
    · obtain ⟨⟨spelling, _⟩, hread, h⟩ := Option.bind_eq_some_iff.1 h
      cases h
      obtain ⟨hinside, rfl⟩ := inside_of_readString? hread
      exact ⟨_, by simp, .string hinside⟩
    · split at h
      · rename_i hclose
        cases h
        obtain ⟨gap, hgap, rfl⟩ := exists_blank_of_skipBlanks hclose
        exact ⟨_, by simp, .emptyArray hgap⟩
      · rename_i after _ _
        obtain ⟨⟨items, _⟩, hread, h⟩ := Option.bind_eq_some_iff.1 h
        cases h
        obtain ⟨gap, hgap, hafter⟩ := exists_blank_skipBlanks after
        obtain ⟨body, hbody, hitems⟩ := spells_of_readItems? hread
        rw [hbody] at hafter
        exact ⟨_, by simp [hafter], .array hgap hitems⟩
    · split at h
      · rename_i hclose
        cases h
        obtain ⟨gap, hgap, rfl⟩ := exists_blank_of_skipBlanks hclose
        exact ⟨_, by simp, .emptyObject hgap⟩
      · rename_i after _ _
        obtain ⟨⟨members, _⟩, hread, h⟩ := Option.bind_eq_some_iff.1 h
        cases h
        obtain ⟨gap, hgap, hafter⟩ := exists_blank_skipBlanks after
        obtain ⟨body, hbody, hmembers⟩ := spells_of_readMembers? hread
        rw [hbody] at hafter
        exact ⟨_, by simp [hafter], .object hgap hmembers⟩
    · obtain ⟨⟨spelling, _⟩, hread, h⟩ := Option.bind_eq_some_iff.1 h
      cases h
      obtain ⟨hnumber, rfl⟩ := number_of_readNumber? hread
      exact ⟨_, rfl, .number hnumber⟩

theorem spells_of_readItems? {depth : Nat} {text rest : List Char} {items : List Json}
    (h : readItems? depth text = some (items, rest)) :
    ∃ body, text = body ++ rest ∧ SpellsItems items body := by
  cases depth with
  | zero => cases h
  | succ depth =>
    rw [readItems?] at h
    obtain ⟨⟨item, after⟩, hread, hnext⟩ := Option.bind_eq_some_iff.1 h
    obtain ⟨body, rfl, hitem⟩ := spells_of_readValue? hread
    dsimp only at hnext
    split at hnext
    · rename_i hclose
      cases hnext
      obtain ⟨gap, hgap, rfl⟩ := exists_blank_of_skipBlanks hclose
      exact ⟨_, by simp, .last hitem hgap⟩
    · rename_i hcomma
      obtain ⟨⟨others, _⟩, hreads, hnext⟩ := Option.bind_eq_some_iff.1 hnext
      cases hnext
      obtain ⟨more, hmore, hitems⟩ := spells_of_readItems? hreads
      obtain ⟨comma, hmark, rfl⟩ := exists_mark_skipBlanks hcomma
      exact ⟨_, by simp [hmore], .cons hitem hmark hitems⟩
    · cases hnext

theorem spells_of_readMembers? {depth : Nat} {text rest : List Char}
    {members : List (List Char × Json)} (h : readMembers? depth text = some (members, rest)) :
    ∃ body, text = body ++ rest ∧ SpellsMembers members body := by
  cases depth with
  | zero => cases h
  | succ depth =>
    rw [readMembers?.eq_def] at h
    dsimp only at h
    split at h
    · obtain ⟨⟨key, after⟩, hread, hnext⟩ := Option.bind_eq_some_iff.1 h
      obtain ⟨hkey, rfl⟩ := inside_of_readString? hread
      dsimp only at hnext
      split at hnext
      · rename_i hcolon
        obtain ⟨⟨value, last⟩, hread', hnext⟩ := Option.bind_eq_some_iff.1 hnext
        obtain ⟨body, hbody, hvalue⟩ := spells_of_readValue? hread'
        obtain ⟨colon, hmark, rfl⟩ := exists_mark_skipBlanks hcolon
        dsimp only at hnext
        split at hnext
        · rename_i hclose
          cases hnext
          obtain ⟨gap, hgap, rfl⟩ := exists_blank_of_skipBlanks hclose
          exact ⟨_, by simp [hbody], .last hkey hmark hvalue hgap⟩
        · rename_i hcomma
          obtain ⟨⟨others, _⟩, hreads, hnext⟩ := Option.bind_eq_some_iff.1 hnext
          cases hnext
          obtain ⟨more, hmore, hmembers⟩ := spells_of_readMembers? hreads
          obtain ⟨comma, hmark', rfl⟩ := exists_mark_skipBlanks hcomma
          exact ⟨_, by simp [hbody, hmore], .cons hkey hmark hvalue hmark' hmembers⟩
        · cases hnext
      · cases hnext
    · cases h

end

/-- **A text is read as a value just if it is a document of that value.** -/
theorem parse?_eq_some_iff : parse? text = some value ↔ Document value text := by
  rw [parse?]
  constructor
  · intro h
    obtain ⟨before, hbefore, htext⟩ := exists_blank_skipBlanks text
    split at h
    · rename_i read after hread
      split at h
      · rename_i hend
        cases h
        obtain ⟨body, hbody, hspells⟩ := spells_of_readValue? hread
        obtain ⟨gap, hgap, hafter⟩ := exists_blank_skipBlanks after
        rw [hend, List.append_nil] at hafter
        refine ⟨before, body, after, hbefore, hspells, hafter ▸ hgap, ?_⟩
        rw [htext, hbody, List.append_assoc]
      · cases h
    · cases h
  · rintro ⟨before, body, after, hbefore, hspells, hafter, rfl⟩
    have hskip := skipBlanks_append hbefore (hspells.starts.without after)
    have hend : skipBlanks after = [] := by
      have h := skipBlanks_append hafter without_nil
      rwa [List.append_nil] at h
    have hstops : Stops after := by
      have h := hafter.stops without_nil
      rwa [List.append_nil] at h
    rw [List.append_assoc, hskip, readValue?_append hspells _ hstops]
    · simp [hend]
    · simp only [List.length_append]
      omega

/-! ## What spellings mean -/

/-- The spelling of a key stands for the name. -/
def StandsFor (key : List Char) (name : String) : Prop := unescape? key = some name.toList

instance (key : List Char) (name : String) : Decidable (StandsFor key name) :=
  inferInstanceAs (Decidable (unescape? key = some name.toList))

theorem Plain.unescape? (h : Plain text) : unescape? text = some text := by
  induction text with
  | nil => rfl
  | cons c rest ih =>
    obtain ⟨⟨-, hback, -⟩, hrest⟩ := List.forall_mem_cons.1 h
    rw [Json.unescape?, ih hrest]
    · rfl
    · exact fun _ _ _ _ _ _ _ _ _ hc => absurd hc hback
    · exact fun _ _ _ _ _ hc => absurd hc hback
    · exact fun _ _ hc => absurd hc hback

theorem natural?_toDigits (n : Nat) : natural? (Nat.toDigits 10 n) = some n := by
  obtain ⟨hne, hall⟩ := digits_toDigits n
  rw [natural?, if_pos ⟨hne, List.all_eq_true.2 hall⟩]
  exact congrArg some (Nat.ofDigitChars_eq_foldl.symm.trans Nat.ofDigitChars_ten_toDigits)

/-- **Nothing but its numeral is read as a natural number.** -/
theorem eq_toDigits_of_natural? {n : Nat} (h : Number text) (hread : natural? text = some n) :
    text = Nat.toDigits 10 n := by
  rw [natural?] at hread
  split at hread
  · rename_i hdigits
    have hall : ∀ c ∈ text, c.isDigit = true := List.all_eq_true.1 hdigits.2
    have hvalue : Nat.ofDigitChars 10 text 0 = n :=
      Nat.ofDigitChars_eq_foldl.trans (Option.some.inj hread)
    have hwhole : Whole text := by
      obtain ⟨hsign, hwhole, hfraction, hexponent⟩ := h
      -- A sign, a point and the mark of an exponent are no digits.
      rcases hsign with rfl | rfl
      · cases hfraction with
        | none =>
          cases hexponent with
          | none => rwa [List.nil_append, List.append_nil, List.append_nil]
          | @digits mark _ _ hmark =>
            have hdigit : mark.isDigit = true := hall mark (by simp)
            rcases hmark with rfl | rfl <;> exact absurd hdigit (by decide)
        | digits => exact absurd (hall '.' (by simp)) (by decide)
      · exact absurd (hall '-' (by simp)) (by decide)
    exact hvalue ▸ hwhole.eq_toDigits
  · cases hread

end InstanceRegistry.Json
