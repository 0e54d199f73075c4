import InstanceRegistry.Proofs.Json.Reading
import InstanceRegistry.Config.Document

/-!
  What a document of settings gives.

  An object LISTS settings (`Lists`): some of its members hold what a configuration has in their
  fields, and the others, the strays, hold anything under names that are no field's.  The members
  are read one after another, and what has been read at any moment is the configuration restricted
  to the fields given so far (`ofMembers?_of_lists`).  So the order does not matter, for a
  restriction only asks which fields there are (`restrict_congr`), and neither do the strays, which
  add none.

  Nothing else is read.  A number has one numeral, so a member that sets a field holds its setting,
  and an object that gives a configuration lists it (`read_eq_ok_iff`).

  What is written for a configuration lists all of its fields, and so it is read back.

  Of a stray one thing is asked, that its key stands for a name.  A string can be spelled with half
  a surrogate pair, and then it stands for no text.  Nobody looks at a value that no field takes;
  but every key is looked at, and such a key spoils the document (`ofMembers?_eq_none`).

  Mathlib-free.
-/

namespace InstanceRegistry.Config

open Json (StandsFor)

variable {c : Config} {given fields listed : List Field} {members : List (List Char × Json)}
  {name text : String}

/-! ## Settings -/

/-- Both numbers fit a 64-bit word. -/
structure Fits (c : Config) : Prop where
  suppressedLimit : c.suppressedLimit < wordLimit
  identifierLimit : c.identifierLimit < wordLimit

/-- The configuration's setting of a field, as a JSON value. -/
def Field.json (c : Config) : Field → Json
  | earlyReferences => .bool c.earlyReferences
  | suppressedLimit => .number (Nat.toDigits 10 c.suppressedLimit)
  | identifierLimit => .number (Nat.toDigits 10 c.identifierLimit)
  | aliasOverriding => .bool c.aliasOverriding

/-- The configuration restricted to some fields: the others have their defaults. -/
def restrict (c : Config) (fields : List Field) : Config where
  earlyReferences := (if .earlyReferences ∈ fields then c else {}).earlyReferences
  suppressedLimit := (if .suppressedLimit ∈ fields then c else {}).suppressedLimit
  identifierLimit := (if .identifierLimit ∈ fields then c else {}).identifierLimit
  aliasOverriding := (if .aliasOverriding ∈ fields then c else {}).aliasOverriding

theorem restrict_nil (c : Config) : c.restrict [] = {} := by simp [restrict]

theorem restrict_all (c : Config) : c.restrict Field.all = c := by simp [restrict, Field.all]

theorem restrict_congr (h : ∀ f, f ∈ listed ↔ f ∈ fields) :
    c.restrict listed = c.restrict fields := by simp only [restrict, h]

/-- A configuration whose other settings are the defaults' is its own restriction. -/
theorem restrict_eq_self (h : ∀ f, f ∉ fields → f.json c = f.json {}) : c.restrict fields = c := by
  have hflag {b b' : Bool} (h : Json.bool b' = .bool b) : b = b' := (Json.bool.inj h).symm
  have hnumeral {n m : Nat} (h : Json.number (Nat.toDigits 10 m) = .number (Nat.toDigits 10 n)) :
      n = m := by
    rw [← Nat.ofDigitChars_ten_toDigits (n := n), ← Json.number.inj h,
      Nat.ofDigitChars_ten_toDigits]
  obtain ⟨early, limit, identifier, overriding⟩ := c
  rw [restrict, mk.injEq]
  refine ⟨?_, ?_, ?_, ?_⟩
  · split
    · rfl
    · exact hflag (h .earlyReferences ‹_›)
  · split
    · rfl
    · exact hnumeral (h .suppressedLimit ‹_›)
  · split
    · rfl
    · exact hnumeral (h .identifierLimit ‹_›)
  · split
    · rfl
    · exact hflag (h .aliasOverriding ‹_›)

theorem word?_toDigits {n : Nat} (hn : n < wordLimit) :
    word? (.number (Nat.toDigits 10 n)) = some n := by
  rw [word?, Json.natural?_toDigits, Option.filter_some, if_pos]
  exact decide_eq_true hn

/-- **Reading a setting adds its field to those that are given.** -/
theorem set?_json (h : c.Fits) (f : Field) :
    f.set? (c.restrict given) (f.json c) = some (c.restrict (f :: given)) := by
  cases f with
  | earlyReferences | aliasOverriding => simp [Field.set?, Field.json, bool?, restrict]
  | suppressedLimit =>
    rw [Field.set?, Field.json, word?_toDigits h.suppressedLimit]
    simp [restrict]
  | identifierLimit =>
    rw [Field.set?, Field.json, word?_toDigits h.identifierLimit]
    simp [restrict]

theorem eq_toDigits_of_word? {value : Json} {body : List Char} {n : Nat}
    (hspells : Json.Spells value body) (h : word? value = some n) :
    n < wordLimit ∧ value = .number (Nat.toDigits 10 n) := by
  cases hspells with
  | number hnumber =>
    obtain ⟨hread, hsmall⟩ := Option.filter_eq_some_iff.1 h
    exact ⟨of_decide_eq_true hsmall, congrArg _ (Json.eq_toDigits_of_natural? hnumber hread)⟩
  | _ => cases h

theorem eq_of_bool? {value : Json} {b : Bool} (h : bool? value = some b) : value = .bool b := by
  cases value with
  | bool => exact congrArg _ (Option.some.inj h)
  | _ => cases h

/-- **A field is set by its setting only**, and to nothing that does not fit. -/
theorem eq_json_of_set? {c' : Config} {value : Json} {body : List Char} {f : Field}
    (hspells : Json.Spells value body) (h : f.set? c value = some c') :
    value = f.json c' ∧ (c.Fits → c'.Fits) := by
  cases f with
  | earlyReferences | aliasOverriding =>
    obtain ⟨b, hb, rfl⟩ := Option.map_eq_some_iff.1 h
    exact ⟨eq_of_bool? hb, fun hfits => ⟨hfits.suppressedLimit, hfits.identifierLimit⟩⟩
  | suppressedLimit =>
    obtain ⟨n, hn, rfl⟩ := Option.map_eq_some_iff.1 h
    obtain ⟨hsmall, hvalue⟩ := eq_toDigits_of_word? hspells hn
    exact ⟨hvalue, fun hfits => ⟨hsmall, hfits.identifierLimit⟩⟩
  | identifierLimit =>
    obtain ⟨n, hn, rfl⟩ := Option.map_eq_some_iff.1 h
    obtain ⟨hsmall, hvalue⟩ := eq_toDigits_of_word? hspells hn
    exact ⟨hvalue, fun hfits => ⟨hfits.suppressedLimit, hsmall⟩⟩

/-- The other settings stay. -/
theorem json_of_set?_of_ne {c' : Config} {value : Json} {f g : Field}
    (h : f.set? c value = some c') (hne : g ≠ f) : g.json c' = g.json c := by
  cases f <;> obtain ⟨_, -, rfl⟩ := Option.map_eq_some_iff.1 h <;> cases g <;>
    first | rfl | exact absurd rfl hne

/-! ## Members -/

/-- The members of an object hold a configuration's settings of the fields, in this order, and
    between them anything under names that are no field's. -/
inductive Lists (c : Config) : List (List Char × Json) → List Field → Prop where
  | nil : Lists c [] []
  | field {key : List Char} {members : List (List Char × Json)} {fields : List Field} (f : Field)
      (hkey : StandsFor key f.name) (hrest : Lists c members fields) :
      Lists c ((key, f.json c) :: members) (f :: fields)
  | stray {key : List Char} {value : Json} {name : String} {members : List (List Char × Json)}
      {fields : List Field} (hkey : StandsFor key name) (hname : ∀ f : Field, f.name ≠ name)
      (hrest : Lists c members fields) : Lists c ((key, value) :: members) fields

theorem name_of_ofName? {f : Field} (h : Field.ofName? name = some f) : f.name = name := by
  have hname := List.find?_some h
  exact of_decide_eq_true hname

theorem ofName?_eq_none (h : ∀ f : Field, f.name ≠ name) : Field.ofName? name = none :=
  List.find?_eq_none.2 fun f _ hf => h f (of_decide_eq_true hf)

/-- **Members that list fields are read into a restriction to the fields before them**, and leave it
    restricted to all of them. -/
theorem ofMembers?_of_lists (hfits : c.Fits) (h : Lists c members fields)
    (hnodup : (fields.reverse ++ given).Nodup) :
    ofMembers? given (c.restrict given) members = some (c.restrict (fields.reverse ++ given)) := by
  induction h generalizing given with
  | nil => rfl
  | field f hkey _ ih =>
    rw [List.reverse_cons, List.append_assoc] at hnodup ⊢
    have hnew : f ∉ given := (List.nodup_cons.1 (List.nodup_append.1 hnodup).2.1).1
    rw [ofMembers?, hkey]
    simp only [Option.bind_eq_bind, Option.bind_some, String.ofList_toList, Field.ofName?_name,
      if_neg hnew, set?_json hfits]
    exact ih hnodup
  | stray hkey hname _ ih =>
    rw [ofMembers?, hkey]
    simp only [Option.bind_eq_bind, Option.bind_some, String.ofList_toList, ofName?_eq_none hname]
    exact ih hnodup

/-- **Members that are read list the settings of what they are read into**, once each. -/
theorem lists_of_ofMembers? {c' : Config} (hspells : ∀ m ∈ members, ∃ body, Json.Spells m.2 body)
    (h : ofMembers? given c members = some c') :
    ∃ fields, Lists c' members fields ∧ fields.Nodup ∧ (∀ f ∈ fields, f ∉ given) ∧
      (∀ f, f ∉ fields → f.json c' = f.json c) ∧ (c.Fits → c'.Fits) := by
  induction members generalizing given c with
  | nil =>
    cases h
    exact ⟨[], .nil, List.nodup_nil, fun _ h => absurd h List.not_mem_nil, fun _ _ => rfl, id⟩
  | cons m members ih =>
    obtain ⟨key, value⟩ := m
    obtain ⟨⟨body, hbody⟩, hrest⟩ := List.forall_mem_cons.1 hspells
    rw [ofMembers?] at h
    obtain ⟨name, hkey, h⟩ := Option.bind_eq_some_iff.1 h
    have hstands : StandsFor key (String.ofList name) := by
      rw [StandsFor, hkey, String.toList_ofList]
    split at h
    · rename_i hname
      obtain ⟨fields, hlists, hfields⟩ := ih hrest h
      refine ⟨fields, .stray hstands (fun f hf => ?_) hlists, hfields⟩
      rw [← hf, Field.ofName?_name] at hname
      cases hname
    · rename_i f hname
      split at h
      · cases h
      · rename_i hnew
        obtain ⟨c₁, hset, h⟩ := Option.bind_eq_some_iff.1 h
        obtain ⟨fields, hlists, hnodup, hnone, hkept, hfits⟩ := ih hrest h
        obtain ⟨hvalue, hfits₁⟩ := eq_json_of_set? hbody hset
        have hfresh : f ∉ fields := fun hf => hnone f hf List.mem_cons_self
        have hmember : value = f.json c' := hvalue.trans (hkept f hfresh).symm
        rw [← name_of_ofName? hname] at hstands
        refine ⟨f :: fields, hmember ▸ .field f hstands hlists,
          List.nodup_cons.2 ⟨hfresh, hnodup⟩, ?_, ?_, hfits ∘ hfits₁⟩
        · refine List.forall_mem_cons.2 ⟨hnew, fun g hg hgiven => ?_⟩
          exact hnone g hg (List.mem_cons_of_mem _ hgiven)
        · intro g hg
          obtain ⟨hne, hg⟩ := not_or.1 (mt List.mem_cons.2 hg)
          rw [hkept g hg, json_of_set?_of_ne hset hne]

/-- A key that stands for no name spoils the object, wherever it is. -/
theorem ofMembers?_eq_none (h : ∃ m ∈ members, Json.unescape? m.1 = none) (given : List Field)
    (c : Config) : ofMembers? given c members = none := by
  induction members generalizing given c with
  | nil =>
    obtain ⟨_, hmem, -⟩ := h
    cases hmem
  | cons m members ih =>
    obtain ⟨key, value⟩ := m
    rw [ofMembers?]
    cases hkey : Json.unescape? key with
    | none => rfl
    | some name =>
      have hrest : ∃ m ∈ members, Json.unescape? m.1 = none := by
        obtain ⟨m, hmem, hnone⟩ := h
        rcases List.mem_cons.1 hmem with rfl | hmem
        · rw [hkey] at hnone
          cases hnone
        · exact ⟨m, hmem, hnone⟩
      simp only [Option.bind_eq_bind, Option.bind_some]
      split
      · exact ih hrest given c
      · rename_i f _
        split
        · rfl
        · cases f.set? c value with
          | none => rfl
          | some c' => exact ih hrest _ c'

/-! ## Documents -/

/-- The configuration, unless no identifier is usable under it. -/
def checked (c : Config) : Except Fault Config :=
  if c.identifierLimit = 0 then .error (.unusable (.badConfig zeroLimit)) else .ok c

theorem checked_eq_ok_iff {c' : Config} : c'.checked = .ok c ↔ c' = c ∧ 0 < c.identifierLimit := by
  rw [checked]
  split
  · rename_i hzero
    refine ⟨nofun, ?_⟩
    rintro ⟨rfl, hpos⟩
    omega
  · rename_i hne
    refine ⟨fun h => ?_, fun h => congrArg _ h.1⟩
    cases h
    exact ⟨rfl, Nat.pos_of_ne_zero hne⟩

theorem map_validate (c : Config) :
    ((c.validate.mapError Fault.unusable).map fun _ => c) = c.checked := by
  rw [validate, checked]
  split <;> rfl

/-- A document of an object is read into the defaults, member by member, and then checked. -/
theorem read_object (h : Json.Document (.object members) text.toList) :
    read text = ((ofMembers? [] {} members).map checked).getD (.error .unreadable) := by
  rw [read, Json.parse?_eq_some_iff.2 h, Option.bind_some, ofJson?]
  cases ofMembers? [] {} members with
  | none => rfl
  | some c => exact map_validate c

/-- **A document gives the settings that it lists**, in whatever order, and nothing else. -/
theorem read_of_lists (hdoc : Json.Document (.object members) text.toList) (hfits : c.Fits)
    (h : Lists c members listed) (horder : listed.Perm fields) (hnodup : fields.Nodup) :
    read text = (c.restrict fields).checked := by
  have hsame : c.restrict (listed.reverse ++ []) = c.restrict fields := restrict_congr fun f => by
    rw [List.append_nil, List.mem_reverse, horder.mem_iff]
  have hread : ofMembers? [] {} members = some (c.restrict fields) := by
    rw [← restrict_nil c, ← hsame]
    refine ofMembers?_of_lists hfits h ?_
    rw [List.append_nil]
    exact ((List.reverse_perm listed).trans horder).nodup_iff.2 hnodup
  rw [read_object hdoc, hread]
  rfl

/-- **An object gives a configuration just if it lists it**: settings once each, and defaults for
    what they leave out. -/
theorem read_eq_ok_iff (hdoc : Json.Document (.object members) text.toList) :
    read text = .ok c ↔ c.Fits ∧ 0 < c.identifierLimit ∧
      ∃ fields, Lists c members fields ∧ fields.Nodup ∧ c.restrict fields = c := by
  constructor
  · intro h
    rw [read_object hdoc] at h
    cases hread : ofMembers? [] {} members with
    | none =>
      rw [hread] at h
      cases h
    | some c' =>
      rw [hread] at h
      obtain ⟨rfl, hpos⟩ := checked_eq_ok_iff.1 h
      obtain ⟨fields, hlists, hnodup, -, hkept, hfits⟩ := lists_of_ofMembers? hdoc.spells hread
      exact ⟨hfits ⟨by decide, by decide⟩, hpos, fields, hlists, hnodup, restrict_eq_self hkept⟩
  · rintro ⟨hfits, hpos, fields, hlists, hnodup, hself⟩
    rw [read_of_lists hdoc hfits hlists (.refl _) hnodup, hself]
    exact checked_eq_ok_iff.2 ⟨rfl, hpos⟩

/-! ## Writing -/

theorem plain_name (f : Field) : Json.Plain f.name.toList := by cases f <;> decide +kernel

/-- What is written for a field spells its setting. -/
theorem spells_spelling (c : Config) (f : Field) :
    Json.Spells (f.json c) (f.spelling c).toList := by
  have hflag : ∀ b, Json.Spells (.bool b) (Text.flag b).toList := by
    rintro (_ | _)
    · exact .no
    · exact .yes
  have hnumeral : ∀ n : Nat, Json.Spells (.number (Nat.toDigits 10 n)) (toString n).toList := by
    intro n
    rw [Nat.toString_eq_ofList_toDigits, String.toList_ofList]
    exact .number (Json.number_toDigits n)
  cases f with
  | earlyReferences | aliasOverriding => exact hflag _
  | suppressedLimit | identifierLimit => exact hnumeral _

/-- The member of a written object for a field. -/
def member (c : Config) (f : Field) : List Char × Json := (f.name.toList, f.json c)

/-- The text of that member. -/
def memberText (c : Config) (f : Field) : List Char :=
  '"' :: f.name.toList ++ '"' :: [':'] ++ (f.spelling c).toList

theorem lists_members (c : Config) (fields : List Field) :
    Lists c (fields.map c.member) fields := by
  induction fields with
  | nil => exact .nil
  | cons f fields ih => exact .field f (plain_name f).unescape? ih

theorem spellsMembers_members (c : Config) (f : Field) (fields : List Field) :
    Json.SpellsMembers ((f :: fields).map c.member)
      ([','].intercalate ((f :: fields).map c.memberText) ++ ['\x7d']) := by
  have hkey (f : Field) := (plain_name f).inside
  have hcolon := Json.mark_self ':'
  induction fields generalizing f with
  | nil =>
    have h := Json.SpellsMembers.last (hkey f) hcolon (spells_spelling c f) Json.blank_nil
    simpa [member, memberText, List.intercalate] using h
  | cons next fields ih =>
    have h := Json.SpellsMembers.cons (hkey f) hcolon (spells_spelling c f) (Json.mark_self ',')
      (ih next)
    simpa [member, memberText, List.intercalate_cons_cons] using h

/-- **What is written is a document that lists all fields.** -/
theorem document_write (c : Config) :
    Json.Document (.object (Field.all.map c.member)) c.write.toList := by
  refine ⟨[], c.write.toList, [], Json.blank_nil, ?_, Json.blank_nil, by simp⟩
  have htext : c.write.toList =
      '\x7b' :: [] ++ ([','].intercalate (Field.all.map c.memberText) ++ ['\x7d']) := by
    have hmember : (String.toList ∘ fun f => "\"" ++ f.name ++ "\":" ++ f.spelling c) =
        c.memberText := by
      funext f
      simp [memberText]
    simp only [write, String.toList_append, String.toList_intercalate, List.map_map, hmember]
    rfl
  rw [htext]
  exact .object Json.blank_nil (spellsMembers_members c _ _)

/-! ## The law -/

/-- **Documents give what they list.**  A usable configuration is read back from what is written for
    it.  Any object that lists fields once each, in any order and among any strays, gives these
    settings over the defaults, unless no identifier is usable under them; and an object with a key
    that stands for no text gives none. -/
theorem documents_give_settings :
    (∀ c : Config, c.Fits → 0 < c.identifierLimit → read c.write = .ok c) ∧
      ∀ (text : String) (members : List (List Char × Json)),
        Json.Document (.object members) text.toList →
          (∀ (c : Config) (listed fields : List Field), c.Fits → Lists c members listed →
            listed.Perm fields → fields.Nodup → read text = (c.restrict fields).checked) ∧
          ((∃ m ∈ members, Json.unescape? m.1 = none) → read text = .error .unreadable) := by
  refine ⟨fun c hfits hpos => ?_, fun text members hdoc =>
    ⟨fun c listed fields => read_of_lists hdoc, fun hkey => ?_⟩⟩
  · have hread := read_of_lists (document_write c) hfits (lists_members c Field.all) (.refl _)
      (by decide)
    rw [hread, restrict_all, checked, if_neg (Nat.pos_iff_ne_zero.1 hpos)]
  · rw [read_object hdoc, ofMembers?_eq_none hkey]
    rfl

/-- Two settings out of order, one of them under an escaped name, and a stray with half a surrogate
    pair somewhere in it. -/
def shuffled : String :=
  "\x7b \"lamp\": [\"\\ud800\"],\t\"max\\u005fidentifier_len\": 9,\n" ++
    "\"allow_early_references\" : false \x7d"

/-- The members of that document. -/
def shuffledMembers : List (List Char × Json) :=
  [("lamp".toList, .array [.string "\\ud800".toList]),
    ("max\\u005fidentifier_len".toList, .number ['9']),
    ("allow_early_references".toList, .bool false)]

theorem document_shuffled : Json.Document (.object shuffledMembers) shuffled.toList := by
  have hspace : Json.Blank [' '] := by decide
  have hcolon : Json.Mark ':' [':', ' '] := ⟨[], [' '], Json.blank_nil, hspace, rfl⟩
  have hspaced : Json.Mark ':' [' ', ':', ' '] := ⟨[' '], [' '], hspace, hspace, rfl⟩
  have htab : Json.Mark ',' [',', '\t'] := ⟨[], ['\t'], Json.blank_nil, by decide, rfl⟩
  have hline : Json.Mark ',' [',', '\n'] := ⟨[], ['\n'], Json.blank_nil, by decide, rfl⟩
  have hhalf : Json.Inside "\\ud800".toList := by decide +kernel
  have hlamp : Json.Inside "lamp".toList := by decide +kernel
  have hlimit : Json.Inside "max\\u005fidentifier_len".toList := by decide +kernel
  have hearly : Json.Inside "allow_early_references".toList := by decide +kernel
  have hitems := Json.SpellsItems.last (.string hhalf) Json.blank_nil
  have hmembers := Json.SpellsMembers.cons hlamp hcolon (.array Json.blank_nil hitems) htab <|
    .cons hlimit hcolon (.number (Json.number_toDigits 9)) hline <|
      .last hearly hspaced .no hspace
  exact ⟨[], _, [], Json.blank_nil, .object hspace hmembers, Json.blank_nil, by decide +kernel⟩

/-- Half a surrogate pair as the key of a stray. -/
def halved : String := "\x7b\"\\ud800\":1\x7d"

/-- The members of that document. -/
def halvedMembers : List (List Char × Json) := [("\\ud800".toList, .number ['1'])]

theorem document_halved : Json.Document (.object halvedMembers) halved.toList := by
  have hkey : Json.Inside "\\ud800".toList := by decide +kernel
  have hmembers := Json.SpellsMembers.last hkey (Json.mark_self ':')
    (.number (Json.number_toDigits 1)) Json.blank_nil
  exact ⟨[], _, [], Json.blank_nil, .object Json.blank_nil hmembers, Json.blank_nil,
    by decide +kernel⟩

/-- The settings are found among the stray and out of order; the largest number is read back; half a
    pair spoils its document. -/
theorem documents_give_settings_shuffled :
    let c : Config := { earlyReferences := false, identifierLimit := 9 }
    let largest : Config := { suppressedLimit := 18446744073709551615 }
    Json.Document (.object shuffledMembers) shuffled.toList ∧
      Lists c shuffledMembers [.identifierLimit, .earlyReferences] ∧ read shuffled = .ok c ∧
      read largest.write = .ok largest ∧ read halved = .error .unreadable := by
  intro c largest
  obtain ⟨hwritten, hread⟩ := documents_give_settings
  have hlists : Lists c shuffledMembers [.identifierLimit, .earlyReferences] := by
    have hlamp : StandsFor "lamp".toList "lamp" := by decide +kernel
    have hfield : ∀ f : Field, f.name ≠ "lamp" := fun f => by cases f <;> decide
    have hlimit : StandsFor "max\\u005fidentifier_len".toList (Field.name .identifierLimit) := by
      decide +kernel
    have hearly : StandsFor "allow_early_references".toList (Field.name .earlyReferences) := by
      decide +kernel
    have hnine : Field.json c .identifierLimit = .number ['9'] := congrArg Json.number (by decide)
    have hrest := Lists.field _ hlimit (Lists.field _ hearly (Lists.nil (c := c)))
    rw [hnine] at hrest
    exact .stray hlamp hfield hrest
  have hhalf : Json.unescape? "\\ud800".toList = none := by decide +kernel
  refine ⟨document_shuffled, hlists, ?_, ?_, ?_⟩
  · have h := (hread _ _ document_shuffled).1 c _ [.earlyReferences, .identifierLimit]
      ⟨by decide, by decide⟩ hlists (.swap _ _ _) (by decide)
    rw [h]
    rfl
  · exact hwritten largest ⟨by decide, by decide⟩ (by decide)
  · exact (hread _ _ document_halved).2 ⟨_, List.mem_singleton_self _, hhalf⟩

/-- Not every stray is passed over: the only member here is one, and yet the defaults are not what
    is read. -/
theorem half_pair_spoils_document :
    Json.Document (.object halvedMembers) halved.toList ∧
      (∀ m ∈ halvedMembers, ∀ f : Field, ¬ StandsFor m.1 f.name) ∧
      read halved = .error .unreadable ∧ read halved ≠ .ok {} := by
  have hnone : ∀ m ∈ halvedMembers, Json.unescape? m.1 = none := by decide +kernel
  have hread : read halved = .error .unreadable := by
    have hmem : ("\\ud800".toList, Json.number ['1']) ∈ halvedMembers := List.mem_singleton_self _
    rw [read_object document_halved, ofMembers?_eq_none ⟨_, hmem, hnone _ hmem⟩]
    rfl
  refine ⟨document_halved, fun m hm f hkey => ?_, hread, ?_⟩
  · rw [StandsFor, hnone m hm] at hkey
    cases hkey
  · rw [hread]
    exact fun h => by cases h

end InstanceRegistry.Config
