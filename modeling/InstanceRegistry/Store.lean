/-!
  Stores: values filed under identifiers, in the order in which the identifiers first appeared.

  Everything the registry keeps is kept in one of two shapes.  A `Store` files one value per
  identifier; a `Roster` is a list of identifiers entered once each.  Both remember the order of
  first entry, and that order is part of their meaning: it is the order in which identifiers are
  listed, hooks are run (backwards) and neighbours are visited.

  Replacing a value keeps its place; removing an entry closes the gap without moving the others.
  What an operation does is said through two views, `get?` for stores and `∈` for rosters.

  Mathlib-free.
-/

namespace InstanceRegistry

/-- The name under which an instance is filed. -/
abbrev Ident := String

/-! ## Stores -/

/-- Values filed under identifiers, at most one each, in the order of first entry. -/
structure Store (α : Type) where
  entries : List (Ident × α)
  distinct : (entries.map Prod.fst).Nodup

namespace Store

variable {α : Type}

/-- The store with nothing in it. -/
def empty : Store α := ⟨[], .nil⟩

instance : EmptyCollection (Store α) := ⟨empty⟩
instance : Inhabited (Store α) := ⟨empty⟩

/-- Two stores with the same entries in the same order are the same store. -/
@[ext] theorem ext {s t : Store α} (h : s.entries = t.entries) : s = t := by
  cases s; cases t; cases h; rfl

instance [DecidableEq α] : DecidableEq (Store α) := fun s t =>
  if h : s.entries = t.entries then isTrue (ext h) else isFalse fun e => h (e ▸ rfl)

/-- The identifiers that have a value, in order of first entry. -/
def keys (s : Store α) : List Ident := s.entries.map Prod.fst

/-- The first value that stands under `id` in a list of entries. -/
def find (id : Ident) : List (Ident × α) → Option α
  | [] => none
  | (key, value) :: rest => if key = id then some value else find id rest

/-- The value filed under `id`. -/
def get? (s : Store α) (id : Ident) : Option α := find id s.entries

/-- Whether a value is filed under `id`. -/
def contains (s : Store α) (id : Ident) : Bool := (s.get? id).isSome

/-- How many values are filed. -/
def size (s : Store α) : Nat := s.entries.length

/-- Whether nothing is filed. -/
def isEmpty (s : Store α) : Bool := s.entries.isEmpty

/-- Removing entries, or changing values in place, leaves the identifiers distinct. -/
theorem distinct_of_sublist {l : List (Ident × α)} {s : Store α}
    (h : (l.map Prod.fst).Sublist s.keys) : (l.map Prod.fst).Nodup :=
  List.Pairwise.sublist h s.distinct

/-- Keep the entries whose identifier passes the test. -/
def restrict (s : Store α) (keep : Ident → Bool) : Store α where
  entries := s.entries.filter fun e => keep e.1
  distinct := distinct_of_sublist (List.filter_sublist.map _)

/-- Remove what is filed under `id`. -/
def erase (s : Store α) (id : Ident) : Store α := s.restrict (· != id)

/-- The entries with `value` put in the place of whatever `id` has there. -/
def replaced (entries : List (Ident × α)) (id : Ident) (value : α) : List (Ident × α) :=
  entries.map fun e => if e.1 = id then (id, value) else e

theorem map_fst_replaced (entries : List (Ident × α)) (id : Ident) (value : α) :
    (replaced entries id value).map Prod.fst = entries.map Prod.fst := by
  simp only [replaced, List.map_map]
  refine List.map_congr_left fun e _ => ?_
  by_cases h : e.1 = id <;> simp [h]

/-- File `value` under `id`: in place of the value there is, or else after all others. -/
def insert (s : Store α) (id : Ident) (value : α) : Store α :=
  if h : id ∈ s.keys then
    { entries := replaced s.entries id value
      distinct := by rw [map_fst_replaced]; exact s.distinct }
  else
    { entries := s.entries ++ [(id, value)]
      distinct := by
        rw [List.map_append]
        refine List.nodup_append.2 ⟨s.distinct, by simp, fun a ha b hb => ?_⟩
        rintro rfl
        simp only [List.map_cons, List.map_nil, List.mem_singleton] at hb
        exact h (hb ▸ ha) }

/-- Change every value, dropping the entries for which there is no new value. -/
def update (s : Store α) (f : α → Option α) : Store α where
  entries := s.entries.filterMap fun e => (f e.2).map (e.1, ·)
  distinct := distinct_of_sublist (s := s) (by
    have key (l : List (Ident × α)) :
        ((l.filterMap fun e => (f e.2).map (e.1, ·)).map Prod.fst).Sublist (l.map Prod.fst) := by
      induction l with
      | nil => exact .refl _
      | cons e l ih =>
        cases h : f e.2 with
        | none => simpa [List.filterMap_cons, h] using ih.cons e.1
        | some v => simpa [List.filterMap_cons, h] using ih.cons_cons e.1
    exact key s.entries)

/-! ### What the operations do to `get?` -/

theorem find_eq_none_iff (id : Ident) (l : List (Ident × α)) :
    find id l = none ↔ id ∉ l.map Prod.fst := by
  induction l with
  | nil => simp [find]
  | cons e l ih =>
    obtain ⟨key, value⟩ := e
    by_cases h : key = id
    · simp [find, h]
    · simp only [find, if_neg h, ih, List.map_cons, List.mem_cons, not_or]
      exact ⟨fun hl => ⟨fun hk => h hk.symm, hl⟩, And.right⟩

theorem get?_eq_none_iff {s : Store α} {id : Ident} : s.get? id = none ↔ id ∉ s.keys :=
  find_eq_none_iff _ _

theorem contains_iff_mem_keys {s : Store α} {id : Ident} : s.contains id = true ↔ id ∈ s.keys := by
  rw [contains, Option.isSome_iff_ne_none, ne_eq, get?_eq_none_iff, Classical.not_not]

theorem contains_eq_false_iff {s : Store α} {id : Ident} : s.contains id = false ↔ id ∉ s.keys := by
  rw [← Bool.not_eq_true, contains_iff_mem_keys]

/-- Under each identifier something is found. -/
theorem exists_get?_of_mem_keys {s : Store α} {id : Ident} (h : id ∈ s.keys) :
    ∃ value, s.get? id = some value :=
  Option.isSome_iff_exists.1 (contains_iff_mem_keys.2 h)

/-- What is found has its identifier. -/
theorem mem_keys_of_get? {s : Store α} {id : Ident} {value : α} (h : s.get? id = some value) :
    id ∈ s.keys := by
  rw [← contains_iff_mem_keys, contains, h]
  rfl

/-- What is found is filed. -/
theorem mem_entries_of_get? {s : Store α} {id : Ident} {value : α} (h : s.get? id = some value) :
    (id, value) ∈ s.entries := by
  have key (l : List (Ident × α)) (hl : find id l = some value) : (id, value) ∈ l := by
    induction l with
    | nil => cases hl
    | cons e l ih =>
      obtain ⟨k, v⟩ := e
      by_cases hk : k = id
      · rw [find, if_pos hk, Option.some.injEq] at hl
        rw [hk, hl]
        exact List.mem_cons_self
      · rw [find, if_neg hk] at hl
        exact List.mem_cons_of_mem _ (ih hl)
  exact key s.entries h

/-- What is filed is found, since no identifier is filed twice. -/
theorem get?_of_mem_entries {s : Store α} {id : Ident} {value : α} (h : (id, value) ∈ s.entries) :
    s.get? id = some value := by
  have key (l : List (Ident × α)) (hl : (l.map Prod.fst).Nodup) (hm : (id, value) ∈ l) :
      find id l = some value := by
    induction l with
    | nil => cases hm
    | cons e l ih =>
      obtain ⟨k, v⟩ := e
      obtain ⟨hk, hl⟩ := List.nodup_cons.1 hl
      rcases List.mem_cons.1 hm with heq | hm
      · cases heq
        exact if_pos rfl
      · have hmem : id ∈ l.map Prod.fst := List.mem_map.2 ⟨_, hm, rfl⟩
        have hne : k ≠ id := fun heq => hk (heq ▸ hmem)
        rw [find, if_neg hne]
        exact ih hl hm
  exact key s.entries s.distinct h

theorem get?_restrict (s : Store α) (keep : Ident → Bool) (id : Ident) :
    (s.restrict keep).get? id = if keep id then s.get? id else none := by
  have key (l : List (Ident × α)) :
      find id (l.filter fun e => keep e.1) = if keep id then find id l else none := by
    induction l with
    | nil => simp [find]
    | cons e l ih =>
      obtain ⟨k, v⟩ := e
      by_cases h : k = id
      · subst h
        by_cases hk : keep k
        · simp [find, hk]
        · simpa [find, hk] using ih
      · by_cases hk : keep k <;> simpa [find, List.filter_cons, hk, h] using ih
  exact key s.entries

/-- An erased identifier has no value; every other one keeps its own. -/
theorem get?_erase (s : Store α) (id other : Ident) :
    (s.erase id).get? other = if other = id then none else s.get? other := by
  rw [erase, get?_restrict]
  by_cases h : other = id <;> simp [h]

/-- Replacing a value changes what its own identifier finds, if that is listed at all. -/
theorem find_replaced (id other : Ident) (value : α) (l : List (Ident × α)) :
    find other (replaced l id value) =
      if other = id ∧ id ∈ l.map Prod.fst then some value else find other l := by
  induction l with
  | nil => simp [replaced, find]
  | cons e l ih =>
    obtain ⟨k, v⟩ := e
    by_cases hk : k = id
    · subst hk
      by_cases ho : other = k
      · simp [replaced, find, ho]
      · have ho' : ¬ k = other := fun h => ho h.symm
        simp only [ho, false_and, if_false] at ih
        simpa [replaced, find, ho, ho'] using ih
    · have hk' : ¬ id = k := fun h => hk h.symm
      by_cases ho : k = other
      · subst ho
        simp [replaced, find, hk]
      · have hm : id ∈ List.map Prod.fst ((k, v) :: l) ↔ id ∈ List.map Prod.fst l := by
          simp [hk']
        have hl : find other ((k, v) :: l) = find other l := by simp [find, ho]
        have hr : find other (replaced ((k, v) :: l) id value) = find other (replaced l id value) := by
          simp [replaced, find, hk, ho]
        simp only [hr, hl, hm, ih]

/-- An entry at the end is found if there is none before it. -/
theorem find_append (id other : Ident) (value : α) (l : List (Ident × α))
    (h : id ∉ l.map Prod.fst) :
    find other (l ++ [(id, value)]) = if other = id then some value else find other l := by
  induction l with
  | nil => by_cases ho : id = other <;> simp [find, ho, eq_comm]
  | cons e l ih =>
    obtain ⟨k, v⟩ := e
    simp only [List.map_cons, List.mem_cons, not_or] at h
    by_cases ho : k = other
    · have hne : ¬ other = id := fun hh => h.1 (hh ▸ ho.symm)
      simp [find, ho, hne]
    · simpa [find, ho] using ih h.2

/-- A filed value is found again, and no other identifier is touched. -/
theorem get?_insert (s : Store α) (id : Ident) (value : α) (other : Ident) :
    (s.insert id value).get? other = if other = id then some value else s.get? other := by
  rw [insert]
  split
  · rename_i h
    have h' : id ∈ s.entries.map Prod.fst := h
    show find other (replaced s.entries id value) = _
    rw [find_replaced]
    by_cases ho : other = id <;> simp [ho, h', get?]
  · rename_i h
    exact find_append id other value s.entries h

theorem get?_insert_self (s : Store α) (id : Ident) (value : α) :
    (s.insert id value).get? id = some value := by
  rw [get?_insert, if_pos rfl]

theorem get?_insert_of_ne (s : Store α) {id other : Ident} (h : other ≠ id) (value : α) :
    (s.insert id value).get? other = s.get? other := by
  rw [get?_insert, if_neg h]

theorem get?_erase_self (s : Store α) (id : Ident) : (s.erase id).get? id = none := by
  rw [get?_erase, if_pos rfl]

theorem get?_erase_of_ne (s : Store α) {id other : Ident} (h : other ≠ id) :
    (s.erase id).get? other = s.get? other := by
  rw [get?_erase, if_neg h]

/-- Filing under a known identifier keeps the order; a new one comes last. -/
theorem keys_insert (s : Store α) (id : Ident) (value : α) :
    (s.insert id value).keys = if id ∈ s.keys then s.keys else s.keys ++ [id] := by
  by_cases h : id ∈ s.keys
  · simp only [insert, dif_pos h, if_pos h]
    exact map_fst_replaced _ _ _
  · simp only [insert, dif_neg h, if_neg h]
    simp [keys]

theorem keys_restrict (s : Store α) (keep : Ident → Bool) :
    (s.restrict keep).keys = s.keys.filter keep := by
  simp only [keys, restrict]
  generalize s.entries = l
  induction l with
  | nil => rfl
  | cons e l ih => by_cases h : keep e.1 <;> simp [h, ih]

theorem keys_erase (s : Store α) (id : Ident) : (s.erase id).keys = s.keys.filter (· != id) :=
  keys_restrict _ _

theorem mem_keys_insert {s : Store α} {id other : Ident} {value : α} :
    other ∈ (s.insert id value).keys ↔ other ∈ s.keys ∨ other = id := by
  rw [keys_insert]
  by_cases h : id ∈ s.keys
  · rw [if_pos h]
    constructor
    · exact .inl
    · rintro (hother | rfl)
      · exact hother
      · exact h
  · rw [if_neg h, List.mem_append, List.mem_singleton]

theorem mem_keys_erase {s : Store α} {id other : Ident} :
    other ∈ (s.erase id).keys ↔ other ∈ s.keys ∧ other ≠ id := by
  rw [keys_erase, List.mem_filter, bne_iff_ne]

theorem keys_erase_subset (s : Store α) (id : Ident) : (s.erase id).keys ⊆ s.keys := by
  rw [keys_erase]
  exact List.filter_sublist.subset

/-- Updating changes the value an identifier has; nothing is found that was not there. -/
theorem get?_update (s : Store α) (f : α → Option α) (id : Ident) :
    (s.update f).get? id = (s.get? id).bind f := by
  have key (l : List (Ident × α)) (hl : (l.map Prod.fst).Nodup) :
      find id (l.filterMap fun e => (f e.2).map (e.1, ·)) = (find id l).bind f := by
    induction l with
    | nil => rfl
    | cons e l ih =>
      obtain ⟨k, v⟩ := e
      obtain ⟨hk, hl⟩ := List.nodup_cons.1 hl
      have ih := ih hl
      by_cases h : k = id
      · subst h
        -- a value that is dropped leaves nothing behind, since no other entry has its identifier
        have hnone : find k l = none := (find_eq_none_iff k l).2 hk
        cases hv : f v with
        | none => simpa [List.filterMap_cons, find, hv, hnone] using ih
        | some w => simp [find, hv]
      · cases hv : f v <;> simpa [List.filterMap_cons, find, hv, h] using ih
  exact key s.entries s.distinct

/-! ### Restrictions -/

theorem restrict_congr (s : Store α) {keep keep' : Ident → Bool} (h : ∀ id, keep id = keep' id) :
    s.restrict keep = s.restrict keep' := by
  rw [funext h]

/-- Restricting twice keeps what passes both tests. -/
theorem restrict_restrict (s : Store α) (keep keep' : Ident → Bool) :
    (s.restrict keep).restrict keep' = s.restrict fun id => keep id && keep' id :=
  ext (by simp only [restrict, List.filter_filter, Bool.and_comm])

theorem restrict_true (s : Store α) : s.restrict (fun _ => true) = s :=
  ext (List.filter_eq_self.2 fun _ _ => rfl)

/-- Erasing what is not there changes nothing. -/
theorem erase_of_get?_eq_none {s : Store α} {id : Ident} (h : s.get? id = none) :
    s.erase id = s := by
  refine ext (List.filter_eq_self.2 fun e he => ?_)
  have hne : e.1 ≠ id := by
    rintro rfl
    exact get?_eq_none_iff.1 h (List.mem_map_of_mem he)
  simpa using hne

/-! ### Sizes -/

theorem size_erase_le (s : Store α) (id : Ident) : (s.erase id).size ≤ s.size :=
  List.length_filter_le _ _

/-- Erasing what is there leaves fewer entries. -/
theorem size_erase_lt {s : Store α} {id : Ident} (h : id ∈ s.keys) :
    (s.erase id).size < s.size := by
  obtain ⟨e, he, rfl⟩ := List.mem_map.1 h
  refine List.length_filter_lt_length_iff_exists.2 ⟨e, he, ?_⟩
  simp

theorem size_update_le (s : Store α) (f : α → Option α) : (s.update f).size ≤ s.size :=
  List.length_filterMap_le _ _

end Store

/-! ## Rosters -/

/-- Identifiers in the order in which they were entered. -/
abbrev Roster := List Ident

namespace Roster

/-- Enter `id` at the end, unless it is there already. -/
def add (r : Roster) (id : Ident) : Roster := if id ∈ r then r else r ++ [id]

/-- Strike `id` off. -/
def drop (r : Roster) (id : Ident) : Roster := r.filter (· != id)

@[simp] theorem mem_add {r : Roster} {id other : Ident} :
    other ∈ add r id ↔ other ∈ r ∨ other = id := by
  by_cases h : id ∈ r
  · simp only [add, if_pos h, iff_self_or]
    rintro rfl
    exact h
  · simp [add, h]

@[simp] theorem mem_drop {r : Roster} {id other : Ident} :
    other ∈ drop r id ↔ other ∈ r ∧ other ≠ id := by
  simp [drop]

theorem nodup_add {r : Roster} (h : r.Nodup) (id : Ident) : (add r id).Nodup := by
  by_cases hm : id ∈ r
  · simpa [add, hm] using h
  · simp only [add, if_neg hm]
    refine List.nodup_append.2 ⟨h, by simp, fun a ha b hb => ?_⟩
    rintro rfl
    exact hm (List.mem_singleton.1 hb ▸ ha)

theorem nodup_drop {r : Roster} (h : r.Nodup) (id : Ident) : (drop r id).Nodup :=
  List.Pairwise.filter _ h

end Roster

/-! ## Samples -/

example : (((∅ : Store Nat).insert "a" 1 |>.insert "b" 2).insert "a" 3).entries
    = [("a", 3), ("b", 2)] := by decide
example : (((∅ : Store Nat).insert "a" 1 |>.insert "b" 2).erase "a").keys = ["b"] := by decide
example : Roster.add ["a", "b"] "a" = ["a", "b"] := by decide

end InstanceRegistry
