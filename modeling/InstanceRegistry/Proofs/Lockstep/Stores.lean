import Mathlib.Data.List.Forall2
import InstanceRegistry.Store

/-!
  Stores side by side: two of them that are the same as far as some identifiers are concerned.

  Two runs are compared by comparing what they keep.  A test says which identifiers are IN VIEW.
  Two stores are ABREAST if they have the same entries in view, in the same order and with values
  that are alike, while what is out of view stands in each of them as it stood in a third one, the
  store that the run began with.  Rosters are abreast in the same sense.

  Every change of one identifier in view keeps stores and rosters abreast, and every question about
  one gets the same answer from both.  The lemmas say this once for each change that a registry
  makes.  Dropping everything keeps them abreast only if nothing is out of view.
-/

namespace InstanceRegistry

/-! ## Restrictions -/

namespace Store

variable {α : Type} {s : Store α} {keep : Ident → Bool} {id : Ident}

/-- The entries out of view. -/
def beyond (s : Store α) (inside : Ident → Bool) : Store α := s.restrict fun id => !inside id

/-- An erased identifier is missing from every part. -/
theorem restrict_erase (s : Store α) (keep : Ident → Bool) (id : Ident) :
    (s.erase id).restrict keep = (s.restrict keep).erase id := by
  rw [erase, erase, restrict_restrict, restrict_restrict]
  exact restrict_congr s fun _ => Bool.and_comm _ _

/-- A part without the identifier is as it was before that was erased. -/
theorem restrict_erase_of_false (s : Store α) (hid : keep id = false) :
    (s.erase id).restrict keep = s.restrict keep := by
  rw [erase, restrict_restrict]
  refine restrict_congr s fun other => ?_
  by_cases h : other = id
  · rw [h, hid, Bool.and_false]
  · rw [bne_iff_ne.2 h, Bool.true_and]

theorem filter_replaced (l : List (Ident × α)) (keep : Ident → Bool) (id : Ident) (value : α) :
    (replaced l id value).filter (fun e => keep e.1) =
      replaced (l.filter fun e => keep e.1) id value := by
  have hkeys : ((fun e : Ident × α => keep e.1) ∘ fun e => if e.1 = id then (id, value) else e) =
      fun e => keep e.1 := by
    funext e
    by_cases h : e.1 = id <;> simp [h]
  rw [replaced, List.filter_map, hkeys]
  rfl

/-- Replacing under an identifier that has no value changes nothing. -/
theorem replaced_of_not_mem {l : List (Ident × α)} (h : id ∉ l.map Prod.fst) (value : α) :
    replaced l id value = l := by
  refine (List.map_congr_left fun e he => ?_).trans (List.map_id l)
  have hne : e.1 ≠ id := by
    rintro rfl
    exact h (List.mem_map_of_mem he)
  rw [if_neg hne, id_eq]

theorem entries_insert_of_mem {value : α} (h : id ∈ s.keys) :
    (s.insert id value).entries = replaced s.entries id value := by
  rw [insert, dif_pos h]

theorem entries_insert_of_not_mem {value : α} (h : id ∉ s.keys) :
    (s.insert id value).entries = s.entries ++ [(id, value)] := by
  rw [insert, dif_neg h]

theorem mem_keys_restrict : id ∈ (s.restrict keep).keys ↔ id ∈ s.keys ∧ keep id = true := by
  rw [keys_restrict, List.mem_filter]

/-- A part with the identifier gets the value as the whole does. -/
theorem restrict_insert (s : Store α) (hid : keep id = true) (value : α) :
    (s.insert id value).restrict keep = (s.restrict keep).insert id value := by
  refine ext ?_
  by_cases h : id ∈ s.keys
  · rw [entries_insert_of_mem (mem_keys_restrict.2 ⟨h, hid⟩)]
    show (s.insert id value).entries.filter _ = _
    rw [entries_insert_of_mem h]
    exact filter_replaced _ _ _ _
  · rw [entries_insert_of_not_mem fun hk => h (mem_keys_restrict.1 hk).1]
    show (s.insert id value).entries.filter _ = _
    rw [entries_insert_of_not_mem h, List.filter_append]
    congr 1
    simp [hid]

/-- A part without the identifier does not see its value. -/
theorem restrict_insert_of_false (s : Store α) (hid : keep id = false) (value : α) :
    (s.insert id value).restrict keep = s.restrict keep := by
  refine ext ?_
  show (s.insert id value).entries.filter _ = _
  by_cases h : id ∈ s.keys
  · have hnot : id ∉ (s.entries.filter fun e => keep e.1).map Prod.fst := fun hk =>
      Bool.false_ne_true (hid.symm.trans (mem_keys_restrict (s := s).1 hk).2)
    rw [entries_insert_of_mem h, filter_replaced]
    exact replaced_of_not_mem hnot value
  · rw [entries_insert_of_not_mem h, List.filter_append]
    simp [hid, restrict]

/-! ## Stores with values that are alike -/

variable {alike : α → α → Prop} {t : Store α}

/-- The same identifiers in the same order, with values that are alike. -/
def Alike (alike : α → α → Prop) (s t : Store α) : Prop :=
  List.Forall₂ (fun e f => e.1 = f.1 ∧ alike e.2 f.2) s.entries t.entries

theorem Alike.keys_eq (h : s.Alike alike t) : s.keys = t.keys := by
  have hkeys : List.Forall₂ Eq s.keys t.keys := List.rel_map (fun _ _ he => he.1) h
  rwa [List.forall₂_eq_eq_eq] at hkeys

/-- Stores with equal values are equal. -/
theorem Alike.eq (h : s.Alike alike t) (heq : ∀ v w, alike v w → v = w) : s = t := by
  have hentries : List.Forall₂ Eq s.entries t.entries :=
    h.imp fun _ _ he => Prod.ext he.1 (heq _ _ he.2)
  rw [List.forall₂_eq_eq_eq] at hentries
  exact ext hentries

/-- A store whose values are alike to themselves. -/
theorem alike_self (h : ∀ id value, s.get? id = some value → alike value value) :
    s.Alike alike s :=
  List.forall₂_same.2 fun e he => ⟨rfl, h e.1 e.2 (get?_of_mem_entries he)⟩

theorem Alike.get? (h : s.Alike alike t) (id : Ident) :
    Option.Rel alike (s.get? id) (t.get? id) := by
  have key {l l' : List (Ident × α)}
      (hl : List.Forall₂ (fun e f => e.1 = f.1 ∧ alike e.2 f.2) l l') :
      Option.Rel alike (find id l) (find id l') := by
    induction hl with
    | nil => exact .none
    | @cons e f l l' he _ ih =>
      obtain ⟨k, v⟩ := e
      obtain ⟨k', w⟩ := f
      obtain ⟨rfl, hv⟩ := he
      by_cases hk : k = id
      · rw [find, find, if_pos hk, if_pos hk]
        exact .some hv
      · rw [find, find, if_neg hk, if_neg hk]
        exact ih
  exact key h

theorem Alike.restrict (h : s.Alike alike t) (keep : Ident → Bool) :
    (s.restrict keep).Alike alike (t.restrict keep) :=
  List.rel_filter (fun _ _ he => iff_of_eq (congrArg (fun id => keep id = true) he.1)) h

theorem Alike.erase (h : s.Alike alike t) (id : Ident) : (s.erase id).Alike alike (t.erase id) :=
  h.restrict _

theorem Alike.insert (h : s.Alike alike t) (id : Ident) {v w : α} (hvalue : alike v w) :
    (s.insert id v).Alike alike (t.insert id w) := by
  rw [Alike]
  by_cases hid : id ∈ s.keys
  · rw [entries_insert_of_mem hid, entries_insert_of_mem (h.keys_eq ▸ hid)]
    refine List.rel_map (fun e f he => ?_) h
    by_cases hk : e.1 = id
    · rw [if_pos hk, if_pos (he.1 ▸ hk)]
      exact ⟨rfl, hvalue⟩
    · rw [if_neg hk, if_neg (he.1 ▸ hk)]
      exact he
  · rw [entries_insert_of_not_mem hid, entries_insert_of_not_mem (h.keys_eq ▸ hid)]
    exact List.rel_append h (.cons ⟨rfl, hvalue⟩ .nil)

/-! ## Stores abreast -/

/-- The same entries in view, and out of view what there was. -/
structure Abreast (inside : Ident → Bool) (alike : α → α → Prop) (o o' s s' : Store α) : Prop where
  within : (s.restrict inside).Alike alike (s'.restrict inside)
  left : s.beyond inside = o.beyond inside
  right : s'.beyond inside = o'.beyond inside

/-- Everything filed is in view. -/
def Confined (inside : Ident → Bool) (s : Store α) : Prop := ∀ id ∈ s.keys, inside id = true

section

variable {inside : Ident → Bool} {o o' s' : Store α}

theorem Confined.restrict_eq (h : s.Confined inside) : s.restrict inside = s :=
  ext (List.filter_eq_self.2 fun e he => h e.1 (List.mem_map_of_mem he))

theorem Confined.beyond_eq (h : s.Confined inside) : s.beyond inside = ∅ := by
  refine ext (List.filter_eq_nil_iff.2 fun e he => ?_)
  simp [h e.1 (List.mem_map_of_mem he)]

/-- A store with nothing out of view is confined to what is in view. -/
theorem confined_of_beyond (h : s.beyond inside = ∅) : s.Confined inside := by
  intro id hid
  by_contra hout
  have hmem : id ∈ (s.beyond inside).keys :=
    mem_keys_restrict.2 ⟨hid, by rw [Bool.eq_false_iff.2 hout]; rfl⟩
  rw [h] at hmem
  exact absurd hmem List.not_mem_nil

namespace Abreast

variable (h : Abreast inside alike o o' s s')

include h

theorem get? (hid : inside id = true) : Option.Rel alike (s.get? id) (s'.get? id) := by
  have hwithin := h.within.get? id
  rwa [get?_restrict, get?_restrict, hid, if_pos rfl, if_pos rfl] at hwithin

theorem contains_eq (hid : inside id = true) : s.contains id = s'.contains id := by
  have hget := h.get? hid
  rw [contains, contains]
  generalize s.get? id = found at hget ⊢
  generalize s'.get? id = found' at hget ⊢
  cases hget <;> rfl

theorem insert (hid : inside id = true) {v w : α} (hvalue : alike v w) :
    Abreast inside alike o o' (s.insert id v) (s'.insert id w) where
  within := by
    rw [restrict_insert s hid, restrict_insert s' hid]
    exact h.within.insert id hvalue
  left := by rw [beyond, restrict_insert_of_false s (by rw [hid]; rfl), ← h.left, beyond]
  right := by rw [beyond, restrict_insert_of_false s' (by rw [hid]; rfl), ← h.right, beyond]

theorem erase (hid : inside id = true) :
    Abreast inside alike o o' (s.erase id) (s'.erase id) where
  within := by
    rw [restrict_erase, restrict_erase]
    exact h.within.erase id
  left := by rw [beyond, restrict_erase_of_false s (by rw [hid]; rfl), ← h.left, beyond]
  right := by rw [beyond, restrict_erase_of_false s' (by rw [hid]; rfl), ← h.right, beyond]

/-- Where nothing was out of view, nothing is. -/
theorem confined (ho : o.Confined inside) : s.Confined inside :=
  confined_of_beyond (h.left.trans ho.beyond_eq)

/-- Where nothing was out of view, the stores are alike as a whole. -/
theorem alike_of_confined (ho : o.Confined inside) (ho' : o'.Confined inside) :
    s.Alike alike s' := by
  have hwithin := h.within
  rwa [(h.confined ho).restrict_eq,
    (confined_of_beyond (h.right.trans ho'.beyond_eq)).restrict_eq] at hwithin

end Abreast

/-- Dropping everything, where nothing was out of view. -/
theorem abreast_empty (ho : o.Confined inside) (ho' : o'.Confined inside) :
    Abreast inside alike o o' ∅ ∅ where
  within := .nil
  left := by rw [ho.beyond_eq]; rfl
  right := by rw [ho'.beyond_eq]; rfl

end

end Store

/-! ## Rosters -/

namespace Roster

variable {inside : Ident → Bool} {o o' r r' : Roster} {id : Ident}

/-- The same identifiers in view, and out of view those that there were. -/
structure Abreast (inside : Ident → Bool) (o o' r r' : Roster) : Prop where
  within : r.filter inside = r'.filter inside
  left : (r.filter fun id => !inside id) = o.filter fun id => !inside id
  right : (r'.filter fun id => !inside id) = o'.filter fun id => !inside id

/-- Everything entered is in view. -/
def Confined (inside : Ident → Bool) (r : Roster) : Prop := ∀ id ∈ r, inside id = true

theorem Confined.filter_eq (h : Confined inside r) : r.filter inside = r := List.filter_eq_self.2 h

theorem Confined.filter_beyond (h : Confined inside r) : (r.filter fun id => !inside id) = [] :=
  List.filter_eq_nil_iff.2 fun id hid => by simp [h id hid]

theorem confined_of_filter (h : (r.filter fun id => !inside id) = []) : Confined inside r := by
  intro id hid
  have hout := List.filter_eq_nil_iff.1 h id hid
  rwa [Bool.not_eq_true', Bool.not_eq_false] at hout

theorem filter_add {keep : Ident → Bool} (hid : keep id = true) :
    (add r id).filter keep = add (r.filter keep) id := by
  rw [add, add]
  by_cases h : id ∈ r
  · rw [if_pos h, if_pos (List.mem_filter.2 ⟨h, hid⟩)]
  · rw [if_neg h, if_neg fun hm => h (List.mem_filter.1 hm).1, List.filter_append]
    simp [hid]

theorem filter_add_of_false {keep : Ident → Bool} (hid : keep id = false) :
    (add r id).filter keep = r.filter keep := by
  rw [add]
  split
  · rfl
  · rw [List.filter_append]
    simp [hid]

theorem filter_drop (keep : Ident → Bool) : (drop r id).filter keep = drop (r.filter keep) id := by
  rw [drop, drop, List.filter_filter, List.filter_filter]
  simp only [Bool.and_comm]

theorem filter_drop_of_false {keep : Ident → Bool} (hid : keep id = false) :
    (drop r id).filter keep = r.filter keep := by
  rw [drop, List.filter_filter]
  refine List.filter_congr fun other _ => ?_
  by_cases h : other = id
  · rw [h, hid, Bool.false_and]
  · rw [bne_iff_ne.2 h, Bool.and_true]

namespace Abreast

variable (h : Abreast inside o o' r r')

include h

theorem mem_iff (hid : inside id = true) : id ∈ r ↔ id ∈ r' := by
  have hmem : id ∈ r.filter inside ↔ id ∈ r'.filter inside := by rw [h.within]
  simpa only [List.mem_filter, hid, and_true] using hmem

theorem add (hid : inside id = true) : Abreast inside o o' (Roster.add r id) (Roster.add r' id) where
  within := by rw [filter_add hid, filter_add hid, h.within]
  left := by rw [filter_add_of_false (by rw [hid]; rfl), h.left]
  right := by rw [filter_add_of_false (by rw [hid]; rfl), h.right]

theorem drop (hid : inside id = true) :
    Abreast inside o o' (Roster.drop r id) (Roster.drop r' id) where
  within := by rw [filter_drop, filter_drop, h.within]
  left := by rw [filter_drop_of_false (by rw [hid]; rfl), h.left]
  right := by rw [filter_drop_of_false (by rw [hid]; rfl), h.right]

theorem confined (ho : Confined inside o) : Confined inside r :=
  confined_of_filter (h.left.trans ho.filter_beyond)

/-- Where nothing was out of view, the rosters are the same. -/
theorem eq (ho : Confined inside o) (ho' : Confined inside o') : r = r' := by
  have hwithin := h.within
  rwa [(h.confined ho).filter_eq,
    (confined_of_filter (h.right.trans ho'.filter_beyond)).filter_eq] at hwithin

end Abreast

/-- Striking everyone off, where nobody was out of view. -/
theorem abreast_nil (ho : Confined inside o) (ho' : Confined inside o') :
    Abreast inside o o' [] [] where
  within := rfl
  left := by rw [ho.filter_beyond]; rfl
  right := by rw [ho'.filter_beyond]; rfl

end Roster

end InstanceRegistry
