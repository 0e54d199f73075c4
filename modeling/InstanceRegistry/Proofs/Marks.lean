import InstanceRegistry.Marks

/-!
  What marking does.

  Beginning a creation is refused only if its identifier is marked, and ending one only if it is
  not.  An excluded identifier is neither refused nor changed.  So ending takes beginning back, and
  neither touches the exclusions.

  Mathlib-free.
-/

namespace InstanceRegistry

/-- Striking off what is not there changes nothing. -/
theorem Roster.drop_of_not_mem {r : Roster} {id : Ident} (h : id ∉ r) : Roster.drop r id = r :=
  List.filter_eq_self.2 fun _ ha => bne_iff_ne.2 fun heq => h (heq ▸ ha)

namespace Marks

variable {m m' : Marks} {id x : Ident} {failure : Failure}

/-! ## Beginning and ending -/

/-- Beginning leaves an excluded identifier alone and marks any other, which was not marked. -/
theorem enter_inv (h : m.enter id = .ok m') :
    (m.isExcluded id = true ∧ m' = m) ∨
      (m.isExcluded id = false ∧ m.isActive id = false ∧
        m' = { m with active := Roster.add m.active id }) := by
  rw [enter] at h
  cases hexcluded : m.isExcluded id with
  | true =>
    rw [hexcluded] at h
    cases h
    exact .inl ⟨rfl, rfl⟩
  | false =>
    cases hactive : m.isActive id with
    | true =>
      rw [hexcluded, hactive] at h
      cases h
    | false =>
      rw [hexcluded, hactive] at h
      cases h
      exact .inr ⟨rfl, rfl, rfl⟩

/-- Beginning is refused to an identifier that is marked, and says so. -/
theorem enter_refused (h : m.enter id = .error failure) : failure = .inCreation id := by
  rw [enter] at h
  split at h
  · cases h
  · split at h
    · cases h
      rfl
    · cases h

/-- Ending leaves an excluded identifier alone and clears the mark of any other. -/
theorem leave_inv (h : m.leave id = .ok m') :
    (m.isExcluded id = true ∧ m' = m) ∨
      (m.isExcluded id = false ∧ m.isActive id = true ∧
        m' = { m with active := Roster.drop m.active id }) := by
  rw [leave] at h
  cases hexcluded : m.isExcluded id with
  | true =>
    rw [hexcluded] at h
    cases h
    exact .inl ⟨rfl, rfl⟩
  | false =>
    cases hactive : m.isActive id with
    | true =>
      rw [hexcluded, hactive] at h
      cases h
      exact .inr ⟨rfl, rfl, rfl⟩
    | false =>
      rw [hexcluded, hactive] at h
      cases h

/-- Ending is refused to an identifier that is neither excluded nor marked. -/
theorem leave_refused (h : m.leave id = .error failure) :
    m.isExcluded id = false ∧ m.isActive id = false := by
  rw [leave] at h
  cases hexcluded : m.isExcluded id with
  | true =>
    rw [hexcluded] at h
    cases h
  | false =>
    cases hactive : m.isActive id with
    | true =>
      rw [hexcluded, hactive] at h
      cases h
    | false => exact ⟨rfl, rfl⟩

/-- Such a refusal says that the marks are inconsistent. -/
theorem leave_inconsistent (h : m.leave id = .error failure) :
    ∃ problem, failure = .inconsistent problem := by
  rw [leave] at h
  split at h
  · cases h
  · split at h
    · cases h
    · cases h
      exact ⟨_, rfl⟩

theorem leaveQuietly_eq (h : m.leave id = .ok m') : m.leaveQuietly id = m' := by
  rw [leaveQuietly, h]

/-- What was begun can be ended, and then the marks are as they were. -/
theorem leave_of_enter (h : m.enter id = .ok m') : m'.leave id = .ok m := by
  rcases enter_inv h with ⟨hexcluded, rfl⟩ | ⟨hexcluded, hfree, rfl⟩
  · rw [leave, hexcluded]
    rfl
  · have hactive : ({ m with active := Roster.add m.active id } : Marks).isActive id = true := by
      simp [isActive]
    have hback : Roster.drop (Roster.add m.active id) id = m.active := by
      have hnot : id ∉ m.active := of_decide_eq_false hfree
      rw [Roster.add, if_neg hnot, Roster.drop, List.filter_append, ← Roster.drop,
        Roster.drop_of_not_mem hnot]
      simp
    rw [leave, hactive]
    simp only [isExcluded] at hexcluded ⊢
    rw [hexcluded, hback]
    rfl

/-! ## Other identifiers -/

/-- Whoever can be marked was not marked and subject to the check. -/
theorem ne_of_enter (h : m.enter id = .ok m') (hactive : m.isActive x = true)
    (hchecked : m.isExcluded x = false) : id ≠ x := by
  rintro rfl
  rcases enter_inv h with ⟨hexcluded, -⟩ | ⟨-, hfree, -⟩
  · rw [hchecked] at hexcluded
    cases hexcluded
  · rw [hactive] at hfree
    cases hfree

/-- Beginning is refused exactly to who is marked and subject to the check. -/
theorem enter_refused_iff : (∃ failure, m.enter id = .error failure) ↔ m.isChecked id = true := by
  rw [enter, isChecked]
  cases m.isExcluded id <;> cases m.isActive id <;> simp

/-- Beginning marks one identifier. -/
theorem isActive_enter_of_ne (h : m.enter id = .ok m') (hne : id ≠ x) :
    m'.isActive x = m.isActive x := by
  rcases enter_inv h with ⟨-, rfl⟩ | ⟨-, -, rfl⟩
  · rfl
  · refine decide_eq_decide.2 (Roster.mem_add.trans (or_iff_left ?_))
    exact hne.symm

/-- Beginning clears no mark. -/
theorem isActive_of_enter (h : m.enter id = .ok m') (hactive : m.isActive x = true) :
    m'.isActive x = true := by
  rcases enter_inv h with ⟨-, rfl⟩ | ⟨-, -, rfl⟩
  · exact hactive
  · have hmem : x ∈ m.active := of_decide_eq_true hactive
    exact decide_eq_true (Roster.mem_add.2 (.inl hmem))

/-- Ending clears the mark of one identifier. -/
theorem isActive_leaveQuietly_of_ne (m : Marks) (hne : id ≠ x) :
    (m.leaveQuietly id).isActive x = m.isActive x := by
  rw [leaveQuietly]
  cases hleave : m.leave id with
  | error _ => rfl
  | ok left =>
    rcases leave_inv hleave with ⟨-, rfl⟩ | ⟨-, -, rfl⟩
    · rfl
    · exact decide_eq_decide.2 (Roster.mem_drop.trans (and_iff_left hne.symm))

/-- Ending sets no mark. -/
theorem isActive_leaveQuietly (hfree : m.isActive x = false) :
    (m.leaveQuietly id).isActive x = false := by
  by_cases hne : id = x
  · subst hne
    rw [leaveQuietly]
    cases hleave : m.leave id with
    | error _ => exact hfree
    | ok left =>
      rcases leave_inv hleave with ⟨-, rfl⟩ | ⟨-, hactive, -⟩
      · exact hfree
      · rw [hfree] at hactive
        cases hactive
  · rw [isActive_leaveQuietly_of_ne m hne]
    exact hfree

/-- Ending clears the mark of an identifier that is subject to the check. -/
theorem isActive_leaveQuietly_self (hchecked : m.isExcluded id = false) :
    (m.leaveQuietly id).isActive id = false := by
  rw [leaveQuietly]
  cases hleave : m.leave id with
  | error _ => exact (leave_refused hleave).2
  | ok left =>
    rcases leave_inv hleave with ⟨hexcluded, -⟩ | ⟨-, -, rfl⟩
    · rw [hchecked] at hexcluded
      cases hexcluded
    · exact decide_eq_false fun hmem => (Roster.mem_drop.1 hmem).2 rfl

/-- What was begun and is still marked is ended: as far as one identifier goes that is subject to the
    check, the marks are as they were. -/
theorem isActive_of_bracket {m'' : Marks} (h : m.enter id = .ok m')
    (hsame : m''.isActive x = m'.isActive x) (hchecked : m.isExcluded x = false)
    (hchecked' : m''.isExcluded x = false) : (m''.leaveQuietly id).isActive x = m.isActive x := by
  by_cases hne : id = x
  · subst hne
    rcases enter_inv h with ⟨hexcluded, -⟩ | ⟨-, hfree, rfl⟩
    · rw [hchecked] at hexcluded
      cases hexcluded
    · rw [isActive_leaveQuietly_self hchecked', hfree]
  · rw [isActive_leaveQuietly_of_ne _ hne, hsame, isActive_enter_of_ne h hne]

/-! ## Exclusions -/

theorem isExcluded_congr (h : m'.excluded = m.excluded) : m'.isExcluded x = m.isExcluded x := by
  rw [isExcluded, isExcluded, h]

theorem enter_excluded (h : m.enter id = .ok m') : m'.excluded = m.excluded := by
  rcases enter_inv h with ⟨-, rfl⟩ | ⟨-, -, rfl⟩ <;> rfl

theorem leave_excluded (h : m.leave id = .ok m') : m'.excluded = m.excluded := by
  rcases leave_inv h with ⟨-, rfl⟩ | ⟨-, -, rfl⟩ <;> rfl

theorem excluded_leaveQuietly (m : Marks) (id : Ident) :
    (m.leaveQuietly id).excluded = m.excluded := by
  rw [leaveQuietly]
  cases hleave : m.leave id with
  | error _ => rfl
  | ok left => exact leave_excluded hleave

/-- Excluding what is excluded, or subjecting what is not, changes nothing. -/
theorem setExcluded_self (m : Marks) (id : Ident) : m.setExcluded id (m.isExcluded id) = m := by
  rw [setExcluded]
  by_cases h : id ∈ m.excluded
  · simp [isExcluded, h, Roster.add]
  · simp [isExcluded, h, Roster.drop_of_not_mem]

/-- Excluding somebody else, or subjecting one to the check again, excludes nobody. -/
theorem isExcluded_setExcluded {value : Bool} (hchecked : m.isExcluded x = false)
    (hother : (id, value) ≠ (x, true)) : (m.setExcluded id value).isExcluded x = false := by
  have hnot : x ∉ m.excluded := of_decide_eq_false hchecked
  refine decide_eq_false fun hmem => ?_
  cases value with
  | true =>
    rcases Roster.mem_add.1 hmem with hthere | rfl
    · exact hnot hthere
    · exact hother rfl
  | false => exact hnot (Roster.mem_drop.1 hmem).1

end Marks

end InstanceRegistry
