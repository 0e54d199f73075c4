import Mathlib.Data.List.Infix
import InstanceRegistry.History
import InstanceRegistry.Proofs.Marks

/-!
  Guards, and the marks they leave behind.

  A guard is there so that a mark is cleared whatever happens.  Closing it and dropping it do the same
  to marks and guards (`finish_eq_drop`), and work that panics under a guard of its own leaves
  everything as it was.  So an identifier that is marked has a guard, and one that has none is free,
  as long as every close clears.

  It does not clear for an identifier that is EXCLUDED at that moment: the guard goes and the mark
  stays, if it was set before the exclusion.  That is harmless while another guard of the identifier
  is held, which may clear the mark later.  If it was the last one, the mark is STRANDED: nobody is
  left to clear it, and once the exclusion is taken back the identifier cannot be marked any more.

  This is the only way in which a mark is left behind (`covered_run_iff`, for one command), so a run
  leaves none exactly if none of its commands strands one.
-/

namespace InstanceRegistry.GuardedMarks

variable {g : GuardedMarks} {id x slot : Ident} {command : Command}

/-! ## Who is guarded -/

/-- A guard is held for an identifier. -/
def Holds (g : GuardedMarks) (id : Ident) : Prop := ∃ slot, g.guards.get? slot = some id

instance : Decidable (g.Holds id) :=
  decidable_of_iff (id ∈ g.guards.entries.map Prod.snd) <| by
    constructor
    · intro h
      obtain ⟨⟨slot, _⟩, hentry, rfl⟩ := List.mem_map.1 h
      exact ⟨slot, Store.get?_of_mem_entries hentry⟩
    · rintro ⟨slot, hslot⟩
      exact List.mem_map.2 ⟨(slot, id), Store.mem_entries_of_get? hslot, rfl⟩

/-- An identifier for which no guard is held is not marked. -/
def Covered (g : GuardedMarks) (id : Ident) : Prop := ¬ g.Holds id → g.marks.isActive id = false

instance : Decidable (g.Covered id) := inferInstanceAs (Decidable (_ → _))

/-- A command sets and clears marks by way of guards only. -/
def Command.guarded : Command → Bool
  | .enter _ | .leave _ | .clear => false
  | _ => true

/-- A command closes the last guard of an identifier that is marked and excluded. -/
def Strands (g : GuardedMarks) (command : Command) (id : Ident) : Prop :=
  g.marks.isActive id = true ∧ g.marks.isExcluded id = true ∧
    g.Holds id ∧ ¬ (@run Unit g command).2.Holds id

/-! ## What commands come to -/

/-- A closed guard leaves what a dropped one leaves. -/
theorem finish_eq_drop (g : GuardedMarks) (slot : Ident) : (g.finish slot).2 = g.drop slot := by
  rw [finish, drop]
  cases g.guards.get? slot with
  | none => rfl
  | some id =>
    dsimp only [Marks.leaveQuietly]
    cases g.marks.leave id <;> rfl

/-- Work that panics under its guard leaves everything as it was. -/
theorem run_markPanicking (g : GuardedMarks) (id : Ident) :
    (@run Unit g (.markPanicking id)).2 = g := by
  dsimp only [run, attempt, markPanicking]
  cases henter : g.marks.enter id with
  | error failure => rfl
  | ok marks =>
    show ({ g with marks := marks.leaveQuietly id } : GuardedMarks) = g
    rw [Marks.leaveQuietly_eq (Marks.leave_of_enter henter)]

/-- Marking leaves what is said, unless it is refused. -/
theorem run_mark (g : GuardedMarks) (id slot : Ident) :
    (∃ failure, g.marks.enter id = .error failure ∧
      @run Unit g (.mark id slot) = (.error failure, g)) ∨
    ∃ marks, g.marks.enter id = .ok marks ∧
      @run Unit g (.mark id slot) = (.ok .unit,
        { ({ g with marks } : GuardedMarks).drop slot with
          guards := (({ g with marks } : GuardedMarks).drop slot).guards.insert slot id }) := by
  dsimp only [run, attempt, mark]
  cases g.marks.enter id with
  | error failure => exact .inl ⟨failure, rfl, rfl⟩
  | ok marks => exact .inr ⟨marks, rfl, rfl⟩

/-- Marking is refused exactly to who is marked and subject to the check. -/
theorem mark_refused_iff (g : GuardedMarks) (id slot : Ident) :
    (∃ failure, (@run Unit g (.mark id slot)).1 = .error failure) ↔ g.marks.isChecked id = true := by
  rw [← Marks.enter_refused_iff]
  rcases run_mark g id slot with ⟨failure, henter, hrun⟩ | ⟨marks, henter, hrun⟩
  · rw [henter, hrun]
    exact ⟨fun _ => ⟨failure, rfl⟩, fun _ => ⟨failure, rfl⟩⟩
  · rw [henter, hrun]
    exact ⟨nofun, nofun⟩

/-! ## Dropping -/

/-- Dropping the guard of one identifier lets nobody else go. -/
theorem holds_drop_of_ne (hslot : g.guards.get? slot = some id) (hne : x ≠ id) :
    (g.drop slot).Holds x ↔ g.Holds x := by
  rw [drop, hslot]
  refine exists_congr fun other => ?_
  show (g.guards.erase slot).get? other = some x ↔ _
  by_cases hother : other = slot
  · rw [hother, Store.get?_erase_self, hslot]
    exact ⟨nofun, fun h => absurd (Option.some.inj h).symm hne⟩
  · rw [Store.get?_erase_of_ne _ hother]

/-- **Dropping a guard keeps an identifier covered**, unless it strands its mark. -/
theorem covered_drop_iff (h : g.Covered x) :
    (g.drop slot).Covered x ↔
      ¬ (g.marks.isActive x = true ∧ g.marks.isExcluded x = true ∧
        g.Holds x ∧ ¬ (g.drop slot).Holds x) := by
  cases hslot : g.guards.get? slot with
  | none =>
    have hsame : g.drop slot = g := by rw [drop, hslot]
    rw [hsame]
    exact ⟨fun _ hstrands => hstrands.2.2.2 hstrands.2.2.1, fun _ => h⟩
  | some id =>
    by_cases hne : x = id
    · subst hne
      have hholds : g.Holds x := ⟨slot, hslot⟩
      have hmarks : (g.drop slot).marks = g.marks.leaveQuietly x := by rw [drop, hslot]
      cases hexcluded : g.marks.isExcluded x with
      | true =>
        -- closing leaves the mark, so all depends on whether it was the last guard
        have hkept : g.marks.leaveQuietly x = g.marks := by
          rw [Marks.leaveQuietly, Marks.leave, hexcluded]
          rfl
        rw [Covered, hmarks, hkept]
        cases g.marks.isActive x <;> simp [hholds]
      | false =>
        have hcleared : (g.drop slot).marks.isActive x = false := by
          rw [hmarks]
          exact Marks.isActive_leaveQuietly_self hexcluded
        exact ⟨fun _ hstrands => Bool.false_ne_true hstrands.2.1, fun _ _ => hcleared⟩
    · have hmarks : (g.drop slot).marks.isActive x = g.marks.isActive x := by
        rw [drop, hslot]
        exact Marks.isActive_leaveQuietly_of_ne g.marks (Ne.symm hne)
      rw [Covered, holds_drop_of_ne hslot hne, hmarks]
      exact ⟨fun _ hstrands => hstrands.2.2.2 hstrands.2.2.1, fun _ => h⟩

/-! ## One command -/

/-- A guard put into a free slot holds one identifier more. -/
theorem holds_insert (hslot : g.guards.get? slot = none) :
    ({ g with guards := g.guards.insert slot id } : GuardedMarks).Holds x ↔ g.Holds x ∨ x = id := by
  constructor
  · rintro ⟨other, hother⟩
    change (g.guards.insert slot id).get? other = some x at hother
    rw [Store.get?_insert] at hother
    split at hother
    · exact .inr (Option.some.inj hother).symm
    · exact .inl ⟨other, hother⟩
  · rintro (⟨other, hother⟩ | rfl)
    · refine ⟨other, ?_⟩
      show (g.guards.insert slot id).get? other = some x
      rw [Store.get?_insert_of_ne, hother]
      rintro rfl
      rw [hslot] at hother
      cases hother
    · exact ⟨slot, Store.get?_insert_self _ _ _⟩

theorem guards_drop (g : GuardedMarks) (slot : Ident) : (g.drop slot).guards.get? slot = none := by
  rw [drop]
  cases hslot : g.guards.get? slot with
  | none => exact hslot
  | some id => exact Store.get?_erase_self _ _

/-- **A command keeps an identifier covered**, unless it strands its mark. -/
theorem covered_run_iff (hguarded : command.guarded = true) (h : g.Covered x) :
    (@run Unit g command).2.Covered x ↔ ¬ g.Strands command x := by
  have hstay : (@run Unit g command).2 = g →
      ((@run Unit g command).2.Covered x ↔ ¬ g.Strands command x) := by
    intro hsame
    rw [Strands, hsame]
    exact ⟨fun _ hstrands => hstrands.2.2.2 hstrands.2.2.1, fun _ => h⟩
  cases command with
  | enter | leave | clear => cases hguarded
  | isActive | isChecked | isExcluded => exact hstay rfl
  | markPanicking id => exact hstay (run_markPanicking g id)
  | setExcluded id value =>
    -- neither marks nor guards change
    have hholds : (@run Unit g (.setExcluded id value)).2.Holds x ↔ g.Holds x := Iff.rfl
    exact ⟨fun _ hstrands => hstrands.2.2.2 (hholds.2 hstrands.2.2.1), fun _ => h⟩
  | finish slot =>
    have hrun : (@run Unit g (.finish slot)).2 = g.drop slot := finish_eq_drop g slot
    rw [Strands, hrun]
    exact covered_drop_iff h
  | drop slot => exact covered_drop_iff h
  | mark id slot =>
    rcases run_mark g id slot with ⟨failure, -, hrun⟩ | ⟨marks, henter, hrun⟩
    · exact hstay (congrArg Prod.snd hrun)
    · rw [Strands, hrun, Covered, holds_insert (guards_drop _ slot)]
      by_cases hne : x = id
      · -- it has a guard now
        exact ⟨fun _ hstrands => hstrands.2.2.2 (.inr hne), fun _ hfree => absurd (.inr hne) hfree⟩
      · -- for anybody else it is the guard in the slot that counts
        have hactive : marks.isActive x = g.marks.isActive x :=
          Marks.isActive_enter_of_ne henter (Ne.symm hne)
        have hexcluded : marks.isExcluded x = g.marks.isExcluded x :=
          Marks.isExcluded_congr (Marks.enter_excluded henter)
        have hentered : ({ g with marks } : GuardedMarks).Covered x := by
          rw [Covered, hactive]
          exact h
        have hdrop : (({ g with marks } : GuardedMarks).drop slot).Covered x ↔ _ :=
          covered_drop_iff hentered
        rw [Covered, hactive, hexcluded] at hdrop
        simp only [hne, or_false]
        exact hdrop

/-! ## The law -/

/-- Marks and guards after commands that are carried out one after another, with none to begin with. -/
def after (commands : List Command) : GuardedMarks := runAll (@run Unit) {} commands

theorem after_concat (commands : List Command) (command : Command) :
    after (commands ++ [command]) = (@run Unit (after commands) command).2 := by
  rw [after, runAll, List.foldl_concat]
  rfl

/-- **A closed guard leaves no mark**, unless it strands one.  Take any commands that set and clear
    marks by way of guards only.  At all their moments an identifier without a guard is free, exactly
    if none of them closes the last guard of the identifier while it is marked and excluded.  And at
    any moment marking is refused exactly to who is marked and not excluded. -/
theorem closed_guards_iff {commands : List Command}
    (hguarded : ∀ command ∈ commands, command.guarded = true) (id : Ident) :
    ((∀ earlier, earlier <+: commands → ¬ (after earlier).Holds id →
          (after earlier).marks.isActive id = false) ↔
        ∀ earlier command, earlier ++ [command] <+: commands →
          ¬ (after earlier).Strands command id) ∧
      ∀ earlier, earlier <+: commands → ∀ slot,
        ((∃ failure, (@run Unit (after earlier) (.mark id slot)).1 = .error failure) ↔
          (after earlier).marks.isChecked id = true) := by
  refine ⟨⟨fun hfree earlier command hnext => ?_, fun hnone earlier hearlier => ?_⟩,
    fun earlier _ slot => mark_refused_iff _ id slot⟩
  · have hcommand : command ∈ commands := hnext.subset (by simp)
    have hbefore : (after earlier).Covered id := hfree earlier ((List.prefix_append _ _).trans hnext)
    refine (covered_run_iff (hguarded command hcommand) hbefore).1 ?_
    rw [← after_concat]
    exact hfree _ hnext
  · induction earlier using List.reverseRecOn with
    | nil => exact fun _ => rfl
    | append_singleton earlier command ih =>
      have hcommand : command ∈ commands := hearlier.subset (by simp)
      have hbefore : (after earlier).Covered id := ih ((List.prefix_append _ _).trans hearlier)
      rw [after_concat]
      exact (covered_run_iff (hguarded command hcommand) hbefore).2 (hnone earlier command hearlier)

/-- Two guards of one lamp, the second held while the lamp is excluded.  The exclusion keeps the first
    from clearing the mark, and the second clears it when it is over: nothing is stranded. -/
theorem closed_guards_iff_relay :
    (∀ earlier command,
        earlier ++ [command] <+: [.mark "lamp" "first", .setExcluded "lamp" true,
          .mark "lamp" "second", .finish "first", .setExcluded "lamp" false, .drop "second"] →
        ¬ (after earlier).Strands command "lamp") ∧
      (after [.mark "lamp" "first", .setExcluded "lamp" true, .mark "lamp" "second",
        .finish "first", .setExcluded "lamp" false]).marks.isChecked "lamp" = true := by
  refine ⟨(closed_guards_iff (by decide) "lamp").1.1 fun earlier hearlier => ?_, by decide +kernel⟩
  have hfree : ∀ earlier ∈ List.inits [.mark "lamp" "first", .setExcluded "lamp" true,
      .mark "lamp" "second", .finish "first", .setExcluded "lamp" false, .drop "second"],
      (after earlier).Covered "lamp" := by decide +kernel
  exact hfree earlier ((List.mem_inits _ _).2 hearlier)

/-- The guard of a lamp is closed while the lamp is excluded.  It is marked for good: as soon as the
    exclusion is over, marking it again is refused, though nobody holds a guard. -/
theorem stranded_lamp :
    (∀ command ∈ [Command.mark "lamp" "slot", .setExcluded "lamp" true, .finish "slot",
        .setExcluded "lamp" false], command.guarded = true) ∧
      ¬ (after [.mark "lamp" "slot", .setExcluded "lamp" true, .finish "slot"]).Holds "lamp" ∧
      (after [.mark "lamp" "slot", .setExcluded "lamp" true, .finish "slot"]).marks.isActive "lamp"
        = true ∧
      ¬ (after [.mark "lamp" "slot", .setExcluded "lamp" true, .finish "slot",
        .setExcluded "lamp" false]).Holds "lamp" ∧
      (@run Unit (after [.mark "lamp" "slot", .setExcluded "lamp" true, .finish "slot",
        .setExcluded "lamp" false]) (.mark "lamp" "again")).1 = .error (.inCreation "lamp") :=
  ⟨by decide, by decide +kernel, by decide +kernel, by decide +kernel, rfl⟩

end InstanceRegistry.GuardedMarks
