import InstanceRegistry.History
import InstanceRegistry.Proofs.Alias.Chains

/-!
  Registering aliases: chains never cycle, and only cycles are refused.

  `register` looks before it binds, in the table as it is: with the old binding of the alias still
  in it.  `Acyclic.insert_iff` says that this does no harm.  A path from the name to the alias is
  over when it comes to the alias, so it is there before the alias is re-pointed if and only if it
  is there afterwards.

  So one command keeps a table acyclic (`Acyclic.run`), and then so does any number of them.  The
  look itself is a search that might not end in a table with a cycle; it ends because the commands
  before have left none.
-/

namespace InstanceRegistry.AliasTable

open Relation

variable {ι : Type} {t t' : AliasTable} {name nick : Ident}

/-! ## One command -/

/-- What a registration that is not refused has done. -/
theorem register_inv (h : t.register name nick = .ok t') :
    t' = t.release nick ∨ t' = t ∨
      (nick ≠ name ∧ t.hasAlias nick name = false ∧
        t' = { t with targets := t.targets.insert nick name }) := by
  rw [register] at h
  cases hdecision : t.decision name nick with
  | error failure =>
    rw [hdecision] at h
    cases h
  | ok decided =>
    rw [hdecision] at h
    cases h
    cases decided with
    | release => exact .inl rfl
    | keep => exact .inr (.inl rfl)
    | bind =>
      refine .inr (.inr ?_)
      -- only `bindOrRefuse` decides to bind, and only after it has looked
      have hlooked : nick ≠ name ∧ t.bindOrRefuse name nick = .ok .bind := by
        rw [decision] at hdecision
        split at hdecision
        · cases hdecision
        · rename_i hne
          refine ⟨hne, ?_⟩
          split at hdecision
          · exact hdecision
          · split at hdecision
            · cases hdecision
            · split at hdecision
              · exact hdecision
              · cases hdecision
      obtain ⟨hne, hbind⟩ := hlooked
      rw [bindOrRefuse] at hbind
      split at hbind
      · cases hbind
      · rename_i hfree
        exact ⟨hne, Bool.eq_false_iff.2 hfree, rfl⟩

/-- Where neither the policy nor an old binding stands against it, the look alone decides. -/
theorem register_eq (hne : nick ≠ name) (hunbound : t.targets.get? nick ≠ some name)
    (hallowed : t.targets.get? nick = none ∨ t.overriding = true) :
    t.register name nick =
      if t.hasAlias nick name then .error (.circularAlias nick name)
      else .ok { t with targets := t.targets.insert nick name } := by
  have hdecision : t.decision name nick = t.bindOrRefuse name nick := by
    rw [decision, if_neg hne]
    cases hget : t.targets.get? nick with
    | none => rfl
    | some existing =>
      have hother : existing ≠ name := fun heq => hunbound (hget.trans (congrArg some heq))
      have hoverriding : t.overriding = true := by
        rcases hallowed with hnone | hoverriding
        · rw [hget] at hnone
          cases hnone
        · exact hoverriding
      simp only [if_neg hother, if_pos hoverriding]
  rw [register, hdecision, bindOrRefuse]
  split <;> rfl

/-- **Every command keeps the table acyclic.** -/
theorem Acyclic.run (h : Acyclic t.targets) (command : Command) :
    Acyclic ((@AliasTable.run ι t command).2).targets := by
  cases command with
  | register name nick =>
    rw [AliasTable.run]
    cases hregister : t.register name nick with
    | error failure => exact h
    | ok t' =>
      rcases register_inv hregister with rfl | rfl | ⟨hne, hfree, rfl⟩
      · exact h.erase nick
      · exact h
      · refine (h.insert_iff hne.symm).2 fun hpath => ?_
        rw [h.hasAlias_iff.2 hpath] at hfree
        cases hfree
  | remove nick => exact h.erase nick
  | isAlias | aliasesOf | hasAlias | canonicalName | ownName => exact h

/-- No command changes the policy. -/
theorem overriding_run (command : Command) :
    ((@AliasTable.run ι t command).2).overriding = t.overriding := by
  cases command with
  | register name nick =>
    rw [AliasTable.run]
    cases hregister : t.register name nick with
    | error failure => rfl
    | ok t' =>
      rcases register_inv hregister with rfl | rfl | ⟨-, -, rfl⟩ <;> rfl
  | remove | isAlias | aliasesOf | hasAlias | canonicalName | ownName => rfl

/-- A refused command changes nothing. -/
theorem run_refused {command : Command} {failure : Failure}
    (h : (@AliasTable.run ι t command).1 = .error failure) :
    (@AliasTable.run ι t command).2 = t := by
  cases command with
  | register name nick =>
    cases hregister : t.register name nick with
    | error _ => rw [AliasTable.run, hregister]
    | ok t' =>
      rw [AliasTable.run, hregister] at h
      cases h
  | remove | isAlias | aliasesOf | hasAlias | canonicalName | ownName => cases h

/-! ## Any number of commands -/

theorem Acyclic.runAll (h : Acyclic t.targets) (commands : List Command) :
    Acyclic (runAll (@AliasTable.run ι) t commands).targets := by
  induction commands generalizing t with
  | nil => exact h
  | cons command rest ih => exact ih (h.run command)

theorem overriding_runAll (commands : List Command) :
    (runAll (@AliasTable.run ι) t commands).overriding = t.overriding := by
  induction commands generalizing t with
  | nil => rfl
  | cons command rest ih => exact ih.trans (overriding_run command)

/-! ## The law -/

/-- The walks along a table's chains end, in both directions, and the queries are these walks: each
    satisfies the equation of the walk that has no bound. -/
structure WalksEnd (t : AliasTable) : Prop where
  forward : WellFounded fun name nick => Points t.targets nick name
  backward : WellFounded (Points t.targets)
  canonical : ∀ id, t.canonical id =
    match t.targets.get? id with
    | none => id
    | some name => t.canonical name
  hasAlias : ∀ name nick, t.hasAlias name nick =
    (direct t.targets name).any fun found => found = nick || t.hasAlias found nick
  aliasesOf : ∀ name, (t.aliasesOf name).Perm
    ((direct t.targets name).flatMap fun found => found :: t.aliasesOf found)

theorem Acyclic.walksEnd (h : Acyclic t.targets) : WalksEnd t where
  forward := h.forward
  backward := h.backward
  canonical := h.canonical_eq
  hasAlias := h.hasAlias_eq
  aliasesOf := h.aliasesOf_perm

/-- Registering is refused as circular exactly if the binding makes a cycle, and done otherwise. -/
theorem Acyclic.register_iff (h : Acyclic t.targets) (hne : nick ≠ name)
    (hunbound : t.targets.get? nick ≠ some name)
    (hallowed : t.targets.get? nick = none ∨ t.overriding = true) :
    ((@AliasTable.run ι t (.register name nick)).1 = .error (.circularAlias nick name) ↔
        ¬ Acyclic (t.targets.insert nick name)) ∧
      (@AliasTable.run ι t (.register name nick) =
          (.ok .unit, { t with targets := t.targets.insert nick name }) ↔
        Acyclic (t.targets.insert nick name)) := by
  have hiff : t.hasAlias nick name = true ↔ ¬ Acyclic (t.targets.insert nick name) := by
    rw [h.hasAlias_iff, h.insert_iff hne.symm, Classical.not_not]
  rw [AliasTable.run, register_eq hne hunbound hallowed]
  cases hlook : t.hasAlias nick name with
  | true =>
    have hcycle : ¬ Acyclic (t.targets.insert nick name) := hiff.1 hlook
    simp [hcycle]
  | false =>
    have hnone : Acyclic (t.targets.insert nick name) := by
      refine Classical.not_not.1 fun hcycle => ?_
      rw [hiff.2 hcycle] at hlook
      cases hlook
    simp [hnone]

/-- **Chains never cycle, and only cycles are refused.**  After any commands, carried out one after
    another on the empty table under either policy, the chains have no cycle, the queries end, a
    registration that neither repeats a binding nor goes against the policy is refused as circular
    exactly if it would make a cycle, and what is refused changes nothing. -/
theorem chains_never_cycle {overriding : Bool} {commands : List Command}
    (ht : runAll (@AliasTable.run ι) { overriding } commands = t) :
    Acyclic t.targets ∧ WalksEnd t ∧
      (∀ name nick, nick ≠ name → t.targets.get? nick ≠ some name →
        (t.targets.get? nick = none ∨ overriding = true) →
        ((@AliasTable.run ι t (.register name nick)).1 = .error (.circularAlias nick name) ↔
            ¬ Acyclic (t.targets.insert nick name)) ∧
          (@AliasTable.run ι t (.register name nick) =
              (.ok .unit, { t with targets := t.targets.insert nick name }) ↔
            Acyclic (t.targets.insert nick name))) ∧
      ∀ command failure, (@AliasTable.run ι t command).1 = .error failure →
        (@AliasTable.run ι t command).2 = t := by
  have hacyclic : Acyclic t.targets := by
    rw [← ht]
    exact Acyclic.runAll acyclic_empty commands
  have hpolicy : t.overriding = overriding := by
    rw [← ht]
    exact overriding_runAll commands
  refine ⟨hacyclic, hacyclic.walksEnd, ?_, fun command failure => run_refused⟩
  intro name nick hne hunbound hallowed
  exact hacyclic.register_iff hne hunbound (hpolicy ▸ hallowed)

/-- Commands that build a chain of three, try to close it, and re-point the alias in its middle. -/
def detours : List Command :=
  [.register "pool" "db", .register "db" "store", .register "store" "shop",
    .register "shop" "pool", .register "pool" "store"]

/-- An alias cannot be pointed to one that stands for it, even where it already stands for something
    else; one whose old neighbour has gone elsewhere may follow it. -/
theorem chains_never_cycle_detours :
    let t := runAll (@AliasTable.run Unit) { overriding := true } detours
    t.canonical "shop" = "pool" ∧ WalksEnd t ∧
      ¬ Acyclic (t.targets.insert "store" "shop") ∧
      Acyclic (t.targets.insert "db" "shop") ∧
      (@AliasTable.run Unit t (.register "shop" "store")).2 = t := by
  intro t
  obtain ⟨-, hends, hrefused, hkept⟩ := chains_never_cycle (t := t) rfl
  have hcircular : (@AliasTable.run Unit t (.register "shop" "store")).1 =
      .error (.circularAlias "store" "shop") := by
    decide +kernel
  have hbound : @AliasTable.run Unit t (.register "shop" "db") =
      (.ok .unit, { t with targets := t.targets.insert "db" "shop" }) := by
    decide +kernel
  refine ⟨by decide +kernel, hends, ?_, ?_, hkept _ _ hcircular⟩
  · exact (hrefused "shop" "store" (by decide) (by decide +kernel) (.inr rfl)).1.1 hcircular
  · exact (hrefused "shop" "db" (by decide) (by decide +kernel) (.inr rfl)).2.1 hbound

end InstanceRegistry.AliasTable
