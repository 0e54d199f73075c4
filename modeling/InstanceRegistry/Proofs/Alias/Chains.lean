import Mathlib.Logic.Relation
import Mathlib.Data.List.Perm.Basic
import InstanceRegistry.Alias

/-!
  Chains of aliases, and why looking along them comes to an end.

  A table says of every alias for which name it stands.  A CHAIN follows these steps; a table is
  ACYCLIC if no chain of one or more steps leads back to where it began.

  The one fact that everything else rests on is `Acyclic.length_le`: in an acyclic table no chain is
  longer than the table.  The first step of a chain leaves an alias behind that the rest never comes
  back to, so the rest is a chain of the smaller table without it.

  The queries walk with a bound, the table's size.  Where chains are short enough a walk never
  reaches its bound, and then a greater bound gives the same answer: each query satisfies the
  equation of the walk that has no bound at all (`canonical_eq`, `hasAlias_eq`, `aliasesOf_perm`).
  Since the steps of these walks are well-founded in both directions (`Acyclic.forward`,
  `Acyclic.backward`), that says that the walks without a bound end, and with what.
-/

namespace InstanceRegistry.AliasTable

open Relation

variable {targets : Store Ident} {x y z nick name : Ident} {n : Nat}

/-! ## Chains -/

/-- `nick` stands directly for `name`. -/
def Points (targets : Store Ident) (nick name : Ident) : Prop := targets.get? nick = some name

/-- No chain of aliases leads back to where it began. -/
def Acyclic (targets : Store Ident) : Prop := ∀ x, ¬ TransGen (Points targets) x x

/-- So many steps lead from one identifier to another. -/
inductive Chain (targets : Store Ident) : Nat → Ident → Ident → Prop where
  | here (x : Ident) : Chain targets 0 x x
  | step {n : Nat} {x y z : Ident} (first : Points targets x y) (rest : Chain targets n y z) :
      Chain targets (n + 1) x z

namespace Chain

/-- A chain may be extended at its end. -/
theorem snoc (h : Chain targets n x y) (hlast : Points targets y z) :
    Chain targets (n + 1) x z := by
  induction h with
  | here x => exact .step hlast (.here z)
  | step first _ ih => exact .step first (ih hlast)

/-- A chain of one or more steps has a last one. -/
theorem exists_last (h : Chain targets (n + 1) x z) :
    ∃ y, Chain targets n x y ∧ Points targets y z := by
  induction n generalizing x with
  | zero =>
    cases h with
    | step first rest =>
      cases rest
      exact ⟨x, .here x, first⟩
  | succ n ih =>
    cases h with
    | step first rest =>
      obtain ⟨y, hbefore, hlast⟩ := ih rest
      exact ⟨y, .step first hbefore, hlast⟩

theorem reflTransGen (h : Chain targets n x y) : ReflTransGen (Points targets) x y := by
  induction h with
  | here x => exact .refl
  | step first _ ih => exact .head first ih

theorem transGen (h : Chain targets (n + 1) x y) : TransGen (Points targets) x y := by
  cases h with
  | step first rest => exact .head' first rest.reflTransGen

/-- A chain that cannot come to an alias does without it. -/
theorem erase (h : Chain targets n y z) (hx : ¬ ReflTransGen (Points targets) y x) :
    Chain (targets.erase x) n y z := by
  induction h with
  | here y => exact .here y
  | @step _ y _ _ first _ ih =>
    have hne : y ≠ x := by
      rintro rfl
      exact hx .refl
    refine .step ?_ (ih fun hback => hx (.head first hback))
    rw [Points, Store.get?_erase_of_ne _ hne]
    exact first

end Chain

theorem exists_chain (h : TransGen (Points targets) x y) : ∃ n, Chain targets (n + 1) x y := by
  induction h with
  | single first => exact ⟨0, .step first (.here _)⟩
  | tail _ last ih =>
    obtain ⟨n, hn⟩ := ih
    exact ⟨n + 1, hn.snoc last⟩

/-! ## Acyclic tables -/

theorem acyclic_empty : Acyclic ∅ := by
  intro x h
  obtain ⟨y, hy, -⟩ := TransGen.head'_iff.1 h
  cases hy

/-- Fewer aliases make no new cycle. -/
theorem Acyclic.erase (h : Acyclic targets) (x : Ident) : Acyclic (targets.erase x) := by
  intro z hz
  refine h z (TransGen.mono (fun a b hab => ?_) _ _ hz)
  rw [Points, Store.get?_erase] at hab
  split at hab
  · cases hab
  · exact hab

/-- **No chain is longer than the table**, if the table is acyclic. -/
theorem Acyclic.length_le (h : Acyclic targets) (hc : Chain targets n x y) : n ≤ targets.size := by
  induction n generalizing targets x with
  | zero => exact Nat.zero_le _
  | succ n ih =>
    cases hc with
    | @step _ _ y _ first rest =>
      -- the rest does not come back to `x`, so it is a chain of the table without `x`
      have haway : ¬ ReflTransGen (Points targets) y x := fun hback => h x (.head' first hback)
      have hrest : n ≤ (targets.erase x).size := ih (h.erase x) (rest.erase haway)
      have hless : (targets.erase x).size < targets.size := by
        refine Store.size_erase_lt (Store.contains_iff_mem_keys.1 ?_)
        rw [Store.contains, first]
        rfl
      omega

/-- Walks from an alias to what it stands for end. -/
theorem Acyclic.forward (h : Acyclic targets) :
    WellFounded fun name nick => Points targets nick name := by
  have hacc : ∀ n x, (∀ k y, Chain targets k x y → k ≤ n) →
      Acc (fun name nick => Points targets nick name) x := by
    intro n
    induction n with
    | zero =>
      intro x hx
      refine ⟨x, fun y first => ?_⟩
      exact absurd (hx 1 y (.step first (.here y))) (Nat.not_succ_le_zero 0)
    | succ n ih =>
      intro x hx
      refine ⟨x, fun y first => ih y fun k z hk => ?_⟩
      exact Nat.le_of_succ_le_succ (hx (k + 1) z (.step first hk))
  exact ⟨fun x => hacc targets.size x fun k y hk => h.length_le hk⟩

/-- Searches from a name to what stands for it end. -/
theorem Acyclic.backward (h : Acyclic targets) : WellFounded (Points targets) := by
  have hacc : ∀ n x, (∀ k y, Chain targets k y x → k ≤ n) → Acc (Points targets) x := by
    intro n
    induction n with
    | zero =>
      intro x hx
      refine ⟨x, fun y last => ?_⟩
      exact absurd (hx 1 y (.step last (.here x))) (Nat.not_succ_le_zero 0)
    | succ n ih =>
      intro x hx
      refine ⟨x, fun y last => ih y fun k z hk => ?_⟩
      exact Nat.le_of_succ_le_succ (hx (k + 1) z (hk.snoc last))
  exact ⟨fun x => hacc targets.size x fun k y hk => h.length_le hk⟩

/-! ## Binding

Binding an alias makes a cycle if the name led to the alias before, and only then.  The old binding
of the alias does not matter: a path from the name that comes to the alias is over there. -/

/-- Where a path comes to an alias, it did without what the alias stands for. -/
theorem reflTransGen_insert (name : Ident) (h : ReflTransGen (Points targets) x nick) :
    ReflTransGen (Points (targets.insert nick name)) x nick := by
  induction h using ReflTransGen.head_induction_on with
  | refl => exact .refl
  | @head x y first _ ih =>
    by_cases hx : x = nick
    · rw [hx]
    · refine .head ?_ ih
      rw [Points, Store.get?_insert_of_ne _ hx]
      exact first

/-- A path that may use a new binding uses it, or was there before. -/
theorem transGen_of_insert (h : TransGen (Points (targets.insert nick name)) x y) :
    TransGen (Points targets) x y ∨
      ReflTransGen (Points targets) x nick ∧ ReflTransGen (Points targets) name y := by
  have hstep : ∀ {a b}, Points (targets.insert nick name) a b →
      Points targets a b ∨ a = nick ∧ b = name := by
    intro a b hab
    rw [Points, Store.get?_insert] at hab
    split at hab
    · rename_i ha
      exact .inr ⟨ha, (Option.some.inj hab).symm⟩
    · exact .inl hab
  induction h with
  | single first =>
    rcases hstep first with hold | ⟨rfl, rfl⟩
    · exact .inl (.single hold)
    · exact .inr ⟨.refl, .refl⟩
  | tail _ last ih =>
    rcases hstep last with hold | ⟨rfl, rfl⟩
    · rcases ih with hpath | ⟨hto, hfrom⟩
      · exact .inl (hpath.tail hold)
      · exact .inr ⟨hto, hfrom.tail hold⟩
    · rcases ih with hpath | ⟨hto, -⟩
      · exact .inr ⟨hpath.to_reflTransGen, .refl⟩
      · exact .inr ⟨hto, .refl⟩

/-- **Binding makes a cycle exactly if the name leads to the alias.** -/
theorem Acyclic.insert_iff (h : Acyclic targets) (hne : name ≠ nick) :
    Acyclic (targets.insert nick name) ↔ ¬ TransGen (Points targets) name nick := by
  constructor
  · intro hnew hpath
    have hbound : Points (targets.insert nick name) nick name := Store.get?_insert_self _ _ _
    exact hnew nick (.head' hbound (reflTransGen_insert name hpath.to_reflTransGen))
  · intro haway z hz
    rcases transGen_of_insert hz with hold | ⟨hto, hfrom⟩
    · exact h z hold
    · rcases (reflTransGen_iff_eq_or_transGen.1 (hfrom.trans hto)) with heq | hpath
      · exact hne heq.symm
      · exact haway hpath

/-! ## Following -/

/-- Following a chain ends somewhere on it, after no more steps than allowed. -/
theorem exists_chain_follow (targets : Store Ident) (n : Nat) (x : Ident) :
    ∃ k ≤ n, Chain targets k x (follow targets n x) := by
  induction n generalizing x with
  | zero => exact ⟨0, Nat.le_refl 0, .here x⟩
  | succ n ih =>
    rw [follow]
    cases hx : targets.get? x with
    | none => exact ⟨0, Nat.zero_le _, .here x⟩
    | some y =>
      obtain ⟨k, hk, hchain⟩ := ih y
      exact ⟨k + 1, Nat.succ_le_succ hk, .step hx hchain⟩

/-- Where no chain is longer than the bound, following ends at a name that is no alias. -/
theorem get?_follow (hx : ∀ k y, Chain targets k x y → k ≤ n) :
    targets.get? (follow targets n x) = none := by
  induction n generalizing x with
  | zero =>
    rw [follow]
    cases hget : targets.get? x with
    | none => rfl
    | some y => exact absurd (hx 1 y (.step hget (.here y))) (Nat.not_succ_le_zero 0)
  | succ n ih =>
    rw [follow]
    cases hget : targets.get? x with
    | none => exact hget
    | some y => exact ih fun k z hk => Nat.le_of_succ_le_succ (hx (k + 1) z (.step hget hk))

/-- Nor does one more step lead on from there. -/
theorem follow_succ (hx : ∀ k y, Chain targets k x y → k ≤ n) :
    follow targets (n + 1) x = follow targets n x := by
  induction n generalizing x with
  | zero =>
    rw [follow, follow]
    cases hget : targets.get? x with
    | none => rfl
    | some y => exact absurd (hx 1 y (.step hget (.here y))) (Nat.not_succ_le_zero 0)
  | succ n ih =>
    rw [follow, follow]
    cases hget : targets.get? x with
    | none => rfl
    | some y => exact ih fun k z hk => Nat.le_of_succ_le_succ (hx (k + 1) z (.step hget hk))

/-! ## Searching backward -/

theorem mem_direct : nick ∈ direct targets name ↔ Points targets nick name := by
  rw [direct, List.mem_map]
  constructor
  · rintro ⟨⟨key, target⟩, hmem, rfl⟩
    obtain ⟨hentry, htarget⟩ := List.mem_filter.1 hmem
    obtain rfl : target = name := of_decide_eq_true htarget
    exact Store.get?_of_mem_entries hentry
  · intro h
    exact ⟨(nick, name), List.mem_filter.2 ⟨Store.mem_entries_of_get? h, decide_eq_true rfl⟩, rfl⟩

/-- A search looks along all chains of one or more steps that are not longer than its bound. -/
theorem leadsTo_iff : leadsTo targets nick n name = true ↔ ∃ k < n, Chain targets (k + 1) nick name := by
  induction n generalizing name with
  | zero => simp [leadsTo]
  | succ n ih =>
    rw [leadsTo, List.any_eq_true]
    constructor
    · rintro ⟨found, hfound, hnick⟩
      have hlast : Points targets found name := mem_direct.1 hfound
      rcases Bool.or_eq_true_iff.1 hnick with heq | hdeeper
      · rw [of_decide_eq_true heq] at hlast
        exact ⟨0, Nat.succ_pos n, .step hlast (.here name)⟩
      · obtain ⟨k, hk, hchain⟩ := ih.1 hdeeper
        exact ⟨k + 1, Nat.succ_lt_succ hk, hchain.snoc hlast⟩
    · rintro ⟨k, hk, hchain⟩
      obtain ⟨found, hbefore, hlast⟩ := hchain.exists_last
      refine ⟨found, mem_direct.2 hlast, Bool.or_eq_true_iff.2 ?_⟩
      cases k with
      | zero =>
        cases hbefore
        exact .inl (decide_eq_true rfl)
      | succ k => exact .inr (ih.2 ⟨k, Nat.lt_of_succ_lt_succ hk, hbefore⟩)

/-- Where no chain is longer than the bound, a search with a greater bound collects no more. -/
theorem collect_succ (hname : ∀ k x, Chain targets k x name → k ≤ n) :
    collect targets (n + 1) name = collect targets n name := by
  induction n generalizing name with
  | zero =>
    have hnone : direct targets name = [] := by
      refine List.eq_nil_iff_forall_not_mem.2 fun found hfound => ?_
      have hchain : Chain targets 1 found name := .step (mem_direct.1 hfound) (.here name)
      exact absurd (hname 1 found hchain) (Nat.not_succ_le_zero 0)
    rw [collect, collect, hnone]
    rfl
  | succ n ih =>
    rw [collect, collect]
    refine List.flatMap_congr fun found hfound => ?_
    rw [ih fun k x hk => Nat.le_of_succ_le_succ (hname (k + 1) x (hk.snoc (mem_direct.1 hfound)))]

/-- Putting an identifier in its place adds just this one. -/
theorem place_perm (id : Ident) (ids : List Ident) : (place id ids).Perm (id :: ids) := by
  induction ids with
  | nil => exact .refl _
  | cons other rest ih =>
    rw [place]
    split
    · exact (ih.cons other).trans (.swap id other rest)
    · exact .refl _

theorem foldr_place_perm (ids : List Ident) : (ids.foldr place []).Perm ids := by
  induction ids with
  | nil => exact .refl _
  | cons id rest ih => exact (place_perm id _).trans (ih.cons id)

/-! ## The queries without their bound -/

variable {t : AliasTable}

/-- The canonical name is at the end of a chain, and is no alias. -/
theorem Acyclic.canonical_end (h : Acyclic t.targets) (id : Ident) :
    (∃ k, Chain t.targets k id (t.canonical id)) ∧ t.targets.get? (t.canonical id) = none := by
  obtain ⟨k, -, hchain⟩ := exists_chain_follow t.targets t.targets.size id
  exact ⟨⟨k, hchain⟩, get?_follow fun k y hk => h.length_le hk⟩

/-- The canonical name of an alias is that of the name it stands for. -/
theorem Acyclic.canonical_eq (h : Acyclic t.targets) (id : Ident) :
    t.canonical id =
      match t.targets.get? id with
      | none => id
      | some name => t.canonical name := by
  have hmore := follow_succ (n := t.targets.size) fun k y (hk : Chain t.targets k id y) =>
    h.length_le hk
  rw [canonical, ← hmore, follow]
  rfl

/-- **An alias is found from a name exactly if a chain leads from it to the name.** -/
theorem Acyclic.hasAlias_iff (h : Acyclic t.targets) :
    t.hasAlias name nick = true ↔ TransGen (Points t.targets) nick name := by
  rw [hasAlias, leadsTo_iff]
  constructor
  · rintro ⟨k, -, hchain⟩
    exact hchain.transGen
  · intro hpath
    obtain ⟨k, hchain⟩ := exists_chain hpath
    exact ⟨k, h.length_le hchain, hchain⟩

/-- It stands for the name directly, or is found from something that does. -/
theorem Acyclic.hasAlias_eq (h : Acyclic t.targets) (name nick : Ident) :
    t.hasAlias name nick =
      (direct t.targets name).any fun found => found = nick || t.hasAlias found nick := by
  have hmore : t.hasAlias name nick = leadsTo t.targets nick (t.targets.size + 1) name := by
    rw [Bool.eq_iff_iff, hasAlias, leadsTo_iff, leadsTo_iff]
    constructor
    · rintro ⟨k, hk, hchain⟩
      exact ⟨k, Nat.lt_succ_of_lt hk, hchain⟩
    · rintro ⟨k, -, hchain⟩
      exact ⟨k, h.length_le hchain, hchain⟩
  rw [hmore, leadsTo]
  rfl

/-- All aliases of a name are those that stand for it directly, and all aliases of these. -/
theorem Acyclic.aliasesOf_perm (h : Acyclic t.targets) (name : Ident) :
    (t.aliasesOf name).Perm
      ((direct t.targets name).flatMap fun found => found :: t.aliasesOf found) := by
  have hmore := collect_succ (n := t.targets.size) fun k x (hk : Chain t.targets k x name) =>
    h.length_le hk
  rw [collect] at hmore
  refine (foldr_place_perm _).trans (hmore ▸ ?_)
  exact List.Perm.flatMap_left _ fun found _ => ((foldr_place_perm _).cons found).symm

end InstanceRegistry.AliasTable
