import Mathlib.Data.List.Sort
import Mathlib.Data.String.Basic
import InstanceRegistry.Proofs.Alias.Registration

/-!
  The queries on aliases agree.

  `hasAlias` asks about one alias and `aliasesOf` lists them all; both search backward from a name,
  through entries in the order in which the table happens to keep them.  `canonical` walks forward.
  They speak of the same thing: which chains lead where.

  That both searches find the same aliases holds of every table.  The list names each ONCE because an
  alias stands for one name only: two chains from it run along each other (`pointsRightUnique`), so
  it cannot come to one name through two of its neighbours without passing the name before.  The
  list is in the order of the characters, so nothing is left in it of the order of the entries:
  tables that bind the same give the same list (`Acyclic.aliasesOf_congr`).  And the walk forward ends
  at a name exactly if a chain leads there, since nothing leads on from a name that is no alias.
-/

namespace InstanceRegistry.AliasTable

open Relation

variable {targets : Store Ident} {t : AliasTable} {x y name nick : Ident} {n : Nat}

/-! ## Two searches -/

/-- A search that lists what it finds lists just what a search for one alias finds. -/
theorem mem_collect_iff : nick ∈ collect targets n name ↔ leadsTo targets nick n name = true := by
  induction n generalizing name with
  | zero => simp [collect, leadsTo]
  | succ n ih =>
    rw [collect, leadsTo, List.mem_flatMap, List.any_eq_true]
    refine exists_congr fun found => and_congr_right fun _ => ?_
    rw [List.mem_cons, ih, Bool.or_eq_true, decide_eq_true_iff, eq_comm]

theorem mem_aliasesOf_iff : nick ∈ t.aliasesOf name ↔ t.hasAlias name nick = true :=
  (foldr_place_perm _).mem_iff.trans mem_collect_iff

/-! ## One chain -/

/-- An alias stands for one name. -/
theorem pointsRightUnique (targets : Store Ident) : Relator.RightUnique (Points targets) :=
  fun _ _ _ h h' => Option.some.inj (h.symm.trans h')

/-- From one alias an acyclic table has no two ways to a name: they would differ in the step that
    they take last. -/
theorem Acyclic.eq_of_points (h : Acyclic targets) (hy : Points targets y name)
    (hnick : Points targets nick name) (hxy : ReflTransGen (Points targets) x y)
    (hx : ReflTransGen (Points targets) x nick) : y = nick := by
  -- a chain from one of them to the other goes through the name, which then leads back to itself
  have haround : ∀ {a b}, Points targets a name → Points targets b name →
      ReflTransGen (Points targets) a b → a = b := by
    intro a b ha hb hpath
    rcases ReflTransGen.cases_head hpath with heq | ⟨c, hfirst, hrest⟩
    · exact heq
    · obtain rfl := pointsRightUnique targets hfirst ha
      exact absurd (TransGen.tail' hrest hb) (h c)
  rcases hxy.total_of_right_unique (pointsRightUnique targets) hx with hpath | hpath
  · exact haround hy hnick hpath
  · exact (haround hnick hy hpath).symm

/-- What a search lists leads to where it began. -/
theorem reflTransGen_of_mem_collect (h : x ∈ y :: collect targets n y) :
    ReflTransGen (Points targets) x y := by
  rcases List.mem_cons.1 h with rfl | hmem
  · exact .refl
  · obtain ⟨k, -, hchain⟩ := leadsTo_iff.1 (mem_collect_iff.1 hmem)
    exact hchain.reflTransGen

theorem direct_nodup (targets : Store Ident) (name : Ident) : (direct targets name).Nodup :=
  List.Pairwise.sublist (List.filter_sublist.map Prod.fst) targets.distinct

/-- No alias is listed twice. -/
theorem Acyclic.collect_nodup (h : Acyclic targets) : (collect targets n name).Nodup := by
  induction n generalizing name with
  | zero => exact List.nodup_nil
  | succ n ih =>
    rw [collect, List.nodup_flatMap]
    refine ⟨fun found _ => List.nodup_cons.2 ⟨fun hmem => ?_, ih⟩, ?_⟩
    · obtain ⟨k, -, hchain⟩ := leadsTo_iff.1 (mem_collect_iff.1 hmem)
      exact h found hchain.transGen
    · refine (direct_nodup targets name).imp_of_mem fun {y nick} hy hnick hne => ?_
      intro x hxy hx
      exact hne (h.eq_of_points (mem_direct.1 hy) (mem_direct.1 hnick)
        (reflTransGen_of_mem_collect hxy) (reflTransGen_of_mem_collect hx))

/-! ## In order -/

/-- An identifier that is new is put between those that come before it and those that come after. -/
theorem pairwise_place {id : Ident} {ids : List Ident} (h : ids.Pairwise (· < ·)) (hid : id ∉ ids) :
    (place id ids).Pairwise (· < ·) := by
  induction ids with
  | nil => exact List.pairwise_singleton _ _
  | cons other rest ih =>
    obtain ⟨hother, hrest⟩ := List.pairwise_cons.1 h
    obtain ⟨hne, hnot⟩ := not_or.1 (mt List.mem_cons.2 hid)
    rw [place]
    split
    · rename_i hless
      refine List.pairwise_cons.2 ⟨fun a ha => ?_, ih hrest hnot⟩
      rcases List.mem_cons.1 ((place_perm id rest).mem_iff.1 ha) with rfl | hmem
      · exact hless
      · exact hother a hmem
    · rename_i hless
      have hid' : id < other := lt_of_le_of_ne (not_lt.1 hless) hne
      refine List.pairwise_cons.2 ⟨fun a ha => ?_, h⟩
      rcases List.mem_cons.1 ha with rfl | hmem
      · exact hid'
      · exact lt_trans hid' (hother a hmem)

theorem pairwise_foldr_place {ids : List Ident} (h : ids.Nodup) :
    (ids.foldr place []).Pairwise (· < ·) := by
  induction ids with
  | nil => exact .nil
  | cons id rest ih =>
    obtain ⟨hid, hrest⟩ := List.nodup_cons.1 h
    exact pairwise_place (ih hrest) fun hmem => hid ((foldr_place_perm rest).mem_iff.1 hmem)

/-- **The aliases of a name are listed once each, in the order of their characters.** -/
theorem Acyclic.aliasesOf_pairwise (h : Acyclic t.targets) (name : Ident) :
    (t.aliasesOf name).Pairwise (· < ·) :=
  pairwise_foldr_place h.collect_nodup

/-- **What a table lists depends on its bindings alone**, and not on the order in which it keeps
    them. -/
theorem Acyclic.aliasesOf_congr (h : Acyclic t.targets) {t' : AliasTable}
    (hsame : ∀ id, t'.targets.get? id = t.targets.get? id) (name : Ident) :
    t'.aliasesOf name = t.aliasesOf name := by
  have hpoints : Points t'.targets = Points t.targets := by
    funext x y
    rw [Points, hsame, Points]
  have h' : Acyclic t'.targets := by
    rw [Acyclic, hpoints]
    exact h
  refine (h'.aliasesOf_pairwise name).eq_of_mem_iff (h.aliasesOf_pairwise name) fun nick => ?_
  rw [mem_aliasesOf_iff, mem_aliasesOf_iff, h'.hasAlias_iff, h.hasAlias_iff, hpoints]

/-! ## The walk forward -/

theorem isAlias_eq_false_iff : t.isAlias x = false ↔ t.targets.get? x = none := by
  rw [isAlias, Store.contains_eq_false_iff, Store.get?_eq_none_iff]

theorem Acyclic.isAlias_canonical (h : Acyclic t.targets) (x : Ident) :
    t.isAlias (t.canonical x) = false :=
  isAlias_eq_false_iff.2 (h.canonical_end x).2

/-- A name that is no alias is its own canonical name. -/
theorem Acyclic.canonical_self (h : Acyclic t.targets) (hname : t.isAlias name = false) :
    t.canonical name = name := by
  rw [h.canonical_eq, isAlias_eq_false_iff.1 hname]

/-- No chain leads on from a name that is no alias. -/
theorem eq_of_reflTransGen (hname : t.isAlias name = false)
    (hpath : ReflTransGen (Points t.targets) name x) : name = x := by
  rcases ReflTransGen.cases_head hpath with heq | ⟨y, hfirst, -⟩
  · exact heq
  · rw [Points, isAlias_eq_false_iff.1 hname] at hfirst
    cases hfirst

/-- **The walk forward ends at a name just if it began there or a search from the name finds where it
    began.** -/
theorem Acyclic.canonical_eq_iff (h : Acyclic t.targets) (hname : t.isAlias name = false) :
    t.canonical x = name ↔ x = name ∨ t.hasAlias name x = true := by
  obtain ⟨k, hchain⟩ := (h.canonical_end x).1
  rw [h.hasAlias_iff]
  constructor
  · rintro rfl
    exact (reflTransGen_iff_eq_or_transGen.1 hchain.reflTransGen).imp_left Eq.symm
  · rintro (rfl | hpath)
    · exact h.canonical_self hname
    · -- both are ends of the one chain from `x`
      rcases hchain.reflTransGen.total_of_right_unique (pointsRightUnique t.targets)
          hpath.to_reflTransGen with hon | hback
      · exact eq_of_reflTransGen (h.isAlias_canonical x) hon
      · exact (eq_of_reflTransGen hname hback).symm

/-! ## The law -/

variable {ι : Type}

/-- **The queries agree.**  After any commands, carried out one after another on the empty table, an
    alias is listed for a name just if it is found from it, and just if one or more steps lead from
    it to the name; the list is strictly sorted, and every table that binds the same lists the same;
    the canonical name is no alias and its own canonical name; and a name that is no alias is the
    canonical name of itself and of what is found from it, and of nothing else. -/
theorem queries_agree {overriding : Bool} {commands : List Command}
    (ht : runAll (@AliasTable.run ι) { overriding } commands = t) :
    (∀ name nick, (nick ∈ t.aliasesOf name ↔ t.hasAlias name nick = true) ∧
        (t.hasAlias name nick = true ↔ TransGen (Points t.targets) nick name)) ∧
      (∀ name, (t.aliasesOf name).Pairwise (· < ·) ∧
        ∀ t' : AliasTable, (∀ id, t'.targets.get? id = t.targets.get? id) →
          t'.aliasesOf name = t.aliasesOf name) ∧
      (∀ id, t.isAlias (t.canonical id) = false ∧
        t.canonical (t.canonical id) = t.canonical id) ∧
      ∀ name, t.isAlias name = false →
        ∀ id, t.canonical id = name ↔ id = name ∨ t.hasAlias name id = true := by
  have hacyclic : Acyclic t.targets := by
    rw [← ht]
    exact Acyclic.runAll acyclic_empty commands
  refine ⟨fun name nick => ⟨mem_aliasesOf_iff, hacyclic.hasAlias_iff⟩, fun name => ?_, fun id => ?_,
    fun name hname id => hacyclic.canonical_eq_iff hname⟩
  · exact ⟨hacyclic.aliasesOf_pairwise name, fun t' hsame => hacyclic.aliasesOf_congr hsame name⟩
  · have hend := hacyclic.isAlias_canonical id
    exact ⟨hend, hacyclic.canonical_self hend⟩

/-- Commands that build a tree: two aliases for one name, a third for one of them that is re-pointed
    to the other, and one for the third. -/
def branches : List Command :=
  [.register "pool" "pg", .register "pool" "db", .register "pg" "store", .register "store" "shop",
    .register "db" "store"]

/-- The same bindings in another order. -/
def grafted : AliasTable :=
  { targets := ((((∅ : Store Ident).insert "shop" "store").insert "store" "db").insert "pg"
      "pool").insert "db" "pool" }

/-- The tree lists its aliases in order, though neither table keeps them so; the last alias has the
    root as its canonical name. -/
theorem queries_agree_branches :
    let t := runAll (@AliasTable.run Unit) { overriding := true } branches
    (∀ id, grafted.targets.get? id = t.targets.get? id) ∧ grafted.targets ≠ t.targets ∧
      grafted.aliasesOf "pool" = t.aliasesOf "pool" ∧
      t.aliasesOf "pool" = ["db", "pg", "shop", "store"] ∧
      t.isAlias "pool" = false ∧ TransGen (Points t.targets) "shop" "pool" ∧
      t.canonical "shop" = "pool" := by
  intro t
  obtain ⟨hfound, hlisted, -, hcanonical⟩ := queries_agree (t := t) rfl
  have hsame : ∀ id, grafted.targets.get? id = t.targets.get? id := by
    have hperm : ∀ e, e ∈ grafted.targets.entries ↔ e ∈ t.targets.entries := by
      have hentries : t.targets.entries =
          [("pg", "pool"), ("db", "pool"), ("store", "db"), ("shop", "store")] := by
        decide +kernel
      have hgrafted : grafted.targets.entries =
          [("shop", "store"), ("store", "db"), ("pg", "pool"), ("db", "pool")] := by
        decide +kernel
      intro e
      simp only [hentries, hgrafted, List.mem_cons, List.not_mem_nil, or_false]
      tauto
    intro id
    refine Option.ext fun name => ⟨fun h => ?_, fun h => ?_⟩
    · exact Store.get?_of_mem_entries ((hperm _).1 (Store.mem_entries_of_get? h))
    · exact Store.get?_of_mem_entries ((hperm _).2 (Store.mem_entries_of_get? h))
  have hpool : t.isAlias "pool" = false := by decide +kernel
  have hshop : t.hasAlias "pool" "shop" = true := by decide +kernel
  exact ⟨hsame, by decide +kernel, (hlisted "pool").2 grafted hsame, by decide +kernel, hpool,
    (hfound "pool" "shop").2.1 hshop, (hcanonical "pool" hpool "shop").2 (.inr hshop)⟩

end InstanceRegistry.AliasTable
