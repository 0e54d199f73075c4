import InstanceRegistry.Proofs.Creation.Identity

/-!
  What creations leave behind.

  While creations go on there are marks, early factories and references, a buffer for errors, and
  identifiers in the list that may never be finished.  All of it is PROVISIONAL: it belongs to an
  identifier in creation, which is not finished.  A creation that ends takes with it what belongs to
  its own identifier and leaves the rest, for the creations around it and for those that were finished
  inside it.

  So from one moment to a later one at which the same identifiers are in creation, instances were
  ADDED, and names behind those that were listed: the names of the instances, and of identifiers in
  creation that had not been listed before.  When no creation goes on any more, there are only the
  former.

  That holds for MODEST programs.  They look things up and create them, report errors, and have
  factories ready for identifiers that are in creation; nothing panics.

  Mathlib-free.
-/

namespace InstanceRegistry

/-! ## Registries in which creations go on -/

/-- Names that are added behind a list go to the end of it. -/
theorem Roster.add_append {l : Roster} {id : Ident} (h : id ∉ l) (names : List Ident) :
    add (l ++ names) id = l ++ add names id := by
  rw [add, add]
  by_cases hid : id ∈ names
  · rw [if_pos (List.mem_append_right l hid), if_pos hid]
  · have hno : id ∉ l ++ names := fun hmem => (List.mem_append.1 hmem).elim h hid
    rw [if_neg hno, if_neg hid, List.append_assoc]

theorem Roster.drop_append {l : Roster} {id : Ident} (h : id ∉ l) (names : List Ident) :
    drop (l ++ names) id = l ++ drop names id := by
  have hl := Roster.drop_of_not_mem h
  rw [drop, List.filter_append, ← drop, ← drop, hl]

namespace Registry

/-- No creation goes on, nothing is left of one, and only what is finished is listed. -/
structure AtRest (r : Registry) : Prop where
  early : r.early = ∅
  factories : r.factories = ∅
  active : r.marks.active = []
  excluded : r.marks.excluded = []
  suppressed : r.suppressed = none
  listed : ∀ x ∈ r.listed, x ∈ r.finished.keys

/-- Whatever is provisional belongs to an identifier in creation, which is not finished. -/
structure Provisional (r : Registry) : Prop where
  excluded : r.marks.excluded = []
  early : ∀ x ∈ r.early.keys, x ∈ r.marks.active
  factories : ∀ x ∈ r.factories.keys, x ∈ r.marks.active
  unfinished : ∀ x ∈ r.marks.active, x ∉ r.finished.keys
  listed : ∀ x ∈ r.listed, x ∈ r.finished.keys ∨ x ∈ r.marks.active

/-- What is added between two moments at which the same identifiers are in creation: finished
    instances, and names in the list. -/
structure Adds (names : List Ident) (r r' : Registry) : Prop where
  marks : r'.marks = r.marks
  buffer : r'.suppressed.isSome = r.suppressed.isSome
  lifecycle : r'.lifecycle = r.lifecycle
  grows : r.Grows r'
  listed : r'.listed = r.listed ++ names
  distinct : names.Nodup
  unlisted : ∀ x ∈ names, x ∉ r.listed
  named : ∀ x ∈ names, x ∉ r.finished.keys ∧ (x ∈ r'.finished.keys ∨ x ∈ r.marks.active)
  finished : ∀ x ∈ r'.finished.keys, x ∉ r.finished.keys → x ∈ names

variable {r r' r'' : Registry} {id : Ident}

theorem Grows.keys (h : r.Grows r') : ∀ x ∈ r.finished.keys, x ∈ r'.finished.keys := by
  intro x hx
  obtain ⟨v, hv⟩ := Store.exists_get?_of_mem_keys hx
  exact Store.mem_keys_of_get? (h x v hv)

/-! ### At rest -/

theorem AtRest.provisional (h : r.AtRest) : r.Provisional where
  excluded := h.excluded
  early x hx := by
    rw [h.early] at hx
    cases hx
  factories x hx := by
    rw [h.factories] at hx
    cases hx
  unfinished x hx := by
    rw [h.active] at hx
    cases hx
  listed x hx := .inl (h.listed x hx)

/-- Where nothing is in creation, nothing is provisional. -/
theorem Provisional.atRest (h : r.Provisional) (hactive : r.marks.active = [])
    (hsuppressed : r.suppressed = none) : r.AtRest := by
  have hempty : ∀ {α : Type} (s : Store α), (∀ x ∈ s.keys, x ∈ r.marks.active) → s = ∅ := by
    intro α s hs
    rw [hactive] at hs
    exact Store.ext (List.map_eq_nil_iff.1 (List.eq_nil_iff_forall_not_mem.2 fun x hx =>
      List.not_mem_nil (hs x hx)))
  refine ⟨hempty _ h.early, hempty _ h.factories, hactive, h.excluded, hsuppressed, fun x hx => ?_⟩
  rcases h.listed x hx with hfinished | hx
  · exact hfinished
  · rw [hactive] at hx
    cases hx

/-- Who is not finished in a registry at rest is nowhere. -/
theorem AtRest.stage (h : r.AtRest) {x : Ident} (hx : x ∉ r.finished.keys) : r.stage x = .absent := by
  rw [Registry.stage, Store.contains_eq_false_iff.2 hx, h.early, h.factories, Marks.isActive, h.active]
  rfl

/-! ### Single changes -/

namespace Provisional

/-- Factories and references may go. -/
theorem fewer (h : r.Provisional) (hfinished : r'.finished = r.finished)
    (hmarks : r'.marks = r.marks) (hlisted : r'.listed = r.listed)
    (hearly : ∀ x ∈ r'.early.keys, x ∈ r.early.keys)
    (hfactories : ∀ x ∈ r'.factories.keys, x ∈ r.factories.keys) : r'.Provisional := by
  refine ⟨?_, ?_, ?_, ?_, ?_⟩
  · rw [hmarks]
    exact h.excluded
  · rw [hmarks]
    exact fun x hx => h.early x (hearly x hx)
  · rw [hmarks]
    exact fun x hx => h.factories x (hfactories x hx)
  · rw [hmarks, hfinished]
    exact h.unfinished
  · rw [hmarks, hfinished, hlisted]
    exact h.listed

theorem offerFactory (h : r.Provisional) (hactive : id ∈ r.marks.active) (factory : Routine) :
    (r.offerFactory id factory).Provisional := by
  rw [Registry.offerFactory]
  split
  · exact h
  · refine ⟨h.excluded, fun x hx => ?_, fun x hx => ?_, h.unfinished, fun x hx => ?_⟩
    · exact h.early x (Store.keys_erase_subset _ id hx)
    · rcases Store.mem_keys_insert.1 hx with hx | rfl
      · exact h.factories x hx
      · exact hactive
    · rcases Roster.mem_add.1 hx with hx | rfl
      · exact h.listed x hx
      · exact .inr hactive

theorem expose (h : r.Provisional) (hactive : id ∈ r.marks.active) (early : Instance) :
    (r.expose id early).Provisional := by
  refine ⟨h.excluded, fun x hx => ?_, h.factories, h.unfinished, h.listed⟩
  rcases Store.mem_keys_insert.1 hx with hx | rfl
  · exact h.early x hx
  · exact hactive

/-- Who is neither finished nor in creation is not listed. -/
theorem unlisted (h : r.Provisional) (hfree : id ∉ r.finished.keys)
    (hinactive : id ∉ r.marks.active) : id ∉ r.listed :=
  fun hx => (h.listed id hx).elim hfree hinactive

end Provisional

namespace Adds

theorem of_eq (hmarks : r'.marks = r.marks) (hbuffer : r'.suppressed.isSome = r.suppressed.isSome)
    (hlifecycle : r'.lifecycle = r.lifecycle) (hfinished : r'.finished = r.finished)
    (hlisted : r'.listed = r.listed) : r.Adds [] r' where
  marks := hmarks
  buffer := hbuffer
  lifecycle := hlifecycle
  grows := .of_eq hfinished
  listed := hlisted.trans (List.append_nil _).symm
  distinct := .nil
  unlisted _ hx := by cases hx
  named _ hx := by cases hx
  finished x hx hno := absurd (hfinished ▸ hx) hno

theorem trans {names names' : List Ident} (h : r.Adds names r') (h' : r'.Adds names' r'') :
    r.Adds (names ++ names') r'' where
  marks := h'.marks.trans h.marks
  buffer := h'.buffer.trans h.buffer
  lifecycle := h'.lifecycle.trans h.lifecycle
  grows := h.grows.trans h'.grows
  listed := by rw [h'.listed, h.listed, List.append_assoc]
  distinct := by
    refine List.nodup_append.2 ⟨h.distinct, h'.distinct, fun x hx y hy => ?_⟩
    rintro rfl
    exact h'.unlisted x hy (h.listed ▸ List.mem_append_right _ hx)
  unlisted x hx := by
    rcases List.mem_append.1 hx with hx | hx
    · exact h.unlisted x hx
    · exact fun hl => h'.unlisted x hx (h.listed ▸ List.mem_append_left _ hl)
  named x hx := by
    rcases List.mem_append.1 hx with hx | hx
    · obtain ⟨hno, hfinished | hactive⟩ := h.named x hx
      · exact ⟨hno, .inl (h'.grows.keys x hfinished)⟩
      · exact ⟨hno, .inr hactive⟩
    · obtain ⟨hno, hlater⟩ := h'.named x hx
      exact ⟨fun hfinished => hno (h.grows.keys x hfinished), h.marks ▸ hlater⟩
  finished x hx hno := by
    by_cases hmiddle : x ∈ r'.finished.keys
    · exact List.mem_append_left _ (h.finished x hmiddle hno)
    · exact List.mem_append_right _ (h'.finished x hx hmiddle)

/-- A factory for an identifier in creation may have it listed. -/
theorem offerFactory (h : r.Provisional) (hactive : id ∈ r.marks.active) (factory : Routine) :
    ∃ names, r.Adds names (r.offerFactory id factory) := by
  have hfree := h.unfinished id hactive
  rw [Registry.offerFactory, Store.contains_eq_false_iff.2 hfree]
  by_cases hlisted : id ∈ r.listed
  · exact ⟨[], .of_eq rfl rfl rfl rfl (if_pos hlisted)⟩
  · refine ⟨[id], rfl, rfl, rfl, .of_eq rfl, if_neg hlisted, by simp, ?_, ?_, ?_⟩
    · intro x hx
      rw [List.mem_singleton.1 hx]
      exact hlisted
    · intro x hx
      rw [List.mem_singleton.1 hx]
      exact ⟨hfree, .inr hactive⟩
    · exact fun x hx hno => absurd hx hno

end Adds

end Registry

/-! ## A creation opens and closes -/

namespace Registry

/-- What a creation finds and leaves when it is opened. -/
structure Opened (id : Ident) (outermost : Bool) (r r' : Registry) : Prop where
  inactive : id ∉ r.marks.active
  marks : r.marks.enter id = .ok r'.marks
  active : r'.marks.active = Roster.add r.marks.active id
  buffer : r'.suppressed.isSome = true
  outermost : r.suppressed.isSome = !outermost
  finished : r'.finished = r.finished
  listed : r'.listed = r.listed
  lifecycle : r'.lifecycle = r.lifecycle

variable {q r t : Registry} {id : Ident} {outermost : Bool} {names : List Ident}

/-- A creation that is opened for an identifier that is not finished puts that in creation. -/
theorem Provisional.opening (h : q.Provisional) (hfree : q.finished.get? id = none)
    (hmark : q.openCreation id = .ok (outermost, r)) : q.Opened id outermost r ∧ r.Provisional := by
  have hchecked : q.marks.isExcluded id = false := by
    rw [Marks.isExcluded, h.excluded]
    rfl
  obtain ⟨marks, henter, hopened⟩ := openCreation_eq hmark
  rcases Marks.enter_inv henter with ⟨hexcluded, -⟩ | ⟨-, hinactive, rfl⟩
  · rw [hchecked] at hexcluded
    cases hexcluded
  have hprovisional : ∀ suppressed, ({ q with
      marks := { q.marks with active := Roster.add q.marks.active id }
      suppressed } : Registry).Provisional := by
    refine fun suppressed => ⟨h.excluded, fun x hx => ?_, fun x hx => ?_, fun x hx => ?_, fun x hx => ?_⟩
    · exact Roster.mem_add.2 (.inl (h.early x hx))
    · exact Roster.mem_add.2 (.inl (h.factories x hx))
    · rcases Roster.mem_add.1 hx with hx | rfl
      · exact h.unfinished x hx
      · exact Store.get?_eq_none_iff.1 hfree
    · exact (h.listed x hx).imp_right fun hx => Roster.mem_add.2 (.inl hx)
  have hno : id ∉ q.marks.active := of_decide_eq_false hinactive
  rcases hopened with ⟨hnone, rfl, rfl⟩ | ⟨texts, hsome, rfl, rfl⟩
  · exact ⟨⟨hno, henter, rfl, rfl, by rw [hnone]; rfl, rfl, rfl, rfl⟩, hprovisional _⟩
  · refine ⟨⟨hno, henter, rfl, ?_, ?_, rfl, rfl, rfl⟩, hprovisional _⟩
    · rw [hsome]
      rfl
    · rw [hsome]
      rfl

namespace Opened

/-- What is known of the identifier when its callback has ended: it is in creation, not finished, and
    was not listed before. -/
theorem underway (ho : q.Opened id outermost r) (hq : q.Provisional) (ht : t.Provisional)
    (hadds : r.Adds names t) :
    id ∈ t.marks.active ∧ id ∉ t.finished.keys ∧ t.marks.leave id = .ok q.marks ∧
      id ∉ q.listed := by
  have hactive : id ∈ t.marks.active := by
    rw [hadds.marks, ho.active]
    exact Roster.mem_add.2 (.inr rfl)
  have hunfinished := ht.unfinished id hactive
  have hfree : id ∉ q.finished.keys := by
    rw [← ho.finished]
    exact fun hx => hunfinished (hadds.grows.keys id hx)
  refine ⟨hactive, hunfinished, ?_, hq.unlisted hfree ho.inactive⟩
  rw [hadds.marks]
  exact Marks.leave_of_enter ho.marks

/-- Who was in creation at the end of the callback is the identifier itself or was so before. -/
theorem mem_active (ho : q.Opened id outermost r) (hadds : r.Adds names t) {x : Ident} :
    x ∈ t.marks.active ↔ x ∈ q.marks.active ∨ x = id := by
  rw [hadds.marks, ho.active]
  exact Roster.mem_add

/-- The buffer is there after a creation just if it was there before. -/
theorem buffer_after (ho : q.Opened id outermost r) (hadds : r.Adds names t) :
    (if outermost then none else t.suppressed).isSome = q.suppressed.isSome := by
  rw [ho.outermost]
  cases outermost with
  | true => rfl
  | false => exact hadds.buffer.trans ho.buffer

/-- **A creation that closes** takes with it what belongs to its identifier, which is finished and
    listed in the end just if an instance was bound. -/
theorem close (ho : q.Opened id outermost r) (hq : q.Provisional) (ht : t.Provisional)
    (hadds : r.Adds names t) {finished : Store Instance} {listed names' : List Ident} {bound : Prop}
    (hkept : ∀ x v, t.finished.get? x = some v → finished.get? x = some v)
    (hfinished : ∀ x, x ∈ finished.keys ↔ x ∈ t.finished.keys ∨ x = id ∧ bound)
    (hlisted : listed = q.listed ++ names') (hdistinct : names'.Nodup)
    (hnames : ∀ x, x ∈ names' ↔ (x ∈ names ∧ x ≠ id) ∨ x = id ∧ bound) {u : Registry}
    (hu : u = { t with
      finished
      early := t.early.erase id
      factories := t.factories.erase id
      listed
      suppressed := if outermost then none else t.suppressed
      marks := q.marks }) : u.Provisional ∧ q.Adds names' u := by
  subst hu
  obtain ⟨-, hunfinished, -, hunlisted⟩ := ho.underway hq ht hadds
  have hbefore : ∀ x ∈ q.finished.keys, x ∈ t.finished.keys := by
    rw [← ho.finished]
    exact hadds.grows.keys
  have hstill : ∀ x ∈ t.finished.keys, x ∈ finished.keys := fun x hx => (hfinished x).2 (.inl hx)
  have hothers : ∀ x ∈ t.marks.active, x ≠ id → x ∈ q.marks.active :=
    fun x hx hne => ((ho.mem_active hadds).1 hx).resolve_right hne
  have hnamed : ∀ x ∈ names', x ∉ q.finished.keys ∧ (x ∈ finished.keys ∨ x ∈ q.marks.active) := by
    intro x hx
    rcases (hnames x).1 hx with ⟨hx, hne⟩ | ⟨rfl, hbound⟩
    · obtain ⟨hno, hlater⟩ := hadds.named x hx
      rw [ho.finished] at hno
      rw [← hadds.marks] at hlater
      exact ⟨hno, hlater.imp (hstill x) fun hx => hothers x hx hne⟩
    · exact ⟨fun hx => hunfinished (hbefore x hx), .inl ((hfinished x).2 (.inr ⟨rfl, hbound⟩))⟩
  constructor
  · refine ⟨hq.excluded, fun x hx => ?_, fun x hx => ?_, fun x hx hbound => ?_, fun x hx => ?_⟩
    · obtain ⟨hx, hne⟩ := Store.mem_keys_erase.1 hx
      exact hothers x (ht.early x hx) hne
    · obtain ⟨hx, hne⟩ := Store.mem_keys_erase.1 hx
      exact hothers x (ht.factories x hx) hne
    · rcases (hfinished x).1 hbound with hbound | ⟨rfl, -⟩
      · exact ht.unfinished x ((ho.mem_active hadds).2 (.inl hx)) hbound
      · exact ho.inactive hx
    · change x ∈ listed at hx
      rw [hlisted] at hx
      rcases List.mem_append.1 hx with hx | hx
      · exact (hq.listed x hx).imp_left fun hx => hstill x (hbefore x hx)
      · exact (hnamed x hx).2
  · refine ⟨rfl, ho.buffer_after hadds, hadds.lifecycle.trans ho.lifecycle, ?_, hlisted, hdistinct,
      fun x hx => ?_, hnamed, fun x hx hno => ?_⟩
    · exact fun x v hx => hkept x v (hadds.grows x v (ho.finished ▸ hx))
    · rcases (hnames x).1 hx with ⟨hx, -⟩ | ⟨rfl, -⟩
      · rw [← ho.listed]
        exact hadds.unlisted x hx
      · exact hunlisted
    · rcases (hfinished x).1 hx with hthere | ⟨rfl, hbound⟩
      · rw [← ho.finished] at hno
        refine (hnames x).2 (.inl ⟨hadds.finished x hthere hno, ?_⟩)
        rintro rfl
        exact hunfinished hthere
      · exact (hnames x).2 (.inr ⟨rfl, hbound⟩)

end Opened

end Registry

/-- How a creation that does not panic closes when everything provisional is as it should be: its
    identifier is finished in the end just if it succeeds, with the instance that it yields. -/
theorem Creation.Closes.adds {q r : Registry} {id : Ident} {outermost : Bool} {t u : Session}
    {ending : Outcome Cause Instance} {outcome : Outcome Failure Instance} {names : List Ident}
    (h : Closes id outermost t ending outcome u) (hcalm : ∀ payload, outcome ≠ .panic payload)
    (ho : q.Opened id outermost r) (hq : q.Provisional) (ht : t.registry.Provisional)
    (hadds : r.Adds names t.registry) :
    (u.registry.Provisional ∧ ∃ names', q.Adds names' u.registry) ∧ t.registry.Grows u.registry ∧
      (∀ x v, u.registry.finished.get? x = some v →
        t.registry.finished.get? x = some v ∨ x = id ∧ outcome = .ok v) ∧
      ∀ failure, outcome = .error failure → id ∉ u.registry.finished.keys := by
  obtain ⟨-, hunfinished, hleave, hunlisted⟩ := ho.underway hq ht hadds
  have habandon := Registry.abandonCreation_eq t.registry outermost id
  rw [Marks.leaveQuietly_eq hleave] at habandon
  have hnone := Store.get?_eq_none_iff.2 hunfinished
  cases h with
  | stuck hno | mismatched _ hno =>
    rw [hleave] at hno
    cases hno
  | occupied _ hno =>
    rw [habandon, Registry.commit, Store.contains_eq_false_iff.2 hunfinished] at hno
    cases hno
  | recovered hfound =>
    rw [Registry.finished_abandonCreation, hnone] at hfound
    cases hfound
  | unwound => exact absurd rfl (hcalm _)
  | failed _ _ =>
    rw [habandon]
    have hfinished : ∀ x, x ∈ t.registry.finished.keys ↔
        x ∈ t.registry.finished.keys ∨ x = id ∧ False := by simp
    have hnames : ∀ x, x ∈ Roster.drop names id ↔ (x ∈ names ∧ x ≠ id) ∨ x = id ∧ False := by simp
    have hlisted : Roster.drop t.registry.listed id = q.listed ++ Roster.drop names id := by
      rw [hadds.listed, ho.listed, Roster.drop_append hunlisted]
    have hdistinct := Roster.nodup_drop hadds.distinct id
    obtain ⟨hprovisional, hadded⟩ :=
      ho.close hq ht hadds (fun _ _ hx => hx) hfinished hlisted hdistinct hnames rfl
    exact ⟨⟨hprovisional, _, hadded⟩, .refl _, fun x v hx => .inl hx, fun _ _ => hunfinished⟩
  | @bound made _ _ _ hcommit =>
    rw [habandon] at hcommit
    obtain ⟨-, rfl⟩ := Registry.commit_eq hcommit
    have hfinished : ∀ x, x ∈ (t.registry.finished.insert id made).keys ↔
        x ∈ t.registry.finished.keys ∨ x = id ∧ True := by simp [Store.mem_keys_insert]
    have hother : ∀ x, x ≠ id →
        (t.registry.finished.insert id made).get? x = t.registry.finished.get? x :=
      fun x hne => Store.get?_insert_of_ne _ hne made
    have hkept : ∀ x v, t.registry.finished.get? x = some v →
        (t.registry.finished.insert id made).get? x = some v := by
      intro x v hx
      rw [hother x, hx]
      rintro rfl
      rw [hnone] at hx
      cases hx
    have hnames : ∀ x, x ∈ Roster.add names id ↔ (x ∈ names ∧ x ≠ id) ∨ x = id ∧ True := by
      intro x
      by_cases hx : x = id <;> simp [hx]
    have hlisted : Roster.add t.registry.listed id = q.listed ++ Roster.add names id := by
      rw [hadds.listed, ho.listed, Roster.add_append hunlisted]
    have hdistinct := Roster.nodup_add hadds.distinct id
    obtain ⟨hprovisional, hadded⟩ :=
      ho.close hq ht hadds hkept hfinished hlisted hdistinct hnames rfl
    refine ⟨⟨hprovisional, _, hadded⟩, hkept, fun x v hx => ?_, fun failure hno => by cases hno⟩
    by_cases hne : x = id
    · subst hne
      rw [Session.registry_put, Store.get?_insert_self] at hx
      exact .inr ⟨rfl, congrArg Outcome.ok (Option.some.inj hx)⟩
    · rw [Session.registry_put, hother x hne] at hx
      exact .inl hx

/-! ## Modest programs -/

/-- Whether an operation is one that a modest program uses. -/
def Op.isModest : Op → Bool
  | ask _ | make _ | get _ | getOrCreate .. | registerFactory .. | change (.suppress _) => true
  | _ => false

/-- The identifier for which an operation offers a factory, as it was given. -/
def Op.offers? : Op → Option Ident
  | registerFactory id _ => some id
  | _ => none

/-- An entry that a modest program makes: an operation that begins is one of its own and offers
    factories for identifiers in creation only, and none that is done panicked. -/
def Entry.Modest (e : Entry) : Prop :=
  match e.event with
  | .began op => op.isModest = true ∧
      ∀ given ∈ op.offers?, e.registry.marks.isActive (e.registry.canonical given) = true
  | .done _ _ (.panic _) => False
  | _ => True

instance (e : Entry) : Decidable e.Modest := by
  unfold Entry.Modest
  split <;> infer_instance

/-- A modest operation that creates is asked for no more than the instance. -/
theorem Op.creation?_of_isModest {op : Op} {request : Request} {make : Routine}
    (hmodest : op.isModest = true) (h : op.creation? = some (request, make)) :
    op = .getOrCreate request.id make := by
  cases op with
  | getOrCreate id construct =>
    cases h
    rfl
  | create _ _ => cases hmodest
  | _ => cases h

/-- It neither takes anything away nor sets marks, makes no products and excludes nobody. -/
theorem Op.spares_of_isModest {op : Op} (h : op.isModest = true) :
    op.drops = false ∧ op.setsMarks = false ∧ op.resolves = false ∧
      ∀ r : Registry, op.exclusion? r = none := by
  cases op with
  | ask _ | make _ | get _ | getOrCreate _ _ | registerFactory _ _ =>
    exact ⟨rfl, rfl, rfl, fun _ => rfl⟩
  | change c =>
    cases c with
    | suppress _ => exact ⟨rfl, rfl, rfl, fun _ => rfl⟩
    | _ => cases h
  | _ => cases h

/-- The operation that just began is modest in a call that is. -/
theorem Session.Begins.isModest {s : Session} {op : Op} (h : s.Begins op)
    (hdoing : s.Doing Op.isModest) : op.isModest = true := by
  obtain ⟨outer, houter⟩ := h.frames
  obtain ⟨f, hf, hmodest⟩ := hdoing
  rw [houter] at hf
  cases hf
  exact hmodest

/-- A call all of whose entries are modest is one of a modest operation, and does not panic. -/
theorem Call.modest {c : Call} {asStep : Bool}
    (h : Newly (fun e _ => e.Modest) c.start (c.stop.note (.done c.op asStep c.result))) :
    Entry.Modest ⟨.began c.op, c.start.registry⟩ ∧ ∀ payload, c.result ≠ .panic payload := by
  have hsuffix := c.course.suffix
  have hdone : Entry.Modest ⟨.done c.op asStep c.result, c.stop.registry⟩ :=
    h.after List.suffix_rfl ((c.start.suffix_note _).trans hsuffix)
  refine ⟨h.after (hsuffix.trans (c.stop.suffix_note _)) List.suffix_rfl, fun payload hpanic => ?_⟩
  rw [Entry.Modest, hpanic] at hdone
  exact hdone

/-! ## Calls that yield instances -/

namespace Call

/-- A call began and ended between two sessions. -/
def Between (s t : Session) (c : Call) : Prop :=
  s.journal <:+ c.start.journal ∧ c.EndsIn t

/-- A call that asks for an instance by name yields one, under the canonical name. -/
def Yields (c : Call) (x : Ident) (v : Instance) : Prop :=
  ∃ given make, c.op = .getOrCreate given make ∧ c.result = .ok (.found (some v)) ∧
    c.start.registry.canonical given = x

theorem Yields.finished {c : Call} {x : Ident} {v : Instance} (h : c.Yields x v) :
    c.stop.registry.finished.get? x = some v := by
  obtain ⟨given, make, hop, hresult, rfl⟩ := h
  exact creation_finished (by rw [hop]; rfl) hresult

end Call

/-- Some call that began and ended between two sessions yields an instance. -/
def Yielded (s t : Session) (x : Ident) (v : Instance) : Prop :=
  ∃ c : Call, c.Between s t ∧ c.Yields x v

theorem Yielded.mono {s s' t t' : Session} {x : Ident} {v : Instance} (h : Yielded s' t x v)
    (hs : s.journal <:+ s'.journal) (ht : t.journal <:+ t'.journal) : Yielded s t' x v := by
  obtain ⟨c, ⟨hstart, hends⟩, hyields⟩ := h
  exact ⟨c, ⟨hs.trans hstart, hends.mono ht⟩, hyields⟩

/-! ## What courses of modest programs add -/

/-- What is added between two sessions: everything provisional is as it should be in the end, what was
    finished once stays so, and what is finished was so before, was yielded meanwhile, or is as
    described. -/
structure Cleans (besides : Ident → Instance → Prop) (s t : Session) : Prop where
  provisional : t.registry.Provisional
  adds : ∃ names, s.registry.Adds names t.registry
  grows : Through Registry.Grows s t
  yielded : ∀ x v, t.registry.finished.get? x = some v →
    s.registry.finished.get? x = some v ∨ Yielded s t x v ∨ besides x v

namespace Cleans

variable {besides : Ident → Instance → Prop} {s t u : Session}

/-- A change that adds names at most. -/
theorem of_adds {names : List Ident} (hprovisional : t.registry.Provisional)
    (hadds : s.registry.Adds names t.registry) (hfinished : t.registry.finished = s.registry.finished)
    (hjournal : t.journal = s.journal) : Cleans besides s t where
  provisional := hprovisional
  adds := ⟨names, hadds⟩
  grows := .of_eq hadds.grows hjournal
  yielded _ _ hx := .inl (hfinished ▸ hx)

/-- A change of other things, or one that has factories or references go. -/
theorem fewer (hs : s.registry.Provisional) (hfinished : t.registry.finished = s.registry.finished)
    (hmarks : t.registry.marks = s.registry.marks) (hlisted : t.registry.listed = s.registry.listed)
    (hbuffer : t.registry.suppressed.isSome = s.registry.suppressed.isSome)
    (hlifecycle : t.registry.lifecycle = s.registry.lifecycle)
    (hearly : ∀ x ∈ t.registry.early.keys, x ∈ s.registry.early.keys)
    (hfactories : ∀ x ∈ t.registry.factories.keys, x ∈ s.registry.factories.keys)
    (hjournal : t.journal = s.journal) : Cleans besides s t :=
  .of_adds (hs.fewer hfinished hmarks hlisted hearly hfactories)
    (.of_eq hmarks hbuffer hlifecycle hfinished hlisted) hfinished hjournal

theorem aside (hs : s.registry.Provisional) (hregistry : t.registry = s.registry)
    (hjournal : t.journal = s.journal) : Cleans besides s t := by
  have hsame : t.registry.Provisional := hregistry ▸ hs
  have hadds : s.registry.Adds [] t.registry := by
    rw [hregistry]
    exact .of_eq rfl rfl rfl rfl rfl
  exact .of_adds hsame hadds (congrArg Registry.finished hregistry) hjournal

theorem note (hs : s.registry.Provisional) (event : Event) : Cleans besides s (s.note event) where
  provisional := hs
  adds := ⟨[], .of_eq rfl rfl rfl rfl rfl⟩
  grows := .note .refl event
  yielded _ _ hx := .inl hx

theorem suffix (h : Cleans besides s t) : s.journal <:+ t.journal := by
  obtain ⟨new, hjournal, -⟩ := h.grows
  exact ⟨new, hjournal.symm⟩

theorem trans (h : Cleans (fun _ _ => False) s t) (h' : Cleans besides t u) : Cleans besides s u where
  provisional := h'.provisional
  adds := by
    obtain ⟨names, hadds⟩ := h.adds
    obtain ⟨names', hadds'⟩ := h'.adds
    exact ⟨names ++ names', hadds.trans hadds'⟩
  grows := .trans .trans h.grows h'.grows
  yielded x v hx := by
    rcases h'.yielded x v hx with hx | hyielded | hbesides
    · rcases h.yielded x v hx with hx | hyielded | hno
      · exact .inl hx
      · exact .inr (.inl (hyielded.mono List.suffix_rfl h'.suffix))
      · exact hno.elim
    · exact .inr (.inl (hyielded.mono h.suffix List.suffix_rfl))
    · exact .inr (.inr hbesides)

/-- What was about to be handed out when a call ends is yielded by the call. -/
theorem yielding {c : Call} (h : Cleans besides c.start c.stop) (asStep : Bool)
    (hyields : ∀ x v, besides x v → c.Yields x v) :
    Cleans (fun _ _ => False) c.start (c.stop.note (.done c.op asStep c.result)) where
  provisional := h.provisional
  adds := h.adds
  grows := .trans .trans h.grows (.note .refl _)
  yielded x v hx := by
    have hself : c.Between c.start (c.stop.note (.done c.op asStep c.result)) :=
      ⟨List.suffix_rfl, asStep, List.suffix_rfl⟩
    rcases h.yielded x v hx with hx | hyielded | hbesides
    · exact .inl hx
    · exact .inr (.inl (hyielded.mono List.suffix_rfl (c.stop.suffix_note _)))
    · exact .inr (.inl ⟨c, hself, hyields x v hbesides⟩)

end Cleans

/-- A single change that a modest program makes. -/
theorem Session.Shift.cleans {besides : Ident → Instance → Prop} {s : Session} {r : Registry}
    (h : s.Shift r) (hs : s.registry.Provisional) (hdoing : s.Doing Op.isModest)
    (hlatest : ∀ e ∈ s.journal.head?, e.Modest) : Cleans besides s (s.put r) := by
  cases h with
  | @offerFactory given id factory hbegins haccept =>
    -- the entry for the beginning says that the identifier is in creation
    have hactive : id ∈ s.registry.marks.active := by
      obtain ⟨rest, hrest⟩ := hbegins
      have hmodest := hlatest _ (by rw [hrest]; rfl)
      rw [Registry.canonical_of_accept haccept]
      exact of_decide_eq_true (hmodest.2 given rfl)
    obtain ⟨names, hadds⟩ := Registry.Adds.offerFactory hs hactive factory
    refine .of_adds (hs.offerFactory hactive factory) hadds ?_ rfl
    rw [Session.registry_put, Registry.offerFactory]
    split <;> rfl
  | takeFactory id =>
    exact .fewer hs rfl rfl rfl rfl rfl (fun _ hx => hx)
      (fun _ hx => Store.keys_erase_subset _ id hx) rfl
  | @storeProduct id product _ _ =>
    rw [Registry.storeProduct_eq]
    exact .fewer hs rfl rfl rfl rfl rfl (fun _ hx => hx) (fun _ hx => hx) rfl
  | suppress _ hbuffer =>
    refine .fewer hs rfl rfl rfl ?_ rfl (fun _ hx => hx) (fun _ hx => hx) rfl
    rw [hbuffer]
    rfl
  | graph _ | aliases _ => exact .fewer hs rfl rfl rfl rfl rfl (fun _ hx => hx) (fun _ hx => hx) rfl
  | keepHook _ hbegins => cases hbegins.isModest hdoing

namespace Course

/-- What a course of a modest program adds, by how it ends.  A creation adds what it is about to hand
    out as well; nothing is said of one that panicked, nor of products. -/
def Exit.Cleans (s t : Session) : Exit → Prop
  | onward | exposed => InstanceRegistry.Cleans (fun _ _ => False) s t
  | created outcome => (∀ payload, outcome ≠ .panic payload) →
      InstanceRegistry.Cleans (fun x v => outcome = .ok v ∧ t.Making x) s t
  | processed => True

variable {s t : Session} {exit : Exit}

theorem Exit.Cleans.after {u : Session} (h : exit.Cleans t u)
    (hbefore : InstanceRegistry.Cleans (fun _ _ => False) s t) : exit.Cleans s u := by
  cases exit with
  | onward | exposed => exact hbefore.trans h
  | created outcome => exact fun hcalm => hbefore.trans (h hcalm)
  | processed => trivial

/-- A call of a modest operation that does not panic adds what is added inside it, and yields what it
    hands out. -/
theorem Exit.Cleans.call {c : Call} (h : exit.Cleans (c.start.note (.began c.op)) c.stop)
    (hfits : exit.Fits c.op c.result) (hs : c.start.registry.Provisional)
    (hop : c.op.isModest = true) (hcalm : ∀ payload, c.result ≠ .panic payload) (asStep : Bool) :
    InstanceRegistry.Cleans (fun _ _ => False) c.start
      (c.stop.note (.done c.op asStep c.result)) := by
  have hbegan : InstanceRegistry.Cleans (fun _ _ => False) c.start (c.start.note (.began c.op)) :=
    .note hs _
  cases exit with
  | onward | exposed => exact (hbegan.trans h).yielding asStep fun _ _ hno => hno.elim
  | created outcome =>
    obtain ⟨hcreation, hresult⟩ := hfits
    obtain ⟨⟨request, make⟩, hcreates⟩ := Option.isSome_iff_exists.1 hcreation
    have hsettled : ∀ payload, outcome ≠ .panic payload := by
      rintro payload rfl
      exact hcalm payload hresult
    refine (hbegan.trans (h hsettled)).yielding asStep fun x v hmade => ?_
    obtain ⟨rfl, hmaking⟩ := hmade
    have haccept := Call.announced_creation hcreates hmaking
    exact ⟨request.id, make, Op.creation?_of_isModest hop hcreates, hresult,
      (Registry.canonical_of_accept haccept).symm⟩
  | processed =>
    rw [Exit.Fits, (Op.spares_of_isModest hop).2.2.1] at hfits
    cases hfits

/-- **A course of a modest program adds** instances and names, and everything provisional is as it
    should be again. -/
theorem cleans (h : Course s t exit) (hs : s.registry.Provisional) (hdoing : s.Doing Op.isModest)
    (hlatest : ∀ e ∈ s.journal.head?, e.Modest) (hmodest : Newly (fun e _ => e.Modest) s t) :
    exit.Cleans s t := by
  induction h with
  | rest s => exact .aside hs rfl rfl
  | @next s t u exit first second ih ih' =>
    have hfirst := hmodest.between List.suffix_rfl second.suffix
    have hclean := ih hs hdoing hlatest hfirst
    have hlater := hfirst.latest first.suffix hlatest
    exact (ih' hclean.provisional (first.doing.2 hdoing) hlater
      (hmodest.between first.suffix List.suffix_rfl)).after hclean
  | aside hregistry hjournal => exact .aside hs hregistry hjournal
  | note _ | enter _ => exact .note hs _
  | announce _ _ _ => exact fun _ => .note hs _
  | @expose s t id early htaps inside ih =>
    have htaking : InstanceRegistry.Cleans (fun _ _ => False) s (s.put (s.registry.takeFactory id)) :=
      .fewer hs rfl rfl rfl rfl rfl (fun _ hx => hx)
        (fun _ hx => Store.keys_erase_subset _ id hx) rfl
    have hfactory := ih htaking.provisional hdoing hlatest
      (hmodest.between List.suffix_rfl (t.suffix_note _))
    have hthere : id ∈ t.registry.marks.active := by
      obtain ⟨_, hadds⟩ := (htaking.trans hfactory).adds
      rw [hadds.marks]
      exact of_decide_eq_true htaps.ripe.active
    have hkept := hfactory.provisional.expose hthere early
    have hkeeping : InstanceRegistry.Cleans (fun _ _ => False) (t.note (.noticed (.exposing id)))
        ((t.note (.noticed (.exposing id))).put (t.registry.expose id early)) :=
      .of_adds hkept (.of_eq rfl rfl rfl rfl rfl) rfl rfl
    exact htaking.trans (hfactory.trans (.trans (.note hfactory.provisional _) hkeeping))
  | @call c asStep exit hfits inside ih =>
    obtain ⟨hbegan, hcalm⟩ := c.modest hmodest
    have hinside := ih hs ⟨⟨c.op, none⟩, rfl, hbegan.1⟩ (fun e he => by cases he; exact hbegan)
      (hmodest.between (c.start.suffix_note _) (c.stop.suffix_note _))
    exact hinside.call hfits hs hbegan.1 hcalm asStep
  | shift h => exact h.cleans hs hdoing hlatest
  | drop hdrops _ => exact (hdoing.disjoint hdrops fun _ h => (Op.spares_of_isModest h).1).elim
  | exclude hbegins hexclusion =>
    rw [(Op.spares_of_isModest (hbegins.isModest hdoing)).2.2.2] at hexclusion
    cases hexclusion
  | setMarks hsets _ => exact (hdoing.disjoint hsets fun _ h => (Op.spares_of_isModest h).2.1).elim
  | register hbegins _ _ _ _ => cases hbegins.isModest hdoing
  | @create s t u id outermost r ending outcome hasked hfree _ hmark inside _ hclose ih =>
    obtain ⟨ho, hr⟩ := hs.opening hfree hmark
    have hannounced : s.journal <:+ ((s.note (.noticed (.creating id))).put r).journal :=
      s.suffix_note _
    have hcallback := ih hr ((Session.doing_announced _ id r).2 hdoing)
      (fun e he => by cases he; trivial) (hmodest.between hannounced hclose.suffix)
    intro hcalm
    obtain ⟨names, hadds⟩ := hcallback.adds
    obtain ⟨⟨hprovisional, hadded⟩, hgrows, hmade, -⟩ :=
      hclose.adds hcalm ho hs hcallback.provisional hadds
    have hmaking := making hasked inside hclose
    have hopening : Through Registry.Grows s ((s.note (.noticed (.creating id))).put r) :=
      .trans .trans (.note .refl _) (.of_eq (.of_eq ho.finished) rfl)
    have hclosing : Through Registry.Grows t u := by
      have hchange : Through Registry.Grows t (t.put u.registry) := .of_eq hgrows rfl
      rcases hclose.split with hput | ⟨event, hnote⟩
      · rw [hput]
        exact hchange
      · rw [hnote]
        exact .trans .trans hchange (.note .refl _)
    refine ⟨hprovisional, hadded, ?_, fun x v hx => ?_⟩
    · exact .trans .trans hopening (.trans .trans hcallback.grows hclosing)
    · rcases hmade x v hx with hx | ⟨rfl, hok⟩
      · rcases hcallback.yielded x v hx with hx | hyielded | hno
        · exact .inl (ho.finished ▸ hx)
        · exact .inr (.inl (hyielded.mono hannounced hclose.suffix))
        · exact hno.elim
      · exact .inr (.inr ⟨hok, hmaking⟩)
  | process _ _ _ _ _ => trivial
  | @dispose s t id hook _ inside ih =>
    have hsuffix := t.suffix_note_note (.noticed (.disposing id)) (hook.entry .disposal)
    have htaking : InstanceRegistry.Cleans (fun _ _ => False) s
        (s.put { s.registry with hooks := s.registry.hooks.erase id }) :=
      .fewer hs rfl rfl rfl rfl rfl (fun _ hx => hx) (fun _ hx => hx) rfl
    have hbefore := ih htaking.provisional hdoing hlatest (hmodest.between List.suffix_rfl hsuffix)
    have hnotice : InstanceRegistry.Cleans (fun _ _ => False) t (t.note (.noticed (.disposing id))) :=
      .note hbefore.provisional _
    exact htaking.trans (hbefore.trans (hnotice.trans (.note hnotice.provisional _)))
  | destroy hends _ _ _ _ =>
    obtain ⟨f, hf, hkind⟩ := hends
    have hdrops : Session.Doing _ Op.drops := ⟨f, hf, Op.drops_of_endsAll hkind⟩
    exact (hdoing.disjoint hdrops fun _ h => (Op.spares_of_isModest h).1).elim

end Course

/-! ## Outermost creations -/

/-- An identifier that was asked for by a modest program and not made is not finished. -/
theorem Call.failed_unfinished {c : Call} {asStep : Bool} {given id : Ident} {make : Routine}
    {failure : Failure} (hop : c.op = .getOrCreate given make)
    (haccept : c.start.registry.accept given = .ok id) (hresult : c.result = .error failure)
    (hs : c.start.registry.Provisional)
    (hmodest : Newly (fun e _ => e.Modest) c.start (c.stop.note (.done c.op asStep c.result))) :
    id ∉ c.stop.registry.finished.keys := by
  have haccepted : (c.start.note (.began c.op)).registry.accept given = .ok id := haccept
  have hcreates : c.op.creation? = some ({ id := given }, make) := by rw [hop]; rfl
  have hrun := c.run
  rw [Op.run_creation hcreates] at hrun
  obtain ⟨ending, hcreate, hending⟩ := Run.map_inv hrun
  have hfailed : ending = .error failure := by
    rw [hresult] at hending
    cases ending with
    | error _ =>
      cases hending
      rfl
    | ok _ | panic _ => cases hending
  subst hfailed
  rw [← Operations.getOrCreate_eq, Operations.getOrCreate,
    Run.bind_ok (Operations.accept_eq haccepted)] at hcreate
  rcases Creation.getOrCreate_inv hcreate with ⟨_, -, hno, -⟩ | ⟨hfree, ⟨-, -, hstop⟩ | ⟨-, h⟩⟩
  · cases hno
  · exact hstop ▸ Store.get?_eq_none_iff.1 hfree
  rcases Creation.construct_inv h with ⟨_, -, -, hstop⟩ |
      ⟨outermost, r, ending, t, hmark, hcallback, hclose⟩
  · exact hstop ▸ Store.get?_eq_none_iff.1 hfree
  -- the callback is modest too, so its creation finds what it needs to roll back
  obtain ⟨hbegan, -⟩ := c.modest hmodest
  obtain ⟨ho, hr⟩ := hs.opening hfree hmark
  have hcourse := Creation.construct_course hcallback
  have hannounced : c.start.journal <:+
      (((c.start.note (.began c.op)).note (.noticed (.creating id))).put r).journal :=
    c.start.suffix_note_note _ _
  have hstarted := hannounced.trans (Session.suffix_note _ (make.entry .construction))
  have hlast : ∀ e ∈ (((((c.start.note (.began c.op)).note (.noticed (.creating id))).put r).note
      (make.entry .construction))).journal.head?, e.Modest := by
    intro e he
    cases he
    cases make <;> trivial
  have hclean := hcourse.cleans hr ⟨⟨c.op, some id⟩, by rw [Session.frames_note_entry]; rfl, hbegan.1⟩
    hlast (hmodest.between hstarted (hclose.suffix.trans (c.stop.suffix_note _)))
  obtain ⟨names, hadds⟩ := hclean.adds
  exact (hclose.adds nofun ho hs hclean.provisional hadds).2.2.2 failure rfl

/-- **A creation leaves nothing behind but what it finished.**  Whatever a modest program tries inside
    an outermost creation, and however that ends, short of a panic: when it is over, the registry is at
    rest again; what is finished is what was finished before and what calls yielded meanwhile; these
    identifiers, if they are new, were listed behind the others, and nobody else was.  Whoever is not
    finished is nowhere, the identifier of the creation among them if it failed. -/
theorem creation_cleans_up {c : Call} {asStep : Bool} {given : Ident} {make : Routine}
    (hop : c.op = .getOrCreate given make) (hrest : c.start.registry.AtRest)
    (hmodest : Newly (fun e _ => e.Modest) c.start (c.stop.note (.done c.op asStep c.result))) :
    c.stop.registry.AtRest ∧ c.stop.registry.lifecycle = c.start.registry.lifecycle ∧
      (∀ x v, c.stop.registry.finished.get? x = some v ↔
        c.start.registry.finished.get? x = some v ∨
          Yielded c.start (c.stop.note (.done c.op asStep c.result)) x v) ∧
      (∃ names, c.stop.registry.listed = c.start.registry.listed ++ names ∧ names.Nodup ∧
        ∀ x, x ∈ names ↔ x ∉ c.start.registry.finished.keys ∧
          ∃ v, Yielded c.start (c.stop.note (.done c.op asStep c.result)) x v) ∧
      (∀ x, x ∉ c.stop.registry.finished.keys →
        c.stop.registry.stage x = .absent ∧ x ∉ c.stop.registry.listed) ∧
      ∀ id failure, c.start.registry.accept given = .ok id → c.result = .error failure →
        id ∉ c.stop.registry.finished.keys := by
  have hs := hrest.provisional
  obtain ⟨hbegan, hcalm⟩ := c.modest hmodest
  obtain ⟨exit, hfits, hcourse⟩ := c.course
  have hinside := hcourse.cleans hs ⟨⟨c.op, none⟩, rfl, hbegan.1⟩
    (fun e he => by cases he; exact hbegan)
    (hmodest.between (c.start.suffix_note _) (c.stop.suffix_note _))
  have hclean := hinside.call hfits hs hbegan.1 hcalm asStep
  obtain ⟨names, hadds⟩ := hclean.adds
  have hfinished : ∀ x v, c.stop.registry.finished.get? x = some v ↔
      c.start.registry.finished.get? x = some v ∨
        Yielded c.start (c.stop.note (.done c.op asStep c.result)) x v := by
    refine fun x v => ⟨fun hx => ?_, fun hx => ?_⟩
    · exact (hclean.yielded x v hx).imp_right fun h => h.resolve_right id
    · rcases hx with hx | ⟨c', ⟨hstart, asStep', hends⟩, hyields⟩
      · exact hadds.grows x v hx
      · have hbefore : c.start.journal <:+ c'.stop.journal :=
          hstart.trans ((c'.start.suffix_note _).trans c'.course.suffix)
        exact hclean.grows.from_entry hends hbefore x v hyields.finished
  have hend : c.stop.registry.AtRest := by
    refine hclean.provisional.atRest (hadds.marks ▸ hrest.active) ?_
    have hbuffer := hadds.buffer
    rw [hrest.suppressed] at hbuffer
    exact Option.isNone_iff_eq_none.1 (Option.isSome_eq_false_iff.1 hbuffer)
  refine ⟨hend, hadds.lifecycle, hfinished, ⟨names, hadds.listed, hadds.distinct, fun x => ?_⟩,
    fun x hx => ⟨hend.stage hx, fun hlisted => hx (hend.listed x hlisted)⟩,
    fun id failure haccept hresult => Call.failed_unfinished hop haccept hresult hs hmodest⟩
  -- nobody is in creation here, so whoever is named is finished
  constructor
  · intro hx
    obtain ⟨hno, hlater | hactive⟩ := hadds.named x hx
    · obtain ⟨v, hv⟩ := Store.exists_get?_of_mem_keys hlater
      refine ⟨hno, v, ((hfinished x v).1 hv).resolve_left fun hbefore => ?_⟩
      exact hno (Store.mem_keys_of_get? hbefore)
    · rw [hrest.active] at hactive
      cases hactive
  · rintro ⟨hno, v, hyielded⟩
    exact hadds.finished x (Store.mem_keys_of_get? ((hfinished x v).2 (.inr hyielded))) hno

/-- The construction of a desk: it offers one early, and has a lamp made that looks at it.  On the way a
    bulb is made, and a shade is given up that others have seen.  In the end the desk itself is. -/
def givenUp : Routine :=
  .scripted "desk"
    [.step (.registerFactory "desk" (.scripted "desk" [] .same)) true none,
      .step (.getOrCreate "lamp" (.scripted "lamp"
        [.step (.get "desk") true none,
          .step (.getOrCreate "shade" (.scripted "shade"
            [.step (.registerFactory "shade" (.scripted "shade" [] .same)) true none,
              .step (.getOrCreate "bulb" (.scripted "bulb" [.step (.get "shade") true none] .same))
                true none] (.fail "torn"))) false none,
          .step (.change (.suppress "no shade")) true none] .same)) true none]
    (.fail "too small")

/-- Of the desk nothing is left, nor of the shade.  The bulb and the lamp are there. -/
theorem creation_cleans_up_givenUp :
    ∃ c : Call, c.op = .getOrCreate "desk" givenUp ∧ c.start.registry.AtRest ∧
      Newly (fun e _ => e.Modest) c.start (c.stop.note (.done c.op true c.result)) ∧
      c.result = .error (.construction "desk" (.foreign "too small") ["no shade"]) ∧
      c.stop.registry.AtRest ∧ c.stop.registry.stage "desk" = .absent ∧
      c.stop.registry.listed = ["bulb", "lamp"] ∧
      ∃ v, Yielded c.start (c.stop.note (.done c.op true c.result)) "bulb" v := by
  have hends : ∃ c : Call, c.op = .getOrCreate "desk" givenUp ∧ c.start = { registry := {} } ∧
      (∀ e ∈ c.stop.journal, e.Modest) ∧ c.stop.registry.listed = ["bulb", "lamp"] ∧
      c.result = .error (.construction "desk" (.foreign "too small") ["no shade"]) :=
    Call.of_check 6 (P := fun result t => (∀ e ∈ t.journal, e.Modest) ∧
      t.registry.listed = ["bulb", "lamp"] ∧
      result = .error (.construction "desk" (.foreign "too small") ["no shade"]))
      (by decide +kernel)
  obtain ⟨c, hop, hstart, hmodest, hlisted, hresult⟩ := hends
  have hrest : c.start.registry.AtRest := by
    rw [hstart]
    exact ⟨rfl, rfl, rfl, rfl, rfl, nofun⟩
  have hnewly : Newly (fun e _ => e.Modest) c.start (c.stop.note (.done c.op true c.result)) := by
    intro e earlier he
    rcases List.suffix_cons_iff.1 he with heq | he
    · cases heq
      rw [hresult]
      exact .inr trivial
    · exact .inr (hmodest e (he.subset List.mem_cons_self))
  obtain ⟨hend, -, -, ⟨names, hnames, -, hyielded⟩, habsent, hfailed⟩ :=
    creation_cleans_up hop hrest hnewly
  have haccept : c.start.registry.accept "desk" = .ok "desk" := by
    rw [hstart]
    rfl
  have hbulb : "bulb" ∈ names := by
    rw [hstart] at hnames
    rw [← List.nil_append names]
    exact hnames.symm.trans hlisted ▸ List.mem_cons_self
  exact ⟨c, hop, hrest, hnewly, hresult, hend,
    (habsent "desk" (hfailed _ _ haccept hresult)).1, hlisted, ((hyielded "bulb").1 hbulb).2⟩

end InstanceRegistry
