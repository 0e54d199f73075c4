import InstanceRegistry.Proofs.Courses.Calls
import InstanceRegistry.Proofs.Courses.Moments

/-!
  The destruction of a whole registry comes to its end.

  A registry is active, is being destroyed, and is destroyed, in that order, and it is being destroyed
  only inside the call that does so.  That call succeeds and leaves nothing behind, whatever the
  hooks do in the middle; every other one finds a registry that is not active any more, and does
  nothing.

  A hook is SPENT once: from the moment on when it is taken out it runs before its identifier is
  destroyed, and is not there any more.  While the registry is not active, hooks go in no other way,
  and none comes unless one is registered.  So a pass over all hooks runs each of them once, also those
  that other hooks destroy before their turn.

  Mathlib-free.
-/

namespace InstanceRegistry

/-! ## How far a registry has got -/

/-- The place of a state in the lifecycle. -/
def Lifecycle.rank : Lifecycle → Nat
  | active => 0
  | destroying => 1
  | destroyed => 2

/-- Nothing is kept, and nobody is in creation. -/
structure Registry.Bare (r : Registry) : Prop where
  finished : r.finished = ∅
  early : r.early = ∅
  factories : r.factories = ∅
  products : r.products = ∅
  listed : r.listed = []
  hooks : r.hooks = ∅
  graph : r.graph = {}
  active : r.marks.active = []

namespace Course

variable {s t : Session} {exit : Exit}

/-- A move leaves the lifecycle as it is, unless the registry is being ended.  Then it leaves the
    active state or comes to the last one. -/
theorem Move.lifecycle {r : Registry} (h : Move s r) :
    r.lifecycle = s.registry.lifecycle ∨
      s.Began Op.endsAll ∧ (s.registry.lifecycle = .active ∨ r.lifecycle = .destroyed) := by
  cases h with
  | still h => exact .inl h.lifecycle
  | drop _ h => cases h <;> exact .inl rfl
  | exclude _ _ | setMarks _ _ | empty _ => exact .inl rfl
  | mark _ _ hlifecycle | unmark _ _ hlifecycle => exact .inl hlifecycle
  | register _ _ hcommit => exact .inl (Registry.commit_inv hcommit).2.2.2
  | create _ _ _ _ hcommit =>
    exact .inl
      ((Registry.commit_inv hcommit).2.2.2.trans (Registry.lifecycle_abandonCreation ..))
  | close hbegan hactive => exact .inr ⟨hbegan, .inl hactive⟩
  | finish hbegan _ => exact .inr ⟨hbegan, .inr rfl⟩

/-- No move leads back in the lifecycle. -/
theorem Move.rank {r : Registry} (h : Move s r) :
    s.registry.lifecycle.rank ≤ r.lifecycle.rank := by
  rcases h.lifecycle with hsame | ⟨-, hactive | hdestroyed⟩
  · exact Nat.le_of_eq (congrArg Lifecycle.rank hsame.symm)
  · rw [hactive]
    exact Nat.zero_le _
  · rw [hdestroyed]
    cases s.registry.lifecycle <;> decide

theorem ranks (h : Course s t exit) :
    Through (fun r r' => r.lifecycle.rank ≤ r'.lifecycle.rank) s t :=
  h.through (R := fun r r' => r.lifecycle.rank ≤ r'.lifecycle.rank) (fun _ => Nat.le_refl _)
    Nat.le_trans fun _ _ _ hmove => hmove.rank

/-- Unless the registry is ended, the lifecycle stays what it is. -/
theorem lifecycle_kept (h : Course s t exit) (hends : t.Never Op.endsAll) :
    Throughout (fun r => r.lifecycle = s.registry.lifecycle) s t :=
  Through.throughout <| h.through (R := fun r r' => r'.lifecycle = r.lifecycle) (fun _ => rfl)
    (fun hfirst hsecond => hsecond.trans hfirst) fun _ _ hu hmove =>
      hmove.lifecycle.resolve_right fun hended => hends.not_began (hended.1.mono hu)

/-- A registry that is not active does not become so. -/
theorem inactive (h : Course s t exit) (hs : s.registry.lifecycle ≠ .active) :
    t.registry.lifecycle ≠ .active := by
  intro ht
  have hrank := h.ranks.whole
  rw [ht] at hrank
  cases hlifecycle : s.registry.lifecycle with
  | active => exact hs hlifecycle
  | destroying | destroyed =>
    rw [hlifecycle] at hrank
    exact absurd hrank (by decide)

end Course

/-! ## Who destroys -/

/-- If a registry is being destroyed at an entry, it was so in an earlier session, or a call that
    does so is under way. -/
def Session.Destroys (s : Session) (e : Entry) (earlier : List Entry) : Prop :=
  e.registry.lifecycle = .destroying →
    s.registry.lifecycle = .destroying ∨ ∃ f ∈ Frame.after earlier, f.op.endsAll = true

theorem Session.Destroys.mono {s t : Session}
    (h : t.registry.lifecycle = .destroying → s.registry.lifecycle = .destroying) (e : Entry)
    (earlier : List Entry) (ht : t.Destroys e earlier) : s.Destroys e earlier := by
  intro he
  rcases ht he with hlifecycle | hframe
  · exact .inl (h hlifecycle)
  · exact .inr hframe

/-- **Only a call that destroys the whole registry keeps it in destruction**, and not beyond its
    end. -/
theorem Course.destroys {s t : Session} {exit : Course.Exit} (h : Course s t exit) :
    Newly s.Destroys s t ∧
      (t.registry.lifecycle = .destroying → s.registry.lifecycle = .destroying) := by
  have same : ∀ {s t : Session}, t.journal = s.journal →
      t.registry.lifecycle = s.registry.lifecycle → Newly s.Destroys s t ∧
        (t.registry.lifecycle = .destroying → s.registry.lifecycle = .destroying) := by
    intro s t hjournal hlifecycle
    exact ⟨.of_eq hjournal, fun ht => hlifecycle.symm.trans ht⟩
  have noting : ∀ (s : Session) (event : Event), Newly s.Destroys s (s.note event) :=
    fun s event => .note .inl
  induction h with
  | rest s => exact same rfl rfl
  | next _ _ ih ih' =>
    exact ⟨ih.1.trans (ih'.1.imp (Session.Destroys.mono ih.2)), fun hu => ih.2 (ih'.2 hu)⟩
  | aside hregistry hjournal => exact same hjournal (hregistry ▸ rfl)
  | note _ | enter _ | announce _ _ _ => exact ⟨noting _ _, id⟩
  | @expose s t id early _ _ ih =>
    have hnote : Newly s.Destroys t (t.note (.noticed (.exposing id))) :=
      .note fun ht => .inl (ih.2 ht)
    exact ⟨ih.1.trans (hnote.put _), ih.2⟩
  | call c _ _ _ ih =>
    refine ⟨(noting _ (.began c.op)).trans (ih.1.trans (.note fun hstop => .inl ?_)), ih.2⟩
    exact ih.2 hstop
  | shift h => exact same rfl h.still.lifecycle
  | drop _ h => cases h <;> exact same rfl rfl
  | exclude _ _ | setMarks _ _ => exact same rfl rfl
  | register _ _ _ _ hcommit => exact same rfl (Registry.commit_inv hcommit).2.2.2
  | @create s t u id outermost r _ _ _ _ _ hmark inside _ hclose ih =>
    have hopened : r.lifecycle = s.registry.lifecycle := (Registry.openCreation_inv hmark).2.2
    have hback : t.registry.lifecycle = .destroying → s.registry.lifecycle = .destroying :=
      fun ht => hopened.symm.trans (ih.2 ht)
    have hclosing : Newly s.Destroys t u :=
      hclose.newly fun _ _ he => .inl (hback (hclose.lifecycle.symm.trans he))
    have hinside := ih.1.imp (Session.Destroys.mono (s := s) fun hr => hopened.symm.trans hr)
    refine ⟨.trans (.put (noting _ _) _) (hinside.trans hclosing), fun hu => ?_⟩
    exact hback (hclose.lifecycle.symm.trans hu)
  | process _ _ _ _ ih => exact ih
  | @dispose s t id hook _ _ ih =>
    have hnote : Newly s.Destroys t (t.note (.noticed (.disposing id))) :=
      .note fun ht => .inl (ih.2 ht)
    exact ⟨ih.1.trans (hnote.trans (.note fun ht => .inl (ih.2 ht))), ih.2⟩
  | @destroy s t u hdoing _ inside hrest ih =>
    -- the call that destroys is under way at every entry in between
    obtain ⟨f, hf, hkind⟩ := hdoing.within
    have hframe : ∀ earlier, Course.Under s earlier →
        ∃ f ∈ Frame.after earlier, f.op.endsAll = true := by
      intro earlier hunder
      obtain ⟨g, hg, hop⟩ := List.mem_map.1 (hunder.subset (List.mem_map_of_mem hf))
      exact ⟨g, hg, hop ▸ hkind⟩
    have hinside : Newly s.Destroys s t := by
      intro e earlier he
      rcases inside.under e earlier he with hs | hunder
      · exact .inl hs
      · exact .inr fun _ => .inr (hframe earlier hunder)
    have hreport : Newly s.Destroys t u := by
      refine hrest.newly fun _ _ _ => .inr (hframe _ ?_)
      exact Course.Under.of_eq (congrArg (List.map Frame.op) inside.frames)
    exact ⟨.put (hinside.trans hreport) _, nofun⟩

/-! ## Hooks are spent -/

/-- Whether an event says that a hook was registered. -/
def Event.registers : Event → Bool
  | .done op _ (.ok _) => op.registersHook
  | _ => false

/-- Whether an event announces that the hook of `id` is about to run. -/
def Event.disposes (id : Ident) : Event → Bool
  | .noticed (.disposing x) => x == id
  | _ => false

namespace Session

/-- How many hooks have been registered. -/
def registrations (s : Session) : Nat := s.journal.countP fun e => e.event.registers

/-- How many hooks of `id` have been announced. -/
def disposals (s : Session) (id : Ident) : Nat := s.journal.countP fun e => e.event.disposes id

variable {s t : Session}

theorem registrations_mono (h : s.journal <:+ t.journal) : s.registrations ≤ t.registrations :=
  h.sublist.countP_le

theorem registrations_note (s : Session) (event : Event) :
    (s.note event).registrations = s.registrations + if event.registers then 1 else 0 :=
  List.countP_cons

theorem disposals_note (s : Session) (event : Event) (id : Ident) :
    (s.note event).disposals id = s.disposals id + if event.disposes id then 1 else 0 :=
  List.countP_cons

/-- While no hook is being registered, a change that is made at one go leaves the hooks alone. -/
theorem Shift.hooks {r : Registry} (h : s.Shift r) (hidle : ¬ s.Doing Op.registersHook) :
    r.hooks = s.registry.hooks := by
  cases h with
  | @offerFactory _ id _ _ _ =>
    rw [Registry.offerFactory]
    cases s.registry.finished.contains id <;> rfl
  | @storeProduct id _ _ _ =>
    rw [Registry.storeProduct]
    cases s.registry.finished.contains id <;> rfl
  | takeFactory _ | suppress _ _ | graph _ | aliases _ => rfl
  | keepHook _ hbegins => exact absurd (hbegins.doing rfl) hidle

end Session

theorem Event.disposes_of_isAside {event : Event} (h : event.isAside = true) (id : Ident) :
    event.disposes id = false := by
  cases event with
  | began _ | done _ _ _ | entered _ _ _ => cases h
  | wired _ _ _ | fetched _ _ => rfl
  | noticed notice =>
    cases notice with
    | creating _ | exposing _ | disposing _ => cases h
    | _ => rfl

/-- Between two sessions a hook of `id` ran, and no other one did: it was announced, and started
    right after that. -/
structure RanOnce (id : Ident) (hook : Routine) (s t : Session) : Prop where
  once : t.disposals id = s.disposals id + 1
  started : ∃ later earlier r,
    t.journal = later ++ ⟨hook.entry .disposal, r⟩ :: ⟨.noticed (.disposing id), r⟩ :: earlier ∧
      s.journal <:+ earlier

namespace RanOnce

variable {id : Ident} {hook : Routine} {s s' t t' : Session}

/-- Before and after a hook of `id` ran, other things may happen. -/
theorem mono (h : RanOnce id hook s t) (hs : s'.journal <:+ s.journal)
    (hbefore : s.disposals id = s'.disposals id) (ht : t.journal <:+ t'.journal)
    (hafter : t'.disposals id = t.disposals id) : RanOnce id hook s' t' := by
  obtain ⟨later, earlier, r, hjournal, hearlier⟩ := h.started
  obtain ⟨rest, hrest⟩ := ht
  refine ⟨by rw [hafter, h.once, hbefore], rest ++ later, earlier, r, ?_, hs.trans hearlier⟩
  rw [← hrest, hjournal, List.append_assoc]

end RanOnce

/-- What becomes of the hook of `id` between two sessions: it is left alone, or it runs and is gone. -/
structure Spent (id : Ident) (s t : Session) : Prop where
  suffix : s.journal <:+ t.journal
  fate : (t.registry.hooks.get? id = s.registry.hooks.get? id ∧ t.disposals id = s.disposals id) ∨
    ∃ hook, s.registry.hooks.get? id = some hook ∧ t.registry.hooks.get? id = none ∧
      RanOnce id hook s t

namespace Spent

variable {id : Ident} {s t u : Session}

theorem of_eq (hhooks : t.registry.hooks = s.registry.hooks) (hjournal : t.journal = s.journal) :
    Spent id s t where
  suffix := hjournal ▸ List.suffix_rfl
  fate := by
    refine .inl ⟨by rw [hhooks], ?_⟩
    rw [Session.disposals, hjournal]
    rfl

theorem note {event : Event} (h : event.disposes id = false) : Spent id s (s.note event) where
  suffix := s.suffix_note event
  fate := by
    refine .inl ⟨rfl, ?_⟩
    rw [Session.disposals_note, h]
    rfl

theorem trans (h : Spent id s t) (h' : Spent id t u) : Spent id s u where
  suffix := h.suffix.trans h'.suffix
  fate := by
    rcases h.fate with ⟨hkept, hcount⟩ | ⟨hook, hpending, hgone, hran⟩
    · rcases h'.fate with ⟨hkept', hcount'⟩ | ⟨hook, hpending, hgone, hran⟩
      · exact .inl ⟨hkept'.trans hkept, hcount'.trans hcount⟩
      · have hran' := hran.mono h.suffix hcount List.suffix_rfl rfl
        exact .inr ⟨hook, hkept.symm.trans hpending, hgone, hran'⟩
    · rcases h'.fate with ⟨hkept, hcount⟩ | ⟨hook', hpending', _, _⟩
      · have hran' := hran.mono List.suffix_rfl rfl h'.suffix hcount
        exact .inr ⟨hook, hpending, hkept.trans hgone, hran'⟩
      · rw [hgone] at hpending'
        cases hpending'

/-- A hook that is not there does not come. -/
theorem gone (h : Spent id s t) (hs : s.registry.hooks.get? id = none) :
    t.registry.hooks.get? id = none := by
  rcases h.fate with ⟨hkept, -⟩ | ⟨_, -, hgone, -⟩
  · exact hkept.trans hs
  · exact hgone

/-- A hook that was there and is gone ran. -/
theorem ran (h : Spent id s t) {hook : Routine} (hs : s.registry.hooks.get? id = some hook)
    (ht : t.registry.hooks.get? id = none) : RanOnce id hook s t := by
  rcases h.fate with ⟨hkept, -⟩ | ⟨hook', hpending, -, hran⟩
  · rw [hs, ht] at hkept
    cases hkept
  · rw [hs] at hpending
    cases hpending
    exact hran

/-- Under an identifier that has no hook none runs. -/
theorem none_ran (h : Spent id s t) (hs : s.registry.hooks.get? id = none) :
    t.disposals id = s.disposals id := by
  rcases h.fate with ⟨-, hcount⟩ | ⟨_, hpending, -, -⟩
  · exact hcount
  · rw [hs] at hpending
    cases hpending

/-- A hook is taken out; after what comes before it, it is announced and starts. -/
theorem dispose {x : Ident} {hook : Routine} (hpending : s.registry.hooks.get? x = some hook)
    (h : Spent id (s.put { s.registry with hooks := s.registry.hooks.erase x }) t) :
    Spent id s ((t.note (.noticed (.disposing x))).note (hook.entry .disposal)) := by
  have hentry : (hook.entry .disposal).disposes id = false := by cases hook <;> rfl
  by_cases hx : id = x
  · subst hx
    have herased := Store.get?_erase_self s.registry.hooks id
    have hbefore : t.disposals id = s.disposals id := h.none_ran herased
    have hjournal : s.journal <:+ t.journal := h.suffix
    refine ⟨hjournal.trans (t.suffix_note_note _ _), .inr ⟨hook, hpending, h.gone herased, ?_, ?_⟩⟩
    · rw [Session.disposals_note, Session.disposals_note, hentry, hbefore]
      simp [Event.disposes]
    · exact ⟨[], t.journal, t.registry, rfl, hjournal⟩
  · have hother : (Event.noticed (.disposing x)).disposes id = false := by
      simpa [Event.disposes] using Ne.symm hx
    have hkept := Store.get?_erase_of_ne s.registry.hooks hx
    have htaken : Spent id s (s.put { s.registry with hooks := s.registry.hooks.erase x }) :=
      ⟨List.suffix_rfl, .inl ⟨hkept, rfl⟩⟩
    exact htaken.trans (h.trans ((note hother).trans (note hentry)))

end Spent

/-- A call that was to register a hook did, or changed nothing. -/
theorem Call.registerHook_inv {c : Call} (h : c.op.registersHook = true) :
    (∃ answer, c.result = .ok answer) ∨ c.stop = c.start.note (.began c.op) := by
  obtain ⟨depth, op, start, result, stop, run⟩ := c
  cases op with
  | registerHook id hook =>
    obtain ⟨ending, hregister, rfl⟩ := Run.map_inv run
    cases haccept : (start.note (.began (.registerHook id hook))).registry.accept id with
    | ok accepted =>
      rw [Operations.registerHook, Run.bind_ok (Operations.accept_eq haccept)] at hregister
      obtain ⟨value, rfl⟩ := Destruction.succeeds_registerHook _ _ _ _ _ hregister
      exact .inl ⟨_, rfl⟩
    | error failure =>
      rw [Operations.registerHook, Run.bind_error (Operations.accept_eq haccept)] at hregister
      cases hregister
      exact .inr rfl
  | _ => cases h

/-- **A hook leaves an inactive registry by running**, and comes in by being registered. -/
theorem Course.spent {s t : Session} {exit : Course.Exit} (h : Course s t exit) (id : Ident)
    (hinactive : s.registry.lifecycle ≠ .active)
    (hnone : t.registrations = s.registrations)
    (hidle : ¬ s.Doing Op.registersHook) : Spent id s t := by
  induction h with
  | rest s => exact .of_eq rfl rfl
  | @next s t u exit first second ih ih' =>
    have hfirst := Session.registrations_mono first.suffix
    have hsecond := Session.registrations_mono second.suffix
    have hmiddle := ih hinactive (by omega) hidle
    exact hmiddle.trans (ih' (first.inactive hinactive) (by omega) (mt first.doing.1 hidle))
  | aside hregistry hjournal => exact .of_eq (hregistry ▸ rfl) hjournal
  | note haside => exact .note (Event.disposes_of_isAside haside id)
  | enter _ | announce _ _ _ => exact .note rfl
  | @expose s t x early _ inside ih =>
    have htaking : Spent id s (s.put (s.registry.takeFactory x)) := .of_eq rfl rfl
    have hnote : Spent id t (t.note (.noticed (.exposing x))) := .note rfl
    exact htaking.trans ((ih hinactive hnone hidle).trans (hnote.trans (.of_eq rfl rfl)))
  | call c asStep _ inside ih =>
    have hbefore : Spent id c.start (c.start.note (.began c.op)) := .note rfl
    have hafter : Spent id c.stop (c.stop.note (.done c.op asStep c.result)) := .note rfl
    have hinside : c.start.registrations ≤ c.stop.registrations :=
      Session.registrations_mono ((Session.suffix_note _ _).trans inside.suffix)
    rw [Session.registrations_note] at hnone
    cases hop : c.op.registersHook with
    | false =>
      have hidle' : ¬ (c.start.note (.began c.op)).Doing Op.registersHook := by
        rintro ⟨f, hf, hkind⟩
        cases hf
        rw [hop] at hkind
        cases hkind
      have hnone' : c.stop.registrations = (c.start.note (.began c.op)).registrations :=
        Nat.le_antisymm (hnone ▸ Nat.le_add_right _ _) hinside
      exact hbefore.trans ((ih hinactive hnone' hidle').trans hafter)
    | true =>
      rcases Call.registerHook_inv hop with ⟨answer, hresult⟩ | hstop
      · -- one more hook would have been registered
        rw [hresult, Event.registers, hop, if_pos rfl] at hnone
        omega
      · rw [hstop] at hafter
        rw [hstop]
        exact hbefore.trans hafter
  | shift h => exact .of_eq (h.hooks hidle) rfl
  | drop _ h => cases h <;> exact .of_eq rfl rfl
  | exclude _ _ | setMarks _ _ => exact .of_eq rfl rfl
  | register _ _ hopen _ _ => exact absurd (Lifecycle.allowsCreation_iff.1 hopen) hinactive
  | create _ _ hopen _ _ _ _ _ => exact absurd (Lifecycle.allowsCreation_iff.1 hopen) hinactive
  | @process s t x marks products _ _ _ _ ih =>
    have hopening : Spent id s (s.put { s.registry with marks }) := .of_eq rfl rfl
    have hclosing : Spent id t
        (t.put { t.registry with marks := t.registry.marks.leaveQuietly x, products }) :=
      .of_eq rfl rfl
    exact hopening.trans ((ih hinactive hnone hidle).trans hclosing)
  | @dispose s t x hook hpending _ ih =>
    refine Spent.dispose hpending (ih hinactive ?_ hidle)
    cases hook <;> exact hnone
  | destroy _ hactive _ _ _ => exact absurd hactive hinactive

/-! ## A pass over the hooks -/

namespace Destruction

variable {engine : Engine} {ε : Type} {id : Ident} {s t : Session}

/-- An identifier whose hook had its turn has none any more. -/
theorem Disposes.gone (h : Disposes id s t) (hinactive : s.registry.lifecycle ≠ .active)
    (hnone : t.registrations = s.registrations)
    (hidle : ¬ s.Doing Op.registersHook) : t.registry.hooks.get? id = none := by
  cases h with
  | nothing hfree => exact hfree
  | @hook u hook hpending inside =>
    have hinside : Spent id (s.put { s.registry with hooks := s.registry.hooks.erase id }) u := by
      refine inside.spent id hinactive ?_ hidle
      cases hook <;> exact hnone
    exact hinside.gone (Store.get?_erase_self _ _)

/-- If no hook is registered while identifiers are destroyed one after another, none of them has a
    hook in the end. -/
theorem collect_gone (hengine : engine.OnCourse) {ids : List Ident} {report : Report}
    (hdoing : s.Doing Op.drops)
    (h : (Run.collect (destroyOne engine) ids : Run ε Report) s = some (.ok report, t))
    (hinactive : s.registry.lifecycle ≠ .active)
    (hnone : t.registrations = s.registrations)
    (hidle : ¬ s.Doing Op.registersHook) : ∀ x ∈ ids, t.registry.hooks.get? x = none := by
  induction ids generalizing s report with
  | nil => exact fun x hx => absurd hx List.not_mem_nil
  | cons id rest ih =>
    obtain ⟨first, u, hwork, hrest⟩ := (succeeds_destroyWithin engine.depth id).bind_inv h
    obtain ⟨ending, hothers, hending⟩ := Run.map_inv hrest
    obtain ⟨others, rfl⟩ := Succeeds.collect
      (fun id => succeeds_destroyWithin engine.depth id) rest _ _ _ hothers
    obtain ⟨a, b, hsa, hab, hbu⟩ := destroyOne_disposes hengine hdoing hwork
    have hsb : Course s b := .next hsa hab.course
    have hsu : Course s u := .next hsb hbu
    have hut : Course u t := Run.OnCourse.collect rest
      (fun id v huv => destroyOne_onCourse hengine id (huv.doing.2 (hsu.doing.2 hdoing))) _ _ hothers
    -- nothing is registered in any part if nothing is registered in the whole
    have h₁ := Session.registrations_mono hsa.suffix
    have h₂ := Session.registrations_mono hab.course.suffix
    have h₃ := Session.registrations_mono hbu.suffix
    have h₄ := Session.registrations_mono hut.suffix
    have hidle' : ¬ u.Doing Op.registersHook := mt hsu.doing.1 hidle
    intro x hx
    rcases List.mem_cons.1 hx with rfl | hx
    · have hgone : b.registry.hooks.get? x = none :=
        hab.gone (hsa.inactive hinactive) (by omega) (mt hsa.doing.1 hidle)
      have hgone' : u.registry.hooks.get? x = none :=
        (hbu.spent x (hsb.inactive hinactive) (by omega) (mt hsb.doing.1 hidle)).gone hgone
      exact (hut.spent x (hsu.inactive hinactive) (by omega) hidle').gone hgone'
    · exact ih (hsu.doing.2 hdoing) hothers (hsu.inactive hinactive) (by omega) hidle' x hx

end Destruction

/-- A call that destroys a whole registry goes over its hooks: from the session in which the
    destruction begins to the one in which every hook had its turn, with a report. -/
structure Call.Pass (c : Call) (before after : Session) (report : Report) : Prop where
  start : before = c.start.note (.began c.op) ∨
    before = (c.start.note (.began c.op)).note (.noticed .shuttingDown)
  hooks : Run.collect (Destruction.destroyOne (.ofDepth c.depth))
      before.registry.hooks.keys.reverse (Destruction.begin before) =
    some ((.ok report : Outcome Failure Report), after)
  result : c.result = .ok (.report report)
  stop : c.stop.registry = { after.registry.empty with lifecycle := .destroyed }
  rest : after.journal <:+ c.stop.journal ∧ (∀ id, c.stop.disposals id = after.disposals id)

/-- **A call that destroys a whole registry** goes over its hooks, or finds that the registry is not
    active and changes nothing. -/
theorem Call.endsAll_inv {c : Call} (h : c.op.endsAll = true) :
    (c.start.registry.lifecycle ≠ .active ∧ c.result = .ok (.report {}) ∧
        c.stop.registry = c.start.registry) ∨
      c.start.registry.lifecycle = .active ∧ ∃ before after report, c.Pass before after report := by
  have hrun : ∃ s ending, (s = c.start.note (.began c.op) ∨
      s = (c.start.note (.began c.op)).note (.noticed .shuttingDown)) ∧
      Destruction.destroyAll (.ofDepth c.depth) s = some (ending, c.stop) ∧
        c.result = ending.map .report := by
    obtain ⟨depth, op, start, result, stop, run⟩ := c
    cases op with
    | destroyAll =>
      obtain ⟨ending, hdestroy, hresult⟩ := Run.map_inv run
      exact ⟨_, ending, .inl rfl, hdestroy, hresult⟩
    | shutdown =>
      obtain ⟨ending, hshutdown, hresult⟩ := Run.map_inv run
      rw [Destruction.shutdown, Run.bind_ok (Run.report_note _ _)] at hshutdown
      exact ⟨_, ending, .inr rfl, hshutdown, hresult⟩
    | _ => cases h
  obtain ⟨s, ending, hstart, hdestroy, hresult⟩ := hrun
  have hregistry : s.registry = c.start.registry := by
    rcases hstart with rfl | rfl <;> rfl
  rcases Destruction.destroyAll_inv hdestroy with ⟨hover, rfl, hstop⟩ |
      ⟨hactive, report, t, u, hwork, rfl, hempties, hstop⟩
  · refine .inl ⟨hregistry ▸ hover, hresult, ?_⟩
    rw [hstop]
    exact hregistry
  · refine .inr ⟨hregistry ▸ hactive, s, t, report, hstart, hwork, hresult, ?_, ?_, fun id => ?_⟩
    · rcases hstop with hstop | ⟨count, hstop⟩ <;> rw [hstop] <;> cases hempties <;> rfl
    · rcases hstop with hstop | ⟨count, hstop⟩
      · rw [hstop]
        exact hempties.suffix
      · rw [hstop]
        exact hempties.suffix.trans (List.suffix_cons _ _)
    · rcases hstop with hstop | ⟨count, hstop⟩ <;> rw [hstop] <;> cases hempties <;> rfl

namespace Call.Pass

variable {c : Call} {before after : Session} {report : Report}

theorem registry_before (h : c.Pass before after report) :
    before.registry = c.start.registry := by
  rcases h.start with rfl | rfl <;> rfl

theorem began (h : c.Pass before after report) :
    (c.start.note (.began c.op)).journal <:+ before.journal := by
  rcases h.start with rfl | rfl
  · exact List.suffix_rfl
  · exact Session.suffix_note _ _

/-- The call takes away what it finds. -/
theorem doing_begin (h : c.Pass before after report) (hop : c.op.endsAll = true) :
    (Destruction.begin before).Doing Op.drops := by
  have hcall : (c.start.note (.began c.op)).Doing Op.drops :=
    (Session.begins_note _ _).doing (Op.drops_of_endsAll hop)
  rcases h.start with rfl | rfl <;> exact hcall

/-- What the hooks do is a course. -/
theorem course (h : c.Pass before after report) (hop : c.op.endsAll = true) :
    Course (Destruction.begin before) after := by
  exact Run.OnCourse.collect _ (fun id t ht =>
    Destruction.destroyOne_onCourse (onCourse_ofDepth c.depth) id (ht.doing.2 (h.doing_begin hop)))
    _ _ h.hooks

/-- A pass leaves nothing in the registry. -/
theorem bare (h : c.Pass before after report) : c.stop.registry.Bare := by
  rw [h.stop]
  exact ⟨rfl, rfl, rfl, rfl, rfl, rfl, rfl, rfl⟩

/-- **A pass runs every hook once** that was there when it began, if no hook is registered in it. -/
theorem ran_once (h : c.Pass before after report) (hop : c.op.endsAll = true)
    (hnone : c.stop.registrations = c.start.registrations) (id : Ident) :
    match c.start.registry.hooks.get? id with
    | some hook => RanOnce id hook c.start c.stop
    | none => c.stop.disposals id = c.start.disposals id := by
  have hcourse := h.course hop
  have hopnone : c.op.registersHook = false := by
    cases hkind : c.op with
    | registerHook _ _ =>
      rw [hkind] at hop
      cases hop
    | _ => rfl
  -- what stands between the call's beginning and the destruction is neither a hook nor a call
  have hregistered : (Destruction.begin before).registrations = c.start.registrations := by
    rcases h.start with rfl | rfl <;> rfl
  have hcount : (Destruction.begin before).disposals id = c.start.disposals id := by
    rcases h.start with rfl | rfl <;> rfl
  have hidle : ¬ (Destruction.begin before).Doing Op.registersHook := by
    rintro ⟨f, hf, hkind⟩
    have hop : f.op = c.op := by
      rcases h.start with rfl | rfl <;> cases hf <;> rfl
    rw [hop, hopnone] at hkind
    cases hkind
  have hfirst := Session.registrations_mono hcourse.suffix
  have hlast := Session.registrations_mono h.rest.1
  have hquiet : after.registrations = (Destruction.begin before).registrations := by omega
  have hclosed : (Destruction.begin before).registry.lifecycle ≠ .active := nofun
  have hspent : Spent id (Destruction.begin before) after :=
    hcourse.spent id hclosed hquiet hidle
  have hhooks : (Destruction.begin before).registry.hooks = c.start.registry.hooks := by
    show before.registry.hooks = _
    rw [h.registry_before]
  have hbefore : c.start.journal <:+ (Destruction.begin before).journal :=
    (Session.suffix_note _ _).trans (h.began.trans (List.suffix_cons _ _))
  cases hpending : c.start.registry.hooks.get? id with
  | none => exact (h.rest.2 id).trans ((hspent.none_ran (hhooks ▸ hpending)).trans hcount)
  | some hook =>
    have hkey : id ∈ before.registry.hooks.keys.reverse := by
      rw [List.mem_reverse, ← Store.contains_iff_mem_keys, Store.contains, h.registry_before, hpending]
      rfl
    have hgone := Destruction.collect_gone (onCourse_ofDepth c.depth)
      (h.doing_begin hop) h.hooks hclosed hquiet hidle id hkey
    exact (hspent.ran (hhooks ▸ hpending) hgone).mono hbefore hcount h.rest.1 (h.rest.2 id)

end Call.Pass

/-! ## Whole runs -/

/-- When a call begins after one whose pass it is, the registry is not active any more. -/
theorem Call.Pass.inactive {c d : Call} {before after : Session} {report : Report} {s : Session}
    (h : c.Pass before after report) (hop : c.op.endsAll = true)
    (hranks : s.moments.Pairwise fun later earlier =>
      earlier.lifecycle.rank ≤ later.lifecycle.rank)
    (hc : c.stop.journal <:+ s.journal) (hd : d.stop.journal <:+ s.journal)
    (hlater : (c.start.note (.began c.op)).journal <:+ d.start.journal) :
    d.start.registry.lifecycle ≠ .active := by
  have hbegin : (Destruction.begin before).journal <:+ s.journal :=
    (h.course hop).suffix.trans (h.rest.1.trans hc)
  have hcall : (d.start.note (.began d.op)).journal <:+ s.journal := d.course.suffix.trans hd
  rcases List.suffix_or_suffix_of_suffix hbegin hcall with hbefore | hafter
  · -- the destruction was announced when the later call began
    rcases List.suffix_cons_iff.1 hbefore with heq | hbefore
    · cases heq
    · have hrank := Session.entries_of_moments hranks hcall (hbefore.subset List.mem_cons_self)
      intro hactive
      have hnot : ¬ Lifecycle.destroying.rank ≤ Lifecycle.active.rank := by decide
      exact hnot (hactive ▸ hrank)
  · -- no call begins between the beginning of the first one and that announcement
    exfalso
    have hlength : c.start.journal.length + 1 ≤ d.start.journal.length := hlater.length_le
    have hnot : ¬ (d.start.note (.began d.op)).journal <:+ (c.start.note (.began c.op)).journal := by
      intro hshort
      have hshorter : d.start.journal.length + 1 ≤ c.start.journal.length + 1 := hshort.length_le
      omega
    rcases List.suffix_cons_iff.1 hafter with heq | hafter
    · cases heq
    · rcases h.start with rfl | rfl
      · exact hnot hafter
      · rcases List.suffix_cons_iff.1 hafter with heq | hafter
        · cases heq
        · exact hnot hafter

/-- **The destruction of a registry comes to its end**, whatever its hooks do.  In every script the
    lifecycle only advances, and a registry is being destroyed only while a call that destroys it is
    under way.  Such a call, when it begins in an active registry and ends, succeeds and leaves a
    destroyed registry with nothing in it but the exclusions that the hooks left; every one that
    begins after that, inside or later, reports nothing and changes nothing.  If no hook is
    registered meanwhile, each hook that was there ran once, and no other one did. -/
theorem destruction_completes {script : Script} {depth : Nat} {outcome : Outcome Cause Unit}
    {s : Session} (h : script.runWithin depth = some (outcome, s))
    (hstart : script.registry.lifecycle ≠ .destroying) :
    (s.moments.Pairwise fun later earlier => earlier.lifecycle.rank ≤ later.lifecycle.rank) ∧
    (∀ later e earlier, s.journal = later ++ e :: earlier → e.registry.lifecycle = .destroying →
      ∃ f ∈ Frame.after earlier, f.op.endsAll = true) ∧
    s.registry.lifecycle ≠ .destroying ∧
    s.EveryCall fun c _ => c.op.endsAll = true →
      (c.start.registry.lifecycle ≠ .active →
        c.result = .ok (.report {}) ∧ c.stop.registry = c.start.registry) ∧
      (c.start.registry.lifecycle = .active →
        (∃ before after report, c.Pass before after report ∧
          c.stop.registry.marks.excluded = after.registry.marks.excluded) ∧
        c.stop.registry.lifecycle = .destroyed ∧ c.stop.registry.Bare ∧
        (s.EveryCall fun d _ => d.op.endsAll = true →
          (c.start.note (.began c.op)).journal <:+ d.start.journal →
            d.result = .ok (.report {}) ∧ d.stop.registry = d.start.registry) ∧
        (c.stop.registrations = c.start.registrations → ∀ id,
          match c.start.registry.hooks.get? id with
          | some hook => RanOnce id hook c.start c.stop
          | none => c.stop.disposals id = c.start.disposals id)) := by
  have hcourse := Script.course h
  have hranks := hcourse.ranks.moments rfl
  obtain ⟨hdestroys, hend⟩ := hcourse.destroys
  refine ⟨hranks, ?_, fun hs => hstart (hend hs), ?_⟩
  · intro later e earlier hjournal he
    rcases hdestroys.all rfl hjournal he with hlifecycle | hframe
    · exact absurd hlifecycle hstart
    · exact hframe
  · refine Script.everyCall h fun c asStep later hjournal hop => ?_
    have hc : c.stop.journal <:+ s.journal :=
      (Session.suffix_note _ _).trans ⟨later, hjournal.symm⟩
    rcases Call.endsAll_inv hop with ⟨hover, hresult, hstop⟩ |
        ⟨hactive, before, after, report, hpass⟩
    · exact ⟨fun _ => ⟨hresult, hstop⟩, fun hactive => absurd hactive hover⟩
    · refine ⟨fun hover => absurd hactive hover, fun _ => ⟨?_, ?_, hpass.bare, ?_, ?_⟩⟩
      · refine ⟨before, after, report, hpass, ?_⟩
        rw [hpass.stop]
        rfl
      · rw [hpass.stop]
      · refine Script.everyCall h fun d asStep' later' hjournal' hop' hlater => ?_
        have hd : d.stop.journal <:+ s.journal :=
          (Session.suffix_note _ _).trans ⟨later', hjournal'.symm⟩
        have hover := hpass.inactive hop hranks hc hd hlater
        rcases Call.endsAll_inv hop' with ⟨_, hresult, hstop⟩ | ⟨hactive', _⟩
        · exact ⟨hresult, hstop⟩
        · exact absurd hactive' hover
      · exact hpass.ran_once hop

/-- A lamp whose construction destroys everything.  The hook of the stand destroys the shade, whose
    own hook panics, then everything again, and fails. -/
def lightsOut : Script where
  registry := {}
  steps :=
    [.step (.registerHook "shade" (.scripted "shade" [] (.panic (.saying "crack")))) true none,
      .step (.registerHook "stand" (.scripted "stand"
        [.step (.destroyOne "shade") true none, .step .destroyAll true none] (.fail "stuck")))
        true none,
      .step (.getOrCreate "lamp" (.scripted "lamp" [.step .destroyAll true none] .same)) false none,
      .step .shutdown true none]

/-- Both hooks run once, and nothing is left. -/
theorem destruction_completes_lightsOut :
    ∃ outcome s, lightsOut.runWithin 4 = some (outcome, s) ∧
      lightsOut.registry.lifecycle ≠ .destroying ∧ s.registry.lifecycle = .destroyed ∧
      s.disposals "shade" = 1 ∧ s.disposals "stand" = 1 ∧
      s.EveryCall fun c _ => c.op.endsAll = true → c.start.registry.lifecycle = .active →
        c.stop.registry.Bare ∧ (c.stop.registrations = c.start.registrations → ∀ id,
          match c.start.registry.hooks.get? id with
          | some hook => RanOnce id hook c.start c.stop
          | none => c.stop.disposals id = c.start.disposals id) := by
  have hends : ∃ outcome s, lightsOut.runWithin 4 = some (outcome, s) ∧
      s.registry.lifecycle = .destroyed ∧ s.disposals "shade" = 1 ∧ s.disposals "stand" = 1 :=
    Script.ends_of_check (by decide +kernel)
  obtain ⟨outcome, s, hrun, hended, hshade, hstand⟩ := hends
  have hcalls := (destruction_completes hrun nofun).2.2.2
  refine ⟨outcome, s, hrun, nofun, hended, hshade, hstand, hcalls.imp ?_⟩
  intro c later h hop hactive
  obtain ⟨-, -, hbare, -, hran⟩ := (h hop).2 hactive
  exact ⟨hbare, hran⟩

end InstanceRegistry
