import InstanceRegistry.Proofs.Courses.Lookups
import InstanceRegistry.Proofs.Creation.Retention

/-!
  One early reference per creation.

  While an identifier is being created, the first lookup that finds its factory takes it out and runs
  it.  From then on the identifier is DRAINED as long as nobody offers another factory for it: no later
  lookup finds one to run, and the reference that the first lookup keeps in the end is the only one
  that can be there.  Everything that is done meanwhile can only take it away, which is true of removal
  and destruction as well, so nothing need be assumed of these.

  What a lookup hands out is a finished instance or an early reference.  There is no finished instance
  in the meantime, for in a regular session the identifier is barred from being bound, by its mark or,
  if the registry was ended, by its lifecycle.

  Mathlib-free.
-/

namespace InstanceRegistry

/-! ## Drained -/

/-- A factory of an identifier is offered, under whatever name. -/
def Entry.Offers (x : Ident) (e : Entry) : Prop :=
  ∃ given factory, e.event = .began (.registerFactory given factory) ∧
    e.registry.accept given = .ok x

/-- An identifier has no factory left, and no early reference but the one that is held, if any. -/
structure Registry.Drained (x : Ident) (held : Option Instance) (r : Registry) : Prop where
  factory : r.factories.get? x = none
  early : ∀ v, r.early.get? x = some v → held = some v

/-- The factory of an identifier stays what it is or goes, and so does its early reference. -/
structure Registry.Fades (x : Ident) (r r' : Registry) : Prop where
  factory : r'.factories.get? x = r.factories.get? x ∨ r'.factories.get? x = none
  early : r'.early.get? x = r.early.get? x ∨ r'.early.get? x = none

/-- What is taken out of a store is gone, and the rest is as it was. -/
theorem Store.erase_fades {α : Type} (st : Store α) (id x : Ident) :
    (st.erase id).get? x = st.get? x ∨ (st.erase id).get? x = none := by
  by_cases hid : x = id
  · rw [hid]
    exact .inr (st.get?_erase_self id)
  · exact .inl (st.get?_erase_of_ne hid)

namespace Registry

variable {r r' : Registry} {x id : Ident} {held : Option Instance}

namespace Fades

theorem of_eq (hfactories : r'.factories = r.factories) (hearly : r'.early = r.early) :
    r.Fades x r' where
  factory := .inl (by rw [hfactories])
  early := .inl (by rw [hearly])

/-- A factory that is offered for somebody else. -/
theorem offerFactory (r : Registry) (hne : id ≠ x) (factory : Routine) :
    r.Fades x (r.offerFactory id factory) := by
  rw [Registry.offerFactory]
  cases r.finished.contains id with
  | true => exact of_eq rfl rfl
  | false => exact ⟨.inl (Store.get?_insert_of_ne _ hne.symm _), r.early.erase_fades id x⟩

theorem takeFactory (r : Registry) (id : Ident) : r.Fades x (r.takeFactory id) :=
  ⟨r.factories.erase_fades id x, .inl rfl⟩

theorem commit {made : Instance} (h : r.commit id made = .ok r') : r.Fades x r' := by
  obtain ⟨-, rfl⟩ := Registry.commit_eq h
  exact ⟨r.factories.erase_fades id x, r.early.erase_fades id x⟩

theorem drops (h : r.Drops r') : r.Fades x r' := by
  cases h with
  | one id => exact ⟨r.factories.erase_fades id x, r.early.erase_fades id x⟩
  | all => exact ⟨.inr rfl, .inr rfl⟩

theorem openCreation {outermost : Bool} (h : r.openCreation id = .ok (outermost, r')) :
    r.Fades x r' := by
  obtain ⟨_, -, ⟨-, -, rfl⟩ | ⟨_, -, -, rfl⟩⟩ := Registry.openCreation_eq h
  · exact of_eq rfl rfl
  · exact of_eq rfl rfl

end Fades

namespace Drained

theorem fades (h : r.Drained x held) (hfades : r.Fades x r') : r'.Drained x held where
  factory := by
    rcases hfades.factory with heq | hnone
    · rw [heq]
      exact h.factory
    · exact hnone
  early v hv := by
    rcases hfades.early with heq | hnone
    · rw [heq] at hv
      exact h.early v hv
    · rw [hnone] at hv
      cases hv

/-- Somebody else's early reference is kept. -/
theorem expose (h : r.Drained x held) (hne : id ≠ x) (early : Instance) :
    (r.expose id early).Drained x held where
  factory := h.factory
  early v hv := h.early v ((Store.get?_insert_of_ne _ hne.symm early).symm.trans hv)

/-- The first early reference is kept, and is held from then on. -/
theorem hold (h : r.Drained x none) (early : Instance) : (r.expose x early).Drained x (some early) where
  factory := h.factory
  early _ hv := (Store.get?_insert_self _ x early).symm.trans hv

/-- Whoever holds none may hold any. -/
theorem weaken (h : r.Drained x none) : r.Drained x held where
  factory := h.factory
  early _ hv := nomatch h.early _ hv

/-- A drained identifier is not ripe. -/
theorem not_ripe (h : r.Drained x held) : ¬ r.Ripe x := by
  intro hripe
  obtain ⟨factory, hfactory⟩ := hripe.pending
  rw [h.factory] at hfactory
  cases hfactory

end Drained

/-- The factory of a ripe identifier is the last there is. -/
theorem Ripe.drained (h : r.Ripe x) : (r.takeFactory x).Drained x none where
  factory := Store.get?_erase_self _ x
  early _ hv := nomatch h.unexposed.symm.trans hv

end Registry

/-! ### Courses -/

/-- Since a lookup that taps, any factory that is offered is for somebody else. -/
theorem Session.Shift.fades {o s : Session} {x : Ident} {r : Registry} (h : s.Shift r)
    (ho : o.Taps x) (hos : o.journal <:+ s.journal) (hquiet : Newly (fun e _ => ¬ e.Offers x) o s) :
    s.registry.Fades x r := by
  cases h with
  | @offerFactory given id factory hbegins haccept =>
    refine .offerFactory _ ?_ factory
    rintro rfl
    obtain ⟨rest, hrest⟩ := hbegins
    rw [hrest] at hos
    have hoffer : (⟨.began (.registerFactory given factory), s.registry⟩ :: rest) <:+ s.journal :=
      hrest ▸ List.suffix_rfl
    rcases hquiet _ rest hoffer with hold | hnot
    · -- the entry of the lookup would be that of the offer
      obtain ⟨e, rest', hjournal, -, hlooks, -⟩ := ho
      have heq := hos.eq_of_length_le hold.length_le
      rw [hjournal] at heq
      cases heq
      cases hlooks
    · exact hnot ⟨given, factory, rfl, haccept⟩
  | takeFactory id => exact .takeFactory _ id
  | @storeProduct id product _ _ =>
    rw [Registry.storeProduct_eq]
    exact .of_eq rfl rfl
  | suppress _ _ | graph _ | aliases _ | keepHook _ _ => exact .of_eq rfl rfl

theorem Creation.Closes.fades {x id : Ident} {outermost : Bool} {t u : Session}
    {ending : Outcome Cause Instance} {outcome : Outcome Failure Instance}
    (h : Creation.Closes id outermost t ending outcome u) : t.registry.Fades x u.registry := by
  have habandon := Registry.abandonCreation_eq t.registry outermost id
  cases h with
  | bound _ hcommit =>
    rw [habandon] at hcommit
    exact ⟨(Registry.Fades.commit hcommit).factory, (Registry.Fades.commit hcommit).early⟩
  | recovered _ | failed _ _ | mismatched _ _ =>
    rw [habandon]
    exact ⟨t.registry.factories.erase_fades id x, t.registry.early.erase_fades id x⟩
  | stuck _ | occupied _ _ | unwound =>
    rw [habandon]
    exact .of_eq rfl rfl

section

variable {x : Ident} {held : Option Instance} {s t u : Session}

/-- One change that lets things fade, and then perhaps an entry. -/
theorem Throughout.fading (hx : s.registry.Drained x held) (hfades : s.registry.Fades x t.registry)
    (h : t = s.put t.registry ∨ ∃ event, t = (s.put t.registry).note event) :
    Throughout (·.Drained x held) s t := by
  have ht := hx.fades hfades
  have hput : Throughout (·.Drained x held) s (s.put t.registry) := .of_eq ht rfl
  rcases h with hsame | ⟨event, hnote⟩
  · rw [hsame]
    exact hput
  · rw [hnote]
    exact hput.trans (.note (s := s.put t.registry) ht event)

/-- Somebody else's early reference is announced and kept. -/
theorem Throughout.exposing {id : Ident} (hx : t.registry.Drained x held) (hne : id ≠ x)
    (early : Instance) :
    Throughout (·.Drained x held) t
      ((t.note (.noticed (.exposing id))).put (t.registry.expose id early)) :=
  (Throughout.note hx _).trans (.of_eq (hx.expose hne early) rfl)

/-- What is left when the hooks have run fades altogether. -/
theorem Destruction.Empties.drained (h : Destruction.Empties t u) (hx : t.registry.Drained x held) :
    Throughout (·.Drained x held) t (u.put { u.registry with lifecycle := .destroyed }) := by
  have hempty : t.registry.Fades x t.registry.empty := ⟨.inr rfl, .inr rfl⟩
  have hemptied : Throughout (·.Drained x held) t u := by
    cases h with
    | silently => exact .fading hx hempty (.inl rfl)
    | reporting ids => exact .fading hx hempty (.inr ⟨_, rfl⟩)
  exact hemptied.trans (.of_eq (hemptied.2.fades (.of_eq rfl rfl)) rfl)

end

namespace Course

variable {x : Ident} {o s t : Session} {exit : Exit}

/-- **Who is drained stays drained** while no factory is offered for it. -/
theorem drained {held : Option Instance} (h : Course s t exit) (ho : o.Taps x)
    (hos : o.journal <:+ s.journal) (hquiet : Newly (fun e _ => ¬ e.Offers x) o t)
    (hx : s.registry.Drained x held) : Throughout (·.Drained x held) s t := by
  induction h with
  | rest s => exact .of_eq hx rfl
  | next first second ih ih' =>
    have hfirst := ih hos (hquiet.between List.suffix_rfl second.suffix) hx
    exact hfirst.trans (ih' (hos.trans first.suffix) hquiet hfirst.2)
  | aside hregistry hjournal => exact .of_eq (hregistry ▸ hx) hjournal
  | note _ | enter _ | announce _ _ _ => exact .note hx _
  | @expose s t id early htaps _ ih =>
    have hne : id ≠ x := by
      rintro rfl
      exact hx.not_ripe htaps.ripe
    have htaking : Throughout (·.Drained x held) s (s.put (s.registry.takeFactory id)) :=
      .fading hx (.takeFactory _ id) (.inl rfl)
    have hfactory := ih hos (hquiet.between List.suffix_rfl (t.suffix_note _)) htaking.2
    exact htaking.trans (hfactory.trans (.exposing hfactory.2 hne early))
  | call c _ _ _ ih =>
    have hinside := ih (hos.trans (List.suffix_cons _ _))
      (hquiet.between List.suffix_rfl (c.stop.suffix_note _)) hx
    exact (Throughout.note hx _).trans (hinside.trans (.note hinside.2 _))
  | shift h => exact .fading hx (h.fades ho hos hquiet) (.inl rfl)
  | drop _ h => exact .fading hx (.drops h) (.inl rfl)
  | exclude _ _ | setMarks _ _ => exact .fading hx (.of_eq rfl rfl) (.inl rfl)
  | register _ _ _ _ hcommit => exact .fading hx (.commit hcommit) (.inl rfl)
  | @create s t u id outermost r _ _ _ _ _ hmark inside _ hclose ih =>
    have hopened : r.Drained x held := hx.fades (.openCreation hmark)
    have hopening : Throughout (·.Drained x held) s ((s.note (.noticed (.creating id))).put r) :=
      (Throughout.note hx _).trans (.of_eq hopened rfl)
    have hcallback := ih (hos.trans (List.suffix_cons _ _))
      (hquiet.between List.suffix_rfl hclose.suffix) hopened
    exact hopening.trans (hcallback.trans (.fading hcallback.2 hclose.fades hclose.split))
  | @process s t id marks products _ _ _ _ ih =>
    have hopening : Throughout (·.Drained x held) s (s.put { s.registry with marks }) :=
      .fading hx (.of_eq rfl rfl) (.inl rfl)
    have hinside := ih hos hquiet hopening.2
    exact hopening.trans (hinside.trans (.fading hinside.2 (.of_eq rfl rfl) (.inl rfl)))
  | @dispose s t id hook _ _ ih =>
    have htaking : Throughout (·.Drained x held) s
        (s.put { s.registry with hooks := s.registry.hooks.erase id }) :=
      .fading hx (.of_eq rfl rfl) (.inl rfl)
    have hbefore := ih hos (hquiet.between List.suffix_rfl (t.suffix_note_note _ _)) htaking.2
    have hnotice : Throughout (·.Drained x held) t (t.note (.noticed (.disposing id))) :=
      .note hbefore.2 _
    exact htaking.trans (hbefore.trans (hnotice.trans (.note hnotice.2 _)))
  | @destroy s t u _ _ _ hrest ih =>
    have hclosing : Throughout (·.Drained x held) s
        (s.put { s.registry with lifecycle := .destroying }) :=
      .fading hx (.of_eq rfl rfl) (.inl rfl)
    have hhooks := ih hos (hquiet.between List.suffix_rfl hrest.suffix) hclosing.2
    exact hclosing.trans (hhooks.trans (hrest.drained hhooks.2))

end Course

/-- A lookup that taps leaves its identifier drained, with the reference that it made held if it made
    one. -/
theorem Call.drains {c : Call} {o : Session} {x : Ident} (ho : o.Taps x)
    (hbegan : o.journal = (c.start.note (.began c.op)).journal)
    (hquiet : Newly (fun e _ => ¬ e.Offers x) o c.stop) :
    ∃ held, Throughout (·.Drained x held) o c.stop := by
  obtain ⟨e, rest, hjournal, -, hlooks, hripe⟩ := id ho
  rw [hjournal] at hbegan
  cases hbegan
  obtain ⟨given, hop, rfl⟩ := Entry.looksUp_iff.1 hlooks
  obtain ⟨outcome, hdoes, -⟩ := Call.looks (Event.began.inj hop)
  obtain ⟨factory, ending, t, hfactory, hend⟩ := hdoes.runs hripe
  have hcourse := (onCourse_ofDepth c.depth).expose factory _ _ _ hfactory
  have ht : t.journal <:+ c.stop.journal := by
    rcases hend with ⟨_, -, hstop⟩ | hstop
    · rw [hstop]
      exact t.suffix_note _
    · exact hstop ▸ List.suffix_rfl
  have hinside := (hcourse.drained ho (hjournal ▸ List.suffix_rfl)
    (hquiet.between List.suffix_rfl ht) hripe.drained).congr hjournal
  rcases hend with ⟨v, -, hstop⟩ | hstop
  · refine ⟨some v, ?_⟩
    rw [hstop]
    exact (hinside.imp fun _ h => h.weaken).trans
      ((Throughout.note hinside.2.weaken _).trans (.of_eq (hinside.2.hold v) rfl))
  · rw [hstop]
    exact ⟨none, hinside⟩

/-- No lookup before that of a session `o` taps an identifier, as far back as to a journal. -/
def Session.TapsFirst (o : Session) (x : Ident) (back : List Entry) : Prop :=
  ∀ u : Session, u.Taps x → back <:+ u.journal → u.journal <:+ o.journal → u.journal = o.journal

theorem Session.TapsFirst.of_inside {o : Session} {x : Ident} {e : Entry} {inside back : List Entry}
    (hjournal : o.journal = e :: (inside ++ back))
    (hback : ∀ e' ∈ back.head?, e'.looksUp x = false) (hfirst : ∀ e' ∈ inside, ¬ e'.Taps x) :
    o.TapsFirst x back := by
  rintro u ⟨e', rest, hu, -, htaps⟩ hbu huo
  rw [hu] at hbu huo ⊢
  rw [hjournal] at huo ⊢
  rcases List.suffix_cons_iff.1 huo with heq | hbefore
  · exact heq
  rcases Entry.mem_or_suffix hbefore with hmem | hold
  · exact absurd htaps (hfirst e' hmem)
  · have hlooks := hback e' (hbu.eq_of_length_le hold.length_le ▸ rfl)
    rw [htaps.1] at hlooks
    cases hlooks

/-- **The first lookup that taps drains an identifier**, from its beginning to the end of any course
    that goes on. -/
theorem Course.drains {x : Ident} {o s t : Session} {back : List Entry} {exit : Exit}
    (h : Course s t exit) (ho : o.Taps x) (hfirst : o.TapsFirst x back)
    (hback : back <:+ s.journal) (hnew : ¬ o.journal <:+ s.journal) (hot : o.journal <:+ t.journal)
    (hquiet : Newly (fun e _ => ¬ e.Offers x) o t) :
    ∃ held, Throughout (·.Drained x held) o t := by
  induction h with
  | rest s => exact absurd hot hnew
  | @next s t u exit first second ih ih' =>
    by_cases hmiddle : o.journal <:+ t.journal
    · obtain ⟨held, hdrained⟩ :=
        ih hback hnew hmiddle (hquiet.between List.suffix_rfl second.suffix)
      exact ⟨held, hdrained.trans (second.drained ho hmiddle hquiet hdrained.2)⟩
    · exact ih' (hback.trans first.suffix) hmiddle hot hquiet
  | aside _ hjournal => exact absurd (hjournal ▸ hot) hnew
  | note haside => exact absurd (ho.old (.note (Entry.looksUp_of_isAside haside)) hot) hnew
  | enter _ | announce _ _ _ => exact absurd (ho.old (.note rfl) hot) hnew
  | @expose s t id early htaps inside ih =>
    have hsuffix := t.suffix_note (.noticed (.exposing id))
    have hinside : o.journal <:+ t.journal := ho.old (.note rfl) hot
    have hne : id ≠ x := by
      rintro rfl
      -- the lookup that exposes it would be an earlier one that taps
      rcases List.suffix_or_suffix_of_suffix hinside inside.suffix with hos | hso
      · exact hnew hos
      · exact hnew (hfirst s htaps hback hso ▸ List.suffix_rfl)
    obtain ⟨held, hdrained⟩ :=
      ih hback hnew hinside (hquiet.between List.suffix_rfl hsuffix)
    exact ⟨held, hdrained.trans (.exposing hdrained.2 hne early)⟩
  | call c asStep _ inside ih =>
    have hstop : o.journal <:+ c.stop.journal := ho.old (.note rfl) hot
    have hquiet' := hquiet.between List.suffix_rfl (c.stop.suffix_note (.done c.op asStep c.result))
    have hcall : ∃ held, Throughout (·.Drained x held) o c.stop := by
      by_cases hbegan : o.journal <:+ (c.start.note (.began c.op)).journal
      · rcases List.suffix_cons_iff.1 hbegan with hself | hbefore
        · exact Call.drains ho hself hquiet'
        · exact absurd hbefore hnew
      · exact ih (hback.trans (c.start.suffix_note _)) hbegan hstop hquiet'
    obtain ⟨held, hdrained⟩ := hcall
    exact ⟨held, hdrained.trans (.note hdrained.2 _)⟩
  | shift _ | drop _ _ | exclude _ _ | setMarks _ _ | register _ _ _ _ _ => exact absurd hot hnew
  | @create s t u id outermost r _ _ _ _ _ _ inside _ hclose ih =>
    have hinside : o.journal <:+ t.journal :=
      ho.old (hclose.newly fun _ haside => Entry.looksUp_of_isAside haside) hot
    have hnew' : ¬ o.journal <:+ ((s.note (.noticed (.creating id))).put r).journal :=
      fun hold => hnew (ho.old (.note (s := s) rfl) hold)
    obtain ⟨held, hdrained⟩ := ih (hback.trans (s.suffix_note _)) hnew' hinside
      (hquiet.between List.suffix_rfl hclose.suffix)
    exact ⟨held, hdrained.trans (.fading hdrained.2 hclose.fades hclose.split)⟩
  | process _ _ _ _ ih =>
    obtain ⟨held, hdrained⟩ := ih hback hnew hot hquiet
    exact ⟨held, hdrained.trans (.fading hdrained.2 (.of_eq rfl rfl) (.inl rfl))⟩
  | @dispose s t id hook _ _ ih =>
    have hentries : Newly (fun e _ => e.looksUp x = false) t
        ((t.note (.noticed (.disposing id))).note (hook.entry .disposal)) :=
      .trans (.note rfl) (.note (Routine.looksUp_entry x .disposal hook _))
    obtain ⟨held, hdrained⟩ := ih hback hnew (ho.old hentries hot)
      (hquiet.between List.suffix_rfl (t.suffix_note_note _ _))
    have hnotice : Throughout (·.Drained x held) t (t.note (.noticed (.disposing id))) :=
      .note hdrained.2 _
    exact ⟨held, hdrained.trans (hnotice.trans (.note hnotice.2 _))⟩
  | @destroy s t u _ _ _ hrest ih =>
    have hinside : o.journal <:+ t.journal :=
      ho.old (hrest.newly fun _ haside => Entry.looksUp_of_isAside haside) hot
    obtain ⟨held, hdrained⟩ :=
      ih hback hnew hinside (hquiet.between List.suffix_rfl hrest.suffix)
    exact ⟨held, hdrained.trans (hrest.drained hdrained.2)⟩

/-! ## One factory, one reference -/

open Journal (factoryRuns)

section

variable {x : Ident} {o s t : Session} {held : Option Instance}

/-- Since the first lookup that taps a factory runs: that one's, and no other. -/
theorem Throughout.factoryRuns (h : Throughout (·.Drained x held) o t) (ho : o.Taps x)
    (hot : o.journal <:+ t.journal) (hcompleted : Newly (Entry.Completed t) s t)
    (hso : s.journal <:+ o.journal.tail) :
    factoryRuns x t.journal = factoryRuns x o.journal + 1 := by
  obtain ⟨e, earlier, hjournal, -, htaps⟩ := ho
  rw [hjournal] at hot hso ⊢
  obtain ⟨e', hstarts, he'⟩ := (hcompleted.after hot hso).starts htaps
  obtain ⟨later, hlater⟩ := he'
  have hafter : ∀ e₁ e₂ rest, (e₁ :: e₂ :: rest) <:+ later ++ e' :: e :: earlier →
      (e' :: e :: earlier) <:+ e₂ :: rest → e₂.looksUp x = true → e₁.event.starts = false := by
    intro e₁ e₂ rest hentries hbase hlooks
    rw [hlater] at hentries
    have hinner : (e₂ :: rest) <:+ t.journal := (List.suffix_cons _ _).trans hentries
    rcases List.suffix_cons_iff.1 hbase with heq | hrest
    · -- the start of the factory is no beginning of a lookup
      obtain ⟨given, hevent, -⟩ := Entry.looksUp_iff.1 hlooks
      cases heq
      rw [hevent] at hstarts
      cases hstarts
    · have horest : o.journal <:+ rest := hjournal ▸ (List.suffix_cons _ _).trans hrest
      have hdrained := h.at_entry hinner horest
      have hsrest : s.journal <:+ rest :=
        hso.trans ((List.suffix_cons _ _).trans ((List.suffix_cons _ _).trans hrest))
      exact (hcompleted.after hinner hsrest).silent hlooks hdrained.not_ripe hentries
  rw [← hlater, Journal.factoryRuns_append hafter (List.cons_ne_nil _ _), Journal.factoryRuns,
    hstarts, List.head?_cons, Option.any_some, htaps.1]
  rfl

/-- Since then no lookup hands out anything but the reference that is held, if nothing is finished
    meanwhile. -/
theorem Throughout.handed_out (h : Throughout (·.Drained x held) o t)
    (hfree : Throughout (·.Barred x) s t) (hso : s.journal <:+ o.journal) {c : Call} {asStep : Bool}
    (hends : (c.stop.note (.done c.op asStep c.result)).journal <:+ t.journal)
    (hoc : o.journal <:+ c.stop.journal) {given : Ident} {v : Instance} (hop : c.op = .get given)
    (hcanonical : c.start.registry.canonical given = x)
    (hresult : c.result = .ok (.found (some v))) : held = some v := by
  obtain ⟨outcome, hlooks, houtcome⟩ := Call.looks hop
  have hv : outcome = .ok (some v) := by
    rw [hresult] at houtcome
    cases outcome <;> cases houtcome
    rfl
  rw [hcanonical] at hlooks
  have hbarred := hfree.at_entry hends (hso.trans hoc)
  rcases hlooks.found hv with hfinished | hearly
  · rw [hbarred.free] at hfinished
    cases hfinished
  · exact (h.at_entry hends hoc).early v hearly

end

/-! ## Whole runs -/

open Operations (prepare)
open Creation (CallsBack)

/-- The callback of a creation call ended in the call's past. -/
theorem Call.callback_suffix {c : Call} {request : Request} {make : Routine} {id : Ident}
    {s t : Session} {ending : Outcome Cause Instance}
    (hop : c.op.creation? = some (request, make))
    (hprepare : prepare request (c.start.note (.began c.op)) = some (.ok id, s))
    (hcalls : CallsBack (.ofDepth c.depth) id make s ending t) : t.journal <:+ c.stop.journal := by
  rcases Call.creation_inv hop with ⟨_, _, _, hprepare', -, hcreation, -⟩ | ⟨_, hrefused, -⟩
  · rw [hprepare] at hprepare'
    cases hprepare'
    obtain ⟨_, hclose⟩ := hcalls.closes hcreation
    exact hclose.suffix
  · rw [hprepare] at hrefused
    cases hrefused

/-- In a regular session a callback takes a course throughout which its identifier is barred, if that
    is subject to the check. -/
theorem Creation.CallsBack.barred {depth : Nat} {id : Ident} {make : Routine} {s t : Session}
    {ending : Outcome Cause Instance} (h : CallsBack (.ofDepth depth) id make s ending t)
    (hregular : t.Regular) (hchecked : s.registry.marks.isExcluded id = false) :
    ∃ opened : Session, opened.journal = (s.note (.noticed (.creating id))).journal ∧
      Course opened t ∧ Throughout (·.Barred id) opened t := by
  obtain ⟨hfree, -, outermost, r, hmark, hcallback⟩ := h
  have hcourse : Course ((s.note (.noticed (.creating id))).put r) t :=
    (onCourse_ofDepth depth).construct make _ ⟨id, _, _, rfl⟩ _ _ hcallback
  have hopened : r.Underway id := .opened hmark hfree hchecked
  exact ⟨(s.note (.noticed (.creating id))).put r, rfl, hcourse,
    hcourse.barred hregular ⟨hopened.free, fun _ => hopened⟩⟩

/-- An entry in a session's journal is the first after that of an earlier one which says that a lookup
    taps an identifier.  The `later` entries came after it, the `earlier` ones before it. -/
structure FirstTap (id : Ident) (s t : Session) (later : List Entry) (e : Entry)
    (earlier : List Entry) : Prop where
  journal : t.journal = later ++ e :: earlier
  taps : e.Taps id
  first : ∃ inside, earlier = inside ++ s.journal ∧ ∀ e' ∈ inside, ¬ e'.Taps id

/-- **One early reference per creation.**  In a regular script, take the callback of a creation whose
    identifier is subject to the check, and the first lookup in it that finds the factory pending.
    If no factory is offered for the identifier from then on until the callback ends, however it ends,
    then everything that lookups of the identifier hand out in that time, under whatever name and
    from whatever callback, is one and the same instance, and exactly one early factory of it starts
    in that time, whatever becomes of that.  Nothing need be assumed of removals and destructions. -/
theorem one_early_reference {script : Script} {depth : Nat} {outcome : Outcome Cause Unit}
    {s : Session} (h : script.runWithin depth = some (outcome, s)) (hregular : s.Regular) :
    s.EveryCall fun c _ => ∀ request make id s₀ ending t,
      c.op.creation? = some (request, make) →
      prepare request (c.start.note (.began c.op)) = some (.ok id, s₀) →
      s₀.registry.marks.isExcluded id = false →
      CallsBack (.ofDepth c.depth) id make s₀ ending t →
      ∀ later e earlier, FirstTap id (s₀.note (.noticed (.creating id))) t later e earlier →
        (∀ e' ∈ later, ¬ e'.Offers id) →
          (∃ v, t.EveryCall fun c' _ => (e :: earlier) <:+ c'.stop.journal →
            ∀ given w, c'.op = .get given → c'.start.registry.canonical given = id →
              c'.result = .ok (.found (some w)) → w = v) ∧
          factoryRuns id t.journal = factoryRuns id (e :: earlier) + 1 := by
  refine Script.everyCall h fun c asStep afterwards hjournal => ?_
  rintro request make id s₀ ending t hop hprepare hchecked hcalls later e earlier
    ⟨hlater, htaps, inside, hearlier, hfirst⟩ hquiet
  have hts : t.journal <:+ s.journal :=
    ((Call.callback_suffix hop hprepare hcalls).trans (c.stop.suffix_note _)).trans
      ⟨afterwards, hjournal.symm⟩
  obtain ⟨opened, hopened, hcourse, hbarred⟩ := hcalls.barred (hregular.mono hts) hchecked
  have hback : opened.journal <:+ earlier := by
    rw [hopened, hearlier]
    exact List.suffix_append _ _
  -- the lookup as the session in which it has just begun
  obtain ⟨o, ho, hlookup⟩ : ∃ o : Session, o.Taps id ∧ o.journal = e :: earlier :=
    ⟨{ registry := e.registry, journal := e :: earlier }, ⟨e, earlier, rfl, rfl, htaps⟩, rfl⟩
  rw [← hlookup] at hlater ⊢
  have hot : o.journal <:+ t.journal := ⟨later, hlater.symm⟩
  have hnew : ¬ o.journal <:+ opened.journal := by
    intro hold
    have hlength := (hold.trans hback).length_le
    rw [hlookup] at hlength
    exact absurd hlength (Nat.not_succ_le_self _)
  have hbefore : o.TapsFirst id opened.journal := by
    refine .of_inside (hopened ▸ hearlier ▸ hlookup) (fun e' he' => ?_) hfirst
    rw [hopened] at he'
    cases he'
    rfl
  obtain ⟨held, hdrained⟩ :=
    hcourse.drains ho hbefore List.suffix_rfl hnew hot (.stretch hlater hquiet)
  constructor
  · refine ⟨held.getD ⟨0, none⟩, Script.everyCall_until h hts fun c' asStep' later' hdone hoc => ?_⟩
    intro given w hget hcanonical hresult
    have hbegan : opened.journal <:+ o.journal := hback.trans (hlookup ▸ List.suffix_cons _ _)
    rw [hdrained.handed_out hbarred hbegan ⟨later', hdone.symm⟩ hoc hget hcanonical hresult]
    rfl
  · refine hdrained.factoryRuns ho hot hcourse.completed ?_
    rw [hlookup]
    exact hback

/-- A lamp that is looked up by its own factory, by a shade whose construction fails, and by its own
    construction, which hands out what it found. -/
def lantern : Script where
  registry := {}
  steps :=
    [.step (.getOrCreate "lamp" (.scripted "lamp"
        [.step (.registerFactory "lamp"
            (.scripted "lamp" [.step (.get "lamp") false none] .same)) true none,
          .step (.getOrCreate "shade"
            (.scripted "shade" [.step (.get "lamp") true none] (.fail "torn"))) false none,
          .step (.get "lamp") true (some "found")]
        (.recall "found"))) true none]

/-- The factory of the lamp runs once, for the shade. -/
theorem one_early_reference_lantern :
    ∃ outcome s, lantern.runWithin 5 = some (outcome, s) ∧ s.Regular ∧
      (∃ e ∈ s.journal, e.Taps "lamp") ∧ factoryRuns "lamp" s.journal = 1 ∧
      s.registry.finished.contains "lamp" = true ∧
      s.EveryCall fun c _ => ∀ request make id s₀ ending t,
        c.op.creation? = some (request, make) →
        prepare request (c.start.note (.began c.op)) = some (.ok id, s₀) →
        s₀.registry.marks.isExcluded id = false →
        CallsBack (.ofDepth c.depth) id make s₀ ending t →
        ∀ later e earlier, FirstTap id (s₀.note (.noticed (.creating id))) t later e earlier →
          (∀ e' ∈ later, ¬ e'.Offers id) →
          factoryRuns id t.journal = factoryRuns id (e :: earlier) + 1 := by
  have hends : ∃ outcome s, lantern.runWithin 5 = some (outcome, s) ∧ s.Regular ∧
      (∃ e ∈ s.journal, e.Taps "lamp") ∧ factoryRuns "lamp" s.journal = 1 ∧
      s.registry.finished.contains "lamp" = true :=
    Script.ends_of_check (by decide +kernel)
  obtain ⟨outcome, s, hrun, hregular, htaps, hruns, hlamp⟩ := hends
  refine ⟨outcome, s, hrun, hregular, htaps, hruns, hlamp,
    (one_early_reference hrun hregular).imp fun c _ hc => ?_⟩
  intro request make id s₀ ending t hop hprepare hchecked hcalls later e earlier hfirst hquiet
  exact (hc request make id s₀ ending t hop hprepare hchecked hcalls later e earlier hfirst
    hquiet).2

end InstanceRegistry
