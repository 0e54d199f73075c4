import InstanceRegistry.Proofs.Courses.Entries

/-!
  Who is given a shared product.

  A shared product is kept for its identifier, and whoever asks later is given the one that is kept.
  A request that finds none has one made; and since the step may have asked for the same product, it
  looks again before it keeps what was made.  It does not look again after the post-processor, which
  may have asked as well.

  So a product stays as long as its identifier is finished, except that a request with processing may
  put another in its place that was UNDER WAY already when the product was kept.  It does just if it
  is answered with another one.  As long as the product stays, every request is answered with it.

  Mathlib-free.
-/

namespace InstanceRegistry

/-- What the last entry shows are the products that there are. -/
theorem Session.Shown.products {s : Session} (h : s.Shown) {e : Entry} {rest : List Entry}
    (hjournal : s.journal = e :: rest) : s.registry.products = e.registry.products := by
  obtain ⟨e', rest', hrest, marks, hregistry⟩ := h
  cases hjournal.symm.trans hrest
  rw [hregistry]

/-! ## How a request ends -/

namespace Production

/-- How a request for a product ends that was made in session `s`. -/
inductive Ends (id : Ident) (shared post : Bool) (s : Session) :
    Outcome Failure Instance → Session → Prop
  /-- Right after an entry.  A request for a shared product is given the one that is kept then, if
      one is. -/
  | shown {outcome : Outcome Failure Instance} {u : Session} (hshown : u.Shown)
      (hgiven : shared = true → id ∈ s.registry.finished.keys → ∀ q p, outcome = .ok q →
        u.registry.products.get? id = some p → q = p) : Ends id shared post s outcome u
  /-- With a product that is kept right after an entry.  There was none when the request was made; if
      the product was not processed, there is still none. -/
  | keeping {product : Instance} {t u : Session} (hshared : shared = true)
      (hfinished : id ∈ s.registry.finished.keys) (hnone : s.registry.products.get? id = none)
      (hshown : t.Shown) (hagain : post = false → t.registry.products.get? id = none)
      (hkept : u = t.put (t.registry.storeProduct id product)) : Ends id shared post s (.ok product) u

namespace Ends

variable {id : Ident} {shared post : Bool} {s u : Session} {outcome : Outcome Failure Instance}

/-- A request that is not answered with a product keeps none. -/
theorem unanswered (hshown : u.Shown) (h : ∀ product, outcome ≠ .ok product) :
    Ends id shared post s outcome u :=
  .shown hshown fun _ _ q _ hq => absurd hq (h q)

/-- What is given is there, or nothing is. -/
theorem given {product : Instance} (hshown : u.Shown)
    (h : u.registry.products.get? id = some product ∨ u.registry.products.get? id = none) :
    Ends id shared post s (.ok product) u := by
  refine .shown hshown fun _ _ q p hq hp => ?_
  cases hq
  rcases h with hthere | hnone
  · rw [hthere] at hp
    exact Option.some.inj hp
  · rw [hnone] at hp
    cases hp

end Ends

variable {engine : Engine} {id : Ident} {step : Routine} {post : Bool} {s u : Session}
  {outcome : Outcome Failure Instance}

/-- Processing under the mark, where there was no product, and keeping what comes of it. -/
theorem keepProcessed_ends (hengine : engine.OnCourse) {product : Instance} {t : Session}
    (hfinished : id ∈ s.registry.finished.keys) (hnone : s.registry.products.get? id = none)
    (ht : t.Shown)
    (h : (postProcessMarked engine id product >>= keep id) t = some (outcome, u)) :
    Ends id true true s outcome u := by
  have hshown : ∀ {ending v}, postProcessMarked engine id product t = some (ending, v) → v.Shown := by
    intro ending v hwork
    rcases postProcessMarked_inv hwork with ⟨_, -, -, rfl⟩ | ⟨marks, _, t', -, hpost, rfl, -⟩
    · exact ht
    · exact (postProcess_shown hengine (ht.put_marks marks) hpost).put_marks _
  rcases Run.bind_inv h with ⟨processed, v, hwork, hkeep⟩ | ⟨_, hwork, rfl⟩ | ⟨_, hwork, rfl⟩
  · cases hkeep
    exact .keeping rfl hfinished hnone (hshown hwork) nofun rfl
  · exact .unanswered (hshown hwork) nofun
  · exact .unanswered (hshown hwork) nofun

theorem resolveShared_ends (hengine : engine.OnCourse) (hs : s.Shown)
    (hfinished : id ∈ s.registry.finished.keys)
    (h : resolveShared engine id step post s = some (outcome, u)) : Ends id true post s outcome u := by
  rw [resolveShared, Run.bind_ok (Run.registry_apply s)] at h
  cases hnone : s.registry.products.get? id with
  | some kept =>
    rw [hnone] at h
    cases h
    exact .given hs (.inl hnone)
  | none =>
    rw [hnone] at h
    rcases Run.bind_inv h with ⟨product, t, hstep, hrest⟩ | ⟨_, hstep, rfl⟩ | ⟨_, hstep, rfl⟩
    · have ht := produce_shown hengine hstep
      rw [Run.bind_ok (Run.registry_apply t)] at hrest
      cases hagain : t.registry.products.get? id with
      | some kept =>
        rw [hagain] at hrest
        cases hrest
        exact .given ht (.inl hagain)
      | none =>
        rw [hagain] at hrest
        cases post with
        | false =>
          cases hrest
          exact .keeping rfl hfinished hnone ht (fun _ => hagain) rfl
        | true =>
          cases hactive : t.registry.marks.isActive id with
          | true =>
            simp only [hactive] at hrest
            cases hrest
            exact .given (t.shown_note _) (.inr hagain)
          | false =>
            simp only [hactive] at hrest
            exact keepProcessed_ends hengine hfinished hnone ht hrest
    · exact .unanswered (produce_shown hengine hstep) nofun
    · exact .unanswered (produce_shown hengine hstep) nofun

/-- **How a request for a product ends.** -/
theorem resolve_ends (hengine : engine.OnCourse) {shared : Bool} (hs : s.Shown)
    (h : resolve engine id step shared post s = some (outcome, u)) :
    Ends id shared post s outcome u := by
  rw [resolve, Run.bind_ok (Run.registry_apply s)] at h
  cases hfound : shared && s.registry.finished.contains id with
  | true =>
    obtain ⟨rfl, hfinished⟩ := Bool.and_eq_true_iff.1 hfound
    rw [hfound] at h
    exact resolveShared_ends hengine hs (Store.contains_iff_mem_keys.1 hfinished) h
  | false =>
    rw [hfound] at h
    have hshown : u.Shown := by
      rcases Run.bind_inv h with ⟨product, t, hstep, hrest⟩ | ⟨_, hstep, -⟩ | ⟨_, hstep, -⟩
      · have ht := produce_shown hengine hstep
        cases post with
        | true => exact postProcess_shown hengine ht hrest
        | false =>
          cases hrest
          exact ht
      · exact produce_shown hengine hstep
      · exact produce_shown hengine hstep
    refine .shown hshown fun hshared hfinished => ?_
    rw [hshared, Store.contains_iff_mem_keys.2 hfinished] at hfound
    cases hfound

end Production

/-! ## Calls -/

namespace Call

/-- A call asks for the shared product of an identifier that is finished, under whatever name, and is
    given an instance. -/
def Shares (c : Call) (x : Ident) (post : Bool) (q : Instance) : Prop :=
  ∃ given step, c.op = .resolveProduct given step true post ∧
    c.start.registry.accept given = .ok x ∧ x ∈ c.start.registry.finished.keys ∧
    c.result = .ok (.found (some q))

/-- A call ends among some entries that come after others. -/
def EndsAmong (between earlier : List Entry) (c : Call) : Prop :=
  ∃ asStep later before,
    between = later ++ ⟨.done c.op asStep c.result, c.stop.registry⟩ :: before ∧
      c.stop.journal = before ++ earlier

variable {c : Call} {x : Ident}

/-- A call that asks for a product is refused, or ends as such requests do. -/
theorem resolveProduct_inv {given : Ident} {step : Routine} {shared post : Bool}
    (hop : c.op = .resolveProduct given step shared post) :
    (∃ id outcome, c.start.registry.accept given = .ok id ∧
        c.result = outcome.map (fun product => .found (some product)) ∧
        Production.Ends id shared post (c.start.note (.began c.op)) outcome c.stop) ∨
      ∃ failure, c.result = .error failure ∧ c.stop = c.start.note (.began c.op) := by
  obtain ⟨depth, op, start, result, stop, run⟩ := c
  cases hop
  obtain ⟨ending, hresolve, rfl⟩ := Run.map_inv run
  have hshown := start.shown_note (.began (.resolveProduct given step shared post))
  cases haccept : (start.note (.began (.resolveProduct given step shared post))).registry.accept
      given with
  | ok id =>
    rw [Operations.resolveProduct, Run.bind_ok (Operations.accept_eq haccept)] at hresolve
    exact .inl ⟨id, ending, haccept, rfl,
      Production.resolve_ends (onCourse_ofDepth depth) hshown hresolve⟩
  | error failure =>
    rw [Operations.resolveProduct, Run.bind_error (Operations.accept_eq haccept)] at hresolve
    cases hresolve
    exact .inr ⟨failure, rfl, rfl⟩

/-- What a request for a shared product is given is the one that is kept when it ends, if one is. -/
theorem Shares.eq_kept {post : Bool} {q p : Instance} (h : c.Shares x post q)
    (hfinished : x ∈ c.stop.registry.finished.keys)
    (hp : c.stop.registry.products.get? x = some p) : q = p := by
  obtain ⟨given, step, hop, haccept, hfound, hresult⟩ := h
  rcases resolveProduct_inv hop with ⟨id, outcome, hid, hending, hends⟩ | ⟨_, hno, -⟩
  · cases haccept.symm.trans hid
    have hok : outcome = .ok q := by
      rw [hresult] at hending
      cases outcome with
      | ok _ =>
        cases hending
        rfl
      | error _ | panic _ => cases hending
    cases hends with
    | shown _ hgiven => exact hgiven rfl hfound q p hok hp
    | @keeping product t _ _ _ _ _ _ hkept =>
      cases hok
      rw [hkept, Session.registry_put] at hfinished hp
      rw [Registry.finished_storeProduct] at hfinished
      rw [Registry.products_storeProduct_self _ hfinished] at hp
      exact Option.some.inj hp
  · rw [hresult] at hno
    cases hno

/-- A request for a product leaves what its last entry shows, or keeps the product that it is given:
    one that was processed, while there was none when the request was made. -/
theorem products_or_shares (hop : c.op.resolves = true) {e : Entry} {rest : List Entry}
    {p : Instance} (hlast : c.stop.journal = e :: rest) (hp : e.registry.products.get? x = some p)
    (hfinished : x ∈ c.stop.registry.finished.keys) :
    c.stop.registry.products.get? x = some p ∨
      ∃ q, c.Shares x true q ∧ c.start.registry.products.get? x = none ∧
        c.stop.registry.products.get? x = some q := by
  obtain ⟨given, step, shared, post, hop⟩ :
      ∃ given step shared post, c.op = .resolveProduct given step shared post := by
    cases hcase : c.op with
    | resolveProduct given step shared post => exact ⟨given, step, shared, post, rfl⟩
    | _ =>
      rw [hcase] at hop
      cases hop
  rcases resolveProduct_inv hop with ⟨id, outcome, haccept, hending, hends⟩ | ⟨_, -, hstop⟩
  · cases hends with
    | shown hshown _ => exact .inl (hshown.products hlast ▸ hp)
    | @keeping product t _ hshared hfound hnone hshown hagain hkept =>
      rw [hkept] at hlast
      have hbefore : t.registry.products.get? x = some p := hshown.products hlast ▸ hp
      rw [hkept, Session.registry_put] at hfinished ⊢
      rw [Registry.finished_storeProduct] at hfinished
      by_cases hx : x = id
      · subst hx
        cases post with
        | false =>
          rw [hagain rfl] at hbefore
          cases hbefore
        | true =>
          cases hshared
          exact .inr ⟨product, ⟨given, step, hop, haccept, hfound, hending⟩, hnone,
            Registry.products_storeProduct_self _ hfinished⟩
      · exact .inl ((Registry.products_storeProduct_of_ne _ hx).trans hbefore)
  · have hshown : c.stop.Shown := hstop ▸ c.start.shown_note _
    exact .inl (hshown.products hlast ▸ hp)

end Call

/-! ## Stretches -/

/-- From an entry to the next a product stays, or a request with processing ends that found none when
    it was made, and that is given another. -/
theorem Script.product_stays {script : Script} {depth : Nat} {outcome : Outcome Cause Unit}
    {s : Session} (h : script.runWithin depth = some (outcome, s)) {later rest : List Entry}
    {e e₁ : Entry} {x : Ident} {p : Instance} (hjournal : s.journal = later ++ e :: e₁ :: rest)
    (hp : e₁.registry.products.get? x = some p) (hfinished : x ∈ e.registry.finished.keys) :
    e.registry.products.get? x = some p ∨
      ∃ (c : Call) (asStep : Bool) (q : Instance),
        e = ⟨.done c.op asStep c.result, c.stop.registry⟩ ∧ c.stop.journal = e₁ :: rest ∧
          c.Shares x true q ∧ c.start.registry.products.get? x = none ∧
          e.registry.products.get? x = some q := by
  rcases (Script.follows h hjournal e₁ rest rfl).2 with hholds | hresolves
  · exact .inl (hholds.products hp hfinished)
  -- a request for a product ends here
  have haccounted := Script.accounted h hjournal
  obtain ⟨event, r⟩ := e
  cases event with
  | done op asStep result =>
    obtain ⟨c, rfl, rfl, rfl, hstop⟩ := haccounted
    rcases c.products_or_shares hresolves hstop hp hfinished with hkept |
        ⟨q, hshares, hnone, hq⟩
    · exact .inl hkept
    · exact .inr ⟨c, asStep, q, rfl, hstop, hshares, hnone, hq⟩
  | _ => cases hresolves

/-- **A product is kept while its identifier is finished**, just if every request with processing that
    was under way already when it was there, and that is given an instance, is given that product.  And
    as long as it is kept, every request is given it. -/
theorem product_kept_iff {script : Script} {depth : Nat} {outcome : Outcome Cause Unit} {s : Session}
    (h : script.runWithin depth = some (outcome, s)) {later between earlier : List Entry} {e : Entry}
    {x : Ident} {p : Instance} (hjournal : s.journal = later ++ (between ++ e :: earlier))
    (hp : e.registry.products.get? x = some p)
    (hfinished : ∀ e' ∈ between, x ∈ e'.registry.finished.keys) :
    ((∀ e' ∈ between, e'.registry.products.get? x = some p) ↔
        ∀ c : Call, c.EndsAmong between (e :: earlier) →
          (c.start.note (.began c.op)).journal <:+ e :: earlier → ∀ q, c.Shares x true q → q = p) ∧
      ((∀ e' ∈ between, e'.registry.products.get? x = some p) →
        ∀ c : Call, c.EndsAmong between (e :: earlier) → ∀ post q, c.Shares x post q → q = p) := by
  have hgiven : (∀ e' ∈ between, e'.registry.products.get? x = some p) →
      ∀ c : Call, c.EndsAmong between (e :: earlier) → ∀ post q, c.Shares x post q → q = p := by
    rintro hkept c ⟨asStep, later, before, hends, -⟩ post q hshares
    have hdone : ⟨.done c.op asStep c.result, c.stop.registry⟩ ∈ between :=
      hends ▸ List.mem_append_right _ List.mem_cons_self
    exact hshares.eq_kept (hfinished _ hdone) (hkept _ hdone)
  refine ⟨⟨fun hkept c hends _ => hgiven hkept c hends true, fun hlate => ?_⟩, hgiven⟩
  refine Entry.throughout fun later' e₂ before heq hbefore => ?_
  have hmem : e₂ ∈ between := heq ▸ List.mem_append_right _ List.mem_cons_self
  have hentry : s.journal = (later ++ later') ++ e₂ :: (before ++ e :: earlier) := by
    rw [hjournal, heq]
    simp only [List.append_assoc, List.cons_append]
  obtain ⟨e₁, rest, hlast, hp₁⟩ : ∃ e₁ rest, before ++ e :: earlier = e₁ :: rest ∧
      e₁.registry.products.get? x = some p := by
    cases before with
    | nil => exact ⟨e, earlier, rfl, hp⟩
    | cons e₁ before => exact ⟨e₁, _, rfl, hbefore e₁ List.mem_cons_self⟩
  rw [hlast] at hentry
  rcases Script.product_stays h hentry hp₁ (hfinished e₂ hmem) with hkept |
      ⟨c, asStep, q, rfl, hstop, hshares, hnone, hq⟩
  · exact hkept
  rw [← hlast] at hstop
  have hbegan := c.course.suffix
  rw [hstop] at hbegan
  rcases Entry.mem_or_suffix hbegan with hbegan | hbegan
  · -- it began in the stretch, and found the product
    have hthere := hbefore _ hbegan
    rw [hnone] at hthere
    cases hthere
  · exact hlate c ⟨asStep, later', before, heq, hstop⟩ hbegan q hshares ▸ hq

/-- What a request for a shared product was given, at the entry for its end. -/
def Entry.given? (e : Entry) : Option Instance :=
  match e.event with
  | .done (.resolveProduct _ _ true _) _ (.ok (.found given)) => given
  | _ => none

/-- A lamp is asked for its product twice, first with processing, in which something else is done as
    well. -/
def polishing (body : List Step) : Script where
  registry := { postProcessor := some (.scripted "polish" body (.wrap "polished")) }
  steps :=
    [.step (.registerInstance "lamp" (.fresh none)) true none,
      .step (.resolveProduct "lamp" (.scripted "lamp" [] .same) true true) true none,
      .step (.resolveProduct "lamp" (.scripted "lamp" [] .same) true false) true none]

/-- If that is nothing, the product stays, and both requests are given it. -/
theorem product_kept_iff_polishing :
    ∃ outcome s e₂ e₁ e earlier p, (polishing []).runWithin 2 = some (outcome, s) ∧
      s.journal = [e₂, e₁] ++ e :: earlier ∧ e.registry.products.get? "lamp" = some p ∧
      (∀ e' ∈ [e₂, e₁], "lamp" ∈ e'.registry.finished.keys) ∧
      s.journal.filterMap Entry.given? = [p, p] ∧
      ∀ c : Call, c.EndsAmong [e₂, e₁] (e :: earlier) → ∀ post q, c.Shares "lamp" post q → q = p := by
  have hends : ∃ outcome s, (polishing []).runWithin 2 = some (outcome, s) ∧
      (s.journal.map fun e => e.registry.products.get? "lamp") =
        [some ⟨2, some "polished:lamp:lamp"⟩, some ⟨2, some "polished:lamp:lamp"⟩,
          some ⟨2, some "polished:lamp:lamp"⟩, none, none, none, none, none] ∧
      (∀ e ∈ s.journal.take 2, e.registry.finished.contains "lamp" = true) ∧
      s.journal.filterMap Entry.given? =
        [⟨2, some "polished:lamp:lamp"⟩, ⟨2, some "polished:lamp:lamp"⟩] :=
    Script.ends_of_check (by decide +kernel)
  obtain ⟨outcome, s, hrun, hproducts, hlamp, hgiven⟩ := hends
  obtain ⟨e₂, _, hjournal, hp₂, hrest⟩ := List.map_eq_cons_iff.1 hproducts
  obtain ⟨e₁, _, rfl, hp₁, hrest⟩ := List.map_eq_cons_iff.1 hrest
  obtain ⟨e, earlier, rfl, hp, -⟩ := List.map_eq_cons_iff.1 hrest
  have hstretch : s.journal = [] ++ ([e₂, e₁] ++ e :: earlier) := hjournal
  have hfinished : ∀ e' ∈ [e₂, e₁], "lamp" ∈ e'.registry.finished.keys := by
    intro e' he'
    rw [hjournal] at hlamp
    exact Store.contains_iff_mem_keys.1 (hlamp e' he')
  have hkept : ∀ e' ∈ [e₂, e₁], e'.registry.products.get? "lamp" =
      some ⟨2, some "polished:lamp:lamp"⟩ := by simp [hp₂, hp₁]
  exact ⟨outcome, s, e₂, e₁, e, earlier, _, hrun, hjournal, hp, hfinished, hgiven,
    (product_kept_iff hrun hstretch hp hfinished).2 hkept⟩

/-- If it is another request for the same product, that is given a raw one, which is kept and then
    replaced, though nothing is ever taken away. -/
theorem polished_replaces_raw :
    ∃ outcome s raw polished,
      (polishing [.step (.resolveProduct "lamp" (.scripted "lamp" [] (.fresh (some "raw"))) true
        false) true none]).runWithin 3 = some (outcome, s) ∧
      s.Never Op.drops ∧ s.journal.filterMap Entry.given? = [polished, polished, raw] ∧
      (∃ e ∈ s.journal, e.registry.products.get? "lamp" = some raw) ∧
      s.registry.products.get? "lamp" = some polished ∧ raw ≠ polished := by
  have hends : ∃ outcome s,
      (polishing [.step (.resolveProduct "lamp" (.scripted "lamp" [] (.fresh (some "raw"))) true
        false) true none]).runWithin 3 = some (outcome, s) ∧
      s.Never Op.drops ∧ s.journal.filterMap Entry.given? =
        [⟨3, some "polished:lamp:lamp"⟩, ⟨3, some "polished:lamp:lamp"⟩, ⟨2, some "raw"⟩] ∧
      (∃ e ∈ s.journal, e.registry.products.get? "lamp" = some ⟨2, some "raw"⟩) ∧
      s.registry.products.get? "lamp" = some ⟨3, some "polished:lamp:lamp"⟩ :=
    Script.ends_of_check (by decide +kernel)
  obtain ⟨outcome, s, hrun, hnever, hgiven, hraw, hkept⟩ := hends
  exact ⟨outcome, s, _, _, hrun, hnever, hgiven, hraw, hkept, by decide⟩

end InstanceRegistry
