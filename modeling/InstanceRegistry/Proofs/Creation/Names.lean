import InstanceRegistry.Proofs.Creation.Listing
import InstanceRegistry.Proofs.Creation.Requests

/-!
  Which identifiers get into the list.

  An identifier is USABLE under the settings of a registry if it is neither empty nor too long.  A
  registry that guards its names looks at each name that comes in, and then takes the canonical name
  of it, which it does not look at.  So what is listed is what a usable name stood for when something
  was registered under it, and an alias can make that anything.

  Of four kinds of operations that register, two run a callback in the middle.  A creation binds its
  instance right before it ends, with the name that it accepted at its beginning; the journal tells
  that it is the same one, for it keeps whose construction was announced in a call.

  Mathlib-free.
-/

namespace InstanceRegistry

/-! ## Usable names -/

/-- An identifier passes the check for identifiers that come in. -/
def Config.Usable (c : Config) (id : Ident) : Prop := c.validateIdentifier id = .ok ()

/-- It does if it is not empty and has no more bytes than it may have. -/
theorem Config.usable_iff {c : Config} {id : Ident} :
    c.Usable id ↔ id ≠ "" ∧ id.utf8ByteSize ≤ c.identifierLimit := by
  rw [Usable, validateIdentifier]
  by_cases hempty : id = ""
  · rw [if_pos hempty]
    refine ⟨fun h => ?_, fun h => absurd hempty h.1⟩
    cases h
  · rw [if_neg hempty]
    by_cases hlong : c.identifierLimit < id.utf8ByteSize
    · simp only [if_pos hlong]
      refine ⟨fun h => ?_, fun h => absurd h.2 (Nat.not_le.2 hlong)⟩
      cases h
    · simp only [if_neg hlong]
      exact ⟨fun _ => ⟨hempty, Nat.not_lt.1 hlong⟩, fun _ => trivial⟩

instance (c : Config) (id : Ident) : Decidable (c.Usable id) := decidable_of_iff' _ Config.usable_iff

/-- Where names are guarded, only a usable one is accepted. -/
theorem Registry.usable_of_accept {r : Registry} {given id : Ident} (hguarded : r.guarded = true)
    (h : r.accept given = .ok id) : r.config.Usable given := by
  rw [accept, if_pos hguarded] at h
  cases hvalid : r.config.validateIdentifier given with
  | error failure =>
    rw [hvalid] at h
    cases h
  | ok _ => exact hvalid

/-! ## Calls that register -/

/-- The name under which an operation is to register something. -/
def Op.registers? : Op → Option Ident
  | getOrCreate id _ => some id
  | create request _ => some request.id
  | registerInstance id _ => some id
  | registerFactory id _ => some id
  | _ => none

/-- Whether an operation registers something without making it first. -/
def Op.files : Op → Bool
  | registerInstance .. | registerFactory .. => true
  | _ => false

/-- Who is to register something files it or has it created. -/
theorem Op.registers_cases {op : Op} {given : Ident} (h : op.registers? = some given) :
    op.files = true ∨
      ∃ request make, op.creation? = some (request, make) ∧ request.id = given := by
  cases op with
  | getOrCreate id construct =>
    cases h
    exact .inr ⟨_, _, rfl, rfl⟩
  | create request construct =>
    cases h
    exact .inr ⟨_, _, rfl, rfl⟩
  | registerInstance _ _ | registerFactory _ _ => exact .inl rfl
  | _ => cases h

theorem Op.registers?_creation {op : Op} {request : Request} {make : Routine}
    (h : op.creation? = some (request, make)) : op.registers? = some request.id := by
  cases op with
  | getOrCreate id construct =>
    cases h
    rfl
  | create request' construct =>
    cases h
    rfl
  | _ => cases h

namespace Call

variable {c : Call} {given : Ident}

/-- A call registered something under a name: it did what it was asked for. -/
def Registers (c : Call) (given : Ident) : Prop :=
  c.op.registers? = some given ∧
    (c.result = .ok .unit ∨ ∃ made, c.result = .ok (.found (some made)))

/-- Filing something is all that such a call does, under the name that it accepts. -/
theorem files_inv (hop : c.op.files = true) :
    c.stop.journal = (c.start.note (.began c.op)).journal ∧
      ((∃ given id, c.Registers given ∧ c.start.registry.accept given = .ok id ∧
          ((∃ made, c.start.registry.commit id made = .ok c.stop.registry) ∨
            ∃ factory, c.stop.registry = c.start.registry.offerFactory id factory)) ∨
        c.stop.registry = c.start.registry ∧ ∀ given, ¬ c.Registers given) := by
  cases hkind : c.op with
  | registerInstance given origin =>
    obtain ⟨hjournal, ⟨id, made, -, haccept, hresult, hcommit⟩ | ⟨hregistry, hunit, hfound⟩⟩ :=
      registerInstance_inv hkind
    · have hregisters : c.Registers given := ⟨by rw [hkind]; rfl, .inl hresult⟩
      exact ⟨hkind ▸ hjournal, .inl ⟨given, id, hregisters, haccept, .inl ⟨made, hcommit⟩⟩⟩
    · refine ⟨hkind ▸ hjournal, .inr ⟨hregistry, fun _ h => ?_⟩⟩
      rcases h.2 with hresult | ⟨made, hresult⟩
      · exact hunit hresult
      · exact hfound _ hresult
  | registerFactory given factory =>
    rcases registerFactory_inv hkind with ⟨id, haccept, hresult, hstop⟩ | ⟨failure, hresult, hstop⟩
    · have hregisters : c.Registers given := ⟨by rw [hkind]; rfl, .inl hresult⟩
      rw [hstop, hkind]
      exact ⟨rfl, .inl ⟨given, id, hregisters, haccept, .inr ⟨factory, rfl⟩⟩⟩
    · rw [hstop, hkind]
      refine ⟨rfl, .inr ⟨rfl, fun _ h => ?_⟩⟩
      have hno := h.2
      rw [hresult] at hno
      rcases hno with hno | ⟨_, hno⟩ <;> cases hno
  | _ =>
    rw [hkind] at hop
    cases hop

/-- A creation that succeeds answers an instance. -/
theorem creation_answers {request : Request} {make : Routine}
    (hop : c.op.creation? = some (request, make)) : c.result ≠ .ok .unit := by
  intro hunit
  rcases Call.creation_inv hop with ⟨_, _, ending, -, -, -, hending⟩ | ⟨_, -, hfailure, -⟩
  · rw [hunit] at hending
    cases ending <;> cases hending
  · rw [hunit] at hfailure
    cases hfailure

/-- The name under which something was registered was accepted. -/
theorem Registers.accepted (h : c.Registers given) :
    ∃ id, c.start.registry.accept given = .ok id := by
  rcases Op.registers_cases h.1 with hfiles | ⟨request, make, hop, rfl⟩
  · obtain ⟨-, ⟨name, id, hregisters, haccept, -⟩ | ⟨-, hno⟩⟩ := files_inv hfiles
    · have hname : name = given := Option.some.inj (hregisters.1.symm.trans h.1)
      exact ⟨id, hname ▸ haccept⟩
    · exact absurd h (hno given)
  · rcases Call.creation_inv hop with ⟨id, _, _, -, hprepared, -, -⟩ | ⟨failure, -, hfailure, -⟩
    · exact ⟨id, hprepared.accepted⟩
    · have hno := h.2
      rw [hfailure] at hno
      rcases hno with hno | ⟨_, hno⟩ <;> cases hno

/-- Under whatever name something was registered, its canonical name is listed. -/
theorem Registers.listed (h : c.Registers given) (hbooks : c.stop.registry.Bookkept) :
    c.start.registry.canonical given ∈ c.stop.registry.listed := by
  rcases Op.registers_cases h.1 with hfiles | ⟨request, make, hop, rfl⟩
  · obtain ⟨-, ⟨name, id, hregisters, haccept, hfiled⟩ | ⟨-, hno⟩⟩ := files_inv hfiles
    · have hname : name = given := Option.some.inj (hregisters.1.symm.trans h.1)
      rw [← hname, ← Registry.canonical_of_accept haccept]
      rcases hfiled with ⟨made, hcommit⟩ | ⟨factory, hoffer⟩
      · obtain ⟨-, heq⟩ := Registry.commit_eq hcommit
        rw [heq]
        exact Roster.mem_add.2 (.inr rfl)
      · cases hfinished : c.start.registry.finished.contains id with
        | true =>
          -- it is finished, and nothing was filed
          rw [Registry.offerFactory, if_pos hfinished] at hoffer
          rw [← hoffer] at hfinished
          exact hbooks.finished (Store.contains_iff_mem_keys.1 hfinished)
        | false =>
          rw [hoffer, Registry.offerFactory, hfinished]
          exact Roster.mem_add.2 (.inr rfl)
    · exact absurd h (hno given)
  · rcases h.2 with hunit | ⟨made, hfound⟩
    · exact absurd hunit (creation_answers hop)
    · exact hbooks.finished (Store.mem_keys_of_get? (Call.creation_finished hop hfound))

end Call

/-! ## What is listed -/

/-- All that is listed is of a kind. -/
def Registry.Lists (P : Ident → Prop) (r : Registry) : Prop := ∀ x ∈ r.listed, P x

namespace Registry.Lists

variable {P : Ident → Prop} {r r' : Registry}

theorem of_eq (h : r.Lists P) (hlisted : r'.listed = r.listed) : r'.Lists P := by
  rw [Lists, hlisted]
  exact h

theorem add {id : Ident} (h : r.Lists P) (hid : P id) (hlisted : r'.listed = Roster.add r.listed id) :
    r'.Lists P := by
  intro x hx
  rw [hlisted] at hx
  rcases Roster.mem_add.1 hx with hx | rfl
  · exact h x hx
  · exact hid

theorem drops (h : r.Lists P) (hdrops : r.Drops r') : r'.Lists P := by
  cases hdrops with
  | one id => exact fun x hx => h x (Roster.mem_drop.1 hx).1
  | all => exact fun x hx => by cases hx

end Registry.Lists

/-- What was filed is listed under the canonical name of what was accepted. -/
theorem Call.files_lists {c : Call} {P : Ident → Prop} (hop : c.op.files = true)
    (hnames : ∀ given, c.Registers given → P (c.start.registry.canonical given))
    (hs : c.start.registry.Lists P) :
    c.stop.journal = (c.start.note (.began c.op)).journal ∧ c.stop.registry.Lists P := by
  obtain ⟨hjournal, ⟨given, id, hregisters, haccept, hfiled⟩ | ⟨hregistry, -⟩⟩ := files_inv hop
  · have hid : P id := Registry.canonical_of_accept haccept ▸ hnames given hregisters
    refine ⟨hjournal, ?_⟩
    rcases hfiled with ⟨made, hcommit⟩ | ⟨factory, hoffer⟩
    · obtain ⟨-, heq⟩ := Registry.commit_eq hcommit
      rw [heq]
      exact hs.add hid rfl
    · rw [hoffer, Registry.offerFactory]
      split
      · exact hs
      · exact hs.add hid rfl
  · exact ⟨hjournal, hregistry ▸ hs⟩

/-- A creation that closes lists its identifier if it succeeds, and nobody else. -/
theorem Creation.Closes.lists {P : Ident → Prop} {id : Ident} {outermost : Bool} {t u : Session}
    {ending : Outcome Cause Instance} {outcome : Outcome Failure Instance}
    (h : Closes id outermost t ending outcome u) (ht : t.registry.Lists P) :
    Newly (fun e _ => e.registry.Lists P) t u ∧
      ∀ x ∈ u.registry.listed, P x ∨ x = id ∧ ∃ made, outcome = .ok made := by
  have habandon := Registry.abandonCreation_eq t.registry outermost id
  have hkept : (t.registry.abandonCreation outermost id).Lists P := by
    rw [habandon]
    exact ht
  have hunlisted : (((t.registry.abandonCreation outermost id).retract id).unlist id).Lists P :=
    fun x hx => hkept x (Roster.mem_drop.1 hx).1
  cases h with
  | @bound made _ _ _ hcommit =>
    obtain ⟨-, rfl⟩ := Registry.commit_eq hcommit
    refine ⟨.of_eq rfl, fun x hx => ?_⟩
    rcases Roster.mem_add.1 hx with hx | rfl
    · exact .inl (hkept x hx)
    · exact .inr ⟨rfl, made, rfl⟩
  | recovered _ => exact ⟨.note hkept, fun x hx => .inl (hkept x hx)⟩
  | mismatched _ _ => exact ⟨.note hunlisted, fun x hx => .inl (hunlisted x hx)⟩
  | failed _ _ => exact ⟨.of_eq rfl, fun x hx => .inl (hunlisted x hx)⟩
  | stuck _ | occupied _ _ | unwound => exact ⟨.of_eq rfl, fun x hx => .inl (hkept x hx)⟩

namespace Course

/-- What is listed in the end of a course is of a kind; if the course ends with a creation that
    succeeded, its identifier may be listed besides. -/
def Exit.Lists (P : Ident → Prop) (t : Session) : Exit → Prop
  | created outcome => ∀ x ∈ t.registry.listed,
      P x ∨ (∃ made, outcome = .ok made) ∧ t.Making x
  | onward | exposed | processed => t.registry.Lists P

/-- **What is listed is what something was registered under**, in a course that is not inside such a
    registration: if all canonical names under which the calls in it registered something are of a
    kind, then so is all that is listed meanwhile. -/
theorem lists {P : Ident → Prop} {s t : Session} {exit : Exit} (h : Course s t exit)
    (hidle : ¬ s.Doing Op.files)
    (hnames : ∀ c : Call, c.EndsIn t → ∀ given, c.Registers given →
      P (c.start.registry.canonical given))
    (hs : s.registry.Lists P) : Newly (fun e _ => e.registry.Lists P) s t ∧ exit.Lists P t := by
  induction h with
  | rest s => exact ⟨.of_eq rfl, hs⟩
  | next first second ih ih' =>
    obtain ⟨hfirst, hmiddle⟩ := ih hidle (fun c hc => hnames c (hc.mono second.suffix)) hs
    obtain ⟨hsecond, hend⟩ := ih' (mt first.doing.1 hidle) hnames hmiddle
    exact ⟨hfirst.trans hsecond, hend⟩
  | aside hregistry hjournal => exact ⟨.of_eq hjournal, hs.of_eq (hregistry ▸ rfl)⟩
  | note _ | enter _ => exact ⟨.note hs, hs⟩
  | announce _ _ _ => exact ⟨.note hs, fun x hx => .inl (hs x hx)⟩
  | @expose s t id early _ _ ih =>
    have htaken : (s.registry.takeFactory id).Lists P := hs
    obtain ⟨hinside, hend⟩ := ih hidle (fun c hc => hnames c (hc.mono (t.suffix_note _))) htaken
    exact ⟨.trans hinside (.put (.note hend) _), hend⟩
  | @call c asStep exit hfits inside ih =>
    have hself : c.EndsIn (c.stop.note (.done c.op asStep c.result)) := ⟨asStep, List.suffix_rfl⟩
    have hbegan : Newly (fun e _ => e.registry.Lists P) c.start (c.start.note (.began c.op)) :=
      .note hs
    cases hfiles : c.op.files with
    | true =>
      obtain ⟨hjournal, hstop⟩ := Call.files_lists hfiles (hnames c hself) hs
      exact ⟨hbegan.trans (.trans (.of_eq hjournal) (.note hstop)), hstop⟩
    | false =>
      have hbegun : ¬ (c.start.note (.began c.op)).Doing Op.files := by
        rintro ⟨f, hf, hkind⟩
        rw [Session.frames_note_began] at hf
        cases hf
        rw [hfiles] at hkind
        cases hkind
      obtain ⟨hinside, hend⟩ :=
        ih hbegun (fun c' hc' => hnames c' (hc'.mono (c.stop.suffix_note _))) hs
      have hstop : c.stop.registry.Lists P := by
        cases exit with
        | created outcome =>
          intro x hx
          rcases hend x hx with hx | ⟨⟨made, rfl⟩, hmaking⟩
          · exact hx
          · obtain ⟨hcreation, hresult⟩ := hfits
            obtain ⟨⟨request, make⟩, hop⟩ := Option.isSome_iff_exists.1 hcreation
            rw [Registry.canonical_of_accept (Call.announced_creation hop hmaking)]
            exact hnames c hself _ ⟨Op.registers?_creation hop, .inr ⟨made, hresult⟩⟩
        | onward | exposed | processed => exact hend
      exact ⟨hbegan.trans (hinside.trans (.note hstop)), hstop⟩
  | @shift s r h =>
    refine ⟨.of_eq rfl, ?_⟩
    cases h with
    | offerFactory hbegins _ => exact absurd (hbegins.doing rfl) hidle
    | @storeProduct id product _ _ =>
      refine hs.of_eq ?_
      rw [Session.registry_put, Registry.storeProduct_eq]
    | takeFactory _ | suppress _ _ | graph _ | aliases _ | keepHook _ _ => exact hs
  | drop _ h => exact ⟨.of_eq rfl, hs.drops h⟩
  | exclude _ _ | setMarks _ _ => exact ⟨.of_eq rfl, hs⟩
  | register hbegins _ _ _ _ => exact absurd (hbegins.doing rfl) hidle
  | @create s t u id outermost r ending outcome hasked _ _ hmark inside _ hclose ih =>
    have hopened : r.Lists P := by
      obtain ⟨marks, -, ⟨-, -, rfl⟩ | ⟨_, -, -, rfl⟩⟩ := Registry.openCreation_eq hmark
      · exact hs
      · exact hs
    obtain ⟨hcallback, ht⟩ := ih (mt (Session.doing_announced _ id r).1 hidle)
      (fun c hc => hnames c (hc.mono hclose.suffix)) hopened
    obtain ⟨hclosing, hend⟩ := hclose.lists ht
    have hannounced : Newly (fun e _ => e.registry.Lists P) s (s.note (.noticed (.creating id))) :=
      .note hs
    refine ⟨(hannounced.put r).trans (hcallback.trans hclosing), fun x hx => ?_⟩
    rcases hend x hx with hx | ⟨rfl, hmade⟩
    · exact .inl hx
    · exact .inr ⟨hmade, making hasked inside hclose⟩
  | process _ _ _ _ ih => exact ih hidle hnames hs
  | @dispose s t id hook _ _ ih =>
    have hsuffix := t.suffix_note_note (.noticed (.disposing id)) (hook.entry .disposal)
    have htaken : ({ s.registry with hooks := s.registry.hooks.erase id } : Registry).Lists P := hs
    obtain ⟨hbefore, ht⟩ := ih hidle (fun c hc => hnames c (hc.mono hsuffix)) htaken
    exact ⟨hbefore.trans (.trans (.note ht) (.note ht)), ht⟩
  | @destroy s t u _ _ _ hrest ih =>
    have hclosed : ({ s.registry with lifecycle := .destroying } : Registry).Lists P := hs
    obtain ⟨hhooks, -⟩ := ih hidle (fun c hc => hnames c (hc.mono hrest.suffix)) hclosed
    have hempty : u.registry.Lists P := by
      rw [hrest.registry]
      exact fun x hx => by cases hx
    exact ⟨.put (hhooks.trans (hrest.newly fun _ _ => hempty)) _, hempty⟩

end Course

/-! ## Whole runs -/

/-- **All identifiers that are listed are usable** at every moment of a script with guarded names, just
    if all canonical names are under which something was registered.  The names that were given for
    them are usable anyway. -/
theorem listed_usable_iff {script : Script} {depth : Nat} {outcome : Outcome Cause Unit} {s : Session}
    (h : script.runWithin depth = some (outcome, s)) (hguarded : script.registry.guarded = true)
    (hbooks : script.registry.Bookkept)
    (hstart : ∀ x ∈ script.registry.listed, script.registry.config.Usable x) :
    (∀ c : Call, c.EndsIn s → ∀ given, c.Registers given → script.registry.config.Usable given) ∧
      ((∀ r ∈ s.moments, ∀ x ∈ r.listed, script.registry.config.Usable x) ↔
        ∀ c : Call, c.EndsIn s → ∀ given, c.Registers given →
          script.registry.config.Usable (c.start.registry.canonical given)) := by
  refine ⟨?_, ?_, ?_⟩
  · intro c hc given hregisters
    obtain ⟨hconfig, hguard⟩ := Script.settings h _ (Session.moment_of_suffix hc.began)
    obtain ⟨id, haccept⟩ := hregisters.accepted
    rw [← hconfig]
    exact Registry.usable_of_accept (hguard.trans hguarded) haccept
  · intro hmoments c hc given hregisters
    obtain ⟨asStep, hends⟩ := hc
    have hmoment : c.stop.registry ∈ s.moments := Session.moment_of_suffix hends
    have hbooks' := Script.invariant h (fun _ _ _ hstep => hstep.bookkept) hbooks _ hmoment
    exact hmoments _ hmoment _ (hregisters.listed hbooks')
  · intro hnames
    have hidle : ¬ script.start.Doing Op.files := nofun
    obtain ⟨hentries, hend⟩ := (Script.course h).lists hidle hnames hstart
    intro r hr
    rcases List.mem_cons.1 hr with rfl | hr
    · exact hend
    · obtain ⟨e, he, rfl⟩ := List.mem_map.1 hr
      obtain ⟨later, earlier, hjournal⟩ := List.append_of_mem he
      exact hentries.all rfl hjournal

/-- A lamp is made under a nickname of it. -/
def nicknamed (name : Ident) : Script where
  registry := {}
  steps :=
    [.step (.aliases (.register name "light")) true none,
      .step (.getOrCreate "light" (.scripted "light"
        [.step (.registerFactory "light" (.scripted "light" [] .same)) true none] .same)) true none]

/-- Under its own name it is listed if that is usable. -/
theorem listed_usable_iff_lamp :
    ∃ outcome s, (nicknamed "lamp").runWithin 4 = some (outcome, s) ∧
      (nicknamed "lamp").registry.guarded = true ∧ (nicknamed "lamp").registry.Bookkept ∧
      s.registry.listed = ["lamp"] ∧
      ∀ c : Call, c.EndsIn s → ∀ given, c.Registers given →
        (nicknamed "lamp").registry.config.Usable (c.start.registry.canonical given) := by
  have hends : ∃ outcome s, (nicknamed "lamp").runWithin 4 = some (outcome, s) ∧
      s.registry.listed = ["lamp"] ∧
      ∀ r ∈ s.moments, ∀ x ∈ r.listed, (nicknamed "lamp").registry.config.Usable x :=
    Script.ends_of_check (by decide +kernel)
  obtain ⟨outcome, s, hrun, hlisted, husable⟩ := hends
  have hbooks : (nicknamed "lamp").registry.Bookkept := .of_bare rfl rfl rfl rfl
  have hiff := (listed_usable_iff hrun rfl hbooks nofun).2
  exact ⟨outcome, s, hrun, rfl, hbooks, hlisted, hiff.1 husable⟩

/-- If that is empty, it is listed all the same. -/
theorem nameless_listed :
    ∃ outcome s, (nicknamed "").runWithin 4 = some (outcome, s) ∧
      (nicknamed "").registry.guarded = true ∧
      (nicknamed "").registry.config.validate = .ok () ∧
      s.registry.listed = [""] ∧ ¬ (nicknamed "").registry.config.Usable "" := by
  have hends : ∃ outcome s, (nicknamed "").runWithin 4 = some (outcome, s) ∧
      s.registry.listed = [""] := Script.ends_of_check (by decide +kernel)
  obtain ⟨outcome, s, hrun, hlisted⟩ := hends
  exact ⟨outcome, s, hrun, rfl, rfl, hlisted, by decide⟩

end InstanceRegistry
