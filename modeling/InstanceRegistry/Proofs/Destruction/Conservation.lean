import InstanceRegistry.Proofs.Courses.Upheld
import InstanceRegistry.Proofs.Destruction.Completion

/-!
  Disposal hooks are conserved.

  A hook that was registered is pending until one of three things happens to it: it runs, another
  one takes its place, or it is dropped at the end of the destruction of the whole registry.  All
  of this can be read off the journal, so that the books can be balanced for each identifier at
  every moment:

      registered  =  invoked + replaced + discarded + pending .

  They do not balance inside a destruction.  There a hook is taken first, which leaves no trace, and
  runs only when everything is destroyed that goes before it, which may bring any number of other
  hooks of the same identifier.  So the invariant counts the hooks that are TAKEN and have not run;
  upkeep leaves that number as it was, because it takes and runs within one step.

  The same count with an inequality, but for one kind of hook instead of all of an identifier, says
  that no hook runs twice (`hooks_once`).

  Which call ran a hook is the innermost one under way when that was announced.  `Disposals.after`
  replays the journal into the lists of hooks that the calls under way have run so far; when a call
  that destroys is done, its list is what it reports.
-/

namespace InstanceRegistry

/-! ## What the journal says about hooks -/

namespace Entry

/-- Whether an entry begins a call that keeps a hook under `id` which passes a test. -/
def registers (id : Ident) (test : Routine → Bool) (e : Entry) : Bool :=
  match e.event with
  | .began op => (op.hook? e.registry).any fun kept => kept.1 == id && test kept.2
  | _ => false

/-- Whether an entry says that the hook of `id` is about to run. -/
def invokes (id : Ident) (e : Entry) : Bool := e.event.disposes id

/-- Whether an entry says that another hook took the place of the one of `id`. -/
def replaces (id : Ident) (e : Entry) : Bool :=
  match e.event with
  | .noticed (.hookReplaced x) => x == id
  | _ => false

/-- Whether an entry says that the hook of `id` was dropped. -/
def discards (id : Ident) (e : Entry) : Bool :=
  match e.event with
  | .noticed (.hooksDiscarded ids) => decide (id ∈ ids)
  | _ => false

end Entry

namespace Journal

/-- How many hooks of `id` were registered that pass a test. -/
def registered (id : Ident) (test : Routine → Bool) (journal : List Entry) : Nat :=
  journal.countP (Entry.registers id test)

/-- How many hooks of `id` were invoked. -/
def invoked (id : Ident) (journal : List Entry) : Nat := journal.countP (Entry.invokes id)

/-- How many hooks of `id` made room for another. -/
def replaced (id : Ident) (journal : List Entry) : Nat := journal.countP (Entry.replaces id)

/-- How many hooks of `id` were dropped. -/
def discarded (id : Ident) (journal : List Entry) : Nat := journal.countP (Entry.discards id)

/-- Whether the last thing that happened is that the hook of `id` was announced. -/
def announced (id : Ident) (journal : List Entry) : Bool := journal.head?.any (Entry.invokes id)

/-- How many hooks of `id` were invoked and started with an event of a kind. -/
def started (id : Ident) (kind : Event → Bool) : List Entry → Nat
  | [] => 0
  | e :: earlier =>
    started id kind earlier + if announced id earlier && kind e.event then 1 else 0

variable {id : Ident} {test : Routine → Bool} {e : Entry} {journal : List Entry}

theorem registered_cons : registered id test (e :: journal) =
    registered id test journal + if e.registers id test then 1 else 0 :=
  List.countP_cons

theorem invoked_cons :
    invoked id (e :: journal) = invoked id journal + if e.invokes id then 1 else 0 :=
  List.countP_cons

theorem replaced_cons :
    replaced id (e :: journal) = replaced id journal + if e.replaces id then 1 else 0 :=
  List.countP_cons

theorem discarded_cons :
    discarded id (e :: journal) = discarded id journal + if e.discards id then 1 else 0 :=
  List.countP_cons

end Journal

/-- How many hooks of `id` are pending that pass a test: one, or none. -/
def Registry.pending (r : Registry) (id : Ident) (test : Routine → Bool) : Nat :=
  if (r.hooks.get? id).any test then 1 else 0

open Journal

variable {id x : Ident} {test : Routine → Bool} {hook : Routine} {r : Registry}

/-! ### What single entries say -/

namespace Entry

/-- An entry says that no hook goes. -/
def Keeps (id : Ident) (e : Entry) : Prop :=
  e.invokes id = false ∧ e.replaces id = false ∧ e.discards id = false

theorem keeps_began (op : Op) : Keeps id ⟨.began op, r⟩ := ⟨rfl, rfl, rfl⟩

theorem keeps_done (op : Op) (asStep : Bool) (result : Outcome Failure (Answer Instance)) :
    Keeps id ⟨.done op asStep result, r⟩ := ⟨rfl, rfl, rfl⟩

/-- A plain event says that no hook goes. -/
theorem keeps_of_isPlain {event : Event} (h : event.isPlain = true) : Keeps id ⟨event, r⟩ := by
  cases event with
  | began _ | done _ _ _ => cases h
  | entered _ _ _ | wired _ _ _ | fetched _ _ => exact ⟨rfl, rfl, rfl⟩
  | noticed notice =>
    cases notice with
    | disposing _ | hookReplaced _ | hooksDiscarded _ => cases h
    | _ => exact ⟨rfl, rfl, rfl⟩

/-- A plain event says that no hook comes. -/
theorem registers_of_isPlain {event : Event} (h : event.isPlain = true) :
    registers id test ⟨event, r⟩ = false := by
  cases event with
  | began _ => cases h
  | _ => rfl

/-- A call that keeps a hook registers it. -/
theorem registers_began {op : Op} (h : op.hook? r = some (x, hook)) :
    registers id test ⟨.began op, r⟩ = (x == id && test hook) := by
  show (op.hook? r).any _ = _
  rw [h]
  rfl

theorem registers_began_none {op : Op} (h : op.hook? r = none) :
    registers id test ⟨.began op, r⟩ = false := by
  show (op.hook? r).any _ = _
  rw [h]
  rfl

end Entry

/-- An operation that destroys keeps no hook. -/
theorem Op.hook?_of_destroys {op : Op} (h : op.destroys = true) : op.hook? r = none := by
  cases op with
  | destroyOne | destroyAll | shutdown => rfl
  | _ => cases h

namespace Registry

/-- A hook that is filed is pending, in place of any other one. -/
theorem pending_insert : pending { r with hooks := r.hooks.insert x hook } id test =
    if id = x then (if test hook then 1 else 0) else r.pending id test := by
  rw [pending, Store.get?_insert]
  by_cases h : id = x
  · rw [if_pos h, if_pos h]
    rfl
  · rw [if_neg h, if_neg h, pending]

/-- A hook that is taken is not pending any more. -/
theorem pending_erase : pending { r with hooks := r.hooks.erase x } id test =
    if id = x then 0 else r.pending id test := by
  rw [pending, Store.get?_erase]
  by_cases h : id = x
  · rw [if_pos h, if_pos h]
    rfl
  · rw [if_neg h, if_neg h, pending]

theorem pending_of_get? (h : r.hooks.get? id = some hook) :
    r.pending id test = if test hook then 1 else 0 := by
  rw [pending, h]
  rfl

/-- Some hook is pending if an identifier is listed. -/
theorem pending_true : r.pending id (fun _ => true) = if r.hooks.contains id then 1 else 0 := by
  rw [pending, Store.contains]
  cases r.hooks.get? id <;> rfl

end Registry

/-! ### What keeping a hook says -/

namespace Session

variable (s : Session)

theorem pending_keep : (s.keep x hook).registry.pending id test =
    if id = x then (if test hook then 1 else 0) else s.registry.pending id test := by
  rw [keep]
  split <;> exact Registry.pending_insert

theorem registered_keep :
    registered id test (s.keep x hook).journal = registered id test s.journal := by
  rw [keep]
  split <;> rfl

theorem invoked_keep : invoked id (s.keep x hook).journal = invoked id s.journal := by
  rw [keep]
  split <;> rfl

theorem discarded_keep : discarded id (s.keep x hook).journal = discarded id s.journal := by
  rw [keep]
  split <;> rfl

/-- A hook makes room if it was pending. -/
theorem replaced_keep : replaced id (s.keep x hook).journal =
    replaced id s.journal + if id = x then s.registry.pending id (fun _ => true) else 0 := by
  rw [keep, Registry.pending_true]
  by_cases hthere : s.registry.hooks.contains x = true
  · rw [if_pos hthere, note, replaced_cons]
    show replaced id s.journal + (if (x == id) = true then 1 else 0) = _
    by_cases hx : id = x
    · subst hx
      simp [hthere]
    · simp [hx, Ne.symm hx]
  · rw [if_neg hthere]
    show replaced id s.journal = _
    by_cases hx : id = x
    · subst hx
      simp [hthere]
    · simp [hx]

end Session

/-! ## The books -/

/-- The books of `id` balance, if so many of its hooks are taken and have not run.  Hooks that were
    there in the beginning count as registered. -/
def Balanced (initial : Nat) (id : Ident) (taken : Nat) (s : Session) : Prop :=
  initial + registered id (fun _ => true) s.journal =
    taken + invoked id s.journal + replaced id s.journal + discarded id s.journal +
      s.registry.pending id fun _ => true

namespace Balanced

variable {initial taken : Nat} {s t : Session}

theorem congr (h : Balanced initial id taken s) (hhooks : t.registry.hooks = s.registry.hooks)
    (hjournal : t.journal = s.journal) : Balanced initial id taken t := by
  rw [Balanced, Registry.pending, hhooks, hjournal]
  exact h

/-- An entry that says nothing about hooks leaves the books as they are. -/
theorem note {event : Event} (h : Balanced initial id taken s)
    (hregisters : Entry.registers id (fun _ => true) ⟨event, s.registry⟩ = false)
    (hkeeps : Entry.Keeps id ⟨event, s.registry⟩) : Balanced initial id taken (s.note event) := by
  obtain ⟨hinvokes, hreplaces, hdiscards⟩ := hkeeps
  rw [Balanced, Session.note, registered_cons, invoked_cons, replaced_cons, discarded_cons,
    hregisters, hinvokes, hreplaces, hdiscards]
  exact h

theorem note_plain {event : Event} (h : Balanced initial id taken s)
    (hplain : event.isPlain = true) : Balanced initial id taken (s.note event) :=
  h.note (Entry.registers_of_isPlain hplain) (Entry.keeps_of_isPlain hplain)

theorem note_began {op : Op} (h : Balanced initial id taken s) (hop : op.hook? s.registry = none) :
    Balanced initial id taken (s.note (.began op)) :=
  h.note (Entry.registers_began_none hop) (Entry.keeps_began op)

theorem note_done {op : Op} {asStep : Bool} {result : Outcome Failure (Answer Instance)}
    (h : Balanced initial id taken s) : Balanced initial id taken (s.note (.done op asStep result)) :=
  h.note rfl (Entry.keeps_done op asStep result)

/-- A hook that is registered is pending, and one that it replaces is counted. -/
theorem keep {op : Op} (h : Balanced initial id taken s)
    (hop : op.hook? s.registry = some (x, hook)) :
    Balanced initial id taken ((s.note (.began op)).keep x hook) := by
  have hkeeps : Entry.Keeps id ⟨.began op, s.registry⟩ := Entry.keeps_began op
  obtain ⟨hinvokes, hreplaces, hdiscards⟩ := hkeeps
  rw [Balanced] at h
  rw [Balanced, Session.registered_keep, Session.invoked_keep, Session.discarded_keep,
    Session.replaced_keep, Session.pending_keep, Session.note, registered_cons, invoked_cons,
    replaced_cons, discarded_cons, Entry.registers_began hop, hinvokes, hreplaces, hdiscards]
  by_cases hx : id = x
  · subst hx
    simp only [beq_self_eq_true, Bool.and_true, if_true, Bool.false_eq_true, if_false]
    omega
  · simpa [hx, Ne.symm hx] using h

/-- Taking a hook is counted until it is announced. -/
theorem take (h : Balanced initial id taken s) (hpending : s.registry.hooks.get? x = some hook) :
    Balanced initial id (taken + if id = x then 1 else 0)
      (s.put { s.registry with hooks := s.registry.hooks.erase x }) := by
  rw [Balanced] at h
  rw [Balanced, Session.put, Registry.pending_erase]
  by_cases hx : id = x
  · subst hx
    rw [Registry.pending_of_get? hpending] at h
    simp only [if_true] at h ⊢
    omega
  · simpa [hx] using h

theorem announce (h : Balanced initial id (taken + if id = x then 1 else 0) s) :
    Balanced initial id taken (s.note (.noticed (.disposing x))) := by
  rw [Balanced] at h
  rw [Balanced, Session.note, registered_cons, invoked_cons, replaced_cons, discarded_cons]
  show initial + registered id _ s.journal = taken +
    (invoked id s.journal + if (x == id) = true then 1 else 0) + replaced id s.journal +
      discarded id s.journal + s.registry.pending id _
  by_cases hx : id = x
  · subst hx
    simp only [beq_self_eq_true, if_true] at h ⊢
    omega
  · simpa [hx, Ne.symm hx] using h

/-- What is dropped in the end is counted. -/
theorem empty (h : Balanced initial id taken s) :
    Balanced initial id taken
      ((s.put s.registry.empty).note (.noticed (.hooksDiscarded s.registry.hooks.keys))) := by
  rw [Balanced, Registry.pending_true] at h
  rw [Balanced, Session.note, registered_cons, invoked_cons, replaced_cons, discarded_cons]
  show initial + registered id _ s.journal = taken + invoked id s.journal + replaced id s.journal +
    (discarded id s.journal + if decide (id ∈ s.registry.hooks.keys) = true then 1 else 0) + 0
  by_cases hlisted : id ∈ s.registry.hooks.keys
  · rw [if_pos (Store.contains_iff_mem_keys.2 hlisted)] at h
    rw [if_pos (decide_eq_true hlisted)]
    omega
  · rw [if_neg (mt Store.contains_iff_mem_keys.1 hlisted)] at h
    rw [if_neg (by simpa using hlisted)]
    omega

end Balanced

/-! ### Whole runs -/

/-- The books of `id` balance at an entry: with what was registered before it, and with what was
    gone and pending when it was made. -/
def BalancedAt (initial : Nat) (id : Ident) (e : Entry) (earlier : List Entry) : Prop :=
  initial + registered id (fun _ => true) earlier =
    invoked id (e :: earlier) + replaced id (e :: earlier) + discarded id (e :: earlier) +
      e.registry.pending id fun _ => true

theorem Balanced.at {initial : Nat} {s : Session} {event : Event} (h : Balanced initial id 0 s)
    (hkeeps : Entry.Keeps id ⟨event, s.registry⟩) :
    BalancedAt initial id ⟨event, s.registry⟩ s.journal := by
  obtain ⟨hinvokes, hreplaces, hdiscards⟩ := hkeeps
  rw [BalancedAt, invoked_cons, replaced_cons, discarded_cons, hinvokes, hreplaces, hdiscards]
  rw [Balanced, Nat.zero_add] at h
  exact h

/-- An entry that says that hooks go is balanced if the session that it leaves is. -/
theorem Balanced.at_last {initial : Nat} {s : Session} {event : Event}
    (h : Balanced initial id 0 (s.note event))
    (hregisters : Entry.registers id (fun _ => true) ⟨event, s.registry⟩ = false) :
    BalancedAt initial id ⟨event, s.registry⟩ s.journal := by
  rw [Balanced, Nat.zero_add, Session.note, registered_cons, hregisters] at h
  exact h

namespace Upkeep

variable {s t : Session} {ids : List Ident}

/-- **Upkeep leaves as many hooks taken as it found.** -/
theorem balanced (h : Upkeep s t ids) {initial taken : Nat} (hs : Balanced initial id taken s) :
    Balanced initial id taken t := by
  induction h generalizing taken with
  | rest s => exact hs
  | next _ _ ih ih' => exact ih' (ih hs)
  | apart _ hhooks hjournal => exact hs.congr hhooks hjournal
  | note hplain => exact hs.note_plain hplain
  | graph _ | release _ => exact hs.congr rfl rfl
  | call _ hhook _ ih => exact (ih (hs.note_began hhook)).note_done
  | keep hhook => exact (hs.keep hhook).note_done
  | @dispose s t u ids x hook _ hpending before run ih ih' =>
    have hannounced := (ih (hs.take hpending)).announce
    exact ih' (hannounced.note_plain (Routine.isPlain_entry .disposal hook))
  | detach _ _ ih => exact ih hs
  | empty s => exact hs.empty
  | destroy hop _ ih => exact (ih (hs.note_began (Op.hook?_of_destroys hop))).note_done

/-- **At quiet moments the books balance**, if they did in the beginning. -/
theorem balanced_quietly (h : Upkeep s t ids) {initial : Nat} (hs : Balanced initial id 0 s) :
    Newly (fun e earlier => Quiet e earlier → BalancedAt initial id e earlier) s t := by
  induction h with
  | rest s => exact .of_eq rfl
  | next first _ ih ih' => exact (ih hs).trans (ih' (first.balanced hs))
  | apart _ _ hjournal => exact .of_eq hjournal
  | note hplain => exact .note fun _ => hs.at (Entry.keeps_of_isPlain hplain)
  | graph _ => exact .of_eq rfl
  | @call s t op asStep result _ hhook inside ih =>
    have hbegan := hs.note_began hhook
    have hended := (inside.balanced hbegan).at (Entry.keeps_done op asStep result)
    exact .trans (.note fun _ => hs.at (Entry.keeps_began op))
      ((ih hbegan).trans (.note fun _ => hended))
  | @keep s op asStep x hook hhook =>
    have hkept := hs.keep hhook
    have hreplaced : Newly (fun e earlier => Quiet e earlier → BalancedAt initial id e earlier)
        (s.note (.began op)) ((s.note (.began op)).keep x hook) := by
      refine .keep fun hthere _ => ?_
      rw [Session.keep, if_pos hthere] at hkept
      exact Balanced.at_last hkept rfl
    exact .trans (.note fun _ => hs.at (Entry.keeps_began op))
      (hreplaced.trans (.note fun _ => hkept.at (Entry.keeps_done op asStep _)))
  | dispose hdoing hpending before run =>
    exact (Upkeep.dispose hdoing hpending before run).loud hdoing.within
  | detach hdoing inside => exact (Upkeep.detach hdoing inside).loud hdoing.within
  | release hdoing => exact (Upkeep.release hdoing).loud hdoing.within
  | empty s => exact .note (s := s.put _) fun _ => Balanced.at_last hs.empty rfl
  | @destroy s t op asStep report hop inside =>
    have hwithin : (s.note (.began op)).Within Op.destroys := (s.begins_note op).within hop
    have hended := (inside.balanced (hs.note_began (Op.hook?_of_destroys hop))).at
      (Entry.keeps_done op asStep (.ok (.report report)))
    exact .trans (.note fun _ => hs.at (Entry.keeps_began op))
      ((inside.loud hwithin).trans (.note fun _ => hended))

end Upkeep

/-! ## No hook runs twice -/

/-- The last thing that happened is not that a hook was announced. -/
def Settled (journal : List Entry) : Prop := ∀ id, announced id journal = false

/-- Hooks of one kind are enough: so many are taken, and with those that ran and that are pending
    they are no more than were registered. -/
def Enough (initial : Nat) (id : Ident) (kind : Event → Bool) (taken : Nat) (s : Session) : Prop :=
  Settled s.journal ∧
    taken + started id kind s.journal + s.registry.pending id (fun hook => kind (hook.entry .disposal)) ≤
      initial + registered id (fun hook => kind (hook.entry .disposal)) s.journal

namespace Enough

variable {initial taken : Nat} {kind : Event → Bool} {s t : Session}

theorem congr (h : Enough initial id kind taken s) (hhooks : t.registry.hooks = s.registry.hooks)
    (hjournal : t.journal = s.journal) : Enough initial id kind taken t := by
  rw [Enough, Registry.pending, hhooks, hjournal]
  exact h

/-- An entry that announces no hook starts none, since none was announced before it. -/
theorem note {event : Event} (h : Enough initial id kind taken s)
    (hinvokes : ∀ x, Entry.invokes x ⟨event, s.registry⟩ = false) :
    Enough initial id kind taken (s.note event) := by
  refine ⟨hinvokes, ?_⟩
  have hsettled := h.1 id
  have hle := h.2
  rw [Session.note, registered_cons, started, hsettled]
  show taken + (started id kind s.journal + 0) + s.registry.pending id _ ≤ _
  omega

/-- A hook that is registered is pending, if it is of the kind. -/
theorem keep {op : Op} (h : Enough initial id kind taken s)
    (hop : op.hook? s.registry = some (x, hook)) :
    Enough initial id kind taken ((s.note (.began op)).keep x hook) := by
  have hbegan : Settled (s.note (.began op)).journal := fun _ => rfl
  refine ⟨fun y => ?_, ?_⟩
  · rw [Session.keep]
    split <;> rfl
  · have hstarted : started id kind ((s.note (.began op)).keep x hook).journal =
        started id kind s.journal := by
      have hfirst : started id kind (s.note (.began op)).journal = started id kind s.journal := by
        rw [Session.note, started, h.1 id]
        rfl
      rw [← hfirst, Session.keep]
      split
      · show started id kind _ + (if announced id (s.note (.began op)).journal && _ then 1 else 0) = _
        rw [hbegan id]
        rfl
      · rfl
    have hle := h.2
    rw [hstarted, Session.registered_keep, Session.pending_keep, Session.note, registered_cons,
      Entry.registers_began hop]
    by_cases hx : id = x
    · subst hx
      simp only [beq_self_eq_true, Bool.true_and, if_true]
      omega
    · simpa [hx, Ne.symm hx] using hle

theorem take (h : Enough initial id kind taken s) (hpending : s.registry.hooks.get? x = some hook) :
    Enough initial id kind
      (taken + if id = x ∧ kind (hook.entry .disposal) = true then 1 else 0)
      (s.put { s.registry with hooks := s.registry.hooks.erase x }) := by
  refine ⟨h.1, ?_⟩
  have hle := h.2
  rw [Session.put, Registry.pending_erase]
  by_cases hx : id = x
  · subst hx
    rw [Registry.pending_of_get? hpending] at hle
    simp only [true_and, if_true]
    omega
  · simpa [hx] using hle

/-- A hook that was taken is announced and starts. -/
theorem start
    (h : Enough initial id kind
      (taken + if id = x ∧ kind (hook.entry .disposal) = true then 1 else 0) s) :
    Enough initial id kind taken
      ((s.note (.noticed (.disposing x))).note (hook.entry .disposal)) := by
  have hplain := Routine.isPlain_entry .disposal hook
  refine ⟨fun y => (Entry.keeps_of_isPlain hplain).1, ?_⟩
  have hle := h.2
  rw [Session.note, registered_cons, started, Entry.registers_of_isPlain hplain, Session.note,
    registered_cons, started, h.1 id]
  show taken + (started id kind s.journal + 0 +
      if ((x == id) && kind (hook.entry .disposal)) = true then 1 else 0) +
        s.registry.pending id _ ≤ initial + (registered id _ s.journal + 0 + 0)
  by_cases hx : id = x
  · subst hx
    simp only [beq_self_eq_true, Bool.true_and, true_and] at hle ⊢
    omega
  · simpa [hx, Ne.symm hx] using hle

theorem empty (h : Enough initial id kind taken s) :
    Enough initial id kind taken
      ((s.put s.registry.empty).note (.noticed (.hooksDiscarded s.registry.hooks.keys))) := by
  have hdropped : Enough initial id kind taken (s.put s.registry.empty) := by
    refine ⟨h.1, ?_⟩
    have hle := h.2
    show taken + started id kind s.journal + 0 ≤ _
    exact Nat.le_trans (Nat.le_trans (Nat.le_refl _) (Nat.le_add_right _ _)) hle
  exact hdropped.note fun _ => rfl

end Enough

/-- **No more hooks start than were registered**, of any kind. -/
theorem Upkeep.enough {s t : Session} {ids : List Ident} (h : Upkeep s t ids) {initial taken : Nat}
    {kind : Event → Bool} (hs : Enough initial id kind taken s) :
    Enough initial id kind taken t := by
  induction h generalizing taken with
  | rest s => exact hs
  | next _ _ ih ih' => exact ih' (ih hs)
  | apart _ hhooks hjournal => exact hs.congr hhooks hjournal
  | note hplain => exact hs.note fun y => (Entry.keeps_of_isPlain hplain).1
  | graph _ | release _ => exact hs.congr rfl rfl
  | call _ _ _ ih | destroy _ _ ih => exact (ih (hs.note fun _ => rfl)).note fun _ => rfl
  | keep hhook => exact (hs.keep hhook).note fun _ => rfl
  | dispose _ hpending _ _ ih ih' => exact ih' (ih (hs.take hpending)).start
  | detach _ _ ih => exact ih hs
  | empty s => exact hs.empty

/-- Whatever was announced for `id` has started. -/
def AllStarted (id : Ident) (s : Session) : Prop :=
  Settled s.journal ∧ invoked id s.journal = started id (fun _ => true) s.journal

/-- An event that announces nothing leaves nothing to start. -/
theorem AllStarted.note {s : Session} (h : AllStarted id s) (event : Event)
    (hinvokes : ∀ x, Entry.invokes x ⟨event, s.registry⟩ = false) :
    AllStarted id (s.note event) := by
  refine ⟨hinvokes, ?_⟩
  rw [Session.note, invoked_cons, started, hinvokes id, h.1 id, h.2]
  rfl

/-- What is announced and starts at once has started. -/
theorem AllStarted.announce {s : Session} (h : AllStarted id s) (x : Ident) (hook : Routine) :
    AllStarted id ((s.note (.noticed (.disposing x))).note (hook.entry .disposal)) := by
  have hentry : ∀ (r : Registry) (y : Ident), Entry.invokes y ⟨hook.entry .disposal, r⟩ = false :=
    fun _ _ => (Entry.keeps_of_isPlain (Routine.isPlain_entry .disposal hook)).1
  refine ⟨fun y => hentry _ y, ?_⟩
  rw [Session.note, invoked_cons, started, hentry _ id, Session.note, invoked_cons, started,
    h.1 id, h.2]
  show started id _ s.journal + (if (x == id) = true then 1 else 0) + 0 =
    started id _ s.journal + 0 + if ((x == id) && true) = true then 1 else 0
  rw [Bool.and_true, Nat.add_zero, Nat.add_zero]

/-- **What is announced starts**, and nothing starts that is not announced. -/
theorem Upkeep.all_started {s t : Session} {ids : List Ident} (h : Upkeep s t ids)
    (hs : AllStarted id s) : AllStarted id t := by
  induction h with
  | rest s => exact hs
  | next _ _ ih ih' => exact ih' (ih hs)
  | apart _ _ hjournal =>
    rw [AllStarted, hjournal]
    exact hs
  | note h => exact hs.note _ fun _ => (Entry.keeps_of_isPlain h).1
  | graph _ | release _ => exact hs
  | call _ _ _ ih | destroy _ _ ih =>
    exact (ih (hs.note _ fun _ => rfl)).note _ fun _ => rfl
  | @keep s op asStep y hook _ =>
    have hbegan : AllStarted id (s.note (.began op)) := hs.note _ fun _ => rfl
    have hkept : AllStarted id ((s.note (.began op)).keep y hook) := by
      rw [Session.keep]
      split
      · exact AllStarted.note (s := Session.put _ _) hbegan _ fun _ => rfl
      · exact hbegan
    exact hkept.note _ fun _ => rfl
  | dispose _ _ _ _ ih ih' => exact ih' ((ih hs).announce _ _)
  | detach _ _ ih => exact ih hs
  | empty s => exact AllStarted.note (s := s.put _) hs _ fun _ => rfl

/-! ## Who ran a hook -/

namespace Disposals

/-- For each call under way, the innermost first, the identifiers whose hooks it has run so far. -/
def after : List Entry → List (List Ident)
  | [] => []
  | e :: earlier =>
    match e.event with
    | .began _ => [] :: after earlier
    | .done .. => (after earlier).tail
    | .noticed (.disposing id) => (after earlier).modifyHead (· ++ [id])
    | _ => after earlier

theorem after_plain {event : Event} (h : event.isPlain = true) (r : Registry)
    (earlier : List Entry) : after (⟨event, r⟩ :: earlier) = after earlier := by
  cases event with
  | began _ | done _ _ _ => cases h
  | entered _ _ _ | wired _ _ _ | fetched _ _ => rfl
  | noticed notice =>
    cases notice with
    | disposing _ => cases h
    | _ => rfl

theorem after_keep (s : Session) (id : Ident) (hook : Routine) :
    after (s.keep id hook).journal = after s.journal := by
  rw [Session.keep]
  split <;> rfl

end Disposals

/-- What an entry reports of the hooks that ran.  A call that destroys answers the list of those that
    it ran; no other call ran any; and a hook is announced while the innermost call destroys. -/
def Entry.Reports (e : Entry) (earlier : List Entry) : Prop :=
  match e.event with
  | .done op _ result =>
    if op.destroys then
      ∃ report, result = .ok (.report report) ∧
        (Disposals.after earlier).head? = some report.disposed
    else (Disposals.after earlier).head? = some []
  | .noticed (.disposing _) => ∃ f ∈ (Frame.after earlier).head?, f.op.destroys = true
  | _ => True

theorem Entry.reports_of_isPlain {event : Event} (h : event.isPlain = true)
    (earlier : List Entry) : Entry.Reports ⟨event, r⟩ earlier := by
  cases event with
  | began _ | done _ _ _ => cases h
  | entered _ _ _ | wired _ _ _ | fetched _ _ => exact trivial
  | noticed notice =>
    cases notice with
    | disposing _ => cases h
    | _ => exact trivial

namespace Upkeep

variable {s t : Session} {ids : List Ident}

/-- The innermost call has run the hooks that upkeep says, in that order, and no other call has run
    any. -/
theorem disposals (h : Upkeep s t ids) :
    Disposals.after t.journal = (Disposals.after s.journal).modifyHead (· ++ ids) := by
  have hnil : ∀ lists : List (List Ident), lists.modifyHead (· ++ []) = lists := by
    intro lists
    cases lists <;> simp
  have happend : ∀ (lists : List (List Ident)) (first second : List Ident),
      (lists.modifyHead (· ++ first)).modifyHead (· ++ second) =
        lists.modifyHead (· ++ (first ++ second)) := by
    intro lists first second
    cases lists <;> simp
  induction h with
  | rest s => exact (hnil _).symm
  | next _ _ ih ih' => rw [ih', ih, happend]
  | apart _ _ hjournal => rw [hjournal, hnil]
  | note hplain => exact (Disposals.after_plain hplain _ _).trans (hnil _).symm
  | graph _ | release _ | empty _ => exact (hnil _).symm
  | @call s t op asStep result _ _ _ ih =>
    show (Disposals.after t.journal).tail = _
    rw [ih, hnil, hnil]
    rfl
  | @keep s op asStep id hook _ =>
    show (Disposals.after ((s.note (.began op)).keep id hook).journal).tail = _
    rw [Disposals.after_keep, hnil]
    rfl
  | @dispose s t u ids id hook _ _ _ _ ih ih' =>
    rw [ih', hnil]
    refine (Disposals.after_plain (Routine.isPlain_entry .disposal hook) _ _).trans ?_
    show (Disposals.after t.journal).modifyHead (· ++ [id]) = _
    rw [ih]
    exact happend _ _ _
  | detach _ _ ih => exact ih
  | @destroy s t op asStep report _ _ ih =>
    show (Disposals.after t.journal).tail = _
    rw [ih, hnil]
    rfl

/-- **Every report lists the hooks that its call ran.** -/
theorem reports (h : Upkeep s t ids) : Newly Entry.Reports s t := by
  have hbegan : ∀ (u : Session) (op : Op), Newly Entry.Reports u (u.note (.began op)) :=
    fun _ _ => .note trivial
  induction h with
  | rest s => exact .of_eq rfl
  | next _ _ ih ih' => exact ih.trans ih'
  | apart _ _ hjournal => exact .of_eq hjournal
  | note hplain => exact .note (Entry.reports_of_isPlain hplain _)
  | graph _ | release _ => exact .of_eq rfl
  | @call s t op asStep result hop _ inside ih =>
    have hended : Entry.Reports ⟨.done op asStep result, t.registry⟩ t.journal := by
      show if op.destroys then _ else (Disposals.after t.journal).head? = some []
      rw [hop, inside.disposals]
      rfl
    exact .trans (hbegan s op) (ih.trans (.note hended))
  | @keep s op asStep id hook hhook =>
    have hended : Entry.Reports ⟨.done op asStep (.ok .unit),
        ((s.note (.began op)).keep id hook).registry⟩ ((s.note (.began op)).keep id hook).journal := by
      show if op.destroys then _ else (Disposals.after _).head? = some []
      cases hop : op.destroys with
      | true =>
        rw [Op.hook?_of_destroys hop] at hhook
        cases hhook
      | false =>
        rw [Disposals.after_keep]
        rfl
    exact .trans (hbegan s op) (.trans (.keep fun _ => trivial) (.note hended))
  | @dispose s t u ids id hook hdoing _ before _ ih ih' =>
    have hannounced : Entry.Reports ⟨.noticed (.disposing id), t.registry⟩ t.journal :=
      before.doing.2 hdoing
    have hstarted := Entry.reports_of_isPlain (r := t.registry)
      (Routine.isPlain_entry .disposal hook) (t.note (.noticed (.disposing id))).journal
    exact .trans ih (.trans (.note hannounced) (.trans (.note hstarted) ih'))
  | detach _ _ ih => exact ih
  | empty s => exact .note (s := s.put _) trivial
  | @destroy s t op asStep report hop inside ih =>
    have hended : Entry.Reports ⟨.done op asStep (.ok (.report report)), t.registry⟩ t.journal := by
      show if op.destroys then _ else _
      rw [if_pos hop, inside.disposals]
      exact ⟨report, rfl, rfl⟩
    exact .trans (hbegan s op) (ih.trans (.note hended))

end Upkeep

/-! ## The law -/

/-- **Disposal hooks are conserved**, whatever a script's hooks do.  At every quiet moment and in the
    end, for every identifier, the hooks that were registered are those that were invoked, those
    that were replaced, those that were dropped, and the one that is pending if there is one.  No
    hook is invoked twice: of any kind no more are invoked than were registered.  And what a call
    that destroys reports are the hooks that it invoked itself, in that order, so that every
    invocation is in one report and once. -/
theorem hooks_conserved {script : Script} {depth : Nat} {outcome : Outcome Cause Unit} {s : Session}
    (h : script.runWithin depth = some (outcome, s)) :
    (∀ id,
      (∀ later e earlier, s.journal = later ++ e :: earlier → Quiet e earlier →
        script.registry.pending id (fun _ => true) + registered id (fun _ => true) earlier =
          invoked id (e :: earlier) + replaced id (e :: earlier) + discarded id (e :: earlier) +
            e.registry.pending id fun _ => true) ∧
      script.registry.pending id (fun _ => true) + registered id (fun _ => true) s.journal =
        invoked id s.journal + replaced id s.journal + discarded id s.journal +
          s.registry.pending id fun _ => true) ∧
    (∀ id, invoked id s.journal = started id (fun _ => true) s.journal ∧ ∀ kind : Event → Bool,
      started id kind s.journal + s.registry.pending id (fun hook => kind (hook.entry .disposal)) ≤
        script.registry.pending id (fun hook => kind (hook.entry .disposal)) +
          registered id (fun hook => kind (hook.entry .disposal)) s.journal) ∧
    (∀ later e earlier, s.journal = later ++ e :: earlier → e.Reports earlier) ∧
      Disposals.after s.journal = [] := by
  have hupkeep : Upkeep script.start s [] := Script.upkeep h
  have hsettled : Settled script.start.journal := fun _ => rfl
  refine ⟨fun id => ?_, fun id => ⟨?_, fun kind => ?_⟩, fun later e earlier hjournal => ?_, ?_⟩
  · have hstart : Balanced (script.registry.pending id fun _ => true) id 0 script.start := by
      show _ + 0 = 0 + 0 + 0 + 0 + script.registry.pending id _
      omega
    refine ⟨fun later e earlier hjournal hquiet => ?_, ?_⟩
    · exact (hupkeep.balanced_quietly hstart).all rfl hjournal hquiet
    · have hend := hupkeep.balanced hstart
      rwa [Balanced, Nat.zero_add] at hend
  · exact (hupkeep.all_started ⟨hsettled, rfl⟩).2
  · have hstart : Enough (script.registry.pending id fun hook => kind (hook.entry .disposal)) id kind
        0 script.start := by
      refine ⟨hsettled, ?_⟩
      show 0 + 0 + script.registry.pending id _ ≤ script.registry.pending id _ + 0
      omega
    have hend := (hupkeep.enough hstart).2
    rwa [Nat.zero_add] at hend
  · exact hupkeep.reports.all rfl hjournal
  · exact hupkeep.disposals

/-- A bar with a stool at it.  Its first hook is replaced by a bell.  The hook of the stool registers
    one for the bar that panics, and destroys the bar while that is being destroyed; the bell
    registers another one, destroys the bar again, and fails.  The hook of the door registers one
    when everything is destroyed. -/
def lastOrders : Script where
  registry := {}
  steps :=
    [.step (.graph (.addDependency "bar" "stool")) true none,
      .step (.registerHook "bar" (.scripted "first" [] .same)) true none,
      .step (.registerHook "bar" (.scripted "bell"
        [.step (.registerHook "bar" (.scripted "again" [] .same)) true none,
          .step (.destroyOne "bar") true none] (.fail "stuck"))) true none,
      .step (.registerHook "stool" (.scripted "stool"
        [.step (.registerHook "bar" (.scripted "late" [] (.panic (.saying "crack")))) true none,
          .step (.destroyOne "bar") true none] .same)) true none,
      .step (.destroyOne "bar") true none,
      .step (.registerHook "door" (.scripted "door"
        [.step (.registerHook "bar" (.scripted "never" [] .same)) true none] .same)) true none,
      .step .destroyAll true none]

/-- Of the five hooks of the bar three were invoked, one was replaced and one dropped; the bell rang
    once. -/
theorem hooks_conserved_lastOrders :
    ∃ outcome s, lastOrders.runWithin 4 = some (outcome, s) ∧
      registered "bar" (fun _ => true) s.journal = 5 ∧ replaced "bar" s.journal = 1 ∧
      discarded "bar" s.journal = 1 ∧ s.registry.pending "bar" (fun _ => true) = 0 ∧
      invoked "bar" s.journal = 3 ∧
      started "bar" (fun event => match event with
        | .entered _ label _ => label == "bell"
        | _ => false) s.journal ≤ 1 ∧
      Disposals.after s.journal = [] := by
  have hends : ∃ outcome s, lastOrders.runWithin 4 = some (outcome, s) ∧
      registered "bar" (fun _ => true) s.journal = 5 ∧ replaced "bar" s.journal = 1 ∧
      discarded "bar" s.journal = 1 ∧ s.registry.pending "bar" (fun _ => true) = 0 ∧
      registered "bar" (fun hook => match hook.entry .disposal with
        | .entered _ label _ => label == "bell"
        | _ => false) s.journal = 1 :=
    Script.ends_of_check (by decide +kernel)
  obtain ⟨outcome, s, hrun, hregistered, hreplaced, hdiscarded, hpending, hbell⟩ := hends
  obtain ⟨hbooks, honce, -, hover⟩ := hooks_conserved hrun
  have hbalance := (hbooks "bar").2
  have hrang := (honce "bar").2 fun event => match event with
    | .entered _ label _ => label == "bell"
    | _ => false
  have hnone : ∀ test, lastOrders.registry.pending "bar" test = 0 := fun _ => rfl
  rw [hnone] at hbalance hrang
  refine ⟨outcome, s, hrun, hregistered, hreplaced, hdiscarded, hpending, by omega, ?_, hover⟩
  omega

end InstanceRegistry
