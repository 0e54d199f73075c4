import InstanceRegistry.Proofs.Lockstep.Scripts

/-!
  Identifiers do not interfere.

  Take a set of identifiers that are no aliases, and a registry in which no edge connects one of them
  with any other identifier.  A script that names nothing else, whose callbacks name nothing else, and
  that uses no operation on the registry as a whole cannot tell what else the registry keeps, and
  leaves that as it was.

  Both halves are one comparison with nothing but the set in view.  Compared with another run of the
  same script, from a session that agrees on the set, it says that the two do the same and agree on
  the set again.  Compared with itself, it says that what is out of view stands as it stood.

  Shared by everybody are the settings, the lifecycle, the buffer of non-fatal errors, the
  post-processor and the supply of serial numbers, so these have to agree as well; and so do the
  variables of the script and the components that it assembles.
-/

namespace InstanceRegistry

/-! ## Programs that name some identifiers only -/

variable {S : Ident → Bool}

/-- The view of some identifiers: names stay as they are, labels count, and the registry as a whole is
    out of view. -/
def Viewpoint.only (S : Ident → Bool) : Viewpoint where
  names a b := a = b ∧ S a = true
  usable _ := False
  labelled := True
  whole := False

theorem Viewpoint.only_verbatim : (Viewpoint.only S).Verbatim := ⟨And.left, trivial⟩

theorem Viewpoint.only_accepts {id : Ident} (h : S id = true) : (Viewpoint.only S).Accepts id id :=
  ⟨⟨rfl, h⟩, .inl rfl⟩

/-- The routine names no identifiers but these, and uses no operation on the whole registry. -/
def Routine.NamesOnly (S : Ident → Bool) (r : Routine) : Prop := r.Alike (.only S) r

/-- So do all steps. -/
def Step.AllNameOnly (S : Ident → Bool) (steps : List Step) : Prop :=
  Step.AllAlike (.only S) steps steps

/-- So does all that a component does. -/
def Component.NamesOnly (S : Ident → Bool) (c : Component) : Prop := c.Alike (.only S) c

/-! ## States -/

/-- The identifiers are no aliases, no edge connects them with others, and whatever waits to be run
    for them names no others. -/
structure Session.Separates (S : Ident → Bool) (s : Session) : Prop where
  canonical : ∀ id, S id = true → s.registry.canonical id = id
  dependents : s.registry.graph.dependents.Uncrossed S
  dependencies : s.registry.graph.dependencies.Uncrossed S
  contained : s.registry.graph.contained.Uncrossed S
  hooks : ∀ id hook, S id = true → s.registry.hooks.get? id = some hook → hook.NamesOnly S
  factories : ∀ id factory, S id = true → s.registry.factories.get? id = some factory →
    factory.NamesOnly S
  postProcessor : ∀ processor, s.registry.postProcessor = some processor → processor.NamesOnly S
  components : ∀ id component, S id = true → s.components.get? id = some component →
    component.NamesOnly S
  waiting : ∀ id ∈ s.waiting, S id = true

/-- What is kept under these identifiers is the same in both registries, and so is what is kept under
    none. -/
structure Registry.AgreesOn (S : Ident → Bool) (r r' : Registry) : Prop where
  config : r.config = r'.config
  guarded : r.guarded = r'.guarded
  finished : r.finished.restrict S = r'.finished.restrict S
  early : r.early.restrict S = r'.early.restrict S
  factories : r.factories.restrict S = r'.factories.restrict S
  products : r.products.restrict S = r'.products.restrict S
  listed : r.listed.filter S = r'.listed.filter S
  suppressed : r.suppressed = r'.suppressed
  lifecycle : r.lifecycle = r'.lifecycle
  active : r.marks.active.filter S = r'.marks.active.filter S
  excluded : r.marks.excluded.filter S = r'.marks.excluded.filter S
  dependents : ∀ id, S id = true → r.graph.dependentsOf id = r'.graph.dependentsOf id
  dependencies : ∀ id, S id = true → r.graph.dependenciesOf id = r'.graph.dependenciesOf id
  contained : ∀ id, S id = true → r.graph.containedIn id = r'.graph.containedIn id
  hooks : r.hooks.restrict S = r'.hooks.restrict S
  postProcessor : r.postProcessor = r'.postProcessor

/-- The two sessions are the same for a script that names these identifiers only. -/
structure Session.AgreesOn (S : Ident → Bool) (s s' : Session) : Prop where
  registry : s.registry.AgreesOn S s'.registry
  supply : s.supply = s'.supply
  bindings : s.bindings = s'.bindings
  components : ∀ id, S id = true → s.components.get? id = s'.components.get? id
  waiting : s.waiting = s'.waiting

/-- What is kept under any other identifier is what it was, in the same order. -/
structure Registry.KeepsBeyond (S : Ident → Bool) (r t : Registry) : Prop where
  finished : t.finished.beyond S = r.finished.beyond S
  early : t.early.beyond S = r.early.beyond S
  factories : t.factories.beyond S = r.factories.beyond S
  products : t.products.beyond S = r.products.beyond S
  listed : (t.listed.filter fun id => !S id) = r.listed.filter fun id => !S id
  active : (t.marks.active.filter fun id => !S id) = r.marks.active.filter fun id => !S id
  excluded : (t.marks.excluded.filter fun id => !S id) = r.marks.excluded.filter fun id => !S id
  dependents : ∀ id, S id = false → t.graph.dependentsOf id = r.graph.dependentsOf id
  dependencies : ∀ id, S id = false → t.graph.dependenciesOf id = r.graph.dependenciesOf id
  contained : ∀ id, S id = false → t.graph.containedIn id = r.graph.containedIn id
  hooks : t.hooks.beyond S = r.hooks.beyond S

/-- The sessions went on with the same events, so with the same result of every operation, and agreed
    on these identifiers at each of them. -/
def Session.GoOnAlike (S : Ident → Bool) (s s' t t' : Session) : Prop :=
  ∃ new new', t.journal = new ++ s.journal ∧ t'.journal = new' ++ s'.journal ∧
    List.Forall₂ (fun e e' => e.event = e'.event ∧ e.registry.AgreesOn S e'.registry) new new'

theorem Session.AgreesOn.refl (S : Ident → Bool) (s : Session) : s.AgreesOn S s where
  registry := by constructor <;> first | rfl | exact fun _ _ => rfl
  supply := rfl
  bindings := rfl
  components _ _ := rfl
  waiting := rfl

/-! ## The comparison -/

/-- Two sessions that separate the same identifiers, compared for them. -/
def Session.besides (s s' : Session) (h : s.Separates S) (h' : s'.Separates S) : Comparison where
  view := .only S
  inside := S
  left := s
  right := s'
  canonical_eq := by
    rintro a _ ⟨rfl, ha⟩
    rw [h.canonical a ha, h'.canonical a ha]
  inside_canonical := by
    rintro a _ ⟨rfl, ha⟩
    rw [h.canonical a ha, ha]
  usable := False.elim
  alone := False.elim
  aliases_eq := False.elim

theorem Store.abreast_of_restrict_eq {α : Type} {alike : α → α → Prop} {s s' : Store α}
    (heq : s.restrict S = s'.restrict S)
    (hvalues : ∀ id value, S id = true → s.get? id = some value → alike value value) :
    Store.Abreast S alike s s' s s' where
  within := by
    rw [← heq]
    refine alike_self fun id value hvalue => ?_
    rw [get?_restrict] at hvalue
    split at hvalue
    · exact hvalues id value ‹_› hvalue
    · cases hvalue
  left := rfl
  right := rfl

theorem option_rel_self {α : Type} {R : α → α → Prop} {a b : Option α} (heq : a = b)
    (h : ∀ value, a = some value → R value value) : Option.Rel R a b := by
  subst heq
  cases a with
  | none => exact .none
  | some value => exact .some (h value rfl)

/-- Sessions that agree are abreast where they begin. -/
theorem Session.AgreesOn.abreast {s s' : Session} (hagree : s.AgreesOn S s') (h : s.Separates S)
    (h' : s'.Separates S) : s.Abreast (s.besides s' h h') s' where
  registry :=
    { config := rfl
      config' := hagree.registry.config.symm
      guarded := rfl
      guarded' := hagree.registry.guarded.symm
      aliases := rfl
      aliases' := rfl
      finished := Store.abreast_of_restrict_eq hagree.registry.finished fun _ _ _ _ => .refl _
      early := Store.abreast_of_restrict_eq hagree.registry.early fun _ _ _ _ => .refl _
      factories := Store.abreast_of_restrict_eq hagree.registry.factories h.factories
      products := Store.abreast_of_restrict_eq hagree.registry.products fun _ _ _ _ => .refl _
      listed := ⟨hagree.registry.listed, rfl, rfl⟩
      suppressed := hagree.registry.suppressed
      lifecycle := hagree.registry.lifecycle
      marks := ⟨⟨hagree.registry.active, rfl, rfl⟩, ⟨hagree.registry.excluded, rfl, rfl⟩⟩
      graph :=
        ⟨⟨hagree.registry.dependents, fun _ _ => rfl, fun _ _ => rfl, h.dependents, h'.dependents,
            False.elim⟩,
          ⟨hagree.registry.dependencies, fun _ _ => rfl, fun _ _ => rfl, h.dependencies,
            h'.dependencies, False.elim⟩,
          ⟨hagree.registry.contained, fun _ _ => rfl, fun _ _ => rfl, h.contained, h'.contained,
            False.elim⟩⟩
      hooks := Store.abreast_of_restrict_eq hagree.registry.hooks h.hooks
      postProcessor := option_rel_self hagree.registry.postProcessor h.postProcessor }
  supply := hagree.supply
  bindings := hagree.bindings ▸ Store.alike_self fun _ _ _ => .refl _
  components id hid := option_rel_self (hagree.components id hid.names.2)
    fun component hcomponent => h.components id component hid.names.2 hcomponent
  waiting := hagree.waiting ▸ List.forall₂_same.2 fun id hid => ⟨rfl, h.waiting id hid⟩
  journal := ⟨[], [], rfl, rfl, .nil⟩

section

variable {s s' t t' : Session} {h : s.Separates S} {h' : s'.Separates S} {r r' : Registry}

/-- Registries that are abreast agree on what is in view. -/
theorem Registry.Abreast.agreesOn (hr : r.Abreast (s.besides s' h h') r') : r.AgreesOn S r' where
  config := hr.config.trans hr.config'.symm
  guarded := hr.guarded.trans hr.guarded'.symm
  finished := hr.finished.within.eq fun _ _ hv => hv.eq trivial
  early := hr.early.within.eq fun _ _ hv => hv.eq trivial
  factories := hr.factories.within.eq fun _ _ hv => hv.eq Viewpoint.only_verbatim
  products := hr.products.within.eq fun _ _ hv => hv.eq trivial
  listed := hr.listed.within
  suppressed := hr.suppressed
  lifecycle := hr.lifecycle
  active := hr.marks.active.within
  excluded := hr.marks.excluded.within
  dependents := hr.graph.dependents.within
  dependencies := hr.graph.dependencies.within
  contained := hr.graph.contained.within
  hooks := hr.hooks.within.eq fun _ _ hv => hv.eq Viewpoint.only_verbatim
  postProcessor := by
    rcases both_or_neither hr.postProcessor with ⟨p, p', hp, hp', halike⟩ | ⟨hp, hp'⟩
    · rw [hp, hp', halike.eq Viewpoint.only_verbatim]
    · rw [hp, hp']

/-- What is out of view is what it was where the run began. -/
theorem Registry.Abreast.keepsBeyond (hr : r.Abreast (s.besides s' h h') r') :
    s.registry.KeepsBeyond S r where
  finished := hr.finished.left
  early := hr.early.left
  factories := hr.factories.left
  products := hr.products.left
  listed := hr.listed.left
  active := hr.marks.active.left
  excluded := hr.marks.excluded.left
  dependents := hr.graph.dependents.left
  dependencies := hr.graph.dependencies.left
  contained := hr.graph.contained.left
  hooks := hr.hooks.left

theorem Session.Abreast.agreesOn (ht : t.Abreast (s.besides s' h h') t') : t.AgreesOn S t' where
  registry := ht.registry.agreesOn
  supply := ht.supply
  bindings := ht.bindings.eq fun _ _ hv => hv.eq trivial
  components id hid := by
    rcases both_or_neither (ht.components id (Viewpoint.only_accepts hid)) with
      ⟨c, c', hc, hc', halike⟩ | ⟨hc, hc'⟩
    · rw [hc, hc', halike.eq Viewpoint.only_verbatim]
    · rw [hc, hc']
  waiting := by
    have hwaiting := ht.waiting.imp fun _ _ hnames => hnames.1
    rwa [List.forall₂_eq_eq_eq] at hwaiting

theorem Session.Abreast.goOnAlike (ht : t.Abreast (s.besides s' h h') t') :
    Session.GoOnAlike S s s' t t' := by
  obtain ⟨new, new', hnew, hnew', halike⟩ := ht.journal
  exact ⟨new, new', hnew, hnew',
    halike.imp fun _ _ he => ⟨he.event.eq Viewpoint.only_verbatim, he.registry.agreesOn⟩⟩

/-- A session that is abreast of itself separates what it separated where the run began. -/
theorem Session.Abreast.separates (ht : t.Abreast (s.besides s h h) t) : t.Separates S where
  canonical id hid := by
    rw [Registry.canonical, ht.registry.aliases]
    exact h.canonical id hid
  dependents := ht.registry.graph.dependents.uncrossed
  dependencies := ht.registry.graph.dependencies.uncrossed
  contained := ht.registry.graph.contained.uncrossed
  hooks id hook hid hhook := by
    have halike := ht.registry.hooks.get? hid
    rw [hhook] at halike
    cases halike with
    | some halike => exact halike
  factories id factory hid hfactory := by
    have halike := ht.registry.factories.get? hid
    rw [hfactory] at halike
    cases halike with
    | some halike => exact halike
  postProcessor processor hprocessor := by
    have halike := ht.registry.postProcessor
    rw [hprocessor] at halike
    cases halike with
    | some halike => exact halike
  components id component hid hcomponent := by
    have halike := ht.components id (Viewpoint.only_accepts hid)
    rw [hcomponent] at halike
    cases halike with
    | some halike => exact halike
  waiting id hid := (List.forall₂_same.1 ht.waiting id hid).2

end

/-! ## The law -/

/-- **Identifiers do not interfere.**  Take identifiers that are no aliases, a session in which no edge
    connects them with others, and a script that names nothing else and asks nothing of the registry
    as a whole.  With callbacks nested to any depth, running the script leaves everything that is kept
    under other identifiers as it was, and the identifiers as separate as they were.  From another
    such session that agrees on them, it comes to an end if it does from the first, in the same way
    and with the same events, so with the same results, and the sessions agree on them again. -/
theorem identifiers_do_not_interfere {s : Session} {steps : List Step} (hs : s.Separates S)
    (hsteps : Step.AllNameOnly S steps) (depth : Nat) :
    (∀ outcome t, Script.takeSteps (.ofDepth depth) steps s = some (outcome, t) →
        s.registry.KeepsBeyond S t.registry ∧ t.Separates S) ∧
      ∀ s' : Session, s'.Separates S → s.AgreesOn S s' →
        Option.Rel
          (fun p p' => p.1 = p'.1 ∧ p.2.AgreesOn S p'.2 ∧ Session.GoOnAlike S s s' p.2 p'.2)
          (Script.takeSteps (.ofDepth depth) steps s)
          (Script.takeSteps (.ofDepth depth) steps s') := by
  constructor
  · intro outcome t hrun
    have hself := Script.takeSteps_lockstep (Engine.ofDepth_lockstep (s.besides s hs hs) depth) hsteps
      s s ((Session.AgreesOn.refl S s).abreast hs hs)
    rw [hrun] at hself
    cases hself with
    | some hended => exact ⟨hended.2.registry.keepsBeyond, hended.2.separates⟩
  · intro s' hs' hagree
    have hboth := Script.takeSteps_lockstep (Engine.ofDepth_lockstep (s.besides s' hs hs') depth)
      hsteps s s' (hagree.abreast hs hs')
    rcases both_or_neither hboth with
      ⟨⟨outcome, t⟩, ⟨outcome', t'⟩, ht, ht', houtcome, habreast⟩ | ⟨ht, ht'⟩
    · rw [ht, ht']
      exact .some ⟨houtcome.eq fun _ _ h => h, habreast.agreesOn, habreast.goOnAlike⟩
    · rw [ht, ht']
      exact .none

/-- The lamp and its bulb. -/
def lampAndBulb (id : Ident) : Bool := id = "lamp" || id = "bulb"

/-- Create a lamp that hangs on its bulb, and destroy both. -/
def lampSteps : List Step :=
  [.step (.create { id := "lamp", dependsOn := ["bulb"] } (.scripted "lamp"
      [.step (.getOrCreate "bulb" (.scripted "bulb" [] (.fresh none))) true (some "bulb"),
        .step (.ask (.isActive "lamp")) true none]
      (.fresh none))) true none,
    .step (.registerHook "lamp" (.scripted "off" [.step (.ask (.contains "bulb")) true none] .same))
      true none,
    .step (.destroyOne "bulb") true none]

/-- A registry that keeps nothing yet. -/
def vacant : Session where
  registry := {}
  supply := 1

/-- A registry that keeps a house, on which a garden hangs that is in creation. -/
def inhabited : Session where
  registry :=
    { finished := (∅ : Store Instance).insert "house" ⟨0, some "house"⟩
      listed := ["house"]
      marks := { active := ["garden"] }
      graph := ({} : Graph).addDependency "house" "garden"
      hooks := (∅ : Store Routine).insert "house"
        (.scripted "house" [.step .destroyAll true none] .same) }
  supply := 1

theorem lampSteps_nameOnly : Step.AllNameOnly lampAndBulb lampSteps := by
  have hlamp : (Viewpoint.only lampAndBulb).Accepts "lamp" "lamp" := Viewpoint.only_accepts rfl
  have hbulb : (Viewpoint.only lampAndBulb).Accepts "bulb" "bulb" := Viewpoint.only_accepts rfl
  have htags (id : Ident) : (Viewpoint.only lampAndBulb).Tags id id := fun _ => rfl
  refine .cons (.step (.create ⟨hlamp, .cons hbulb .nil, rfl⟩ (.scripted (htags _) ?_))) ?_
  · refine .cons (.step (.getOrCreate hbulb (.scripted (htags _) .nil))) ?_
    exact .cons (.step (.ask (.isActive hlamp.names))) .nil
  · refine .cons (.step (.registerHook hlamp (.scripted (htags _) ?_))) ?_
    · exact .cons (.step (.ask (.contains hbulb.names))) .nil
    · exact .cons (.step (.destroyOne hbulb.names)) .nil

theorem vacant_separates : vacant.Separates lampAndBulb where
  canonical _ _ := rfl
  dependents := Adjacency.uncrossed_empty
  dependencies := Adjacency.uncrossed_empty
  contained := Adjacency.uncrossed_empty
  hooks := nofun
  factories := nofun
  postProcessor := nofun
  components := nofun
  waiting := nofun

theorem inhabited_separates : inhabited.Separates lampAndBulb where
  canonical _ _ := rfl
  dependents := Adjacency.uncrossed_empty.addEdge (a := "house") (b := "garden") rfl
  dependencies := Adjacency.uncrossed_empty.addEdge (a := "garden") (b := "house") rfl
  contained := Adjacency.uncrossed_empty
  hooks id hook hid hhook := by
    have hne : id ≠ "house" := by
      rintro rfl
      exact Bool.false_ne_true hid
    rw [show inhabited.registry.hooks.get? id = _ from Store.get?_insert_of_ne _ hne _] at hhook
    cases hhook
  factories := nofun
  postProcessor := nofun
  components := nofun
  waiting := nofun

theorem inhabited_agreesOn_vacant : inhabited.AgreesOn lampAndBulb vacant where
  registry :=
    { config := rfl
      guarded := rfl
      finished := rfl
      early := rfl
      factories := rfl
      products := rfl
      listed := rfl
      suppressed := rfl
      lifecycle := rfl
      active := rfl
      excluded := rfl
      dependents := fun id hid => by
        refine Adjacency.neighbours_addEdge ∅ "house" "garden" id |>.trans (if_neg ?_)
        rintro rfl
        exact Bool.false_ne_true hid
      dependencies := fun id hid => by
        refine Adjacency.neighbours_addEdge ∅ "garden" "house" id |>.trans (if_neg ?_)
        rintro rfl
        exact Bool.false_ne_true hid
      contained := fun _ _ => rfl
      hooks := rfl
      postProcessor := rfl }
  supply := rfl
  bindings := rfl
  components _ _ := rfl
  waiting := rfl

theorem identifiers_do_not_interfere_lamp :
    ∃ outcome t t', Script.takeSteps (.ofDepth 3) lampSteps inhabited = some (outcome, t) ∧
      Script.takeSteps (.ofDepth 3) lampSteps vacant = some (outcome, t') ∧
      inhabited.registry.KeepsBeyond lampAndBulb t.registry ∧ t.AgreesOn lampAndBulb t' ∧
      Session.GoOnAlike lampAndBulb inhabited vacant t t' := by
  have hends : (Script.takeSteps (.ofDepth 3) lampSteps inhabited).isSome = true := by decide +kernel
  obtain ⟨hkeeps, hsame⟩ := identifiers_do_not_interfere inhabited_separates lampSteps_nameOnly 3
  rcases both_or_neither (hsame vacant vacant_separates inhabited_agreesOn_vacant) with
    ⟨⟨outcome, t⟩, ⟨_, t'⟩, ht, ht', rfl, hagree', hon⟩ | ⟨ht, -⟩
  · exact ⟨outcome, t, t', ht, ht', (hkeeps outcome t ht).1, hagree', hon⟩
  · rw [ht] at hends
    cases hends

end InstanceRegistry
