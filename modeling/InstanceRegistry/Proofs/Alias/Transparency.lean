import InstanceRegistry.Proofs.Alias.Registration
import InstanceRegistry.Proofs.Courses.Moments
import InstanceRegistry.Proofs.Lockstep.Scripts

/-!
  Aliases are transparent.

  Two scripts that differ in nothing but the names they use for identifiers do the same, as long as
  names that stand in the same place have the same canonical one.  It does not matter how deep in
  callbacks a name stands, nor whether it is given to an operation, listed as a dependency or the end
  of an edge: every operation comes to the canonical name before it does anything.

  The comparison is that of two runs for which ALL canonical names are in view and nothing else is.
  In an acyclic table a canonical name is its own canonical name, so what an operation looks up or
  files is in view, and that everything filed stays in view says that every key of every store is a
  canonical name at every moment.

  Only what is made of the name itself, as it was given, can tell the difference: whether it is
  usable, and the label of an instance made by a routine that was written for another name.  So names
  that have to be usable have to be so in both scripts, and instances are the same by their serial
  numbers; if routines were written for the same names, they are the same altogether.
-/

namespace InstanceRegistry

/-! ## The view of all canonical names -/

namespace Registry

/-- A name that is canonical already. -/
def isCanonical (r : Registry) (id : Ident) : Bool := r.canonical id = id

/-- Every key of every store is a canonical name. -/
def FilesCanonical (r : Registry) : Prop := r.Confined r.isCanonical

/-- In an acyclic table the canonical name is at the end of its chain, so it is its own. -/
theorem isCanonical_canonical {r : Registry} (hacyclic : AliasTable.Acyclic r.aliases.targets)
    (id : Ident) : r.isCanonical (r.canonical id) = true := by
  refine decide_eq_true ?_
  have hstep := AliasTable.Acyclic.canonical_eq hacyclic (r.canonical id)
  have hend : r.aliases.targets.get? (r.canonical id) = none :=
    (AliasTable.Acyclic.canonical_end hacyclic id).2
  rw [hend] at hstep
  exact hstep

/-- Any names may stand for one another that have the same canonical one. -/
def synonyms (r : Registry) (labelled : Prop) : Viewpoint where
  names a b := r.canonical a = r.canonical b
  usable := r.config.Usable
  labelled := labelled
  whole := True

variable {view : Viewpoint} {inside : Ident → Bool} {r r' : Registry}

/-- Registries that resemble each other keep things under the same identifiers. -/
theorem Resembles.confined (h : r.Resembles view r') (hr : r.Confined inside) :
    r'.Confined inside where
  finished := by rw [Store.Confined, ← h.finished.keys_eq]; exact hr.finished
  early := by rw [Store.Confined, ← h.early.keys_eq]; exact hr.early
  factories := by rw [Store.Confined, ← h.factories.keys_eq]; exact hr.factories
  products := by rw [Store.Confined, ← h.products.keys_eq]; exact hr.products
  listed := h.listed ▸ hr.listed
  active := h.marks ▸ hr.active
  excluded := h.marks ▸ hr.excluded
  graph := h.graph ▸ hr.graph
  hooks := by rw [Store.Confined, ← h.hooks.keys_eq]; exact hr.hooks

end Registry

/-! ## Where the runs begin -/

theorem Store.Alike.abreast {α : Type} {inside : Ident → Bool} {alike : α → α → Prop}
    {s s' : Store α} (h : s.Alike alike s') : Store.Abreast inside alike s s' s s' :=
  ⟨h.restrict inside, rfl, rfl⟩

theorem Adjacency.Confined.abreast {inside : Ident → Bool} {whole : Prop} {m : Adjacency}
    (h : m.Confined inside) : Adjacency.Abreast inside whole m m m m where
  within _ _ := rfl
  left _ _ := rfl
  right _ _ := rfl
  uncrossed := h.uncrossed
  uncrossed' := h.uncrossed
  same _ := ⟨rfl, h.keys⟩

/-- Registries that resemble each other are abreast where they begin, if everything filed is in
    view. -/
theorem Registry.Resembles.abreast {c : Comparison}
    (h : c.left.registry.Resembles c.view c.right.registry)
    (hinside : c.left.registry.Confined c.inside) :
    c.left.registry.Abreast c c.right.registry where
  config := rfl
  config' := h.config.symm
  guarded := rfl
  guarded' := h.guarded.symm
  aliases := rfl
  aliases' := rfl
  finished := h.finished.abreast
  early := h.early.abreast
  factories := h.factories.abreast
  products := h.products.abreast
  listed := ⟨by rw [h.listed], rfl, rfl⟩
  suppressed := h.suppressed
  lifecycle := h.lifecycle
  marks := ⟨⟨by rw [h.marks], rfl, rfl⟩, ⟨by rw [h.marks], rfl, rfl⟩⟩
  graph := by
    rw [← h.graph]
    exact ⟨hinside.graph.dependents.abreast, hinside.graph.dependencies.abreast,
      hinside.graph.contained.abreast⟩
  hooks := h.hooks.abreast
  postProcessor := h.postProcessor

/-! ## Scripts in other names -/

/-- The same script in other names. -/
structure Script.Alike (view : Viewpoint) (script script' : Script) : Prop where
  registry : script.registry.Resembles view script'.registry
  components : ∀ id, view.Accepts id id →
    Option.Rel (Component.Alike view) (script.components.get? id) (script'.components.get? id)
  steps : Step.AllAlike view script.steps script'.steps

/-- The same session, up to names that may stand for one another: the registries resemble each
    other, and so does everything that was entered in the journals, with the results of all
    operations. -/
structure Session.Alike (view : Viewpoint) (s s' : Session) : Prop where
  registry : s.registry.Resembles view s'.registry
  supply : s.supply = s'.supply
  bindings : s.bindings.Alike (Instance.Alike view) s'.bindings
  waiting : List.Forall₂ view.names s.waiting s'.waiting
  journal : List.Forall₂
    (fun e e' => e.event.Alike view e'.event ∧ e.registry.Resembles view e'.registry)
    s.journal s'.journal

/-- What holds of both in every pair holds of all in both lists. -/
theorem forall_mem_of_forall₂ {α : Type} {P : α → Prop} {l l' : List α}
    (h : List.Forall₂ (fun a b => P a ∧ P b) l l') : (∀ a ∈ l, P a) ∧ ∀ b ∈ l', P b := by
  induction h with
  | nil => exact ⟨nofun, nofun⟩
  | cons hab _ ih =>
    exact ⟨List.forall_mem_cons.2 ⟨hab.1, ih.1⟩, List.forall_mem_cons.2 ⟨hab.2, ih.2⟩⟩

theorem Registry.Confined.filesCanonical {r o : Registry} (h : r.Confined o.isCanonical)
    (haliases : r.aliases = o.aliases) : r.FilesCanonical := by
  have hcanonical : r.isCanonical = o.isCanonical := by
    funext id
    rw [isCanonical, isCanonical, canonical, canonical, haliases]
  rw [FilesCanonical, hcanonical]
  exact h

/-- Sessions that are abreast as far as everything under a canonical name is concerned are alike, and
    they filed under canonical names at every moment. -/
theorem Session.Abreast.alike {c : Comparison} {s s' : Session} (h : s.Abreast c s')
    (hwhole : c.view.whole) (hinside : c.inside = c.left.registry.isCanonical)
    (hleft : c.left.journal = []) (hright : c.right.journal = []) :
    s.Alike c.view s' ∧ (∀ r ∈ s.moments, r.FilesCanonical) ∧
      ∀ r ∈ s'.moments, r.FilesCanonical := by
  obtain ⟨new, new', hnew, hnew', halike⟩ := h.journal
  rw [hleft, List.append_nil] at hnew
  rw [hright, List.append_nil] at hnew'
  refine ⟨⟨h.registry.resembles hwhole, h.supply, h.bindings, h.waiting, ?_⟩, ?_⟩
  · rw [hnew, hnew']
    exact halike.imp fun _ _ he => ⟨he.event, he.registry.resembles hwhole⟩
  · have hmoments : List.Forall₂ (Registry.Abreast c) s.moments s'.moments := by
      rw [moments, moments, hnew, hnew']
      exact .cons h.registry (List.rel_map (fun _ _ he => he.registry) halike)
    refine forall_mem_of_forall₂ (hmoments.imp fun r r' hr => ?_)
    have hin := hinside ▸ hr.confined hwhole
    have hin' := (hr.resembles hwhole).confined hin
    exact ⟨hin.filesCanonical hr.aliases,
      hin'.filesCanonical (hr.aliases'.trans (c.aliases_eq hwhole).symm)⟩

/-! ## The law -/

/-- **Aliases are transparent.**  Take any script that starts from a registry with an acyclic table of
    aliases and nothing filed but under canonical names, and any other one that differs from it only
    in names: each stands for the same identifier as the name in its place, wherever it stands, and
    where names have to be usable both are.  With callbacks nested to any depth, either both scripts
    come to an end or neither does.  They end in the same way, with the same result of every operation
    on the way and the same registry at every moment; and at every moment every key of every store is
    a canonical name. -/
theorem aliases_transparent {script script' : Script}
    (hacyclic : AliasTable.Acyclic script.registry.aliases.targets)
    (hfiles : script.registry.FilesCanonical) (labelled : Prop)
    (hscript : script.Alike (script.registry.synonyms labelled) script') (depth : Nat) :
    Option.Rel
      (fun p p' => p.1 = p'.1 ∧ p.2.Alike (script.registry.synonyms labelled) p'.2 ∧
        (∀ r ∈ p.2.moments, r.FilesCanonical) ∧ ∀ r ∈ p'.2.moments, r.FilesCanonical)
      (script.runWithin depth) (script'.runWithin depth) := by
  have hcanonical {a b : Ident} (h : script.registry.canonical a = script.registry.canonical b) :
      script.registry.canonical a = script'.registry.canonical b := by
    rw [h, Registry.canonical, Registry.canonical, hscript.registry.aliases]
  let c : Comparison :=
    { view := script.registry.synonyms labelled
      inside := script.registry.isCanonical
      left := script.start
      right := script'.start
      canonical_eq := hcanonical
      inside_canonical := fun _ => Registry.isCanonical_canonical hacyclic _
      usable := id
      alone := fun _ => ⟨hfiles, hscript.registry.confined hfiles⟩
      aliases_eq := fun _ => hscript.registry.aliases }
  have hstart : script.start.Abreast c script'.start :=
    { registry := hscript.registry.abreast (c := c) hfiles
      supply := rfl
      bindings := .nil
      components := hscript.components
      waiting := .nil
      journal := ⟨[], [], rfl, rfl, .nil⟩ }
  have hrun := Script.takeSteps_lockstep (Engine.ofDepth_lockstep c depth) hscript.steps _ _ hstart
  rcases both_or_neither hrun with
    ⟨⟨outcome, s⟩, ⟨outcome', s'⟩, hs, hs', houtcome, habreast⟩ | ⟨hs, hs'⟩
  · rw [Script.runWithin, Script.runWithin, hs, hs']
    exact .some ⟨houtcome.eq fun _ _ h => h, habreast.alike trivial rfl rfl rfl⟩
  · rw [Script.runWithin, Script.runWithin, hs, hs']
    exact .none

/-- A registry in which a lamp may be called a light. -/
def litByName : Registry where
  aliases := (AliasTable.run {} (.register "lamp" "light") :
    Except Failure (Answer Instance) × AliasTable).2

/-- Create a lamp that exposes itself to its own construction, and destroy it after what hangs on it;
    now one of the names is used for it and now the other. -/
def lampScript (a b : Ident) : Script where
  registry := litByName
  steps :=
    [.step (.getOrCreate a (.scripted "lamp"
        [.step (.registerFactory b (.scripted "bulb" [] (.fresh none))) true none,
          .step (.get a) true (some "early"),
          .step (.create { id := "room", dependsOn := [b] } (.scripted "room" [] (.recall "early")))
            true none]
        (.fresh none))) true none,
      .step (.registerHook b (.scripted "off" [.step (.ask (.contains a)) true none] .same)) true none,
      .step (.destroyOne a) true none]

theorem litByName_acyclic : AliasTable.Acyclic litByName.aliases.targets :=
  AliasTable.Acyclic.run AliasTable.acyclic_empty (.register "lamp" "light")

/-- The two names may be swapped. -/
theorem lampScript_alike :
    (lampScript "lamp" "light").Alike (litByName.synonyms True)
      (lampScript "light" "lamp") := by
  have hnames : litByName.canonical "lamp" = litByName.canonical "light" := by decide +kernel
  have husable : litByName.config.Usable "lamp" ∧ litByName.config.Usable "light" := by
    decide +kernel
  have hlamp : (litByName.synonyms True).Accepts "lamp" "light" :=
    ⟨hnames, .inr husable⟩
  have hlight : (litByName.synonyms True).Accepts "light" "lamp" :=
    ⟨hnames.symm, .inr husable.symm⟩
  have htags (id : Ident) : (litByName.synonyms True).Tags id id := fun _ => rfl
  refine ⟨?_, fun _ _ => .none, ?_⟩
  · exact ⟨rfl, rfl, rfl, .nil, .nil, .nil, .nil, rfl, rfl, rfl, rfl, rfl, .nil, .none⟩
  · refine .cons (.step (.getOrCreate hlamp (.scripted (htags _) ?_))) ?_
    · refine .cons (.step (.registerFactory hlight (.scripted (htags _) .nil))) ?_
      refine .cons (.step (.get hnames)) (.cons (.step ?_) .nil)
      exact .create ⟨⟨rfl, .inl rfl⟩, .cons hlight .nil, rfl⟩ (.scripted (htags _) .nil)
    · refine .cons (.step (.registerHook hlight (.scripted (htags _) ?_))) ?_
      · exact .cons (.step (.ask (.contains hnames))) .nil
      · exact .cons (.step (.destroyOne hnames)) .nil

theorem aliases_transparent_lamp :
    ∃ outcome s s', (lampScript "lamp" "light").runWithin 3 = some (outcome, s) ∧
      (lampScript "light" "lamp").runWithin 3 = some (outcome, s') ∧
      s.Alike (litByName.synonyms True) s' ∧
      (∀ r ∈ s.moments, r.FilesCanonical) ∧ ∀ r ∈ s'.moments, r.FilesCanonical := by
  have hfiles : litByName.FilesCanonical :=
    { finished := nofun, early := nofun, factories := nofun, products := nofun, listed := nofun
      active := nofun, excluded := nofun, hooks := nofun
      graph := ⟨⟨nofun, nofun⟩, ⟨nofun, nofun⟩, ⟨nofun, nofun⟩⟩ }
  have hends : ((lampScript "lamp" "light").runWithin 3).isSome = true := by decide +kernel
  rcases both_or_neither (@aliases_transparent (lampScript "lamp" "light") _ litByName_acyclic hfiles
      True lampScript_alike 3) with
    ⟨⟨outcome, s⟩, ⟨_, s'⟩, hs, hs', rfl, halike, hcanonical⟩ | ⟨hs, -⟩
  · exact ⟨outcome, s, s', hs, hs', halike, hcanonical⟩
  · rw [hs] at hends
    cases hends

end InstanceRegistry
