import InstanceRegistry.Proofs.Lockstep.Programs

/-!
  Registries side by side.

  A COMPARISON is a viewpoint together with the two sessions in which two runs begin.  Two
  registries are abreast under it if every part of them is: in view they are the same, with stored
  routines that are alike, and out of view each is still what it was at the beginning of its run.
  What belongs to nobody is the same in both: the settings and aliases, the buffer of non-fatal
  errors and the lifecycle.

  Each step of a registry, taken for an identifier in view, is taken or refused in both alike and
  leaves them abreast.  This is the only place where the parts of a registry are told apart; whatever
  is put together from these steps needs to know no more.

  Steps on the registry as a whole are in view only if nothing is out of view.
-/

namespace InstanceRegistry

/-- Both were refused with the same failure, or neither was and the values are related. -/
inductive Except.Alike {ε α : Type} (V : α → α → Prop) : Except ε α → Except ε α → Prop where
  | ok {value value' : α} (h : V value value') : Alike V (.ok value) (.ok value')
  | error (failure : ε) : Alike V (.error failure) (.error failure)

theorem Except.Alike.map {ε α β : Type} {V : α → α → Prop} {W : β → β → Prop} {f g : α → β}
    {result result' : Except ε α} (h : Except.Alike V result result')
    (hmap : ∀ value value', V value value' → W (f value) (g value')) :
    Except.Alike W (result.map f) (result'.map g) := by
  cases h with
  | ok h => exact .ok (hmap _ _ h)
  | error failure => exact .error failure

/-! ## Marks -/

namespace Marks

variable {inside : Ident → Bool} {o o' m m' : Marks} {id : Ident}

theorem ext (hactive : m.active = m'.active) (hexcluded : m.excluded = m'.excluded) : m = m' := by
  cases m
  cases m'
  cases hactive
  cases hexcluded
  rfl

/-- The same marks and exclusions in view, and out of view those that there were. -/
structure Abreast (inside : Ident → Bool) (o o' m m' : Marks) : Prop where
  active : Roster.Abreast inside o.active o'.active m.active m'.active
  excluded : Roster.Abreast inside o.excluded o'.excluded m.excluded m'.excluded

namespace Abreast

variable (h : Abreast inside o o' m m')

include h

theorem isActive_eq (hid : inside id = true) : m.isActive id = m'.isActive id :=
  decide_eq_decide.2 (h.active.mem_iff hid)

theorem isExcluded_eq (hid : inside id = true) : m.isExcluded id = m'.isExcluded id :=
  decide_eq_decide.2 (h.excluded.mem_iff hid)

theorem isChecked_eq (hid : inside id = true) : m.isChecked id = m'.isChecked id := by
  rw [isChecked, isChecked, h.isActive_eq hid, h.isExcluded_eq hid]

theorem enter (hid : inside id = true) :
    Except.Alike (Abreast inside o o') (m.enter id) (m'.enter id) := by
  rw [Marks.enter, Marks.enter, h.isExcluded_eq hid, h.isActive_eq hid]
  split
  · exact .ok h
  · split
    · exact .error _
    · exact .ok ⟨h.active.add hid, h.excluded⟩

theorem leave (hid : inside id = true) :
    Except.Alike (Abreast inside o o') (m.leave id) (m'.leave id) := by
  rw [Marks.leave, Marks.leave, h.isExcluded_eq hid, h.isActive_eq hid]
  split
  · exact .ok h
  · split
    · exact .ok ⟨h.active.drop hid, h.excluded⟩
    · exact .error _

theorem leaveQuietly (hid : inside id = true) :
    Abreast inside o o' (m.leaveQuietly id) (m'.leaveQuietly id) := by
  have hleave := h.leave hid
  rw [Marks.leaveQuietly, Marks.leaveQuietly]
  generalize m.leave id = result at hleave ⊢
  generalize m'.leave id = result' at hleave ⊢
  cases hleave with
  | ok hleft => exact hleft
  | error failure => exact h

theorem setExcluded (hid : inside id = true) (value : Bool) :
    Abreast inside o o' (m.setExcluded id value) (m'.setExcluded id value) where
  active := h.active
  excluded := by
    cases value with
    | true => exact h.excluded.add hid
    | false => exact h.excluded.drop hid

end Abreast

end Marks

/-! ## Registries -/

/-- Everything that a registry keeps is in view. -/
structure Registry.Confined (inside : Ident → Bool) (r : Registry) : Prop where
  finished : r.finished.Confined inside
  early : r.early.Confined inside
  factories : r.factories.Confined inside
  products : r.products.Confined inside
  listed : Roster.Confined inside r.listed
  active : Roster.Confined inside r.marks.active
  excluded : Roster.Confined inside r.marks.excluded
  graph : r.graph.Confined inside
  hooks : r.hooks.Confined inside

/-- The same registry, up to what routines are alike and to labels. -/
structure Registry.Resembles (view : Viewpoint) (r r' : Registry) : Prop where
  config : r.config = r'.config
  guarded : r.guarded = r'.guarded
  aliases : r.aliases = r'.aliases
  finished : r.finished.Alike (Instance.Alike view) r'.finished
  early : r.early.Alike (Instance.Alike view) r'.early
  factories : r.factories.Alike (Routine.Alike view) r'.factories
  products : r.products.Alike (Instance.Alike view) r'.products
  listed : r.listed = r'.listed
  suppressed : r.suppressed = r'.suppressed
  lifecycle : r.lifecycle = r'.lifecycle
  marks : r.marks = r'.marks
  graph : r.graph = r'.graph
  hooks : r.hooks.Alike (Routine.Alike view) r'.hooks
  postProcessor : Option.Rel (Routine.Alike view) r.postProcessor r'.postProcessor

/-- What two runs are compared for, and where they begin. -/
structure Comparison where
  view : Viewpoint
  /-- The canonical names in view. -/
  inside : Ident → Bool
  left : Session
  right : Session
  canonical_eq : ∀ {a b}, view.names a b → left.registry.canonical a = right.registry.canonical b
  inside_canonical : ∀ {a b}, view.names a b → inside (left.registry.canonical a) = true
  usable : ∀ {a}, view.usable a → left.registry.config.Usable a
  /-- Where operations on the whole registry are in view, so is all that there is. -/
  alone : view.whole → left.registry.Confined inside ∧ right.registry.Confined inside
  aliases_eq : view.whole → left.registry.aliases = right.registry.aliases

namespace Registry

variable {c : Comparison} {r r' : Registry} {id : Ident}

/-- The same in view, and out of view what there was. -/
structure Abreast (c : Comparison) (r r' : Registry) : Prop where
  config : r.config = c.left.registry.config
  config' : r'.config = c.left.registry.config
  guarded : r.guarded = c.left.registry.guarded
  guarded' : r'.guarded = c.left.registry.guarded
  aliases : r.aliases = c.left.registry.aliases
  aliases' : r'.aliases = c.right.registry.aliases
  finished : Store.Abreast c.inside (Instance.Alike c.view) c.left.registry.finished
    c.right.registry.finished r.finished r'.finished
  early : Store.Abreast c.inside (Instance.Alike c.view) c.left.registry.early
    c.right.registry.early r.early r'.early
  factories : Store.Abreast c.inside (Routine.Alike c.view) c.left.registry.factories
    c.right.registry.factories r.factories r'.factories
  products : Store.Abreast c.inside (Instance.Alike c.view) c.left.registry.products
    c.right.registry.products r.products r'.products
  listed : Roster.Abreast c.inside c.left.registry.listed c.right.registry.listed r.listed
    r'.listed
  suppressed : r.suppressed = r'.suppressed
  lifecycle : r.lifecycle = r'.lifecycle
  marks : Marks.Abreast c.inside c.left.registry.marks c.right.registry.marks r.marks r'.marks
  graph : Graph.Abreast c.inside c.view.whole c.left.registry.graph c.right.registry.graph
    r.graph r'.graph
  hooks : Store.Abreast c.inside (Routine.Alike c.view) c.left.registry.hooks
    c.right.registry.hooks r.hooks r'.hooks
  postProcessor : Option.Rel (Routine.Alike c.view) r.postProcessor r'.postProcessor

/-- A value and the registry after it, side by side. -/
def Stepped {α : Type} (c : Comparison) (V : α → α → Prop) (p p' : α × Registry) : Prop :=
  V p.1 p'.1 ∧ Abreast c p.2 p'.2

namespace Abreast

variable (h : Abreast c r r')

include h

/-! ### Names -/

theorem canonical_eq {a b : Ident} (hnames : c.view.names a b) : r.canonical a = r'.canonical b := by
  rw [canonical, canonical, h.aliases, h.aliases']
  exact c.canonical_eq hnames

theorem inside_canonical {a b : Ident} (hnames : c.view.names a b) :
    c.inside (r.canonical a) = true := by
  rw [canonical, h.aliases]
  exact c.inside_canonical hnames

/-- Both names are accepted, as the same canonical one, or neither is. -/
theorem accept {a b : Ident} (ha : c.view.Accepts a b) :
    Except.Alike (fun x y => x = y ∧ c.inside x = true) (r.accept a) (r'.accept b) := by
  have hcanonical := And.intro (h.canonical_eq ha.names) (h.inside_canonical ha.names)
  rw [Registry.accept, Registry.accept, h.guarded, h.guarded', h.config, h.config']
  split
  · rcases ha.usable with rfl | ⟨husable, husable'⟩
    · cases c.left.registry.config.validateIdentifier a with
      | ok _ => exact .ok hcanonical
      | error failure => exact .error failure
    · rw [show _ = Except.ok () from c.usable husable, show _ = Except.ok () from c.usable husable']
      exact .ok hcanonical
  · exact .ok hcanonical

/-! ### Creation -/

theorem enter (hid : c.inside id = true) :
    Except.Alike (Stepped c fun _ _ => True)
      ((r.marks.enter id).map fun marks => ((), { r with marks }))
      ((r'.marks.enter id).map fun marks => ((), { r' with marks })) :=
  (h.marks.enter hid).map fun _ _ hmarks => ⟨trivial, { h with marks := hmarks }⟩

theorem leave (hid : c.inside id = true) :
    Except.Alike (Stepped c fun _ _ => True)
      ((r.marks.leave id).map fun marks => ((), { r with marks }))
      ((r'.marks.leave id).map fun marks => ((), { r' with marks })) :=
  (h.marks.leave hid).map fun _ _ hmarks => ⟨trivial, { h with marks := hmarks }⟩

theorem openCreation (hid : c.inside id = true) :
    Except.Alike (Stepped c Eq) (r.openCreation id) (r'.openCreation id) := by
  refine (h.marks.enter hid).map fun marks marks' hmarks => ?_
  rw [h.suppressed]
  cases hsuppressed : r'.suppressed with
  | none => exact ⟨rfl, { h with marks := hmarks, suppressed := rfl }⟩
  | some texts => exact ⟨rfl, { h with marks := hmarks, suppressed := rfl }⟩

theorem takeSuppressed (outermost : Bool) :
    Stepped c Eq (r.takeSuppressed outermost) (r'.takeSuppressed outermost) := by
  cases outermost with
  | true => exact ⟨congrArg (Option.getD · []) h.suppressed, { h with suppressed := rfl }⟩
  | false => exact ⟨rfl, h⟩

theorem closeCreation (outermost : Bool) (hid : c.inside id = true) :
    Stepped c Eq (r.closeCreation outermost id) (r'.closeCreation outermost id) := by
  obtain ⟨htexts, habreast⟩ := h.takeSuppressed outermost
  have hleave := habreast.marks.leave hid
  rw [Registry.closeCreation, Registry.closeCreation]
  generalize r.takeSuppressed outermost = taken at htexts habreast hleave ⊢
  generalize r'.takeSuppressed outermost = taken' at htexts habreast hleave ⊢
  obtain ⟨texts, t⟩ := taken
  obtain ⟨texts', t'⟩ := taken'
  dsimp only at htexts habreast hleave ⊢
  generalize t.marks.leave id = result at hleave ⊢
  generalize t'.marks.leave id = result' at hleave ⊢
  cases htexts
  cases hleave with
  | ok hmarks => exact ⟨rfl, { habreast with marks := hmarks }⟩
  | error failure => exact ⟨rfl, habreast⟩

theorem abandonCreation (outermost : Bool) (hid : c.inside id = true) :
    Abreast c (r.abandonCreation outermost id) (r'.abandonCreation outermost id) :=
  have habreast := (h.takeSuppressed outermost).2
  { habreast with marks := habreast.marks.leaveQuietly hid }

theorem commit (hid : c.inside id = true) {made made' : Instance}
    (hmade : made.Alike c.view made') :
    Except.Alike (Abreast c) (r.commit id made) (r'.commit id made') := by
  rw [Registry.commit, Registry.commit, h.finished.contains_eq hid]
  split
  · exact .error _
  · exact .ok { h with
      finished := h.finished.insert hid hmade
      factories := h.factories.erase hid
      early := h.early.erase hid
      listed := h.listed.add hid }

theorem retract (hid : c.inside id = true) : Abreast c (r.retract id) (r'.retract id) :=
  { h with early := h.early.erase hid, factories := h.factories.erase hid }

theorem unlist (hid : c.inside id = true) : Abreast c (r.unlist id) (r'.unlist id) :=
  { h with listed := h.listed.drop hid }

theorem offerFactory (hid : c.inside id = true) {factory factory' : Routine}
    (hfactory : factory.Alike c.view factory') :
    Abreast c (r.offerFactory id factory) (r'.offerFactory id factory') := by
  rw [Registry.offerFactory, Registry.offerFactory, h.finished.contains_eq hid]
  split
  · exact h
  · exact { h with
      factories := h.factories.insert hid hfactory
      early := h.early.erase hid
      listed := h.listed.add hid }

theorem takeFactory (hid : c.inside id = true) :
    Abreast c (r.takeFactory id) (r'.takeFactory id) :=
  { h with factories := h.factories.erase hid }

theorem expose (hid : c.inside id = true) {early early' : Instance}
    (hearly : early.Alike c.view early') : Abreast c (r.expose id early) (r'.expose id early') :=
  { h with early := h.early.insert hid hearly }

theorem storeProduct (hid : c.inside id = true) {product product' : Instance}
    (hproduct : product.Alike c.view product') :
    Abreast c (r.storeProduct id product) (r'.storeProduct id product') := by
  rw [Registry.storeProduct, Registry.storeProduct, h.finished.contains_eq hid]
  split
  · exact { h with products := h.products.insert hid hproduct }
  · exact h

/-! ### Removal -/

theorem purge (hid : c.inside id = true) : Abreast c (r.purge id) (r'.purge id) :=
  { h with
    finished := h.finished.erase hid
    early := h.early.erase hid
    factories := h.factories.erase hid
    products := h.products.erase hid
    listed := h.listed.drop hid }

theorem takeHook (hid : c.inside id = true) :
    Stepped c (Option.Rel (Routine.Alike c.view))
      (r.hooks.get? id, { r with hooks := r.hooks.erase id })
      (r'.hooks.get? id, { r' with hooks := r'.hooks.erase id }) :=
  ⟨h.hooks.get? hid, { h with hooks := h.hooks.erase hid }⟩

theorem takeDependents (hid : c.inside id = true) :
    Stepped c (fun l l' => l = l' ∧ ∀ x ∈ l, c.inside x = true)
      ((r.graph.takeDependents id).1, { r with graph := (r.graph.takeDependents id).2 })
      ((r'.graph.takeDependents id).1, { r' with graph := (r'.graph.takeDependents id).2 }) := by
  obtain ⟨heq, hgraph⟩ := h.graph.takeDependents hid
  exact ⟨⟨heq, fun _ hx => h.graph.dependents.inside_of_mem hid hx⟩, { h with graph := hgraph }⟩

theorem takeContained (hid : c.inside id = true) :
    Stepped c (fun l l' => l = l' ∧ ∀ x ∈ l, c.inside x = true)
      ((r.graph.takeContained id).1, { r with graph := (r.graph.takeContained id).2 })
      ((r'.graph.takeContained id).1, { r' with graph := (r'.graph.takeContained id).2 }) := by
  obtain ⟨heq, hgraph⟩ := h.graph.takeContained hid
  exact ⟨⟨heq, fun _ hx => h.graph.contained.inside_of_mem hid hx⟩, { h with graph := hgraph }⟩

/-! ### The whole registry -/

section Whole

variable (hwhole : c.view.whole)

include hwhole

/-- Where everything is in view, everything that there is stays in view. -/
theorem confined : r.Confined c.inside :=
  have ho := (c.alone hwhole).1
  { finished := h.finished.confined ho.finished
    early := h.early.confined ho.early
    factories := h.factories.confined ho.factories
    products := h.products.confined ho.products
    listed := h.listed.confined ho.listed
    active := h.marks.active.confined ho.active
    excluded := h.marks.excluded.confined ho.excluded
    graph := h.graph.confined hwhole
    hooks := h.hooks.confined ho.hooks }

/-- Where everything is in view, the registries resemble each other as a whole. -/
theorem resembles : r.Resembles c.view r' :=
  have ho := (c.alone hwhole).1
  have ho' := (c.alone hwhole).2
  { config := h.config.trans h.config'.symm
    guarded := h.guarded.trans h.guarded'.symm
    aliases := (h.aliases.trans (c.aliases_eq hwhole)).trans h.aliases'.symm
    finished := h.finished.alike_of_confined ho.finished ho'.finished
    early := h.early.alike_of_confined ho.early ho'.early
    factories := h.factories.alike_of_confined ho.factories ho'.factories
    products := h.products.alike_of_confined ho.products ho'.products
    listed := h.listed.eq ho.listed ho'.listed
    suppressed := h.suppressed
    lifecycle := h.lifecycle
    marks := Marks.ext (h.marks.active.eq ho.active ho'.active)
      (h.marks.excluded.eq ho.excluded ho'.excluded)
    graph := h.graph.eq hwhole
    hooks := h.hooks.alike_of_confined ho.hooks ho'.hooks
    postProcessor := h.postProcessor }

theorem census_eq : r.census = r'.census := by
  have hsize : r.finished.size = r'.finished.size := (h.resembles hwhole).finished.length_eq
  rw [census, census, hsize, h.lifecycle, (h.resembles hwhole).marks]

theorem describe_eq : r.describe = r'.describe := by
  have hprocessor : r.postProcessor.isSome = r'.postProcessor.isSome := by
    have hrel := h.postProcessor
    generalize r.postProcessor = processor at hrel ⊢
    generalize r'.postProcessor = processor' at hrel ⊢
    cases hrel <;> rfl
  rw [describe, describe, h.guarded, h.guarded', h.config, h.config', h.census_eq hwhole,
    describeHooks, describeHooks, (h.resembles hwhole).hooks.keys_eq, describeProduction,
    describeProduction, hprocessor]

theorem clearMarks :
    Abreast c { r with marks := r.marks.clear } { r' with marks := r'.marks.clear } :=
  have hactive := Roster.abreast_nil (c.alone hwhole).1.active (c.alone hwhole).2.active
  { h with marks := ⟨hactive, h.marks.excluded⟩ }

theorem purgeAll : Abreast c r.purgeAll r'.purgeAll :=
  have ho := (c.alone hwhole).1
  have ho' := (c.alone hwhole).2
  { h with
    finished := Store.abreast_empty ho.finished ho'.finished
    early := Store.abreast_empty ho.early ho'.early
    factories := Store.abreast_empty ho.factories ho'.factories
    products := Store.abreast_empty ho.products ho'.products
    listed := Roster.abreast_nil ho.listed ho'.listed }

theorem empty : Abreast c r.empty r'.empty :=
  have ho := (c.alone hwhole).1
  have ho' := (c.alone hwhole).2
  { h.purgeAll hwhole with
    graph := Graph.abreast_empty ho.graph ho'.graph
    marks := (h.clearMarks hwhole).marks
    hooks := Store.abreast_empty ho.hooks ho'.hooks }

end Whole

/-! ### Answers -/

theorem stage_eq (hid : c.inside id = true) : r.stage id = r'.stage id := by
  rw [stage, stage, h.finished.contains_eq hid, h.early.contains_eq hid,
    h.factories.contains_eq hid, h.marks.isActive_eq hid]

/-- **Queries that are alike** get the same answer. -/
theorem answer {q q' : Query} (hq : q.Alike c.view q') :
    (r.answer q).Alike c.view (r'.answer q') := by
  cases hq with
  | contains hnames =>
    rw [Registry.answer, Registry.answer, ← h.canonical_eq hnames,
      h.finished.contains_eq (h.inside_canonical hnames)]
    exact .same _
  | stage hnames =>
    rw [Registry.answer, Registry.answer, ← h.canonical_eq hnames,
      h.stage_eq (h.inside_canonical hnames)]
    exact .same _
  | isChecked hnames =>
    rw [Registry.answer, Registry.answer, ← h.canonical_eq hnames,
      h.marks.isChecked_eq (h.inside_canonical hnames)]
    exact .same _
  | isActive hnames =>
    rw [Registry.answer, Registry.answer, ← h.canonical_eq hnames,
      h.marks.isActive_eq (h.inside_canonical hnames)]
    exact .same _
  | hasHook hnames =>
    rw [Registry.answer, Registry.answer, ← h.canonical_eq hnames,
      h.hooks.contains_eq (h.inside_canonical hnames)]
    exact .same _
  | isExcluded hnames =>
    rw [Registry.answer, Registry.answer, ← h.canonical_eq hnames,
      h.marks.isExcluded_eq (h.inside_canonical hnames)]
    exact .same _
  | cachedProduct hnames =>
    rw [Registry.answer, Registry.answer, ← h.canonical_eq hnames]
    exact .found (h.products.get? (h.inside_canonical hnames))
  | finished hnames =>
    rw [Registry.answer, Registry.answer, ← h.canonical_eq hnames]
    exact .found (h.finished.get? (h.inside_canonical hnames))
  | lifecycle =>
    rw [Registry.answer, Registry.answer, h.lifecycle]
    exact .same _
  | config =>
    rw [Registry.answer, Registry.answer, h.config, h.config']
    exact .same _
  | count hwhole =>
    rw [Registry.answer, Registry.answer, (h.resembles hwhole).listed]
    exact .same _
  | identifiers hwhole =>
    rw [Registry.answer, Registry.answer, (h.resembles hwhole).listed]
    exact .same _
  | activeCount hwhole =>
    rw [Registry.answer, Registry.answer, (h.resembles hwhole).marks]
    exact .same _
  | hookCount hwhole =>
    have hsize : r.hooks.size = r'.hooks.size := (h.resembles hwhole).hooks.length_eq
    rw [Registry.answer, Registry.answer, hsize]
    exact .same _
  | describe hwhole =>
    rw [Registry.answer, Registry.answer, h.describe_eq hwhole]
    exact .same _

/-! ### Commands -/

/-- In the names under which everything is kept, commands that are alike are one command, and it is
    in view. -/
theorem rename {command command' : Graph.Command} (hcommand : command.Alike c.view command') :
    command.rename r.canonical = command'.rename r'.canonical ∧
      (command.rename r.canonical).Within c.inside c.view.whole := by
  cases hcommand with
  | addDependency hnames hnames' | addContainment hnames hnames' | isDependent hnames hnames' =>
    simp only [Graph.Command.rename, h.canonical_eq hnames, h.canonical_eq hnames', true_and]
    rw [← h.canonical_eq hnames, ← h.canonical_eq hnames']
    exact ⟨h.inside_canonical hnames, h.inside_canonical hnames'⟩
  | dependentsOf hnames | dependenciesOf hnames | containedIn hnames | hasDependents hnames
  | forget hnames =>
    simp only [Graph.Command.rename, h.canonical_eq hnames, true_and]
    rw [← h.canonical_eq hnames]
    exact h.inside_canonical hnames
  | clear hwhole | isEmpty hwhole => exact ⟨rfl, hwhole⟩

/-- Commands on the graph that are alike. -/
theorem onGraph {command command' : Graph.Command} (hcommand : command.Alike c.view command') :
    Stepped c Eq
      ((r.graph.run (command.rename r.canonical) : Answer Instance × Graph).1,
        { r with graph := (r.graph.run (command.rename r.canonical) : Answer Instance × Graph).2 })
      ((r'.graph.run (command'.rename r'.canonical) : Answer Instance × Graph).1,
        { r' with
          graph := (r'.graph.run (command'.rename r'.canonical) : Answer Instance × Graph).2 }) := by
  obtain ⟨heq, hwithin⟩ := h.rename hcommand
  rw [← heq]
  obtain ⟨hanswer, hgraph⟩ := h.graph.run
    (fun hwhole => ⟨(c.alone hwhole).1.graph, (c.alone hwhole).2.graph⟩) hwithin
  exact ⟨hanswer, { h with graph := hgraph }⟩

/-- Questions about aliases that are alike get the same answer and change nothing. -/
theorem onAliases {command command' : AliasTable.Command}
    (hcommand : command.Alike c.view command') :
    (r.aliases.run command : Except Failure (Answer Instance) × AliasTable).1 =
        (r'.aliases.run command').1 ∧
      (r.aliases.run command : Except Failure (Answer Instance) × AliasTable).2 = r.aliases ∧
      (r'.aliases.run command' : Except Failure (Answer Instance) × AliasTable).2 = r'.aliases := by
  cases hcommand with
  | canonicalName hnames =>
    have hcanonical := h.canonical_eq hnames
    rw [canonical, canonical] at hcanonical
    rw [AliasTable.run, AliasTable.run, hcanonical]
    exact ⟨rfl, rfl, rfl⟩
  | same hquery hwhole =>
    rw [h.aliases, h.aliases', c.aliases_eq hwhole]
    cases command with
    | register | remove => cases hquery
    | _ => exact ⟨rfl, rfl, rfl⟩

end Abreast

end Registry

end InstanceRegistry
