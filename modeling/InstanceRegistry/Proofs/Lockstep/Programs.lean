import InstanceRegistry.Proofs.Creation.Names
import InstanceRegistry.Proofs.Lockstep.Graphs
import InstanceRegistry.Script

/-!
  Programs side by side: what may differ between two that are to do the same.

  A VIEWPOINT says what two programs are compared for: which names may stand for one another, which
  names count as usable, whether instances are compared with their labels, and whether operations
  on the registry as a whole are in view.

  Two programs are ALIKE from a viewpoint if they are the same up to names that may stand for one
  another, and if no operation in them is out of view.  So a program that is alike to itself is one
  that uses nothing but names and operations that are in view.  Where an operation accepts its
  identifier, both names have to be usable; a name that stays the same need not be.

  The identifier that a routine was written for is no name in this sense: nothing is filed under it,
  it is only the label of what the routine makes.  It has to be the same where labels are compared.
  A component is looked up by the name that it has, and that is no name of the registry either, so
  an assembly is alike to itself only.
-/

namespace InstanceRegistry

/-! ## Viewpoints -/

/-- What two programs are compared for. -/
structure Viewpoint where
  /-- The names that may stand for one another. -/
  names : Ident → Ident → Prop
  usable : Ident → Prop
  /-- Whether instances have to have the same labels. -/
  labelled : Prop
  /-- Whether operations on the whole registry are in view. -/
  whole : Prop

variable {view : Viewpoint}

namespace Viewpoint

/-- Names that may stand for one another where they have to be usable. -/
structure Accepts (view : Viewpoint) (a b : Ident) : Prop where
  names : view.names a b
  usable : a = b ∨ view.usable a ∧ view.usable b

/-- What routines were written for makes no difference that counts. -/
def Tags (view : Viewpoint) (a b : Ident) : Prop := view.labelled → a = b

theorem tags_self (view : Viewpoint) (a : Ident) : view.Tags a a := fun _ => rfl

end Viewpoint

/-! ## Instances -/

/-- The same instance, up to its label if labels do not count. -/
structure Instance.Alike (view : Viewpoint) (i j : Instance) : Prop where
  serial : i.serial = j.serial
  sentinel : i.isSentinel = j.isSentinel
  label : view.labelled → i.label = j.label

theorem Instance.Alike.refl (i : Instance) : i.Alike view i := ⟨rfl, rfl, fun _ => rfl⟩

theorem Instance.Alike.eq {i j : Instance} (h : i.Alike view j) (hlabelled : view.labelled) :
    i = j := by
  cases i
  cases j
  cases h.serial
  cases h.label hlabelled
  rfl

/-- Nothing was found in either case, or instances that are alike. -/
abbrev Instance.FoundAlike (view : Viewpoint) : Option Instance → Option Instance → Prop :=
  Option.Rel (Instance.Alike view)

/-! ## Requests, queries, changes and commands -/

/-- The same request in other names. -/
structure Request.Alike (view : Viewpoint) (r r' : Request) : Prop where
  id : view.Accepts r.id r'.id
  dependsOn : List.Forall₂ view.Accepts r.dependsOn r'.dependsOn
  excluded : r.excluded = r'.excluded

/-- The same query in other names. -/
inductive Query.Alike (view : Viewpoint) : Query → Query → Prop where
  | contains {a b : Ident} (h : view.names a b) : Alike view (.contains a) (.contains b)
  | stage {a b : Ident} (h : view.names a b) : Alike view (.stage a) (.stage b)
  | isChecked {a b : Ident} (h : view.names a b) : Alike view (.isChecked a) (.isChecked b)
  | isActive {a b : Ident} (h : view.names a b) : Alike view (.isActive a) (.isActive b)
  | hasHook {a b : Ident} (h : view.names a b) : Alike view (.hasHook a) (.hasHook b)
  | cachedProduct {a b : Ident} (h : view.names a b) :
      Alike view (.cachedProduct a) (.cachedProduct b)
  | finished {a b : Ident} (h : view.names a b) : Alike view (.finished a) (.finished b)
  | isExcluded {a b : Ident} (h : view.names a b) : Alike view (.isExcluded a) (.isExcluded b)
  | lifecycle : Alike view .lifecycle .lifecycle
  | config : Alike view .config .config
  | count (h : view.whole) : Alike view .count .count
  | identifiers (h : view.whole) : Alike view .identifiers .identifiers
  | activeCount (h : view.whole) : Alike view .activeCount .activeCount
  | hookCount (h : view.whole) : Alike view .hookCount .hookCount
  | describe (h : view.whole) : Alike view .describe .describe

/-- The same change in other names. -/
inductive Change.Alike (view : Viewpoint) : Change → Change → Prop where
  | remove {a b : Ident} (h : view.names a b) : Alike view (.remove a) (.remove b)
  | setExcluded {a b : Ident} (h : view.names a b) (value : Bool) :
      Alike view (.setExcluded a value) (.setExcluded b value)
  | setChecked {a b : Ident} (h : view.names a b) (value : Bool) :
      Alike view (.setChecked a value) (.setChecked b value)
  | enter {a b : Ident} (h : view.names a b) : Alike view (.enter a) (.enter b)
  | leave {a b : Ident} (h : view.names a b) : Alike view (.leave a) (.leave b)
  | suppress (text : String) : Alike view (.suppress text) (.suppress text)
  | clear (h : view.whole) : Alike view .clear .clear
  | clearMarks (h : view.whole) : Alike view .clearMarks .clearMarks

/-- The same command on the graph in other names. -/
inductive Graph.Command.Alike (view : Viewpoint) : Graph.Command → Graph.Command → Prop where
  | addDependency {a b c d : Ident} (h : view.names a b) (h' : view.names c d) :
      Alike view (.addDependency a c) (.addDependency b d)
  | addContainment {a b c d : Ident} (h : view.names a b) (h' : view.names c d) :
      Alike view (.addContainment a c) (.addContainment b d)
  | isDependent {a b c d : Ident} (h : view.names a b) (h' : view.names c d) :
      Alike view (.isDependent a c) (.isDependent b d)
  | dependentsOf {a b : Ident} (h : view.names a b) : Alike view (.dependentsOf a) (.dependentsOf b)
  | dependenciesOf {a b : Ident} (h : view.names a b) :
      Alike view (.dependenciesOf a) (.dependenciesOf b)
  | containedIn {a b : Ident} (h : view.names a b) : Alike view (.containedIn a) (.containedIn b)
  | hasDependents {a b : Ident} (h : view.names a b) :
      Alike view (.hasDependents a) (.hasDependents b)
  | forget {a b : Ident} (h : view.names a b) : Alike view (.forget a) (.forget b)
  | clear (h : view.whole) : Alike view .clear .clear
  | isEmpty (h : view.whole) : Alike view .isEmpty .isEmpty

/-- The command leaves the table of aliases as it is. -/
def AliasTable.Command.isQuery : AliasTable.Command → Bool
  | register .. | remove _ => false
  | _ => true

/-- The same question about aliases.  Only a canonical name is the same for other names; all other
    questions are about the table as it is. -/
inductive AliasTable.Command.Alike (view : Viewpoint) :
    AliasTable.Command → AliasTable.Command → Prop where
  | canonicalName {a b : Ident} (h : view.names a b) :
      Alike view (.canonicalName a) (.canonicalName b)
  | same {command : AliasTable.Command} (h : command.isQuery = true) (hwhole : view.whole) :
      Alike view command command

/-! ## Routines, steps and operations -/

mutual

/-- The same routine in other names. -/
inductive Routine.Alike (view : Viewpoint) : Routine → Routine → Prop where
  | scripted {id id' : Ident} {body body' : List Step} {settle : Settle} (htags : view.Tags id id')
      (hbody : Step.AllAlike view body body') :
      Routine.Alike view (.scripted id body settle) (.scripted id' body' settle)
  | contender {id id' : Ident} {settle : Settle} (htags : view.Tags id id') :
      Routine.Alike view (.contender id settle) (.contender id' settle)
  | assembly {id : Ident} (h : view.Accepts id id) :
      Routine.Alike view (.assembly id) (.assembly id)
  | handover {id id' : Ident} {held held' : Instance} (htags : view.Tags id id')
      (hheld : held.Alike view held') : Routine.Alike view (.handover id held) (.handover id' held')

/-- The same steps in other names. -/
inductive Step.AllAlike (view : Viewpoint) : List Step → List Step → Prop where
  | nil : Step.AllAlike view [] []
  | cons {step step' : Step} {rest rest' : List Step} (h : Step.Alike view step step')
      (hrest : Step.AllAlike view rest rest') : Step.AllAlike view (step :: rest) (step' :: rest')

/-- The same step in other names. -/
inductive Step.Alike (view : Viewpoint) : Step → Step → Prop where
  | step {op op' : Op} {must : Bool} {binding : Option String} (h : Op.Alike view op op') :
      Step.Alike view (.step op must binding) (.step op' must binding)

/-- The same operation in other names. -/
inductive Op.Alike (view : Viewpoint) : Op → Op → Prop where
  | ask {query query' : Query} (h : query.Alike view query') : Op.Alike view (.ask query) (.ask query')
  | change {change change' : Change} (h : change.Alike view change') :
      Op.Alike view (.change change) (.change change')
  | graph {command command' : Graph.Command} (h : command.Alike view command') :
      Op.Alike view (.graph command) (.graph command')
  | aliases {command command' : AliasTable.Command} (h : command.Alike view command') :
      Op.Alike view (.aliases command) (.aliases command')
  | make (label : String) : Op.Alike view (.make label) (.make label)
  | get {a b : Ident} (h : view.names a b) : Op.Alike view (.get a) (.get b)
  | getLater {a b : Ident} (h : view.names a b) : Op.Alike view (.getLater a) (.getLater b)
  | getOrCreate {a b : Ident} {make make' : Routine} (h : view.Accepts a b)
      (hmake : Routine.Alike view make make') :
      Op.Alike view (.getOrCreate a make) (.getOrCreate b make')
  | create {request request' : Request} {make make' : Routine} (h : request.Alike view request')
      (hmake : Routine.Alike view make make') :
      Op.Alike view (.create request make) (.create request' make')
  | registerInstance {a b : Ident} {source : Source} (h : view.Accepts a b)
      (htags : source = .fresh none → view.Tags a b) :
      Op.Alike view (.registerInstance a source) (.registerInstance b source)
  | registerFactory {a b : Ident} {factory factory' : Routine} (h : view.Accepts a b)
      (hfactory : Routine.Alike view factory factory') :
      Op.Alike view (.registerFactory a factory) (.registerFactory b factory')
  | registerHook {a b : Ident} {hook hook' : Routine} (h : view.Accepts a b)
      (hhook : Routine.Alike view hook hook') :
      Op.Alike view (.registerHook a hook) (.registerHook b hook')
  | destroyOne {a b : Ident} (h : view.names a b) : Op.Alike view (.destroyOne a) (.destroyOne b)
  | destroyAll (h : view.whole) : Op.Alike view .destroyAll .destroyAll
  | shutdown (h : view.whole) : Op.Alike view .shutdown .shutdown
  | resolveProduct {a b : Ident} {step step' : Routine} {shared postProcess : Bool}
      (h : view.Accepts a b) (hstep : Routine.Alike view step step') :
      Op.Alike view (.resolveProduct a step shared postProcess)
        (.resolveProduct b step' shared postProcess)
  | productType (type : ProductType) : Op.Alike view (.productType type) (.productType type)
  | wire {id : Ident} (h : view.Accepts id id) : Op.Alike view (.wire id) (.wire id)
  | race {a b : Ident} {callers : Nat} {settle : Settle} (h : view.Accepts a b)
      (htags : view.Tags a b) : Op.Alike view (.race a callers settle) (.race b callers settle)

end

/-! ## Where nothing may differ -/

/-- Names and labels are compared as they are. -/
structure Viewpoint.Verbatim (view : Viewpoint) : Prop where
  names : ∀ {a b}, view.names a b → a = b
  labelled : view.labelled

section

variable (hview : view.Verbatim)

include hview

theorem Viewpoint.Accepts.eq {a b : Ident} (h : view.Accepts a b) : a = b := hview.names h.names

theorem Request.Alike.eq {r r' : Request} (h : r.Alike view r') : r = r' := by
  have hdepends : r.dependsOn = r'.dependsOn := by
    have heq := h.dependsOn.imp fun _ _ hab => hab.eq hview
    rwa [List.forall₂_eq_eq_eq] at heq
  cases r
  cases r'
  cases h.id.eq hview
  cases hdepends
  cases h.excluded
  rfl

theorem Query.Alike.eq {q q' : Query} (h : q.Alike view q') : q = q' := by
  cases h with
  | contains h | stage h | isChecked h | isActive h | hasHook h | cachedProduct h | finished h
  | isExcluded h => rw [hview.names h]
  | _ => rfl

theorem Change.Alike.eq {c c' : Change} (h : c.Alike view c') : c = c' := by
  cases h with
  | remove h | setExcluded h | setChecked h | enter h | leave h => rw [hview.names h]
  | _ => rfl

theorem Graph.Command.Alike.eq {c c' : Graph.Command} (h : c.Alike view c') : c = c' := by
  cases h with
  | addDependency h h' | addContainment h h' | isDependent h h' => rw [hview.names h, hview.names h']
  | dependentsOf h | dependenciesOf h | containedIn h | hasDependents h | forget h =>
    rw [hview.names h]
  | _ => rfl

theorem AliasTable.Command.Alike.eq {c c' : AliasTable.Command} (h : c.Alike view c') : c = c' := by
  cases h with
  | canonicalName h => rw [hview.names h]
  | same => rfl

end

mutual

/-- **Where names and labels are compared as they are**, programs that are alike are equal. -/
theorem Routine.Alike.eq (hview : view.Verbatim) {r r' : Routine} : r.Alike view r' → r = r'
  | .scripted htags hbody => by rw [htags hview.labelled, hbody.eq hview]
  | .contender htags => by rw [htags hview.labelled]
  | .assembly _ => rfl
  | .handover htags hheld => by rw [htags hview.labelled, hheld.eq hview.labelled]

theorem Step.AllAlike.eq (hview : view.Verbatim) {steps steps' : List Step} :
    Step.AllAlike view steps steps' → steps = steps'
  | .nil => rfl
  | .cons h hrest => by rw [h.eq hview, hrest.eq hview]

theorem Step.Alike.eq (hview : view.Verbatim) {step step' : Step} :
    step.Alike view step' → step = step'
  | .step h => by rw [h.eq hview]

theorem Op.Alike.eq (hview : view.Verbatim) {op op' : Op} : op.Alike view op' → op = op'
  | .ask h => by rw [h.eq hview]
  | .change h => by rw [h.eq hview]
  | .graph h => by rw [h.eq hview]
  | .aliases h => by rw [h.eq hview]
  | .make _ => rfl
  | .get h => by rw [hview.names h]
  | .getLater h => by rw [hview.names h]
  | .getOrCreate h hmake => by rw [h.eq hview, hmake.eq hview]
  | .create h hmake => by rw [h.eq hview, hmake.eq hview]
  | .registerInstance h _ => by rw [h.eq hview]
  | .registerFactory h hfactory => by rw [h.eq hview, hfactory.eq hview]
  | .registerHook h hhook => by rw [h.eq hview, hhook.eq hview]
  | .destroyOne h => by rw [hview.names h]
  | .destroyAll _ => rfl
  | .shutdown _ => rfl
  | .resolveProduct h hstep => by rw [h.eq hview, hstep.eq hview]
  | .productType _ => rfl
  | .wire _ => rfl
  | .race h _ => by rw [h.eq hview]

end

/-! ## Components -/

/-- The same component, with hooks that are alike; it needs and wishes for usable names only. -/
structure Component.Alike (view : Viewpoint) (c c' : Component) : Prop where
  early : c.early = c'.early
  hook : Option.Rel (Routine.Alike view) c.hook c'.hook
  needs : c.needs = c'.needs
  wishes : c.wishes = c'.wishes
  fault : c.fault = c'.fault
  accepts : ∀ id, id ∈ c.needs ∨ id ∈ c.wishes → view.Accepts id id

/-! ## Answers and events -/

/-- The same answer, up to labels if they do not count. -/
inductive Answer.Alike (view : Viewpoint) : Answer Instance → Answer Instance → Prop where
  | found {i j : Option Instance} (h : Instance.FoundAlike view i j) :
      Alike view (.found i) (.found j)
  | same (answer : Answer Instance) : Alike view answer answer

/-- The same ending, with values that are related. -/
inductive Outcome.Alike {ε α : Type} (V : α → α → Prop) : Outcome ε α → Outcome ε α → Prop where
  | ok {value value' : α} (h : V value value') : Alike V (.ok value) (.ok value')
  | error (failure : ε) : Alike V (.error failure) (.error failure)
  | panic (payload : Panic) : Alike V (.panic payload) (.panic payload)

/-- The same event in other names. -/
inductive Event.Alike (view : Viewpoint) : Event → Event → Prop where
  | began {op op' : Op} (h : op.Alike view op') : Alike view (.began op) (.began op')
  | done {op op' : Op} {asStep : Bool} {result result' : Outcome Failure (Answer Instance)}
      (h : op.Alike view op') (hresult : result.Alike (Answer.Alike view) result') :
      Alike view (.done op asStep result) (.done op' asStep result')
  | entered {role : Role} {id id' : Ident} {passed passed' : Option Instance}
      (htags : view.Tags id id') (hpassed : Instance.FoundAlike view passed passed') :
      Alike view (.entered role id passed) (.entered role id' passed')
  | wired {id need : Ident} {given given' : Instance} (h : given.Alike view given') :
      Alike view (.wired id need given) (.wired id need given')
  | fetched {id id' : Ident} {result result' : Outcome Failure (Option Instance)}
      (h : view.names id id') (hresult : result.Alike (Instance.FoundAlike view) result') :
      Alike view (.fetched id result) (.fetched id' result')
  | noticed (notice : Notice) : Alike view (.noticed notice) (.noticed notice)

section

variable (hview : view.Verbatim)

include hview

theorem Instance.FoundAlike.eq {i j : Option Instance} (h : Instance.FoundAlike view i j) : i = j := by
  cases h with
  | some h => rw [h.eq hview.labelled]
  | none => rfl

theorem Component.Alike.eq {component component' : Component} (h : component.Alike view component') :
    component = component' := by
  have hhook : component.hook = component'.hook := by
    have hrel := h.hook
    generalize component.hook = hook at hrel ⊢
    generalize component'.hook = hook' at hrel ⊢
    cases hrel with
    | some halike => rw [halike.eq hview]
    | none => rfl
  cases component
  cases component'
  cases h.early
  cases hhook
  cases h.needs
  cases h.wishes
  cases h.fault
  rfl

theorem Answer.Alike.eq {answer answer' : Answer Instance} (h : answer.Alike view answer') :
    answer = answer' := by
  cases h with
  | found h => rw [Instance.FoundAlike.eq hview h]
  | same => rfl

omit hview in
theorem Outcome.Alike.eq {ε α : Type} {V : α → α → Prop} {outcome outcome' : Outcome ε α}
    (h : outcome.Alike V outcome') (heq : ∀ value value', V value value' → value = value') :
    outcome = outcome' := by
  cases h with
  | ok h => rw [heq _ _ h]
  | error | panic => rfl

theorem Event.Alike.eq {event event' : Event} (h : event.Alike view event') : event = event' := by
  cases h with
  | began h => rw [h.eq hview]
  | done h hresult => rw [h.eq hview, hresult.eq fun _ _ hanswer => hanswer.eq hview]
  | entered htags hpassed => rw [htags hview.labelled, Instance.FoundAlike.eq hview hpassed]
  | wired h => rw [h.eq hview.labelled]
  | fetched h hresult =>
    rw [hview.names h, hresult.eq fun _ _ hfound => Instance.FoundAlike.eq hview hfound]
  | noticed => rfl

end

end InstanceRegistry
