import InstanceRegistry.Proofs.Creation.Bracketing
import InstanceRegistry.Proofs.Graph.Growth

/-!
  The dependencies of a request.

  Before a request is created its dependencies are looked at and recorded, one after another.  The
  phase has two endings (`prepare_cases`): every dependency was ADMITTED and all are recorded, or
  one is REFUSED, for its name or because it depends on the identifier, and those listed before it
  stay recorded.

  In a graph without rings the look is exact (`dependencies_pass_iff`): whether the request passes
  is whether the graph with all its edges has no ring, whatever order they are listed in, although
  each look is at a graph that has the edges before it and none of those after.

  A refusal comes before any callback and says where the phase stopped, so what it leaves is known
  to the last edge (`refused_creation_leaves`).  It is not nothing: the exclusion that the request
  asked for stands, and so do the edges before the refused one (`refused_creation_leaves_traces`).
-/

namespace InstanceRegistry

variable {engine : Engine} {request : Request} {make : Routine} {id d : Ident}
  {listed before : List Ident} {r : Registry} {s t : Session} {failure : Failure}

/-- A run whose end passes a check has an end, and that is as the check says. -/
theorem Run.of_check {ε α : Type} {work : Run ε α} {P : Outcome ε α → Session → Prop}
    [∀ outcome t, Decidable (P outcome t)]
    (h : ((work s).any fun e => decide (P e.1 e.2)) = true) :
    ∃ outcome t, work s = some (outcome, t) ∧ P outcome t := by
  obtain ⟨⟨outcome, t⟩, hrun, hcheck⟩ := (Option.any_eq_true _ _).1 h
  exact ⟨outcome, t, hrun, of_decide_eq_true hcheck⟩

/-! ## Admitted and refused -/

/-- Every name listed is usable, and none of them depends on `id` when its turn comes. -/
structure Registry.Admitted (r : Registry) (id : Ident) (listed : List Ident) : Prop where
  accepted : ∀ d ∈ listed, r.accept d = .ok (r.canonical d)
  admits : r.graph.Admits id (listed.map r.canonical)

/-- With those before it recorded, a name listed is not usable, or depends on `id`. -/
inductive Registry.Refused (r : Registry) (id : Ident) (before : List Ident) (d : Ident) :
    Failure → Prop
  | unusable {failure : Failure} (haccept : r.accept d = .error failure) :
      Refused r id before d failure
  | circular (haccept : r.accept d = .ok (r.canonical d))
      (hdepends :
        (r.graph.addDependencies id (before.map r.canonical)).Depends id (r.canonical d)) :
      Refused r id before d (.circularDependency id (r.canonical d))

/-- A session with dependencies of a request recorded, and excluded what it excludes. -/
def Session.recording (s : Session) (request : Request) (id : Ident) (listed : List Ident) :
    Session :=
  s.put { s.registry with
    marks := if request.excluded then s.registry.marks.setExcluded id true else s.registry.marks
    graph := s.registry.graph.addDependencies id (listed.map s.registry.canonical) }

namespace Operations

/-! ## The phase -/

/-- Dependencies are recorded up to the first that is refused. -/
theorem addDependencies_cases (id : Ident) (listed : List Ident) (s : Session) :
    (s.registry.Admitted id listed ∧
      addDependencies id listed s = some (.ok (), s.put { s.registry with
        graph := s.registry.graph.addDependencies id (listed.map s.registry.canonical) })) ∨
    ∃ before d after failure, listed = before ++ d :: after ∧ s.registry.Admitted id before ∧
      s.registry.Refused id before d failure ∧
      addDependencies id listed s = some (.error failure, s.put { s.registry with
        graph := s.registry.graph.addDependencies id (before.map s.registry.canonical) }) := by
  induction listed generalizing s with
  | nil => exact .inl ⟨⟨fun d hd => absurd hd List.not_mem_nil, trivial⟩, rfl⟩
  | cons d rest ih =>
    rw [addDependencies]
    have hnone : s.registry.Admitted id [] := ⟨fun d hd => absurd hd List.not_mem_nil, trivial⟩
    rcases s.registry.accept_inv d with haccept | ⟨failure, haccept, -⟩
    · rw [Run.bind_ok (accept_eq haccept), Run.bind_ok (Run.registry_apply s)]
      cases hlook : s.registry.graph.isDependent id (s.registry.canonical d) with
      | true =>
        exact .inr ⟨[], d, rest, _, rfl, hnone,
          .circular haccept (Graph.isDependent_iff.1 hlook), rfl⟩
      | false =>
        have hfirst := Graph.not_depends_of_isDependent_eq_false hlook
        -- what is recorded changes no name, so the rest is named as it was at the beginning
        have hadmitted : ∀ {others : List Ident},
            (s.put { s.registry with
              graph := s.registry.graph.addDependency (s.registry.canonical d) id }).registry.Admitted
                id others → s.registry.Admitted id (d :: others) :=
          fun h => ⟨List.forall_mem_cons.2 ⟨haccept, h.accepted⟩, ⟨hfirst, h.admits⟩⟩
        simp only [Bool.false_eq_true, if_false]
        rw [Run.bind_ok (Run.edit_put s _)]
        rcases ih (s.put { s.registry with
            graph := s.registry.graph.addDependency (s.registry.canonical d) id }) with
          ⟨hrest, hrun⟩ | ⟨before, other, after, failure, rfl, hbefore, hother, hrun⟩
        · exact .inl ⟨hadmitted hrest, hrun⟩
        · refine .inr ⟨d :: before, other, after, failure, rfl, hadmitted hbefore, ?_, hrun⟩
          cases hother with
          | unusable h => exact .unusable h
          | circular h hdepends => exact .circular h hdepends
    · rw [Run.bind_error (accept_eq haccept)]
      exact .inr ⟨[], d, rest, failure, rfl, hnone, .unusable haccept, rfl⟩

/-- A request with a usable identifier is prepared, or stopped at the first dependency that is
    refused. -/
theorem prepare_cases (hid : s.registry.accept request.id = .ok id) :
    (s.registry.Admitted id request.dependsOn ∧
      prepare request s = some (.ok id, s.recording request id request.dependsOn)) ∨
    ∃ before d after failure, request.dependsOn = before ++ d :: after ∧
      s.registry.Admitted id before ∧ s.registry.Refused id before d failure ∧
      prepare request s = some (.error failure, s.recording request id before) := by
  obtain ⟨marks, hmarks, hexclude⟩ : ∃ marks,
      marks = (if request.excluded then s.registry.marks.setExcluded id true
        else s.registry.marks) ∧
      excludeIf request.excluded id s = some (.ok (), s.put { s.registry with marks }) := by
    cases request.excluded <;> exact ⟨_, rfl, rfl⟩
  rw [prepare, Run.bind_ok (accept_eq hid), Run.bind_ok hexclude, hmarks]
  rcases addDependencies_cases id request.dependsOn (s.put { s.registry with marks }) with
    ⟨hall, hrun⟩ | ⟨before, d, after, failure, hsplit, hbefore, hd, hrun⟩
  · rw [hmarks] at hall hrun
    exact .inl ⟨⟨hall.accepted, hall.admits⟩, Run.bind_ok hrun⟩
  · rw [hmarks] at hbefore hd hrun
    refine .inr ⟨before, d, after, failure, hsplit, ⟨hbefore.accepted, hbefore.admits⟩, ?_,
      Run.bind_error hrun⟩
    cases hd with
    | unusable h => exact .unusable h
    | circular h hdepends => exact .circular h hdepends

/-! ## The look is exact -/

/-- The dependency phase of a request ends well. -/
def Passes (request : Request) (s : Session) : Prop :=
  ∃ id t, prepare request s = some (.ok id, t)

/-- A request that does not list itself is prepared, or refused for the first dependency listed that
    depended on it to begin with. -/
theorem prepare_exact (hid : s.registry.accept request.id = .ok id)
    (hlisted : ∀ d ∈ request.dependsOn, ∃ target, s.registry.accept d = .ok target ∧ target ≠ id) :
    ((∀ d ∈ request.dependsOn, ¬ s.registry.graph.Depends id (s.registry.canonical d)) ∧
      prepare request s = some (.ok id, s.recording request id request.dependsOn)) ∨
    ∃ before d after, request.dependsOn = before ++ d :: after ∧
      (∀ e ∈ before, ¬ s.registry.graph.Depends id (s.registry.canonical e)) ∧
      s.registry.graph.Depends id (s.registry.canonical d) ∧
      prepare request s = some (.error (.circularDependency id (s.registry.canonical d)),
        s.recording request id before) := by
  have hother : ∀ d ∈ request.dependsOn, s.registry.canonical d ≠ id := by
    intro d hd
    obtain ⟨target, haccept, hne⟩ := hlisted d hd
    exact Registry.canonical_of_accept haccept ▸ hne
  -- those that were admitted did not depend on `id` before either
  have hadmitted : ∀ {listed}, (∀ d ∈ listed, d ∈ request.dependsOn) →
      s.registry.Admitted id listed →
      ∀ d ∈ listed, ¬ s.registry.graph.Depends id (s.registry.canonical d) := by
    intro listed hsub h d hd
    refine (Graph.admits_iff ?_).1 h.admits _ (List.mem_map_of_mem hd)
    exact List.forall_mem_map.2 fun e he => hother e (hsub e he)
  rcases prepare_cases hid with
    ⟨hall, hrun⟩ | ⟨before, d, after, failure, hsplit, hbefore, hd, hrun⟩
  · exact .inl ⟨hadmitted (fun _ hd => hd) hall, hrun⟩
  · have hmem : d ∈ request.dependsOn := hsplit ▸ List.mem_append_right _ List.mem_cons_self
    have hsub : ∀ e ∈ before, e ∈ request.dependsOn := fun e he =>
      hsplit ▸ List.mem_append_left _ he
    have hclear := hadmitted hsub hbefore
    have hup : ∀ target ∈ before.map s.registry.canonical,
        ¬ s.registry.graph.Upstream id target :=
      List.forall_mem_map.2 fun e he =>
        (Graph.upstream_iff_depends (hother e (hsub e he))).not.2 (hclear e he)
    cases hd with
    | unusable hunusable =>
      obtain ⟨target, haccept, -⟩ := hlisted d hmem
      rw [haccept] at hunusable
      cases hunusable
    | circular _ hdepends =>
      have hback := (Graph.upstream_addDependencies_iff hup).1 hdepends.upstream
      exact .inr ⟨before, d, after, hsplit, hclear,
        (Graph.upstream_iff_depends (hother d hmem)).1 hback, hrun⟩

/-- A request that does not list itself passes exactly if none of its dependencies depended on it
    to begin with. -/
theorem passes_iff (hid : s.registry.accept request.id = .ok id)
    (hlisted : ∀ d ∈ request.dependsOn, ∃ target, s.registry.accept d = .ok target ∧ target ≠ id) :
    Passes request s ↔
      ∀ d ∈ request.dependsOn, ¬ s.registry.graph.Depends id (s.registry.canonical d) := by
  rcases prepare_exact hid hlisted with
    ⟨hclear, hrun⟩ | ⟨before, d, after, hsplit, -, hdepends, hrun⟩
  · exact ⟨fun _ => hclear, fun _ => ⟨_, _, hrun⟩⟩
  · refine ⟨?_, fun hclear => ?_⟩
    · rintro ⟨_, _, hpass⟩
      rw [hpass] at hrun
      cases hrun
    · have hmem : d ∈ request.dependsOn := hsplit ▸ List.mem_append_right _ List.mem_cons_self
      exact absurd hdepends (hclear d hmem)

/-- **The look at dependencies is exact.**  Take a registry in whose graph nothing depends on
    itself, and a request of usable names that does not list its own.  It passes exactly if the
    graph with all its edges has no ring, in whatever order they are listed.  If it passes, what is
    created is created with the graph there was and those edges, which has no ring; if not, it is
    refused for the first dependency listed that depended on the identifier to begin with. -/
theorem dependencies_pass_iff (engine : Engine) (request : Request) (make : Routine)
    (hacyclic : s.registry.graph.Acyclic) (hid : s.registry.accept request.id = .ok id)
    (hlisted : ∀ d ∈ request.dependsOn, ∃ target, s.registry.accept d = .ok target ∧ target ≠ id) :
    let g := s.registry.graph
    let targets := request.dependsOn.map s.registry.canonical
    let whole := g.addDependencies id targets
    (Passes request s ↔ whole.Acyclic) ∧
    (∀ order : List Ident, order.Perm request.dependsOn →
      (Passes { request with dependsOn := order } s ↔ Passes request s)) ∧
    (Passes request s → whole.Acyclic ∧
      (∀ x y, y ∈ whole.dependentsOf x ↔ y ∈ g.dependentsOf x ∨ (x ∈ targets ∧ y = id)) ∧
      (∀ x y, x ∈ whole.dependenciesOf y ↔
        x ∈ g.dependenciesOf y ∨ (y = id ∧ x ∈ targets ∧ id ∉ g.dependentsOf x)) ∧
      (∀ x, whole.containedIn x = g.containedIn x) ∧
      ∃ t, create engine request make s = Creation.getOrCreate engine id make t ∧
        t.registry.graph = whole ∧ t = s.recording request id request.dependsOn) ∧
    (¬ Passes request s → ∃ before d after t, request.dependsOn = before ++ d :: after ∧
      (∀ e ∈ before, ¬ g.Depends id (s.registry.canonical e)) ∧
      g.Depends id (s.registry.canonical d) ∧
      create engine request make s =
        some (.error (.circularDependency id (s.registry.canonical d)), t)) := by
  intro g targets whole
  have hpasses := passes_iff hid hlisted
  have hwhole : Passes request s ↔ whole.Acyclic := by
    rw [hpasses, Graph.acyclic_addDependencies_iff, and_iff_right hacyclic, List.forall_mem_map]
    refine forall₂_congr fun d hd => not_congr ?_
    obtain ⟨target, haccept, hne⟩ := hlisted d hd
    exact (Graph.upstream_iff_depends (Registry.canonical_of_accept haccept ▸ hne)).symm
  refine ⟨hwhole, fun order horder => ?_, fun hpass => ?_, fun hstop => ?_⟩
  · have hreordered : Passes { request with dependsOn := order } s ↔
        ∀ d ∈ order, ¬ g.Depends id (s.registry.canonical d) :=
      passes_iff hid fun d hd => hlisted d (horder.mem_iff.1 hd)
    rw [hreordered, hpasses]
    exact forall_congr' fun d => imp_congr_left horder.mem_iff
  · refine ⟨hwhole.1 hpass, fun x y => Graph.mem_dependentsOf_addDependencies,
      fun x y => Graph.mem_dependenciesOf_addDependencies,
      Graph.containedIn_addDependencies g id targets, _, ?_, rfl, rfl⟩
    rcases prepare_exact hid hlisted with ⟨-, hrun⟩ | ⟨_, _, _, -, -, -, hrun⟩
    · rw [create_eq, Run.bind_ok hrun]
    · obtain ⟨_, _, hprepared⟩ := hpass
      rw [hrun] at hprepared
      cases hprepared
  · rcases prepare_exact hid hlisted with
      ⟨-, hrun⟩ | ⟨before, d, after, hsplit, hclear, hdepends, hrun⟩
    · exact absurd ⟨_, _, hrun⟩ hstop
    · exact ⟨before, d, after, _, hsplit, hclear, hdepends, by rw [create_eq, Run.bind_error hrun]⟩

/-- A lamp that needs oil, and a shop that needs a lamp. -/
def lampShop : Graph := (({} : Graph).addDependency "oil" "lamp").addDependency "lamp" "shop"

/-- How far up an identifier stands in the lamp shop. -/
def lampRank (id : Ident) : Nat := if id = "shop" then 2 else if id = "lamp" then 1 else 0

/-- A lamp may need a wick beside the oil, however often that is said; it may not need the shop,
    which is found out behind the wick. -/
theorem dependencies_pass_iff_lamp :
    let s : Session := { registry := { graph := lampShop } }
    let make : Routine := .scripted "lamp" [] (.fresh none)
    lampShop.Acyclic ∧ s.registry.accept "lamp" = .ok "lamp" ∧
      Passes { id := "lamp", dependsOn := ["wick", "oil", "wick"] } s ∧
      ∃ d ∈ ["wick", "shop", "oil"], lampShop.Depends "lamp" d ∧ ∃ t,
        create (.ofDepth 1) { id := "lamp", dependsOn := ["wick", "shop", "oil"] } make s =
          some (.error (.circularDependency "lamp" d), t) := by
  intro s make
  have hacyclic : lampShop.Acyclic := Graph.acyclic_of_rank lampRank (by decide)
  have hid : s.registry.accept "lamp" = .ok "lamp" := rfl
  have hlisted : ∀ {listed : List Ident}, listed ⊆ ["wick", "oil", "shop"] →
      ∀ d ∈ listed, ∃ target, s.registry.accept d = .ok target ∧ target ≠ "lamp" := by
    intro listed hsub d hd
    have hnames := hsub hd
    simp only [List.mem_cons, List.not_mem_nil, or_false] at hnames
    rcases hnames with rfl | rfl | rfl <;> exact ⟨_, rfl, by decide⟩
  obtain ⟨hpasses, -⟩ := dependencies_pass_iff (.ofDepth 1)
    { id := "lamp", dependsOn := ["wick", "oil", "wick"] } make hacyclic hid (hlisted (by decide))
  obtain ⟨hrefused, -, -, hstop⟩ := dependencies_pass_iff (.ofDepth 1)
    { id := "lamp", dependsOn := ["wick", "shop", "oil"] } make hacyclic hid (hlisted (by decide))
  refine ⟨hacyclic, hid, hpasses.2 (Graph.acyclic_of_rank lampRank (by decide)), ?_⟩
  have hring : ¬ (lampShop.addDependencies "lamp" ["wick", "shop", "oil"]).Acyclic := fun h =>
    h "shop" (Graph.isDependent_iff.1 (by decide +kernel))
  obtain ⟨before, d, after, t, hsplit, -, hdepends, hrun⟩ := hstop (hrefused.not.2 hring)
  have hmem : d ∈ ["wick", "shop", "oil"] := by
    change ["wick", "shop", "oil"] = before ++ d :: after at hsplit
    rw [hsplit]
    exact List.mem_append_right _ List.mem_cons_self
  exact ⟨d, hmem, hdepends, t, hrun⟩

/-! ## What a refusal leaves -/

end Operations

namespace Creation

/-- A creation that has begun does not end in a refusal. -/
theorem Closes.not_refused {outermost : Bool} {ending : Outcome Cause Instance}
    (h : Closes id outermost s ending (.error failure) t) : failure.isRefusal = false := by
  cases h with
  | stuck hleave =>
    obtain ⟨_, rfl⟩ := Marks.leave_inconsistent hleave
    rfl
  | occupied _ hcommit =>
    rw [(commit_refused hcommit).1]
    rfl
  | failed _ _ | mismatched _ _ => rfl

/-- Creating proper has other failures than refusals. -/
theorem getOrCreate_not_refused (h : getOrCreate engine id make s = some (.error failure, t)) :
    failure.isRefusal = false := by
  rcases getOrCreate_inv h with ⟨_, _, hno, _⟩ | ⟨_, ⟨_, hclosed, _⟩ | ⟨_, hconstruct⟩⟩
  · cases hno
  · cases hclosed
    rfl
  · rcases construct_inv hconstruct with ⟨_, hrefused, heq, _⟩ | ⟨_, _, _, _, _, _, hclose⟩
    · cases heq
      rw [openCreation_refused hrefused]
      rfl
    · exact hclose.not_refused

end Creation

namespace Operations

/-- A request that is refused is refused before its callback, and whatever the callback is. -/
theorem prepare_refused (h : create engine request make s = some (.error failure, t))
    (hrefusal : failure.isRefusal = true) : prepare request s = some (.error failure, t) := by
  rw [create_eq] at h
  rcases Run.bind_inv h with ⟨id, s', hprepare, hcreation⟩ | ⟨_, hprepare, hfailure⟩ | ⟨_, _, hno⟩
  · rw [Creation.getOrCreate_not_refused hcreation] at hrefusal
    cases hrefusal
  · cases hfailure
    exact hprepare
  · cases hno

/-- **What a refused creation leaves.**  A request that is refused, because its identifier or a
    dependency is not usable or because a dependency depends on the identifier, is refused alike
    with any callback and any engine, since none is run.  If its own identifier was not usable
    nothing has changed.  Otherwise what it excludes is excluded and the dependencies listed before
    the refused one are recorded, and nothing else has changed. -/
theorem refused_creation_leaves (h : create engine request make s = some (.error failure, t))
    (hrefusal : failure.isRefusal = true) :
    (∀ engine' make', create engine' request make' s = some (.error failure, t)) ∧
    ((s.registry.accept request.id = .error failure ∧ t = s) ∨
      ∃ id before d after, s.registry.accept request.id = .ok id ∧
        request.dependsOn = before ++ d :: after ∧
        (∀ e ∈ before, s.registry.accept e = .ok (s.registry.canonical e)) ∧
        (s.registry.accept d = .error failure ∨
          s.registry.accept d = .ok (s.registry.canonical d) ∧
            failure = .circularDependency id (s.registry.canonical d)) ∧
        t = { s with registry := { s.registry with
          marks := if request.excluded then s.registry.marks.setExcluded id true
            else s.registry.marks
          graph := s.registry.graph.addDependencies id (before.map s.registry.canonical) } }) := by
  have hprepare := prepare_refused h hrefusal
  refine ⟨fun engine' make' => by rw [create_eq, Run.bind_error hprepare], ?_⟩
  rcases s.registry.accept_inv request.id with hid | ⟨failure', hid, -⟩
  · rcases prepare_cases hid with ⟨-, hrun⟩ | ⟨before, d, after, _, hsplit, hbefore, hd, hrun⟩
    · rw [hrun] at hprepare
      cases hprepare
    · rw [hrun] at hprepare
      cases hprepare
      refine .inr ⟨_, before, d, after, hid, hsplit, hbefore.accepted, ?_, rfl⟩
      cases hd with
      | unusable haccept => exact .inl haccept
      | circular haccept _ => exact .inr ⟨haccept, rfl⟩
  · rw [prepare, Run.bind_error (accept_eq hid)] at hprepare
    cases hprepare
    exact .inl ⟨hid, rfl⟩

/-- A lamp that needs a wick and the shop, and is excluded from the check. -/
def lampForShop : Request := { id := "lamp", dependsOn := ["wick", "shop"], excluded := true }

/-- The lamp is refused for the shop; by then it is excluded, and recorded as in need of a wick. -/
theorem refused_creation_leaves_traces :
    let s : Session := { registry := { graph := lampShop } }
    ∃ outcome t,
      create (.ofDepth 1) lampForShop (.scripted "lamp" [] (.fresh none)) s = some (outcome, t) ∧
      outcome = .error (.circularDependency "lamp" "shop") ∧
      s.registry.graph.dependentsOf "wick" = [] ∧ t.registry.graph.dependentsOf "wick" = ["lamp"] ∧
      s.registry.marks.isExcluded "lamp" = false ∧ t.registry.marks.isExcluded "lamp" = true :=
  Run.of_check (by decide +kernel)

/-- What the refused lamp leaves is the exclusion and the edge to the wick. -/
theorem refused_creation_leaves_lamp :
    let s : Session := { registry := { graph := lampShop } }
    let make : Routine := .scripted "lamp" [] (.fresh none)
    ∃ t, create (.ofDepth 1) lampForShop make s =
        some (.error (.circularDependency "lamp" "shop"), t) ∧
      (Failure.circularDependency "lamp" "shop").isRefusal = true ∧
      create (.ofDepth 0) lampForShop (.scripted "shade" [] .same) s =
        some (.error (.circularDependency "lamp" "shop"), t) ∧
      ∃ before after, lampForShop.dependsOn = before ++ "shop" :: after ∧
        t = { s with registry := { s.registry with
          marks := s.registry.marks.setExcluded "lamp" true
          graph := lampShop.addDependencies "lamp" (before.map s.registry.canonical) } } := by
  intro s make
  obtain ⟨_, t, hrun, rfl⟩ : ∃ outcome t,
      create (.ofDepth 1) lampForShop make s = some (outcome, t) ∧
        outcome = .error (.circularDependency "lamp" "shop") :=
    Run.of_check (by decide +kernel)
  obtain ⟨halike, hleft⟩ := refused_creation_leaves hrun rfl
  refine ⟨t, hrun, rfl, halike _ _, ?_⟩
  rcases hleft with ⟨hno, -⟩ | ⟨id, before, d, after, hid, hsplit, -, hd, ht⟩
  · cases hno
  · cases hid
    have hmem : d ∈ ["wick", "shop"] := by
      change ["wick", "shop"] = before ++ d :: after at hsplit
      rw [hsplit]
      exact List.mem_append_right _ List.mem_cons_self
    simp only [List.mem_cons, List.not_mem_nil, or_false] at hmem
    rcases hmem with rfl | rfl
    · -- the wick is usable, and it is not what the failure names
      rcases hd with hno | ⟨-, hshop⟩
      · cases hno
      · exact absurd hshop (by decide +kernel)
    · exact ⟨before, after, hsplit, ht⟩

end Operations
end InstanceRegistry
