/-
ComponentWiring.Proofs.Run.Correspondence — discovered, declared and dispatched containers.

* `containerMethods` — the methods of a component by which it injects containers.
* `Plan.KeepsContainers` — every container of a tier is declared and dispatched as itself.
* `Coordinator.keepsContainers_iff_binaryNames_nodup` — that is so exactly when the containers have
  distinct names at run time.

The component of a tier declares every container that was discovered. The dispatch has one class
for each name at run time, and nothing compares the two.
-/
import ComponentWiring.Proofs.Run.Staging

namespace ComponentWiring

open Java

/-! ## 1. Tiers of a plan -/

/-- Whether a method takes a container, which generated components call `view`. -/
def takesView (m : MethodDecl) : Bool := m.parameters.any fun p => p.name = "view"

/-- The methods of a component that inject a container. -/
def containerMethods (t : TypeDecl) : List MethodDecl := t.methods.filter takesView

/-- Discovered, declared and dispatched containers of a tier correspond one to one. -/
structure Plan.KeepsContainers (p : Plan) (n : Naming) (tier : ChildTier) : Prop where
  /-- The containers have distinct names in sources and at run time. -/
  classNames : ((p.lower tier).containers.toList.map (·.className)).Nodup
  binaryNames : (p.lower tier).containers.binaryNames.Nodup
  /-- The component injects each of them. -/
  methods : containerMethods (p.lower tier).files.component.type =
    (p.lower tier).containers.toList.map fun c =>
      ChildGenerator.injectMethod n.injectMethod c.className "view"
  /-- The dispatch has each of them, in the order of discovery. -/
  targets : p.dispatch.targets tier.tier = (p.lower tier).containers.toList
  /-- Each is resolved to itself, and no other name is resolved. -/
  resolved : ∀ c ∈ (p.lower tier).containers.toList,
    p.dispatch.resolve tier.tier c.binaryName = some c
  unresolved : ∀ name, (∀ c ∈ (p.lower tier).containers.toList, c.binaryName ≠ name) →
    p.dispatch.resolve tier.tier name = none

theorem filter_takesView_componentMethods (g : ChildGenerator) (m : ClassMap) :
    (g.componentMethods m).filter takesView = m.toList.map fun c =>
      ChildGenerator.injectMethod g.settings.naming.injectMethod c.className "view" := by
  have lead :
      (if g.tier = .activity then [g.fragmentHelperMethod] else []).filter takesView = [] := by
    split <;> rfl
  have injector : ¬ takesView (ChildGenerator.injectMethod g.settings.naming.injectMethod
      g.injectorName "injector") = true := by
    simp [takesView, ChildGenerator.injectMethod, interfaceMethod]
  rw [ChildGenerator.componentMethods, List.filter_append, lead, List.nil_append,
    List.filter_cons_of_neg injector, List.filter_eq_self]
  intro d hd
  obtain ⟨c, _, rfl⟩ := List.mem_map.mp hd
  rfl

/-- The component of a tier injects each of its containers. -/
theorem plan_containerMethods {s : Settings} {r : Round} {p : Plan}
    (h : (plan s r).result = .ok p) (tier : ChildTier) :
    containerMethods (p.lower tier).files.component.type =
      (p.lower tier).containers.toList.map fun c =>
        ChildGenerator.injectMethod s.naming.injectMethod c.className "view" := by
  rw [containerMethods, (plan_isEmitted h).component_methods tier]
  exact filter_takesView_componentMethods _ _

/-! ## 2. The correspondence -/

theorem plan_keepsContainers {s : Settings} {r : Round} {p : Plan}
    (h : (plan s r).result = .ok p) {tier : ChildTier}
    (distinct : (p.lower tier).containers.binaryNames.Nodup) : p.KeepsContainers s.naming tier where
  classNames := ClassMap.nodup_classNames distinct
  binaryNames := distinct
  methods := plan_containerMethods h tier
  targets := Dispatch.targets_of_table ((plan_isEmitted h).table tier) distinct
  resolved c hc := by
    rw [Dispatch.resolve_of_table ((plan_isEmitted h).table tier)]
    exact ClassMap.namedLast?_self_iff.mpr distinct c hc
  unresolved name unknown := by
    rw [Dispatch.resolve_of_table ((plan_isEmitted h).table tier), ClassMap.namedLast?_eq_none_iff]
    intro known
    obtain ⟨c, hc, same⟩ := List.mem_map.mp known
    exact unknown c hc same

namespace Coordinator

/-- A call that succeeds has a plan. -/
theorem plan_of_succeeded {σ : Type} {c : Coordinator} {filer : Filer σ}
    {annotations : List String} {r : Round} {state : σ}
    (h : (c.process filer annotations r state).1.succeeded = true) :
    ∃ p, (plan c.settings r).result = .ok p := by
  obtain ⟨_, g, result⟩ := (process_succeeded_iff _ _ _ _ _).mp h
  cases planned : (plan c.settings r).result with
  | ok p => exact ⟨p, rfl⟩
  | error fault =>
    rw [(generate_of_no_plan planned _ _).1] at result
    cases result

/-- The containers that a successful call discovers for a tier are kept exactly when they have
distinct names at run time, which regular classes have. In any case all of them are declared, a
name is resolved to the container that was discovered last under it, and only names of
containers are resolved. -/
theorem keepsContainers_iff_binaryNames_nodup {σ : Type} (c : Coordinator) (filer : Filer σ)
    (annotations : List String) (r : Round) (state : σ)
    (h : (c.process filer annotations r state).1.succeeded = true) :
    ∃ p, (plan c.settings r).result = .ok p ∧ ∀ tier : ChildTier,
      (p.KeepsContainers c.settings.naming tier ↔ (p.lower tier).containers.binaryNames.Nodup) ∧
      ((∀ d ∈ (p.lower tier).containers.toList,
          p.dispatch.resolve tier.tier d.binaryName = some d) ↔
        (p.lower tier).containers.binaryNames.Nodup) ∧
      ((∀ d ∈ (p.lower tier).containers.toList, d.IsRegular) →
        p.KeepsContainers c.settings.naming tier) ∧
      containerMethods (p.lower tier).files.component.type =
        ((p.lower tier).containers.toList.map fun d =>
          ChildGenerator.injectMethod c.settings.naming.injectMethod d.className "view") ∧
      (∀ name, p.dispatch.resolve tier.tier name = (p.lower tier).containers.namedLast? name) ∧
      (∀ name, p.dispatch.resolve tier.tier name = none ↔
        ∀ d ∈ (p.lower tier).containers.toList, d.binaryName ≠ name) := by
  obtain ⟨p, planned⟩ := plan_of_succeeded h
  refine ⟨p, planned, fun tier => ?_⟩
  have table := (plan_isEmitted planned).table tier
  refine ⟨⟨fun kept => kept.binaryNames, plan_keepsContainers planned⟩, ?_,
    fun regular => plan_keepsContainers planned (ClassMap.nodup_binaryNames regular),
    plan_containerMethods planned tier, Dispatch.resolve_of_table table, fun name => ?_⟩
  · simp only [Dispatch.resolve_of_table table]
    exact ClassMap.namedLast?_self_iff
  · rw [Dispatch.resolve_of_table table, ClassMap.namedLast?_eq_none_iff, ClassMap.binaryNames,
      List.mem_map]
    constructor
    · intro unknown d hd same
      exact unknown ⟨d, hd, same⟩
    · intro unknown known
      obtain ⟨d, hd, same⟩ := known
      exact unknown d hd same

/-- A round with two activities. -/
def twoActivities (name name' : String) : Round :=
  sampleRound [sampleActivity name, sampleActivity name']

/-- The two activities are discovered and the round succeeds. -/
theorem twoActivities_succeeds (name name' : String)
    (root : (applicationRoot {} (twoActivities name name')).toOption = some sampleRoot)
    (accepted : ∀ tier, (containersOf {} (twoActivities name name') tier).failure = none)
    (noPresenters : ∀ tier, (twoActivities name name').elementsWith
      (TierRules.ofTier {} tier).scopeMarker = []) :
    (({ settings := {} } : Coordinator).process SourceSet.filer [sampleMarker]
      (twoActivities name name') (.empty 4)).1.succeeded = true ∧
    ∃ p, (plan {} (twoActivities name name')).result = .ok p ∧
      p.activity.containers = (containersOf {} (twoActivities name name') .activity).found := by
  obtain ⟨succeeded, p, planned, -⟩ := sample_succeeds {}
    [sampleActivity name, sampleActivity name'] default_areReadable rfl root accepted noPresenters
  exact ⟨succeeded, p, planned, (plan_discovered planned).2.1 .activity⟩

theorem keepsContainers_of_two_activities :
    (({ settings := {} } : Coordinator).process SourceSet.filer [sampleMarker]
      (twoActivities "com.example.A" "com.example.B") (.empty 4)).1.succeeded = true ∧
    ∃ p, (plan {} (twoActivities "com.example.A" "com.example.B")).result = .ok p ∧
      p.KeepsContainers {} .activity := by
  obtain ⟨succeeded, q, planned, found⟩ :=
    twoActivities_succeeds "com.example.A" "com.example.B" (by decide +kernel)
      (by intro tier; cases tier <;> decide +kernel) (by intro tier; cases tier <;> decide +kernel)
  obtain ⟨p, planned', kept⟩ := keepsContainers_iff_binaryNames_nodup _ _ _ _ _ succeeded
  obtain rfl : q = p := Except.ok.inj (planned.symm.trans planned')
  have distinct : (q.lower .activity).containers.binaryNames.Nodup := by
    show q.activity.containers.binaryNames.Nodup
    rw [found]
    decide +kernel
  exact ⟨succeeded, q, planned, (kept .activity).1.mpr distinct⟩

/-- A nested class and a class with a dollar sign in its name can have one name at run time. The
first of them is never injected. -/
theorem not_keepsContainers_of_same_binaryName :
    (({ settings := {} } : Coordinator).process SourceSet.filer [sampleMarker]
      (twoActivities "com.example.A.B" "com.example.A$B") (.empty 4)).1.succeeded = true ∧
    ∃ p, (plan {} (twoActivities "com.example.A.B" "com.example.A$B")).result = .ok p ∧
      p.activity.containers.names = ["com.example.A.B", "com.example.A$B"] ∧
      (p.dispatch.targets .activity).map (·.qualifiedName) = ["com.example.A$B"] ∧
      ¬ p.KeepsContainers {} .activity := by
  obtain ⟨succeeded, p, planned, found⟩ :=
    twoActivities_succeeds "com.example.A.B" "com.example.A$B" (by decide +kernel)
      (by intro tier; cases tier <;> decide +kernel) (by intro tier; cases tier <;> decide +kernel)
  refine ⟨succeeded, p, planned, ?_, ?_, fun kept => ?_⟩
  · rw [found]
    decide +kernel
  · have targets : p.dispatch.targets .activity =
        (Keyed.ofList (p.activity.containers.toList.map fun c => (c.binaryName, c))).values :=
      (plan_isEmitted planned).targets .activity
    rw [targets, found]
    decide +kernel
  · have distinct : p.activity.containers.binaryNames.Nodup := kept.binaryNames
    rw [found] at distinct
    revert distinct
    decide +kernel

end Coordinator

end ComponentWiring
