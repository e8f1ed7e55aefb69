/-
ComponentWiring.Proofs.Run.Exclusivity — no class is an activity and a fragment.

* `TierRules.IsNearest.unique` — the nearest base is the same for both tiers.
* `not_isAccepted_by_both` — so a class is taken in by one tier at most.
* `Coordinator.tiers_exclusive` — both tiers of a run have no class in common.

Each tier has lists of its own, but both lists together hold the same names: what one tier accepts
is a sibling for the other one. Nothing else is needed of a class, so the bases may lie above each
other in any order.
-/
import ComponentWiring.Proofs.Discovery.Containers
import ComponentWiring.Proofs.Run.Correspondence

namespace ComponentWiring

open Java

/-! ## 1. The nearest base -/

namespace TierRules

variable {n : FrameworkNames} {s : TypeStore} {t : TypeElement} {tier tier' : ChildTier}
  {base base' : String}

/-- Both tiers know the same bases. -/
theorem knows_iff : (ofTier n tier).Knows base ↔ base ∈ n.bases := by
  rw [← not_iff_not, ← baseKind?_eq_none_iff_not_knows, baseKind?_eq_none_iff]

/-- The nearest base of a class is the first of its superclasses that is a base at all. -/
theorem isNearest_iff : (ofTier n tier).IsNearest s t base ↔
    ∃ ns, s.Superclasses t ns ∧ ns.find? (· ∈ n.bases) = some base := by
  simp only [IsNearest, knows_iff, List.find?_eq_some_iff_append, decide_eq_true_eq,
    Bool.not_eq_true', decide_eq_false_iff_not]
  constructor
  · intro h
    obtain ⟨known, below, above, walk, others⟩ := h
    exact ⟨_, walk, known, below, above, rfl, others⟩
  · intro h
    obtain ⟨_, walk, known, below, above, rfl, others⟩ := h
    exact ⟨known, below, above, walk, others⟩

/-- So it is the same for both tiers. -/
theorem IsNearest.unique (h : (ofTier n tier).IsNearest s t base)
    (h' : (ofTier n tier').IsNearest s t base') : base = base' := by
  obtain ⟨ns, walk, first⟩ := isNearest_iff.mp h
  obtain ⟨ns', walk', first'⟩ := isNearest_iff.mp h'
  obtain rfl := walk.unique walk'
  exact Option.some.inj (first.symm.trans first')

end TierRules

/-- The bases of activities and fragments are different names. -/
def FrameworkNames.TellsApart (n : FrameworkNames) : Prop :=
  [n.activityBase, n.compatActivityBase, n.fragmentBase].Nodup

instance (n : FrameworkNames) : Decidable n.TellsApart := inferInstanceAs (Decidable (List.Nodup _))

/-- No base is accepted by both tiers. -/
theorem FrameworkNames.TellsApart.not_accepted {n : FrameworkNames} (h : n.TellsApart)
    {base : String} (activity : base ∈ (TierRules.ofTier n .activity).acceptedBases) :
    base ∉ (TierRules.ofTier n .fragment).acceptedBases := by
  intro fragment
  have names : ([n.activityBase, n.compatActivityBase] ++ [n.fragmentBase]).Nodup := h
  exact (List.nodup_append'.mp names).2.2 activity fragment

/-- A class is taken in by one tier at most. -/
theorem not_isAccepted_by_both {n : FrameworkNames} {s : TypeStore} {t : TypeElement}
    (distinct : n.TellsApart) : ¬ ((TierRules.ofTier n .activity).IsAccepted s t ∧
      (TierRules.ofTier n .fragment).IsAccepted s t) := by
  intro both
  obtain ⟨base, activity, nearest⟩ := both.1.nearest
  obtain ⟨base', fragment, nearest'⟩ := both.2.nearest
  obtain rfl := nearest.unique nearest'
  exact distinct.not_accepted activity fragment

/-! ## 2. Searches -/

/-- The classes that are discovered for a tier are declared, and taken in by the tier. -/
theorem accepted_of_discovered {s : Settings} {r : Round} {tier : ChildTier} {name : String}
    (h : name ∈ (containersOf s r tier).found.names) :
    ∃ t, r.store.get? name = some t ∧
      (TierRules.ofTier s.framework tier).IsAccepted r.store t := by
  rw [← ClassMap.map_qualifiedName_toList] at h
  obtain ⟨a, ha, rfl⟩ := List.mem_map.mp h
  have declared := r.declares_elementsWith (TierRules.ofTier s.framework tier).containerMarker
  rcases mem_containersAmong declared ha with none_before | ⟨t, ht, accepted, rfl⟩
  · cases none_before
  · exact ⟨t, declared t ht, accepted⟩

/-- Both tiers have no class in common. -/
theorem containersOf_disjoint {s : Settings} {r : Round} (distinct : s.framework.TellsApart) :
    (containersOf s r .activity).found.names.Disjoint (containersOf s r .fragment).found.names := by
  intro name activity fragment
  obtain ⟨t, known, accepted⟩ := accepted_of_discovered activity
  obtain ⟨t', known', accepted'⟩ := accepted_of_discovered fragment
  cases known.symm.trans known'
  exact not_isAccepted_by_both distinct ⟨accepted, accepted'⟩

/-- A class that can be checked and has the annotations of both tiers makes one search fail. -/
theorem fails_of_both_markers {s : Settings} {r : Round} {t : TypeElement}
    (distinct : s.framework.TellsApart) (declared : t ∈ r.rootElements)
    (checked : r.store.IsChecked t)
    (marked : ∀ tier, (t.marker? (TierRules.ofTier s.framework tier).containerMarker).isSome) :
    ∃ tier, (containersOf s r tier).failure ≠ none := by
  refine Classical.byContradiction fun all_succeed => ?_
  have accepted (tier : ChildTier) : (TierRules.ofTier s.framework tier).IsAccepted r.store t := by
    have candidate := Round.type_mem_elementsWith_iff.mpr ⟨declared, marked tier⟩
    have known :=
      r.declares_elementsWith (TierRules.ofTier s.framework tier).containerMarker
    have succeeds : (containersOf s r tier).failure = none :=
      Classical.byContradiction fun fails => all_succeed ⟨tier, fails⟩
    have passes : ¬ (TierRules.ofTier s.framework tier).IsBad r.store (.type t) := fun bad =>
      (containersAmong_fails_iff known).mpr ⟨_, candidate, bad⟩ succeeds
    exact TierRules.isAccepted_of_isChecked checked (known t candidate) passes
  exact not_isAccepted_by_both distinct ⟨accepted .activity, accepted .fragment⟩

/-! ## 3. Runs -/

/-- A run with a failed search has no plan. -/
theorem no_plan_of_containers_fail {s : Settings} {r : Round} {tier : ChildTier}
    (h : (containersOf s r tier).failure ≠ none) : ∃ fault, (plan s r).result = .error fault := by
  cases planned : (plan s r).result with
  | error fault => exact ⟨fault, rfl⟩
  | ok p =>
    obtain ⟨_, _, _, tiers⟩ := plan_succeeds_iff.mp ⟨p, planned⟩
    exact absurd (tiers tier).containers h

namespace Coordinator

/-- If the bases of activities and fragments are different names, then no class is found for both
tiers, whether or not the run succeeds and whatever lies above the class. A class of the round that
can be checked and has the annotations of both tiers makes every run fail, with an error unless the
call has nothing to do. -/
theorem tiers_exclusive (c : Coordinator) (r : Round) (distinct : c.settings.framework.TellsApart) :
    (containersOf c.settings r .activity).found.names.Disjoint
      (containersOf c.settings r .fragment).found.names ∧
    (∀ p, (plan c.settings r).result = .ok p →
      p.activity.containers.names.Disjoint p.fragment.containers.names) ∧
    ∀ t ∈ r.rootElements, r.store.IsChecked t →
      (t.marker? c.settings.framework.activityMarker).isSome →
      (t.marker? c.settings.framework.fragmentMarker).isSome →
      (∃ tier, (containersOf c.settings r tier).failure ≠ none) ∧
      ∀ {σ : Type} (filer : Filer σ) (annotations : List String) (state : σ),
        let called := c.process filer annotations r state
        called.1.succeeded = false ∧ called.1.files = [] ∧ called.2.2 = state ∧
          (¬ c.IsIdle annotations → called.1.hasErrors = true) := by
  refine ⟨containersOf_disjoint distinct, fun p planned => ?_,
    fun t declared checked activity fragment => ?_⟩
  · obtain ⟨_, found, _⟩ := plan_discovered planned
    have apart := containersOf_disjoint (r := r) distinct
    rw [← found .activity, ← found .fragment] at apart
    exact apart
  · have marked (tier : ChildTier) :
        (t.marker? (TierRules.ofTier c.settings.framework tier).containerMarker).isSome := by
      cases tier
      · exact activity
      · exact fragment
    obtain ⟨tier, fails⟩ := fails_of_both_markers distinct declared checked marked
    refine ⟨⟨tier, fails⟩, fun filer annotations state => ?_⟩
    obtain ⟨fault, unplanned⟩ := no_plan_of_containers_fail fails
    obtain ⟨failed, kept⟩ := generate_of_no_plan unplanned filer state
    by_cases idle : c.IsIdle annotations
    · rw [process_of_idle idle]
      exact ⟨rfl, rfl, rfl, fun work => absurd idle work⟩
    · have bad := (process_hasErrors_iff c filer annotations r state).mpr ⟨idle, fault, failed⟩
      obtain ⟨news, called⟩ := process_of_work idle filer r state
      refine ⟨?_, ?_, ?_, fun _ => bad⟩
      · simp [RunReport.succeeded, bad]
      · rw [called, conclude, failed]
      · rw [called]
        exact kept

/-- An activity that is annotated as a fragment as well. -/
def doublyMarked : TypeElement :=
  { sampleActivity "com.example.Main" with
    annotations := [⟨({} : FrameworkNames).activityMarker, .empty⟩,
      ⟨({} : FrameworkNames).fragmentMarker, .empty⟩] }

theorem tiers_exclusive_doublyMarked :
    ({} : FrameworkNames).TellsApart ∧
    doublyMarked ∈ (sampleRound [doublyMarked]).rootElements ∧
    (({ settings := {} } : Coordinator).process SourceSet.filer [sampleMarker]
      (sampleRound [doublyMarked]) (.empty 4)).1.hasErrors = true ∧
    (containersOf {} (sampleRound [doublyMarked]) .activity).found.names.Disjoint
      (containersOf {} (sampleRound [doublyMarked]) .fragment).found.names := by
  have distinct : ({} : FrameworkNames).TellsApart := by decide
  have declared : doublyMarked ∈ (sampleRound [doublyMarked]).rootElements := by
    exact .tail _ (.head _)
  obtain ⟨apart, -, fails⟩ :=
    tiers_exclusive { settings := {} } (sampleRound [doublyMarked]) distinct
  obtain ⟨-, called⟩ := fails doublyMarked declared ⟨by decide +kernel, by decide +kernel⟩
    (by decide +kernel) (by decide +kernel)
  obtain ⟨-, -, -, bad⟩ := called SourceSet.filer [sampleMarker] (.empty 4)
  exact ⟨distinct, declared, bad (by simp [IsIdle]), apart⟩

end Coordinator

end ComponentWiring
