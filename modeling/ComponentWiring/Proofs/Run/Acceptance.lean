/-
ComponentWiring.Proofs.Run.Acceptance — which rounds are accepted.

* `Acceptable` — what is asked of the declared types of a round.
* `tierDiscovered_iff`, `discovered_iff` — what a plan needs is found exactly in acceptable rounds.
* `Coordinator.processRound_succeeds_iff_acceptable` — with the default settings, a round that is
  processed first succeeds exactly if it is acceptable.

What is asked speaks of declared types, annotations and names only. Once a round is planned, nothing
can go wrong: generated files pass the last check, can be rendered and lie apart.
-/
import ComponentWiring.Proofs.Discovery.Root
import ComponentWiring.Proofs.Run.Staging

namespace ComponentWiring

open Java

/-! ## 1. Lower tiers -/

/-- What a tier asks of a round. -/
structure AcceptableTier (n : FrameworkNames) (r : Round) (tier : ChildTier) : Prop where
  /-- All annotated containers are classes, and the valid ones are containers of the tier. -/
  containers : ∀ e ∈ r.elementsWith (TierRules.ofTier n tier).containerMarker,
    ∃ t, e = .type t ∧ t.isClass = true ∧ (r.store.isValid t = true → IsContainer n tier r.store t)
  /-- All presenters have a contract, and its name can be read. -/
  contracts : ∀ t, .type t ∈ r.elementsWith (TierRules.ofTier n tier).scopeMarker →
    IsPresenter n r.store t →
      ∃ contract, contractOf? n r.store t = some contract ∧ ClassName.IsReadable contract
  /-- The name of the last presenter of a contract can be read. -/
  presenters : ∀ contract t, IsLastPresenter n r.store
    (r.elementsWith (TierRules.ofTier n tier).scopeMarker) contract t →
      ClassName.IsReadable t.qualifiedName

theorem exists_isLastPresenter {n : FrameworkNames} {s : TypeStore} {cs : List Element}
    {contract : String} {t : TypeElement} (ht : .type t ∈ cs) (presenter : IsPresenter n s t)
    (bound : contractOf? n s t = some contract) : ∃ u, IsLastPresenter n s cs contract u := by
  induction cs generalizing t with
  | nil => cases ht
  | cons c cs ih =>
    by_cases later : ∃ u, .type u ∈ cs ∧ IsPresenter n s u ∧ contractOf? n s u = some contract
    · obtain ⟨u, hu, presenter', bound'⟩ := later
      obtain ⟨v, last⟩ := ih hu presenter' bound'
      obtain ⟨before, after, rfl, others⟩ := last.last
      exact ⟨v, last.presenter, last.bound, c :: before, after, rfl, others⟩
    · have first : c = .type t := by
        rcases List.mem_cons.mp ht with same | ht
        · exact same.symm
        · exact absurd ⟨t, ht, presenter, bound⟩ later
      subst first
      exact ⟨t, presenter, bound, [], cs, rfl,
        fun u hu presenter' again => later ⟨u, hu, presenter', again⟩⟩

/-- The presenters of a tier are bound to readable contracts under readable names. -/
theorem readable_presenters_iff {n : FrameworkNames} {s : TypeStore} {cs : List Element}
    (declared : s.Declares cs) :
    ((presentersAmong n .lastWins s .empty cs).failure = none ∧
      Bindings.AreReadable (presentersAmong n .lastWins s .empty cs).found) ↔
    (∀ t, .type t ∈ cs → IsPresenter n s t →
      ∃ contract, contractOf? n s t = some contract ∧ ClassName.IsReadable contract) ∧
    ∀ contract t, IsLastPresenter n s cs contract t → ClassName.IsReadable t.qualifiedName := by
  constructor
  · intro given
    obtain ⟨succeeds, readable⟩ := given
    have last {contract : String} {t : TypeElement} (h : IsLastPresenter n s cs contract t) :
        ClassName.IsReadable t.qualifiedName ∧ ClassName.IsReadable contract := by
      have bound := (get?_presentersAmong_iff declared succeeds).mpr ⟨t, h, rfl⟩
      exact readable _ (Keyed.get?_eq_some_iff.mp bound)
    refine ⟨fun t ht presenter => ?_, fun contract t h => (last h).1⟩
    -- A contract that occurs has a last presenter, so it is bound and its name is read.
    obtain ⟨contract, bound⟩ := (presentersAmong_succeeds_iff declared).mp succeeds t ht presenter
    obtain ⟨u, h⟩ := exists_isLastPresenter ht presenter bound
    exact ⟨contract, bound, (last h).2⟩
  · intro given
    obtain ⟨contracts, presenters⟩ := given
    have succeeds : (presentersAmong n .lastWins s .empty cs).failure = none := by
      rw [presentersAmong_succeeds_iff declared]
      intro t ht presenter
      obtain ⟨contract, bound, _⟩ := contracts t ht presenter
      exact ⟨contract, bound⟩
    refine ⟨succeeds, ?_⟩
    rintro ⟨contract, name⟩ mem
    obtain ⟨t, h, rfl⟩ :=
      (get?_presentersAmong_iff declared succeeds).mp (Keyed.get?_eq_some_iff.mpr mem)
    obtain ⟨before, after, split, _⟩ := h.last
    obtain ⟨contract', bound, readable⟩ := contracts t (by simp [split]) h.presenter
    cases h.bound.symm.trans bound
    exact ⟨presenters contract t h, readable⟩

/-- What a tier needs is found exactly if the round is acceptable for it. -/
theorem tierDiscovered_iff {s : Settings} {r : Round} {tier : ChildTier}
    (policy : s.generation.duplicatePresenters = .lastWins) :
    TierDiscovered s r tier ↔ AcceptableTier s.framework r tier := by
  have containers : (containersOf s r tier).failure = none ↔ _ :=
    containersAmong_succeeds_iff (r.declares_elementsWith _)
  have presenters := readable_presenters_iff (n := s.framework)
    (r.declares_elementsWith (TierRules.ofTier s.framework tier).scopeMarker)
  have same : presentersOf s r tier = presentersAmong s.framework .lastWins r.store .empty
      (r.elementsWith (TierRules.ofTier s.framework tier).scopeMarker) := by
    rw [presentersOf, policy]
  rw [← same] at presenters
  constructor
  · intro h
    obtain ⟨found, found', readable⟩ := h
    obtain ⟨contracts, last⟩ := presenters.mp ⟨found', readable⟩
    exact ⟨containers.mp found, contracts, last⟩
  · intro h
    obtain ⟨accepted, contracts, last⟩ := h
    obtain ⟨found', readable⟩ := presenters.mpr ⟨contracts, last⟩
    exact ⟨containers.mpr accepted, found', readable⟩

/-! ## 2. The whole round -/

/-- What the generator asks of a round: exactly one element is annotated as the application, it is
a class below the application base, its first annotation names three readable modules, and the
round is acceptable for both lower tiers. -/
structure Acceptable (n : FrameworkNames) (r : Round) : Prop where
  application : ∃ t a, r.elementsWith n.applicationMarker = [.type t] ∧
    r.store.IsBelow n.applicationBase t ∧ t.marker? n.applicationMarker = some a ∧
    a.NamesReadable "application" ∧ a.NamesReadable "activity" ∧ a.NamesReadable "fragment"
  tiers : ∀ tier, AcceptableTier n r tier

/-- What a plan needs is found exactly if the round is acceptable. -/
theorem discovered_iff {s : Settings} {r : Round}
    (policy : s.generation.duplicatePresenters = .lastWins) :
    (∃ root, Discovered s r root) ↔ Acceptable s.framework r := by
  constructor
  · intro given
    obtain ⟨root, h⟩ := given
    obtain ⟨t, a, only, below, annotated, made⟩ := applicationRoot_ok_iff.mp h.found
    have modules := readable_modules_iff.mp
      ⟨root, made, h.applicationModule, h.modules .activity, h.modules .fragment⟩
    exact ⟨⟨t, a, only, below, annotated, modules⟩, fun tier =>
      (tierDiscovered_iff policy).mp (h.tiers tier)⟩
  · intro given
    obtain ⟨⟨t, a, only, below, annotated, modules⟩, tiers⟩ := given
    obtain ⟨root, made, application, activity, fragment⟩ := readable_modules_iff.mpr modules
    refine ⟨root, applicationRoot_ok_iff.mpr ⟨t, a, only, below, annotated, made⟩, application,
      ?_, fun tier => (tierDiscovered_iff policy).mpr (tiers tier)⟩
    intro tier
    cases tier
    · exact activity
    · exact fragment

/-! ## 3. The default settings -/

/-- An acceptable round carries an annotation. -/
theorem Acceptable.markersPresent_ne_nil {n : FrameworkNames} {r : Round} (h : Acceptable n r) :
    r.markersPresent n.markers ≠ [] := by
  obtain ⟨t, _, only, _⟩ := h.application
  have asked : n.applicationMarker ∈ n.markers := List.mem_cons_self
  refine Round.markersPresent_ne_nil asked ?_
  rw [only]
  exact List.cons_ne_nil _ _

namespace Coordinator

/-- With the default settings, the first round that is processed, over any declared types and with
nothing filed before, succeeds exactly if it is acceptable. -/
theorem processRound_succeeds_iff_acceptable (registry : Registry) (bus : Option Bus) (r : Round)
    (width : Nat) :
    ((start {} registry bus).processRound SourceSet.filer r (.empty width)).1.succeeded = true ↔
      Acceptable {} r := by
  have planned : Succeeds (plan {} r).result ↔ Acceptable {} r :=
    (plan_succeeds_iff_discovered default_areReadable default_namesApart).trans (discovered_iff rfl)
  rw [processRound, process_succeeded_iff_plan, ← planned]
  constructor
  · intro h
    obtain ⟨_, p, made, _⟩ := h
    exact ⟨p, made⟩
  · intro h
    obtain ⟨p, made⟩ := h
    have acceptable := planned.mp ⟨p, made⟩
    refine ⟨?_, p, made, plan_locations_nodup made default_isPlainName⟩
    simpa [IsIdle, start] using acceptable.markersPresent_ne_nil

/-- An application with one activity is acceptable. -/
theorem processRound_succeeds_of_one_activity :
    Acceptable {} (sampleRound [sampleActivity "com.example.Main"]) ∧
      ((start {}).processRound SourceSet.filer (sampleRound [sampleActivity "com.example.Main"])
        (.empty 4)).1.succeeded = true := by
  obtain ⟨p, planned, _⟩ : ∃ p, (plan {} (sampleRound [sampleActivity "com.example.Main"])).result =
      .ok p ∧ p.root = sampleRoot := by
    refine sample_planned default_areReadable default_namesApart (by decide +kernel) ?_ ?_
    · intro tier
      cases tier <;> decide +kernel
    · intro tier
      cases tier <;> decide +kernel
  have discovered :=
    (plan_succeeds_iff_discovered default_areReadable default_namesApart).mp ⟨p, planned⟩
  have acceptable : Acceptable {} (sampleRound [sampleActivity "com.example.Main"]) :=
    (discovered_iff rfl).mp discovered
  exact ⟨acceptable, (processRound_succeeds_iff_acceptable .empty none _ 4).mpr acceptable⟩

end Coordinator

end ComponentWiring
