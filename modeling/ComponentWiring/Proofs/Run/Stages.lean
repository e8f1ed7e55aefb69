/-
ComponentWiring.Proofs.Run.Stages — a run taken apart into its stages.

* `Logged.result_bind_ok_iff` — a sequence succeeds when each of its steps does.
* `planTier_ok_iff`, `plan_ok_iff` — a plan succeeds exactly when discovery, generation and the
  batch check do, and what it then consists of.
* `finish_of_plan` — the tiers of a plan can always be marked as done.

Progress never stands in the way: each stage is entered from the one before it.
-/
import ComponentWiring.Proofs.Outcome
import ComponentWiring.Run.Coordinator

namespace ComponentWiring

open Java

/-! ## 1. Steps -/

namespace Logged

variable {α β : Type}

theorem result_bind_ok_iff {x : Logged α} {f : α → Logged β} {b : β} :
    (x >>= f).result = .ok b ↔ ∃ a, x.result = .ok a ∧ (f a).result = .ok b := by
  rw [result_bind]
  exact bind_ok_iff

@[simp] theorem result_pure (a : α) : (pure a : Logged α).result = .ok a := rfl

@[simp] theorem result_lift (x : Except Failure α) : (liftM x : Logged α).result = x := rfl

@[simp] theorem result_say (ds : List Diagnostic) : (say ds).result = .ok () := rfl

@[simp] theorem result_tell (es : List Event) : (tell es).result = .ok () := rfl

theorem result_ofFindings_ok_iff {f : Findings α} {a : α} :
    (ofFindings f).result = .ok a ↔ f.failure = none ∧ f.found = a := by
  simp only [ofFindings]
  cases f.failure <;> simp

end Logged

/-! ## 2. Progress -/

namespace Progress

theorem require_self (tier : Tier) (stage : Stage) : require ⟨tier, stage⟩ stage = .ok () := by
  rw [require, if_neg (Nat.lt_irrefl _)]

end Progress

/-! ## 3. Lower tiers -/

/-- The generator of a tier's types. -/
def childGenerator (s : Settings) (root : ApplicationRoot) (packages : Packages)
    (tier : ChildTier) : ChildGenerator :=
  ⟨s, packages, tier, root.childModule tier⟩

/-- What the search for the containers of a tier comes to. -/
def containersOf (s : Settings) (r : Round) (tier : ChildTier) : Findings ClassMap :=
  containersAmong (.ofTier s.framework tier) r.store .empty
    (r.elementsWith (TierRules.ofTier s.framework tier).containerMarker)

/-- What the search for the presenters of a tier comes to. -/
def presentersOf (s : Settings) (r : Round) (tier : ChildTier) : Findings Bindings :=
  presentersAmong s.framework s.generation.duplicatePresenters r.store .empty
    (r.elementsWith (TierRules.ofTier s.framework tier).scopeMarker)

/-- The plan of a tier whose files are generated. -/
def emittedTier (s : Settings) (r : Round) (root : ApplicationRoot) (packages : Packages)
    (tier : ChildTier) (files : ChildFiles) : TierPlan where
  tier := tier
  containers := (containersOf s r tier).found
  bindings := (presentersOf s r tier).found
  component := (childGenerator s root packages tier).componentName
  files := files
  progress := ⟨tier.tier, .componentsEmitted⟩

theorem planTier_ok_iff {s : Settings} {r : Round} {root : ApplicationRoot}
    {packages : Packages} {tier : ChildTier} {t : TierPlan} :
    (planTier s r root packages tier).result = .ok t ↔
      (containersOf s r tier).failure = none ∧ (presentersOf s r tier).failure = none ∧
        ∃ files, (childGenerator s root packages tier).generate (containersOf s r tier).found
            (presentersOf s r tier).found = .ok files ∧
          t = emittedTier s r root packages tier files := by
  unfold planTier
  simp only [Logged.result_bind_ok_iff, Logged.result_lift, Logged.result_tell,
    Logged.result_pure, Logged.result_ofFindings_ok_iff]
  constructor
  · intro h
    obtain ⟨_, ⟨noFault, rfl⟩, _, first, _, ⟨noFault', rfl⟩, _, second, _, _, files, made, _,
      third, done⟩ := h
    cases first; cases second; cases third; cases done
    exact ⟨noFault, noFault', files, made, rfl⟩
  · intro h
    obtain ⟨noFault, noFault', files, made, rfl⟩ := h
    exact ⟨_, ⟨noFault, rfl⟩, _, rfl, _, ⟨noFault', rfl⟩, _, rfl, (), trivial, files, made, _, rfl,
      rfl⟩

/-- A tier that is planned has emitted its types. -/
theorem require_of_planTier {s : Settings} {r : Round} {root : ApplicationRoot}
    {packages : Packages} {tier : ChildTier} {t : TierPlan}
    (h : (planTier s r root packages tier).result = .ok t) :
    t.progress.require .componentsEmitted = .ok () := by
  obtain ⟨_, _, files, _, rfl⟩ := planTier_ok_iff.mp h
  exact Progress.require_self _ _

/-! ## 4. The whole round -/

/-- The packages of the generated types of an application. -/
def packagesOf (s : Settings) (root : ApplicationRoot) : Packages :=
  .below root.root.package s.naming.namespaceSegment

/-- The plan of a round whose files are generated: three of the fragment tier, three of the
activity tier, and those of the application tier. -/
def emittedPlan (s : Settings) (root : ApplicationRoot) (fragment activity : TierPlan)
    (own : List SourceFile) : Plan where
  root := root
  fragment := fragment
  activity := activity
  dispatch := dispatchOf s activity fragment
  initializer := ApplicationGenerator.initializerName ⟨s, packagesOf s root, root⟩
  files := fragment.files.toList ++ activity.files.toList ++ own
  progress := ⟨.application, .componentsEmitted⟩

theorem plan_ok_iff {s : Settings} {r : Round} {p : Plan} :
    (plan s r).result = .ok p ↔
      ∃ root fragment activity own,
        applicationRoot s.framework r = .ok root ∧
        (planTier s r root (packagesOf s root) .fragment).result = .ok fragment ∧
        (planTier s r root (packagesOf s root) .activity).result = .ok activity ∧
        ApplicationGenerator.generate ⟨s, packagesOf s root, root⟩
          (dispatchOf s activity fragment) = .ok own ∧
        checkBatch (fragment.files.toList ++ activity.files.toList ++ own)
          (dispatchOf s activity fragment) = .ok () ∧
        p = emittedPlan s root fragment activity own := by
  unfold plan
  simp only [planTierAt, Logged.result_bind_ok_iff, Logged.result_lift, Logged.result_say,
    Logged.result_tell, Logged.result_pure, mapError_ok_iff]
  constructor
  · intro given
    obtain ⟨root, found, fragment, planned, activity, planned', _, _, _, _, _, first, _, _, _, _,
      _, second, own, made, _, third, _, checked, done⟩ := given
    cases first; cases second; cases third; cases done
    exact ⟨root, fragment, activity, own, found, planned, planned', made, checked, rfl⟩
  · intro given
    obtain ⟨root, fragment, activity, own, found, planned, planned', made, checked, rfl⟩ := given
    exact ⟨root, found, fragment, planned, activity, planned', (), trivial, (), trivial, _,
      rfl, _, require_of_planTier planned, _, require_of_planTier planned', _, rfl, own, made, _,
      rfl, _, checked, rfl⟩

/-- The tiers of a plan can be marked as done. -/
theorem finish_of_plan {s : Settings} {r : Round} {p : Plan} (h : (plan s r).result = .ok p) :
    p.finish = .ok () := by
  obtain ⟨root, fragment, activity, own, _, planned, planned', _, _, rfl⟩ := plan_ok_iff.mp h
  obtain ⟨_, _, _, _, rfl⟩ := planTier_ok_iff.mp planned
  obtain ⟨_, _, _, _, rfl⟩ := planTier_ok_iff.mp planned'
  rfl

end ComponentWiring
