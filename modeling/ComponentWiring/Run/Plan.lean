/-
ComponentWiring.Run.Plan — what a run is going to write.

* `TierPlan`, `planTier` — discovery and generation of a lower tier.
* `planTierAt` — the same for any tier that is asked for.
* `Plan`, `plan` — all files of a round, in the order in which they are handed over.

A plan depends on the settings and the round alone; nothing is written yet.
-/
import ComponentWiring.Discovery.Presenters
import ComponentWiring.Run.Logged
import ComponentWiring.Wiring.Application
import ComponentWiring.Wiring.Batch
import ComponentWiring.Wiring.Progress

namespace ComponentWiring

open Java

/-! ## 1. Lower tiers -/

/-- What was discovered and generated for a lower tier. -/
structure TierPlan where
  tier : ChildTier
  containers : ClassMap
  bindings : Bindings
  component : ClassName
  files : ChildFiles
  progress : Progress
deriving Inhabited

/-- The news of a tier's classes: its containers, then its presenters. -/
def tierNews (tier : ChildTier) (containers : ClassMap) (bindings : Bindings) : List Event :=
  (containers.names ++ bindings.values).map (.classProcessed tier.tier)

/-- Discovers the classes of a tier and generates its types. -/
def planTier (s : Settings) (r : Round) (root : ApplicationRoot) (packages : Packages)
    (tier : ChildTier) : Logged TierPlan := do
  let rules := TierRules.ofTier s.framework tier
  let progress : Progress := ⟨tier.tier, .start⟩
  let containers ← Logged.ofFindings
    (containersAmong rules r.store .empty (r.elementsWith rules.containerMarker))
  let progress ← progress.advance .containersDiscovered
  let bindings ← Logged.ofFindings
    (presentersAmong s.framework s.generation.duplicatePresenters r.store .empty
      (r.elementsWith rules.scopeMarker))
  let progress ← progress.advance .presentersDiscovered
  Logged.tell (tierNews tier containers bindings)
  let generator : ChildGenerator := ⟨s, packages, tier, root.childModule tier⟩
  let files ← generator.generate containers bindings
  let progress ← progress.advance .componentsEmitted
  return { tier, containers, bindings, component := generator.componentName, files, progress }

/-- Plans the tier that is asked for. The application tier has no types of this kind. -/
def planTierAt (s : Settings) (r : Round) (root : ApplicationRoot) (packages : Packages) :
    Tier → Logged TierPlan
  | .activity => planTier s r root packages .activity
  | .fragment => planTier s r root packages .fragment
  | .application => liftM (Except.error (Failure.internal "the application tier has no containers"))

/-! ## 2. The whole round -/

/-- What a run is going to write. -/
structure Plan where
  root : ApplicationRoot
  fragment : TierPlan
  activity : TierPlan
  dispatch : Dispatch
  initializer : ClassName
  files : List SourceFile
  /-- How far the application tier has come. -/
  progress : Progress
deriving Inhabited

/-- The dispatch over the classes of both lower tiers. -/
def dispatchOf (s : Settings) (activity fragment : TierPlan) : Dispatch :=
  (({ injectMethod := s.naming.injectMethod } : Dispatch).withTier
    .activity activity.component activity.containers).withTier
      .fragment fragment.component fragment.containers

/-- Plans a round: the fragment tier, the activity tier, then the application tier, which
relies on both. -/
def plan (s : Settings) (r : Round) : Logged Plan := do
  let root ← applicationRoot s.framework r
  let packages := Packages.below root.root.package s.naming.namespaceSegment
  let fragment ← planTierAt s r root packages .fragment
  let activity ← planTierAt s r root packages .activity
  Logged.say [.note ("Processing class " ++ root.root.simpleName)]
  Logged.tell [.classProcessed .application root.root.qualifiedName]
  let progress ← Progress.advance ⟨.application, .start⟩ .containersDiscovered
  fragment.progress.require .componentsEmitted
  activity.progress.require .componentsEmitted
  let progress ← progress.advance .presentersDiscovered
  let dispatch := dispatchOf s activity fragment
  let generator : ApplicationGenerator := ⟨s, packages, root⟩
  let own ← generator.generate dispatch
  let progress ← progress.advance .componentsEmitted
  let files := fragment.files.toList ++ activity.files.toList ++ own
  (checkBatch files dispatch).mapError BatchFault.toFailure
  return { root, fragment, activity, dispatch, initializer := generator.initializerName, files,
           progress }

/-- Marks all tiers of a plan as done. -/
def Plan.finish (p : Plan) : Except Failure Unit := do
  let _ ← p.fragment.progress.advance .done
  let _ ← p.activity.progress.advance .done
  let _ ← p.progress.advance .done
  return ()

end ComponentWiring
