/-
ComponentWiring.Discovery.Rules — what the containers of a tier must be.

* `TierRules` — the annotations of a tier, the bases its containers may have, and the bases
  that belong to another kind of class.
* `TierRules.ofTier` — the rules of the two lower tiers.
* The messages about classes that break the rules.
-/
import ComponentWiring.Declared.QualifiedName
import ComponentWiring.Report.Event
import ComponentWiring.Settings.Basic

namespace ComponentWiring

/-- What to do about a class that carries the wrong annotation. -/
inductive Suggestion
  /-- Use the annotation of another tier. -/
  | marker (marker : String)
  /-- Use one of the scope annotations, as presenters do. -/
  | scopeMarkers (perActivity perFragment : String)
deriving DecidableEq, Inhabited

/-- A base of a different kind of class. -/
structure SiblingBase where
  name : String
  suggestion : Suggestion
deriving DecidableEq, Inhabited

/-- The rules of a tier. -/
structure TierRules where
  tier : ChildTier
  /-- The annotation of the tier's containers. -/
  containerMarker : String
  /-- The annotation of the tier's presenters. -/
  scopeMarker : String
  /-- A container extends one of these. -/
  acceptedBases : List String
  /-- A container does not extend one of these on the way to an accepted base. -/
  siblings : List SiblingBase
deriving DecidableEq, Inhabited

/-- What a base means for a tier. -/
inductive BaseKind
  | accepted
  | sibling (s : SiblingBase)
deriving DecidableEq, Inhabited

namespace TierRules

/-- The presenter base, which belongs to no tier. -/
def presenterSibling (n : FrameworkNames) : SiblingBase :=
  ⟨n.presenterBase, .scopeMarkers (simpleName n.perActivity) (simpleName n.perFragment)⟩

/-- The rules of a tier. Activities extend the plain or the compatible activity base,
fragments the fragment base; each tier suggests the other one's annotation. -/
def ofTier (n : FrameworkNames) : ChildTier → TierRules
  | .activity =>
    { tier := .activity
      containerMarker := n.activityMarker
      scopeMarker := n.perActivity
      acceptedBases := [n.activityBase, n.compatActivityBase]
      siblings := [⟨n.fragmentBase, .marker (simpleName n.fragmentMarker)⟩, presenterSibling n] }
  | .fragment =>
    { tier := .fragment
      containerMarker := n.fragmentMarker
      scopeMarker := n.perFragment
      acceptedBases := [n.fragmentBase]
      siblings := [⟨n.activityBase, .marker (simpleName n.activityMarker)⟩,
        ⟨n.compatActivityBase, .marker (simpleName n.activityMarker)⟩, presenterSibling n] }

/-- The annotation of the tier's containers as messages name it. -/
def markerName (r : TierRules) : String := simpleName r.containerMarker

/-- The accepted bases as messages name them. -/
def expectedBases (r : TierRules) : String :=
  Text.joinTexts " or " (r.acceptedBases.map simpleName)

/-- Whether a container may extend the base. -/
def accepts (r : TierRules) (base : String) : Bool := r.acceptedBases.contains base

/-- The sibling that a base is. -/
def sibling? (r : TierRules) (base : String) : Option SiblingBase :=
  r.siblings.find? (·.name = base)

/-- What a base means for the tier, if it means anything. -/
def baseKind? (r : TierRules) (base : String) : Option BaseKind :=
  if r.accepts base then some .accepted else (r.sibling? base).map .sibling

/-- What is said about a container that extends a sibling. -/
def misannotated (r : TierRules) (className : String) (sibling : SiblingBase) : String :=
  className ++ " class is annotated with @" ++ r.markerName ++ " but does not inherit from "
    ++ r.expectedBases ++ ". "
    ++ match sibling.suggestion with
      | .marker a => className ++ " class must be annotated with @" ++ a
      | .scopeMarkers a f => "Presenters must be annotated with @" ++ a ++ " or @" ++ f

/-- What is said about a container without an accepted base. -/
def missingBase (r : TierRules) (className : String) : String :=
  className ++ " must inherit from " ++ r.expectedBases

/-- What is said about a container that cannot be checked. -/
def skipped (r : TierRules) (className : String) : String :=
  "Skipped " ++ className ++ ".class because is annotated with @" ++ r.markerName
    ++ " but it doesn't inherit from " ++ r.expectedBases

end TierRules

end ComponentWiring
