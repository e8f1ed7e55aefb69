/-
ComponentWiring.Discovery.Containers — discovery of a tier's containers.

* `TierRules.judge` — what becomes of one candidate.
* `containersAmong` — the containers of a list of candidates, up to the first refused one.
-/
import ComponentWiring.Declared.Hierarchy
import ComponentWiring.Discovery.AnnotatedClass
import ComponentWiring.Discovery.Rules
import ComponentWiring.Report.Failure

namespace ComponentWiring

/-! ## 1. Findings -/

/-- What a search among candidates came to: what it has found, the messages about the
candidates, and the failure that ended it early. -/
structure Findings (α : Type) where
  found : α
  diagnostics : List Diagnostic := []
  failure : Option Failure := none
deriving Inhabited

/-- The findings with messages about earlier candidates before them. -/
def Findings.after {α : Type} (ds : List Diagnostic) (f : Findings α) : Findings α :=
  { f with diagnostics := ds ++ f.diagnostics }

/-- What is said about a class that is taken in. -/
def processingNote (t : TypeElement) : Diagnostic := .note ("Processing class " ++ t.simpleName)

/-! ## 2. One candidate -/

/-- Why a candidate cannot be a container. -/
inductive ContainerFault
  | notAClass (e : Element)
  | hasTypeParameters (t : TypeElement)
  /-- Its nearest known base is of a different kind. -/
  | misannotated (t : TypeElement) (sibling : SiblingBase)
  /-- It extends no known base. -/
  | missingBase (t : TypeElement)

/-- The fault as a failure of the run. -/
def ContainerFault.toFailure (r : TierRules) : ContainerFault → Failure
  | .notAClass e =>
    .misuse (some e.displayName) ("Only classes can be annotated with @" ++ r.markerName)
  | .hasTypeParameters t =>
    .misuse (some t.qualifiedName)
      ("Classes with Type Parameters cannot be annotated with @" ++ r.markerName)
  | .misannotated t s => .misuse (some t.qualifiedName) (r.misannotated t.simpleName s)
  | .missingBase t => .misuse (some t.qualifiedName) (r.missingBase t.simpleName)

/-- What becomes of a candidate. -/
inductive ContainerVerdict
  | accepted (t : TypeElement)
  /-- The class cannot be checked and is left out. -/
  | skipped (t : TypeElement)
  | refused (fault : ContainerFault)

namespace TierRules

/-- The verdict on a class by its superclasses: the nearest one that means anything for the
tier decides. -/
def judgeBases (r : TierRules) (t : TypeElement) (bases : List String)
    (chainEnd : TypeStore.ChainEnd) : ContainerVerdict :=
  match bases.findSome? r.baseKind?, chainEnd with
  | some .accepted, _ => .accepted t
  | some (.sibling s), _ => .refused (.misannotated t s)
  | none, .root => .refused (.missingBase t)
  | none, .unresolved _ => .skipped t

/-- The verdict on a candidate. -/
def judge (r : TierRules) (s : TypeStore) (candidate : Element) : ContainerVerdict :=
  match candidate.class? with
  | none => .refused (.notAClass candidate)
  | some t =>
    if !s.isValid t then .skipped t
    else if !t.typeParameters.isEmpty then .refused (.hasTypeParameters t)
    else
      let (bases, chainEnd) := s.superclassChain t
      r.judgeBases t bases chainEnd

/-- The warning about a container that is left out. -/
def skippedWarning (r : TierRules) (t : TypeElement) : Diagnostic :=
  .warning (r.skipped t.simpleName) (some t.qualifiedName)

end TierRules

/-! ## 3. Many candidates -/

/-- The containers among candidates, added to those found before. The first refused
candidate ends the search. -/
def containersAmong (r : TierRules) (s : TypeStore) :
    ClassMap → List Element → Findings ClassMap
  | found, [] => ⟨found, [], none⟩
  | found, c :: cs =>
    match r.judge s c with
    | .refused fault => ⟨found, [], some (fault.toFailure r)⟩
    | .skipped t => (containersAmong r s found cs).after [r.skippedWarning t]
    | .accepted t =>
      if found.contains t.qualifiedName then containersAmong r s found cs
      else (containersAmong r s (found.insert (.ofElement t)) cs).after [processingNote t]

end ComponentWiring
