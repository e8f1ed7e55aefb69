/-
ComponentWiring.Discovery.Presenters — discovery of a tier's presenters.

* `judgePresenter` — what becomes of one candidate.
* `presentersAmong` — the bindings of a list of candidates, up to the first refused one.

Scope annotations are also used on classes that are no presenters. These are passed over.
-/
import ComponentWiring.Discovery.Bindings
import ComponentWiring.Discovery.Containers

namespace ComponentWiring

/-! ## 1. One candidate -/

/-- What becomes of a candidate. -/
inductive PresenterVerdict
  /-- It is no presenter. -/
  | passed
  /-- The class cannot be checked and is left out. -/
  | skipped (t : TypeElement)
  /-- It is a presenter with its contract. -/
  | presenter (t : TypeElement) (contract : String)
  /-- It is a presenter without a contract. -/
  | noContract (t : TypeElement)

/-- The verdict on a candidate. -/
def judgePresenter (n : FrameworkNames) (s : TypeStore) (candidate : Element) :
    PresenterVerdict :=
  match candidate.class? with
  | none => .passed
  | some t =>
    if !s.isValid t then .skipped t
    else
      let c := s.classify t n.presenterBase n.presentable
      if !c.isPresenter then .passed
      else match c.contract with
        | none => .noContract t
        | some contract => .presenter t contract

/-! ## 2. Messages -/

/-- The warning about a class that is left out. -/
def unresolvedWarning (t : TypeElement) : Diagnostic :=
  .warning ("Skipped " ++ t.simpleName ++ ".class because its hierarchy cannot be resolved")
    (some t.qualifiedName)

/-- The failure of a presenter without a contract. -/
def noContractFailure (n : FrameworkNames) (t : TypeElement) : Failure :=
  .misuse (some t.qualifiedName)
    (t.simpleName ++ " must contain an interface that inherits from " ++ simpleName n.presentable)

/-- The messages about a binding. -/
def bindingMessages (t : TypeElement) (contract : String) : BindingOutcome → List Diagnostic
  | .added => [processingNote t]
  | .unchanged => []
  | .replaced previous =>
    [.warning (t.simpleName ++ " replaces " ++ simpleName previous ++ " as the presenter bound to "
        ++ simpleName contract) (some t.qualifiedName),
     processingNote t]
  | .kept existing =>
    [.warning (t.simpleName ++ " is ignored because " ++ simpleName existing
        ++ " is already bound to " ++ simpleName contract) (some t.qualifiedName)]

/-! ## 3. Many candidates -/

/-- The bindings of the presenters among candidates, on top of those found before. The
first refused candidate ends the search. -/
def presentersAmong (n : FrameworkNames) (policy : DuplicatePolicy) (s : TypeStore) :
    Bindings → List Element → Findings Bindings
  | found, [] => ⟨found, [], none⟩
  | found, c :: cs =>
    match judgePresenter n s c with
    | .passed => presentersAmong n policy s found cs
    | .skipped t => (presentersAmong n policy s found cs).after [unresolvedWarning t]
    | .noContract t => ⟨found, [], some (noContractFailure n t)⟩
    | .presenter t contract =>
      match found.bind contract t.qualifiedName policy with
      | .error clash => ⟨found, [], some clash.toFailure⟩
      | .ok (outcome, found) =>
        (presentersAmong n policy s found cs).after (bindingMessages t contract outcome)

end ComponentWiring
