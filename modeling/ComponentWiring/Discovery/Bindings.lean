/-
ComponentWiring.Discovery.Bindings — which presenter is bound to which contract.

* `Bindings` — contracts with their presenters, in the order in which the contracts came.
* `Bindings.bind` — binding a presenter under a policy for contracts that have one.
-/
import ComponentWiring.Declared.QualifiedName
import ComponentWiring.Keyed
import ComponentWiring.Report.Failure
import ComponentWiring.Settings.Basic

namespace ComponentWiring

/-- Contracts with the presenters bound to them, all by qualified name. -/
abbrev Bindings := Keyed String String

/-- What came of binding a presenter to a contract. -/
inductive BindingOutcome
  /-- The contract had no presenter. -/
  | added
  /-- The presenter was bound to it already. -/
  | unchanged
  /-- The presenter took the place of another one. -/
  | replaced (previous : String)
  /-- Another presenter stays bound. -/
  | kept (existing : String)
deriving DecidableEq, Inhabited

/-- Two presenters of one contract where only one is allowed. -/
structure BindingClash where
  existing : String
  presenter : String
  contract : String
deriving DecidableEq, Inhabited

/-- The clash as a failure of the run. -/
def BindingClash.toFailure (c : BindingClash) : Failure :=
  .misuse (some c.presenter)
    (simpleName c.existing ++ " and " ++ simpleName c.presenter ++ " both implement "
      ++ simpleName c.contract ++ ". Only one presenter can be bound to a contract interface")

/-- Binds a presenter to a contract. -/
def Bindings.bind (b : Bindings) (contract presenter : String) (policy : DuplicatePolicy) :
    Except BindingClash (BindingOutcome × Bindings) :=
  match b.get? contract with
  | none => .ok (.added, b.insert contract presenter)
  | some existing =>
    if existing = presenter then .ok (.unchanged, b)
    else match policy with
      | .lastWins => .ok (.replaced existing, b.insert contract presenter)
      | .firstWins => .ok (.kept existing, b)
      | .reject => .error ⟨existing, presenter, contract⟩

/-- The bindings of a list of contracts and presenters, where the last presenter wins. -/
def Bindings.ofList (l : List (String × String)) : Bindings := Keyed.ofList l

end ComponentWiring
