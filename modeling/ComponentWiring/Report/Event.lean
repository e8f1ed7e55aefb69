/-
ComponentWiring.Report.Event — what a run makes known while it goes on.

* `Tier`, `ChildTier` — the three tiers of the component graph, and the two lower ones.
* `Event` — one piece of news.
-/
import ComponentWiring.Path
import ComponentWiring.Report.Diagnostic

namespace ComponentWiring

/-- A tier of the component graph. -/
inductive Tier
  | application
  | activity
  | fragment
deriving DecidableEq, Inhabited

/-- The tier as messages name it. -/
def Tier.name : Tier → String
  | .application => "application"
  | .activity => "activity"
  | .fragment => "fragment"

/-- All tiers. -/
def Tier.all : List Tier := [.application, .activity, .fragment]

/-- A tier below the application. -/
inductive ChildTier
  | activity
  | fragment
deriving DecidableEq, Inhabited

/-- The tier among all tiers. -/
def ChildTier.tier : ChildTier → Tier
  | .activity => .activity
  | .fragment => .fragment

/-- One piece of news. -/
inductive Event
  | roundStarted (round : Nat)
  /-- The round has nothing to do. -/
  | roundSkipped (round : Nat)
  /-- The class became part of a tier. -/
  | classProcessed (tier : Tier) (name : String)
  | diagnostic (d : Diagnostic)
  /-- The source of a type was accepted under the path. -/
  | fileEmitted (package name : String) (path : Option Path)
  /-- The round is over, with so many files and errors. -/
  | roundCompleted (round files errors : Nat)
deriving DecidableEq, Inhabited

/-- The message of an event that is one. -/
def Event.diagnostic? : Event → Option Diagnostic
  | .diagnostic d => some d
  | _ => none

end ComponentWiring
