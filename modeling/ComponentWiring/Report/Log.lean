/-
ComponentWiring.Report.Log — the record of a run.

* `Log` — the messages reported so far, and all news in order.
* `Log.report`, `Log.announce` — adding a message or other news. A message is news too.
* `Log.take` — handing the messages over.
-/
import ComponentWiring.Report.Event

namespace ComponentWiring

/-- The messages reported so far, and all news in order. -/
structure Log where
  diagnostics : List Diagnostic := []
  news : List Event := []
deriving Inhabited

namespace Log

/-- Adds news that is no message. -/
def announce (l : Log) (e : Event) : Log := { l with news := l.news ++ [e] }

/-- Adds a message. -/
def report (l : Log) (d : Diagnostic) : Log :=
  ⟨l.diagnostics ++ [d], l.news ++ [.diagnostic d]⟩

/-- Adds messages one after the other. -/
def reportAll (l : Log) (ds : List Diagnostic) : Log := ds.foldl report l

/-- Adds news one after the other. -/
def announceAll (l : Log) (es : List Event) : Log := es.foldl announce l

/-- The messages of one severity. -/
def ofSeverity (l : Log) (s : Severity) : List Diagnostic :=
  l.diagnostics.filter (·.severity = s)

/-- The number of errors. -/
def errors (l : Log) : Nat := errorCount l.diagnostics

/-- Hands the messages over; the log keeps none of them. -/
def take (l : Log) : List Diagnostic × Log := (l.diagnostics, { l with diagnostics := [] })

end Log

end ComponentWiring
