/-
ComponentWiring.Report.Diagnostic — messages to the user of a run.

* `Diagnostic` — a message with its severity and the element it is about.
* `Diagnostic.text` — the line that shows it.
-/

namespace ComponentWiring

/-- How serious a message is. -/
inductive Severity
  | note
  | warning
  | error
deriving DecidableEq, Inhabited

/-- The word that a line starts with. -/
def Severity.name : Severity → String
  | .note => "note"
  | .warning => "warning"
  | .error => "error"

/-- All severities. -/
def Severity.all : List Severity := [.note, .warning, .error]

/-- A message, with the name of the element it is about if there is one. -/
structure Diagnostic where
  severity : Severity
  message : String
  element : Option String := none
deriving DecidableEq, Inhabited

namespace Diagnostic

/-- Something worth knowing. -/
def note (message : String) (element : Option String := none) : Diagnostic :=
  ⟨.note, message, element⟩

/-- Something that was left out or replaced. -/
def warning (message : String) (element : Option String := none) : Diagnostic :=
  ⟨.warning, message, element⟩

/-- Something that prevents a result. -/
def error (message : String) (element : Option String := none) : Diagnostic :=
  ⟨.error, message, element⟩

/-- Whether the message is an error. -/
def isError (d : Diagnostic) : Bool := d.severity = .error

/-- The line that shows the message. -/
def text (d : Diagnostic) : String :=
  d.severity.name ++ ": " ++ d.message ++ d.element.elim "" fun e => " [" ++ e ++ "]"

end Diagnostic

/-- The number of errors among messages. -/
def errorCount (ds : List Diagnostic) : Nat := ds.countP (·.isError)

end ComponentWiring
