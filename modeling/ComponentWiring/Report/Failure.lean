/-
ComponentWiring.Report.Failure — why a run ends without a result.

* `Failure` — the kinds of failure, each with what it is about.
* `Failure.text` — the failure in words.
* `Failure.userText` — the failure as the user is told about it.
* `Failure.diagnostics` — the messages a failed run ends with.
-/
import ComponentWiring.Report.Diagnostic
import ComponentWiring.Text.Segments

namespace ComponentWiring

/-- Why a run ends without a result. -/
inductive Failure
  /-- An annotation is used where it must not be, on the element if one is known. -/
  | misuse (element : Option String) (message : String)
  /-- An element breaks rules. -/
  | violations (element : String) (messages : List String)
  /-- A file could not be read or written. -/
  | device (reason : String)
  /-- The settings or the index cannot be used. -/
  | settings (reason : String)
  /-- The sources could not be produced or handed over. -/
  | emission (reason : String)
  /-- A tier was asked for something out of turn. -/
  | state (reason : String)
  /-- Something that holds by construction does not. -/
  | internal (reason : String)
deriving DecidableEq, Inhabited

namespace Failure

/-- The failure in words. -/
def text : Failure → String
  | .misuse _ message => message
  | .violations element messages =>
    toString messages.length ++ " validation error(s) on " ++ element ++ ": "
      ++ Text.joinTexts "; " messages
  | .device reason => "IO error: " ++ reason
  | .settings reason => "Configuration error: " ++ reason
  | .emission reason => "Emission error: " ++ reason
  | .state reason => "Invalid state: " ++ reason
  | .internal reason => "Internal error: " ++ reason

/-- The failure as the user is told about it. -/
def userText : Failure → String
  | .device reason => "File operation failed: " ++ reason
  | .emission reason => "Could not emit generated sources: " ++ reason
  | f => f.text

/-- The messages a failed run ends with: one for each broken rule, else one. -/
def diagnostics : Failure → List Diagnostic
  | .misuse element message => [.error message element]
  | .violations element messages => messages.map fun m => .error m (some element)
  | f => [.error f.userText]

end Failure

end ComponentWiring
