/-
ComponentWiring.Settings.Check — settings that lead to usable sources.

* `SettingsFault` — why settings are refused.
* `Settings.check` — the first fault of settings, in the order of the fields.
-/
import ComponentWiring.Report.Failure
import ComponentWiring.Settings.Basic
import ComponentWiring.Text.Blank

namespace ComponentWiring

/-- Why settings are refused. -/
inductive SettingsFault
  /-- A name that must be given is blank. -/
  | blank (key : String)
  /-- A method that the runtime library calls by its name was given another one. -/
  | renamed (key expected found : String)
  /-- Sources cannot be indented by nothing. -/
  | noIndent
deriving DecidableEq

/-- The fault in words. -/
def SettingsFault.message : SettingsFault → String
  | .blank key => key ++ " must not be empty"
  | .renamed key expected found =>
    key ++ " must be \"" ++ expected ++ "\" to match the runtime library, found \"" ++ found ++ "\""
  | .noIndent => "generation.indent must be at least 1"

/-- The fault as a failure of the run. -/
def SettingsFault.toFailure (f : SettingsFault) : Failure := .settings f.message

/-- The names that must be given, with their keys. -/
def Naming.requiredNames (n : Naming) : List (String × String) :=
  [("naming.namespace", n.namespaceSegment),
   ("naming.application_component", n.applicationComponent),
   ("naming.activity_component", n.activityComponent),
   ("naming.fragment_component", n.fragmentComponent),
   ("naming.helper_activity_component", n.activityHelper),
   ("naming.helper_fragment_component", n.fragmentHelper),
   ("naming.presenter_activity_injector", n.activityInjector),
   ("naming.presenter_fragment_injector", n.fragmentInjector),
   ("naming.initializer", n.initializer)]

/-- The methods that the runtime library calls, with their keys. -/
def Naming.runtimeMethods (n : Naming) : List (String × String) :=
  [("naming.inject_method", n.injectMethod),
   ("naming.apply_method", n.applyMethod),
   ("naming.provide_method", n.provideMethod),
   ("naming.initialize_method", n.initializeMethod)]

/-- All faults of settings: blank names first, then renamed methods, then the
indentation, each group in the order of its fields. -/
def Settings.faults (s : Settings) : List SettingsFault :=
  ((s.naming.requiredNames.filter fun e => Text.isBlankText e.2).map fun e => .blank e.1)
    ++ ((s.naming.runtimeMethods.zip ({} : Naming).runtimeMethods).filterMap fun (e, fixed) =>
      if e.2 = fixed.2 then none else some (.renamed e.1 fixed.2 e.2))
    ++ (if s.generation.indent = 0 then [.noIndent] else [])

/-- Settings without a fault, or the first fault. -/
def Settings.check (s : Settings) : Except SettingsFault Unit :=
  match s.faults with
  | [] => .ok ()
  | f :: _ => .error f

end ComponentWiring
