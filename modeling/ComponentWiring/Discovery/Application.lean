/-
ComponentWiring.Discovery.Application — the application root of a round.

* `ModuleRef` — a module class that the root annotation names.
* `ApplicationRoot` — the root class with its three modules.
* `applicationRoot` — the one root of a round, or why there is none.
-/
import ComponentWiring.Declared.Round
import ComponentWiring.Discovery.AnnotatedClass
import ComponentWiring.Discovery.Checks
import ComponentWiring.Report.Event
import ComponentWiring.Settings.Basic
import ComponentWiring.Text.Blank

namespace ComponentWiring

/-! ## 1. Modules -/

/-- A module class by its names; both are empty where no module is given. -/
structure ModuleRef where
  qualifiedName : String := ""
  simpleName : String := ""
deriving DecidableEq, Inhabited

namespace ModuleRef

/-- The module of a qualified name. -/
def ofName (name : String) : ModuleRef := ⟨name, ComponentWiring.simpleName name⟩

/-- The module that a class literal names. A class of the same compilation need not be
declared. -/
def resolve (s : TypeStore) : Option ClassLiteral → ModuleRef
  | some (.loaded canonicalName simpleName) => ⟨canonicalName, simpleName⟩
  | some (.byReference (.named name)) =>
    match s.get? name with
    | some t => ⟨t.qualifiedName, t.simpleName⟩
    | none => ofName name
  | _ => {}

/-- Whether no module is given. -/
def isMissing (m : ModuleRef) : Bool := Text.isBlankText m.qualifiedName

end ModuleRef

/-! ## 2. The root -/

/-- The root class of an application and the modules its annotation names. -/
structure ApplicationRoot where
  root : AnnotatedClass
  applicationModule : ModuleRef
  activityModule : ModuleRef
  fragmentModule : ModuleRef
deriving DecidableEq, Inhabited

namespace ApplicationRoot

/-- The module of a lower tier. -/
def childModule (r : ApplicationRoot) : ChildTier → ModuleRef
  | .activity => r.activityModule
  | .fragment => r.fragmentModule

/-- Reads the modules off the annotation of a root class. All three must be given. -/
def ofMarker (s : TypeStore) (t : TypeElement) (a : AnnotationElement) :
    Except Failure ApplicationRoot :=
  let moduleOf member := ModuleRef.resolve s (a.classValue? member)
  let r : ApplicationRoot :=
    ⟨.ofElement t, moduleOf "application", moduleOf "activity", moduleOf "fragment"⟩
  if r.applicationModule.isMissing || r.activityModule.isMissing || r.fragmentModule.isMissing then
    .error (.misuse (some t.qualifiedName)
      ("Some arguments in @" ++ simpleName a.type ++ " for class " ++ t.qualifiedName
        ++ " are null or empty! You must provide Application, Activity and Fragment modules."))
  else .ok r

end ApplicationRoot

/-! ## 3. Search -/

/-- Why a round has no application root. -/
inductive RootFault
  /-- No element carries the annotation. -/
  | missing
  /-- Several elements carry the annotation. -/
  | several (second : Element) (all : List Element)
  | notAClass (e : Element)
  /-- Something above the class cannot be resolved. -/
  | invalid (t : TypeElement)

/-- The fault as a failure of the run; `marker` is its simple name. -/
def RootFault.toFailure (marker : String) : RootFault → Failure
  | .missing =>
    .misuse none ("You must annotate your Application class with @" ++ marker)
  | .several second all =>
    .misuse (some second.displayName)
      ("Only one Application class can be annotated with @" ++ marker
        ++ ". Found following classes: [" ++ Text.joinTexts ", " (all.map (·.displayName)) ++ "]")
  | .notAClass e =>
    .misuse (some e.displayName) ("Only classes can be annotated with @" ++ marker)
  | .invalid t =>
    .misuse (some t.qualifiedName)
      ("The element class is not valid or inherits from a non valid class, interface or element "
        ++ "kind. Might it be inheriting from a generated class?")

/-- The one class among the annotated elements of a round, if it can be resolved. -/
def soleClass (s : TypeStore) : List Element → Except RootFault TypeElement
  | [] => .error .missing
  | [e] =>
    match e.class? with
    | none => .error (.notAClass e)
    | some t => if s.isValid t then .ok t else .error (.invalid t)
  | e :: second :: r => .error (.several second (e :: second :: r))

/-- The application root of a round. -/
def applicationRoot (n : FrameworkNames) (r : Round) : Except Failure ApplicationRoot := do
  let marker := simpleName n.applicationMarker
  let t ← (soleClass r.store (r.elementsWith n.applicationMarker)).mapError
    (·.toFailure marker)
  validate r.store (.type t) marker [.inherits n.applicationBase]
  match t.marker? n.applicationMarker with
  | some a => ApplicationRoot.ofMarker r.store t a
  | none => .error (.internal (t.qualifiedName ++ " lost its @" ++ marker))

end ComponentWiring
