/-
ComponentWiring.Wiring.Application — the generated types of the application tier.

* `ApplicationGenerator.component` — the root component.
* `ApplicationGenerator.initializer` — builds the root component at run time and answers the
  facade, an anonymous class through which the runtime reaches all components.
-/
import ComponentWiring.Wiring.Child
import ComponentWiring.Wiring.Dispatch

namespace ComponentWiring

open Java

/-- All that the types of the application tier depend on besides the dispatch. -/
structure ApplicationGenerator where
  settings : Settings
  packages : Packages
  application : ApplicationRoot
deriving Inhabited

namespace ApplicationGenerator

/-! ## 1. Names -/

/-- The accessors of the facade. -/
def applicationComponentGetter : String := "getOctoberApplicationComponent"
def activityHelperGetter : String := "getHelperActivityComponent"
def activityInjectorGetter : String := "getPresenterActivityInjector"
def fragmentInjectorGetter : String := "getPresenterFragmentInjector"
def activityComponentGetter : String := "getActivityComponent"
def fragmentComponentGetter : String := "getFragmentComponent"

variable (g : ApplicationGenerator)

/-- The class of the root component. -/
def componentName : ClassName := ⟨g.packages.component, g.settings.naming.applicationComponent, []⟩

/-- The class that builds the root component. -/
def builderName : ClassName :=
  ⟨g.packages.component, g.settings.naming.daggerPrefix ++ g.settings.naming.applicationComponent, []⟩

/-- The class of the initializer. -/
def initializerName : ClassName := ⟨g.packages.component, g.settings.naming.initializer, []⟩

/-- The class of the activity component. -/
def activityComponent : ClassName := ⟨g.packages.component, g.settings.naming.activityComponent, []⟩

/-- The class of the fragment component. -/
def fragmentComponent : ClassName := ⟨g.packages.component, g.settings.naming.fragmentComponent, []⟩

/-- The class of the activity helper. -/
def activityHelper : ClassName := ⟨g.packages.helper, g.settings.naming.activityHelper, []⟩

/-- The class of the activity injector. -/
def activityInjector : ClassName := ⟨g.packages.injection, g.settings.naming.activityInjector, []⟩

/-- The class of the fragment injector. -/
def fragmentInjector : ClassName := ⟨g.packages.injection, g.settings.naming.fragmentInjector, []⟩

/-- The accessor of the activity helper on the root component. -/
def activityHelperMethod : String := Text.uncapitalize g.settings.naming.activityHelper

/-- The accessor of the fragment helper on the activity component. -/
def fragmentHelperMethod : String := Text.uncapitalize g.settings.naming.fragmentHelper

/-! ## 2. Root component -/

/-- The root component: the way to the activity tier, and the injection of the root. -/
def component : Except Failure SourceFile := do
  let daggerComponent ← classNamed g.settings.framework.daggerComponent
  let module ← classNamed g.application.applicationModule.qualifiedName
  let baseModule ← classNamed g.settings.framework.baseApplicationModule
  let singleton ← classNamed g.settings.framework.singleton
  let base ← classNamed g.settings.framework.baseApplicationComponent
  return {
    package := g.packages.component
    type := publicInterface g.settings.naming.applicationComponent
      [.plain singleton, installing daggerComponent module baseModule]
      (.ofClass base)
      [interfaceMethod g.activityHelperMethod (.ofClass g.activityHelper) [],
       ChildGenerator.injectMethod g.settings.naming.injectMethod g.application.root.className
        "injector"] }

/-! ## 3. Facade -/

/-- A public method that implements an inherited one. -/
def overriding (name : String) (returns : TypeExpr) (parameters : List Parameter) (code : Code) :
    MethodDecl :=
  { MethodDecl.plain name with
    modifiers := [.publicMod]
    annotations := [overrideMarker]
    returns := returns
    parameters := parameters
    code := code }

/-- An accessor. -/
def getter (name : String) (returns : ClassName) (format : String) (arguments : List CodeArg) :
    MethodDecl :=
  overriding name (.ofClass returns) [] (Code.statement format arguments)

/-- A method that takes a module. -/
def setter (module : ClassName) (format : String) (arguments : List CodeArg) : MethodDecl :=
  overriding g.settings.naming.applyMethod .void [{ type := .ofClass module, name := "m" }]
    (Code.statement format arguments)

/-- A method that injects an object. -/
def injecting (view : ClassName) (code : Code) : MethodDecl :=
  overriding g.settings.naming.injectMethod .void [{ type := .ofClass view, name := "o" }] code

/-- A private field. -/
def privateField (type : ClassName) (name : String) : FieldDecl :=
  { FieldDecl.plain (.ofClass type) name with modifiers := [.privateMod] }

/-- The facade. Taking a module builds the component of its tier, which then injects the
objects of the tier. -/
def facade (dispatch : Dispatch) : Except Failure TypeDecl := do
  let facadeBase ← classNamed g.settings.framework.facade
  let activityModule ← classNamed g.settings.framework.baseActivityModule
  let fragmentModule ← classNamed g.settings.framework.baseFragmentModule
  let activityView ← classNamed g.settings.framework.activityView
  let fragmentView ← classNamed g.settings.framework.fragmentView
  let apply := g.settings.naming.applyMethod
  return { TypeDecl.ofKind (.anonymous []) with
    superinterfaces := [.ofClass facadeBase]
    fields := [privateField g.activityComponent "aComponent",
      privateField g.fragmentComponent "fComponent"]
    methods := [
      getter applicationComponentGetter g.componentName "return component" [],
      getter activityHelperGetter g.activityHelper "return component.$N()"
        [.name g.activityHelperMethod],
      getter activityInjectorGetter g.activityInjector "return new $T()"
        [.type (.ofClass g.activityInjector)],
      getter fragmentInjectorGetter g.fragmentInjector "return new $T()"
        [.type (.ofClass g.fragmentInjector)],
      g.setter activityModule "aComponent = $N().$N(m)"
        [.name activityHelperGetter, .name apply],
      g.setter fragmentModule "fComponent = $N().$N().$N(m)"
        [.name activityComponentGetter, .name g.fragmentHelperMethod, .name apply],
      getter activityComponentGetter g.activityComponent "return aComponent" [],
      getter fragmentComponentGetter g.fragmentComponent "return fComponent" [],
      g.injecting activityView (dispatch.switchCode .activity activityComponentGetter),
      g.injecting fragmentView (dispatch.switchCode .fragment fragmentComponentGetter)] }

/-! ## 4. Initializer -/

/-- The code of the initializer: casts the application, builds the root component with the
two application modules, injects the application, and answers the facade. -/
def initializeCode (baseModule module : ClassName) (facade : TypeDecl) : Code :=
  let application := CodeArg.type (.ofClass g.application.root.className)
  Code.statement "final $T application = ($T) app" [application, application]
    ++ Code.statement
      "final $T component = $T.builder()\n$>$>.$N(new $T(application))\n.$N(new $T()).build()$<$<"
      [.type (.ofClass g.componentName), .type (.ofClass g.builderName),
       .name (Text.uncapitalize baseModule.simpleName), .type (.ofClass baseModule),
       .name (Text.uncapitalize g.application.applicationModule.simpleName),
       .type (.ofClass module)]
    ++ Code.statement "component.$N(application)" [.name g.settings.naming.injectMethod]
    ++ Code.of "\n"
    ++ Code.statement "return $L" [.anonymous facade]

/-- The initializer. -/
def initializer (dispatch : Dispatch) : Except Failure SourceFile := do
  let baseModule ← classNamed g.settings.framework.baseApplicationModule
  let module ← classNamed g.application.applicationModule.qualifiedName
  let facade ← g.facade dispatch
  let facadeBase ← classNamed g.settings.framework.facade
  let applicationBase ← classNamed g.settings.framework.applicationBase
  let initializerBase ← classNamed g.settings.framework.initializerInterface
  return {
    package := g.packages.component
    type := { TypeDecl.ofKind (.classNamed g.settings.naming.initializer) with
      modifiers := [.publicMod]
      superinterfaces := [.ofClass initializerBase]
      methods := [overriding g.settings.naming.initializeMethod (.ofClass facadeBase)
        [{ type := .ofClass applicationBase, name := "app" }]
        (g.initializeCode baseModule module facade)] } }

/-- The types of the application tier in the order of their emission. -/
def generate (dispatch : Dispatch) : Except Failure (List SourceFile) := do
  let component ← g.component
  let initializer ← g.initializer dispatch
  return [component, initializer]

end ApplicationGenerator

end ComponentWiring
