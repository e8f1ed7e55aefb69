/-
ComponentWiring.Wiring.Child — the generated types of a lower tier.

* `ChildGenerator` — all that the types of a tier depend on besides its classes.
* `ChildGenerator.injector` — holds the presenters of the tier and hands them out by contract.
* `ChildGenerator.component` — injects the containers of the tier.
* `ChildGenerator.helper` — builds the component from a module.
-/
import ComponentWiring.Discovery.Application
import ComponentWiring.Discovery.Bindings
import ComponentWiring.Wiring.Packages

namespace ComponentWiring

open Java

/-! ## 1. Names -/

/-- The names that the generated types of a lower tier have or refer to. -/
structure ChildNames where
  injector : String
  /-- The superclass of the injector. -/
  injectable : String
  component : String
  helper : String
  /-- The scope annotation. -/
  scope : String
  baseComponent : String
  baseHelper : String
  baseModule : String
deriving DecidableEq, Inhabited

/-- The names of a tier. -/
def ChildNames.of (s : Settings) : ChildTier → ChildNames
  | .activity =>
    { injector := s.naming.activityInjector
      injectable := s.framework.activityInjectable
      component := s.naming.activityComponent
      helper := s.naming.activityHelper
      scope := s.framework.perActivity
      baseComponent := s.framework.baseActivityComponent
      baseHelper := s.framework.baseActivityHelper
      baseModule := s.framework.baseActivityModule }
  | .fragment =>
    { injector := s.naming.fragmentInjector
      injectable := s.framework.fragmentInjectable
      component := s.naming.fragmentComponent
      helper := s.naming.fragmentHelper
      scope := s.framework.perFragment
      baseComponent := s.framework.baseFragmentComponent
      baseHelper := s.framework.baseFragmentHelper
      baseModule := s.framework.baseFragmentModule }

/-- The lower tier that a tier is. The application tier has types of its own. -/
def Tier.child : Tier → Except Failure ChildTier
  | .activity => .ok .activity
  | .fragment => .ok .fragment
  | .application => .error (.internal "the application tier has no child generator")

/-! ## 2. The generator -/

/-- All that the types of a tier depend on besides its classes. -/
structure ChildGenerator where
  settings : Settings
  packages : Packages
  tier : ChildTier
  /-- The user's module that is installed in the component. -/
  module : ModuleRef
deriving Inhabited

/-- The types of a lower tier. -/
structure ChildFiles where
  injector : SourceFile
  component : SourceFile
  helper : SourceFile
deriving Inhabited

/-- The types in the order of their emission. -/
def ChildFiles.toList (f : ChildFiles) : List SourceFile := [f.injector, f.component, f.helper]

/-- Says that a method implements an inherited one. -/
def overrideMarker : AnnotationUse := .plain ⟨"java.lang", "Override", []⟩

/-- A method of an interface. -/
def interfaceMethod (name : String) (returns : TypeExpr) (parameters : List Parameter) :
    MethodDecl :=
  { MethodDecl.plain name with
    modifiers := [.publicMod, .abstractMod]
    returns := returns
    parameters := parameters }

/-- A public interface. -/
def publicInterface (name : String) (annotations : List AnnotationUse) (base : TypeExpr)
    (methods : List MethodDecl) : TypeDecl :=
  { TypeDecl.ofKind (.interfaceNamed name) with
    modifiers := [.publicMod]
    annotations := annotations
    superinterfaces := [base]
    methods := methods }

/-- The annotation that installs two modules. -/
def installing (marker first second : ClassName) : AnnotationUse :=
  (AnnotationUse.plain marker).withMember "modules" "\x7b$T.class, $T.class\x7d"
    [.type (.ofClass first), .type (.ofClass second)]

namespace ChildGenerator

/-- The names of the tier. -/
def names (g : ChildGenerator) : ChildNames := .of g.settings g.tier

/-- The class of the injector. -/
def injectorName (g : ChildGenerator) : ClassName := ⟨g.packages.injection, g.names.injector, []⟩

/-- The class of the component. -/
def componentName (g : ChildGenerator) : ClassName := ⟨g.packages.component, g.names.component, []⟩

/-! ## 3. Injector -/

/-- A binding with the classes of its presenter and its contract. -/
def boundClasses (binding : String × String) : Except Failure (ClassName × ClassName) := do
  let presenter ← classNamed binding.2
  let contract ← classNamed binding.1
  return (presenter, contract)

/-- The field that holds the presenter with the number. -/
def presenterField (number : Nat) : String := "presenterLazy" ++ toString number

/-- The field of a presenter, which is created when it is first used. -/
def fieldDecl (lazy inject presenter : ClassName) (number : Nat) : FieldDecl :=
  { FieldDecl.plain (.parameterized lazy [.ofClass presenter]) (presenterField number) with
    annotations := [.plain inject] }

/-- Code that answers the presenter of a contract. -/
def lookupCode (contract : ClassName) (number : Nat) : Code :=
  Code.opening "if (arg0.equals($T.class))" [.type (.ofClass contract)]
    ++ Code.statement "return $L" [.literal (presenterField number)]
    ++ Code.closing

/-- The method that looks a presenter up by its contract. -/
def provideMethod (name : String) (lazy : ClassName) (contracts : List ClassName) : MethodDecl :=
  { MethodDecl.plain name with
    modifiers := [.publicMod]
    annotations := [overrideMarker]
    typeVariables := ["P"]
    returns := .parameterized lazy [.wildcard]
    parameters := [{ type := .parameterized ⟨"java.lang", "Class", []⟩ [.variable "P"], name := "arg0" }]
    code := (contracts.mapIdx fun i c => lookupCode c (i + 1)).flatten
      ++ Code.statement "return null" }

/-- The injector: a field for each bound presenter, and their look-up by contract. -/
def injector (g : ChildGenerator) (bindings : Bindings) : Except Failure SourceFile := do
  let lazy ← classNamed g.settings.framework.daggerLazy
  let inject ← classNamed g.settings.framework.inject
  let injectable ← classNamed g.names.injectable
  let bound ← bindings.entries.mapM boundClasses
  return {
    package := g.packages.injection
    type := { TypeDecl.ofKind (.classNamed g.names.injector) with
      modifiers := [.publicMod]
      superclass := some (.ofClass injectable)
      fields := bound.mapIdx fun i b => fieldDecl lazy inject b.1 (i + 1)
      methods := [provideMethod g.settings.naming.provideMethod lazy (bound.map Prod.snd)] } }

/-! ## 4. Component -/

/-- The accessor of the fragment helper, by which activities reach the fragment tier. -/
def fragmentHelperMethod (g : ChildGenerator) : MethodDecl :=
  let helper := g.settings.naming.fragmentHelper
  interfaceMethod (Text.uncapitalize helper) (.ofClass ⟨g.packages.helper, helper, []⟩) []

/-- The method that injects an object of a class. -/
def injectMethod (name : String) (c : ClassName) (parameter : String) : MethodDecl :=
  interfaceMethod name .void [{ type := .ofClass c, name := parameter }]

/-- The methods of the component: the way to the tier below, and an injection method for the
injector and each container. -/
def componentMethods (g : ChildGenerator) (containers : ClassMap) : List MethodDecl :=
  (if g.tier = .activity then [g.fragmentHelperMethod] else [])
    ++ injectMethod g.settings.naming.injectMethod g.injectorName "injector"
      :: containers.toList.map fun c => injectMethod g.settings.naming.injectMethod c.className "view"

/-- The component: an injection method for each container. -/
def component (g : ChildGenerator) (containers : ClassMap) : Except Failure SourceFile := do
  let subcomponent ← classNamed g.settings.framework.daggerSubcomponent
  let module ← classNamed g.module.qualifiedName
  let baseModule ← classNamed g.names.baseModule
  let lower ← match g.tier with
    | .activity => do
      let fragmentHelper ← classNamed g.settings.framework.baseFragmentHelper
      pure [TypeExpr.ofClass fragmentHelper]
    | .fragment => pure []
  let scope ← classNamed g.names.scope
  let base ← classNamed g.names.baseComponent
  return {
    package := g.packages.component
    type := publicInterface g.names.component
      [.plain scope, installing subcomponent module baseModule]
      (.parameterized base (lower ++ [.ofClass g.injectorName]))
      (g.componentMethods containers) }

/-! ## 5. Helper -/

/-- The helper: builds the component from a module. -/
def helper (g : ChildGenerator) : Except Failure SourceFile := do
  let baseModule ← classNamed g.names.baseModule
  let scope ← classNamed g.names.scope
  let subcomponent ← classNamed g.settings.framework.daggerSubcomponent
  let baseHelper ← classNamed g.names.baseHelper
  let baseComponent ← classNamed g.names.baseComponent
  return {
    package := g.packages.helper
    type := publicInterface g.names.helper [.plain scope, .plain subcomponent]
      (.parameterized baseHelper [.ofClass baseComponent])
      [interfaceMethod g.settings.naming.applyMethod (.ofClass g.componentName)
        [{ type := .ofClass baseModule, name := "module" }]] }

/-- All types of the tier. -/
def generate (g : ChildGenerator) (containers : ClassMap) (bindings : Bindings) :
    Except Failure ChildFiles := do
  let injector ← g.injector bindings
  let component ← g.component containers
  let helper ← g.helper
  return { injector, component, helper }

end ChildGenerator

end ComponentWiring
