/-
ComponentWiring.Proofs.Wiring.Calls — the calls of the initializer and of the facade in it.

* `ChildGenerator.helper_methods`, `ApplicationGenerator.component_methods`,
  `ApplicationGenerator.facade_made` — the methods of generated types.
* `readCode_switchCode`, `ApplicationGenerator.readCode_initializeCode` — their code as statements.
* `ApplicationGenerator.IsAnswered` — files declare what the initializer calls on generated types.
* `ApplicationGenerator.facade_checks`, `ApplicationGenerator.initializer_checks` — then the code of
  the initializer respects the types of the files.

Each statement is read once, whatever the names in it are, since a name is an argument of a format
and not a part of it. How many cases a switch has depends on what was discovered.
-/
import ComponentWiring.Proofs.Java.Typing
import ComponentWiring.Proofs.Wiring.Rendering

namespace ComponentWiring

open Java

/-! ## 1. Methods of generated types -/

namespace ChildGenerator

/-- The class of the helper. -/
def helperName (g : ChildGenerator) : ClassName := ⟨g.packages.helper, g.names.helper, []⟩

/-- The helper of a tier makes the component of the tier from the base module. -/
theorem helper_methods {g : ChildGenerator} {f : SourceFile} (h : g.helper = .ok f) :
    ∃ module, classNamed g.names.baseModule = .ok module ∧ f.className = g.helperName ∧
      f.type.methods = [interfaceMethod g.settings.naming.applyMethod (.ofClass g.componentName)
        [{ type := .ofClass module, name := "module" }]] := by
  simp only [helper, bind_ok_iff] at h
  obtain ⟨module, read, _, _, _, _, _, _, _, _, made⟩ := h
  cases made
  exact ⟨module, read, rfl, rfl⟩

end ChildGenerator

namespace ApplicationGenerator

/-- The class of the fragment helper. -/
def fragmentHelper (g : ApplicationGenerator) : ClassName :=
  ⟨g.packages.helper, g.settings.naming.fragmentHelper, []⟩

/-- The root component has the accessor of the activity helper, and injects the application. -/
theorem component_methods {g : ApplicationGenerator} {f : SourceFile} (h : g.component = .ok f) :
    f.className = g.componentName ∧ f.type.methods =
      [interfaceMethod g.activityHelperMethod (.ofClass g.activityHelper) [],
       ChildGenerator.injectMethod g.settings.naming.injectMethod g.application.root.className
        "injector"] := by
  simp only [component, bind_ok_iff] at h
  obtain ⟨_, _, _, _, _, _, _, _, _, _, made⟩ := h
  cases made
  exact ⟨rfl, rfl⟩

/-- What the facade is made of: six getters, two setters, and two methods that inject. -/
theorem facade_made {g : ApplicationGenerator} {d : Dispatch} {t : TypeDecl}
    (h : g.facade d = .ok t) : ∃ base activityModule fragmentModule activityView fragmentView,
      classNamed g.settings.framework.facade = .ok base ∧
      classNamed g.settings.framework.baseActivityModule = .ok activityModule ∧
      classNamed g.settings.framework.baseFragmentModule = .ok fragmentModule ∧
      t.superinterfaces = [.ofClass base] ∧
      t.fields = [privateField g.activityComponent "aComponent",
        privateField g.fragmentComponent "fComponent"] ∧
      t.methods = [
        getter applicationComponentGetter g.componentName "return component" [],
        getter activityHelperGetter g.activityHelper "return component.$N()"
          [.name g.activityHelperMethod],
        getter activityInjectorGetter g.activityInjector "return new $T()"
          [.type (.ofClass g.activityInjector)],
        getter fragmentInjectorGetter g.fragmentInjector "return new $T()"
          [.type (.ofClass g.fragmentInjector)],
        g.setter activityModule "aComponent = $N().$N(m)"
          [.name activityHelperGetter, .name g.settings.naming.applyMethod],
        g.setter fragmentModule "fComponent = $N().$N().$N(m)"
          [.name activityComponentGetter, .name g.fragmentHelperMethod,
           .name g.settings.naming.applyMethod],
        getter activityComponentGetter g.activityComponent "return aComponent" [],
        getter fragmentComponentGetter g.fragmentComponent "return fComponent" [],
        g.injecting activityView (d.switchCode .activity activityComponentGetter),
        g.injecting fragmentView (d.switchCode .fragment fragmentComponentGetter)] := by
  simp only [facade, bind_ok_iff] at h
  obtain ⟨base, isBase, activityModule, isActivity, fragmentModule, isFragment, activityView, _,
    fragmentView, _, made⟩ := h
  cases made
  exact ⟨base, activityModule, fragmentModule, activityView, fragmentView, isBase, isActivity,
    isFragment, rfl, rfl, rfl⟩

end ApplicationGenerator

/-! ## 2. Statements -/

/-- The statements by which a switch injects an object as one class. -/
def caseStatements (injectMethod getter runtimeName : String) (c : AnnotatedClass) :
    List Statement :=
  [.caseOf runtimeName,
   .evaluate (.call (.own getter []) injectMethod [.cast (.ofClass c.className) (.variable "o")]),
   .breakOut]

theorem readCode_caseCode (injectMethod getter runtimeName : String) (c : AnnotatedClass) :
    readCode (Dispatch.caseCode injectMethod getter runtimeName c) =
      some (caseStatements injectMethod getter runtimeName c) := rfl

/-- The statements of a switch. -/
def switchStatements (d : Dispatch) (tier : Tier) (getter : String) : List Statement :=
  match d.entries tier with
  | [] => []
  | es =>
    .switchOn (.call (.call (.variable "o") "getClass" []) "getName" [])
      :: (es.flatMap fun e => caseStatements d.injectMethod getter e.1 e.2) ++ [.close]

theorem readCode_switchCode (d : Dispatch) (tier : Tier) (getter : String) :
    readCode (d.switchCode tier getter) = some (switchStatements d tier getter) := by
  unfold Dispatch.switchCode switchStatements
  cases d.entries tier with
  | nil => rfl
  | cons e es =>
    have opening : readCode (Code.opening "switch (o.getClass().getName())") =
        some [.switchOn (.call (.call (.variable "o") "getClass" []) "getName" [])] := rfl
    have closing : readCode Code.closing = some [.close] := rfl
    refine readCode_append (readCode_append opening (readCode_flatMap fun e _ => ?_)) closing
    exact readCode_caseCode _ _ _ _

namespace ApplicationGenerator

/-- The statements of the initializer. -/
def initializeStatements (g : ApplicationGenerator) (baseModule module : ClassName)
    (facade : TypeDecl) : List Statement :=
  let application := TypeExpr.ofClass g.application.root.className
  let built := Expr.call (.call (.call (.static (.ofClass g.builderName) "builder" [])
    (Text.uncapitalize baseModule.simpleName)
      [.create (.ofClass baseModule) [.variable "application"]])
    (Text.uncapitalize g.application.applicationModule.simpleName)
      [.create (.ofClass module) []]) "build" []
  [.declare application "application" (.cast application (.variable "app")),
   .declare (.ofClass g.componentName) "component" built,
   .evaluate (.call (.variable "component") g.settings.naming.injectMethod
     [.variable "application"]),
   .answer (.anonymous facade)]

theorem readCode_initializeCode (g : ApplicationGenerator) (baseModule module : ClassName)
    (facade : TypeDecl) : readCode (g.initializeCode baseModule module facade) =
      some (g.initializeStatements baseModule module facade) := by
  show readCode (_ ++ _ ++ _ ++ _ ++ _) = some ([_] ++ [_] ++ [_] ++ [] ++ [_])
  exact readCode_append (readCode_append (readCode_append (readCode_append rfl rfl) rfl) rfl) rfl

end ApplicationGenerator

/-! ## 3. Types -/

namespace Java.Scope

/-- The cases of a switch respect the types if each injection is declared. -/
theorem runs_switchStatements {Γ : Scope} {d : Dispatch} {tier : Tier} {m : MethodDecl}
    {component view : ClassName} {r : TypeExpr} (accessor : m ∈ Γ.methods)
    (parameterless : m.parameters = []) (answers : m.returns = .ofClass component)
    (object : Γ.type? "o" = some (.ofClass view))
    (declared : ∀ c ∈ d.targets tier,
      Declares Γ.files component d.injectMethod [.ofClass c.className] .void) :
    Γ.Runs r (switchStatements d tier m.name) := by
  have o : Γ.Types (.variable "o") (.typed (.ofClass view)) := .variable object
  have receiver : Γ.Types (.own m.name []) (.typed (.ofClass component)) := by
    rw [← answers]
    refine .own accessor ?_
    rw [parameterless]
    exact .nil
  -- Every case is followed by the ones after it and the end of the switch.
  have cases_run {es : List (String × AnnotatedClass)} (hes : ∀ e ∈ es, e.2 ∈ d.targets tier) :
      Γ.Runs r
        ((es.flatMap fun e => caseStatements d.injectMethod m.name e.1 e.2) ++ [.close]) := by
    induction es with
    | nil => exact .close .done
    | cons e es ih =>
      have injects := declared e.2 (hes e List.mem_cons_self)
      rw [List.flatMap_cons, List.append_assoc]
      refine .caseOf (.evaluate (.call receiver (.cons (.cast o) .nil) injects) (.breakOut ?_))
      exact ih fun e he => hes e (List.mem_cons_of_mem _ he)
  unfold switchStatements
  have targets : ∀ e ∈ d.entries tier, e.2 ∈ d.targets tier := fun e he => List.mem_map_of_mem he
  cases entries : d.entries tier with
  | nil => exact .done
  | cons e es =>
    refine .switchOn (.foreignCall (.classOf o) .nil) (cases_run fun e he => targets e ?_)
    rw [entries]
    exact he

end Java.Scope

namespace ApplicationGenerator

/-- Files declare every method of a generated type that the initializer calls. -/
structure IsAnswered (g : ApplicationGenerator) (d : Dispatch) (files : List SourceFile) :
    Prop where
  activityHelper :
    Declares files g.componentName g.activityHelperMethod [] (.ofClass g.activityHelper)
  application : Declares files g.componentName g.settings.naming.injectMethod
    [.ofClass g.application.root.className] .void
  fragmentHelper :
    Declares files g.activityComponent g.fragmentHelperMethod [] (.ofClass g.fragmentHelper)
  activityApply : ∃ module, classNamed g.settings.framework.baseActivityModule = .ok module ∧
    Declares files g.activityHelper g.settings.naming.applyMethod [.ofClass module]
      (.ofClass g.activityComponent)
  fragmentApply : ∃ module, classNamed g.settings.framework.baseFragmentModule = .ok module ∧
    Declares files g.fragmentHelper g.settings.naming.applyMethod [.ofClass module]
      (.ofClass g.fragmentComponent)
  activities : ∀ c ∈ d.targets .activity,
    Declares files g.activityComponent d.injectMethod [.ofClass c.className] .void
  fragments : ∀ c ∈ d.targets .fragment,
    Declares files g.fragmentComponent d.injectMethod [.ofClass c.className] .void

/-- What the methods of the facade refer to: the root component, the fields, and three getters. -/
structure SeesFacade (g : ApplicationGenerator) (Γ : Scope) : Prop where
  component : Γ.type? "component" = some (.ofClass g.componentName)
  activityField : Γ.type? "aComponent" = some (.ofClass g.activityComponent)
  fragmentField : Γ.type? "fComponent" = some (.ofClass g.fragmentComponent)
  helperGetter : getter activityHelperGetter g.activityHelper "return component.$N()"
    [.name g.activityHelperMethod] ∈ Γ.methods
  activityGetter :
    getter activityComponentGetter g.activityComponent "return aComponent" [] ∈ Γ.methods
  fragmentGetter :
    getter fragmentComponentGetter g.fragmentComponent "return fComponent" [] ∈ Γ.methods

variable {g : ApplicationGenerator} {d : Dispatch} {t : TypeDecl} {Γ : Scope}

/-- No parameter of the facade hides its fields or the root component. -/
theorem seesFacade (h : g.facade d = .ok t)
    (component : Γ.type? "component" = some (.ofClass g.componentName)) {m : MethodDecl}
    (hm : m ∈ t.methods) : g.SeesFacade (Γ.enter t m) := by
  obtain ⟨base, activityModule, fragmentModule, activityView, fragmentView, -, -, -, -, fields,
    methods⟩ := facade_made h
  have parameters : ∀ p ∈ m.parameters, p.name = "m" ∨ p.name = "o" := by
    rw [methods] at hm
    simp only [List.mem_cons, List.not_mem_nil, or_false] at hm
    rcases hm with rfl | rfl | rfl | rfl | rfl | rfl | rfl | rfl | rfl | rfl <;>
      simp [getter, setter, injecting, overriding]
  have other {x : String} (hx : x ≠ "m" ∧ x ≠ "o") : m.parameters.find? (·.name = x) = none := by
    rw [List.find?_eq_none]
    intro p hp same
    rcases parameters p hp with name | name
    · exact hx.1 ((of_decide_eq_true same).symm.trans name)
    · exact hx.2 ((of_decide_eq_true same).symm.trans name)
  refine ⟨?_, ?_, ?_, ?_, ?_, ?_⟩
  · rw [Scope.type?_enter, other (by decide), fields, component]
    rfl
  · rw [Scope.type?_enter, other (by decide), fields]
    rfl
  · rw [Scope.type?_enter, other (by decide), fields]
    rfl
  · simp [Scope.enter, methods]
  · simp [Scope.enter, methods]
  · simp [Scope.enter, methods]

variable (answered : g.IsAnswered d Γ.files)
include answered

/-- The facade respects the types of the files where the root component is in scope. -/
theorem facade_checks (h : g.facade d = .ok t)
    (component : Γ.type? "component" = some (.ofClass g.componentName)) : Γ.Checks t := by
  obtain ⟨base, activityModule, fragmentModule, activityView, fragmentView, -, isActivity,
    isFragment, -, -, methods⟩ := facade_made h
  obtain ⟨activityModule', isActivity', activityApply⟩ := answered.activityApply
  obtain ⟨fragmentModule', isFragment', fragmentApply⟩ := answered.fragmentApply
  cases isActivity.symm.trans isActivity'
  cases isFragment.symm.trans isFragment'
  intro m hm
  have sees : g.SeesFacade (Γ.enter t m) := seesFacade h component hm
  have parameter {p : Parameter} {ps : List Parameter} (only : m.parameters = p :: ps) :
      (Γ.enter t m).type? p.name = some p.type := by
    simp [Scope.type?_enter, only]
  have root := Scope.Types.variable sees.component
  rw [methods] at hm
  simp only [List.mem_cons, List.not_mem_nil, or_false] at hm
  rcases hm with rfl | rfl | rfl | rfl | rfl | rfl | rfl | rfl | rfl | rfl
  · exact ⟨[.answer (.variable "component")], rfl, .answer root rfl .done⟩
  · exact ⟨[.answer (.call (.variable "component") _ [])], rfl,
      .answer (.call root .nil answered.activityHelper) rfl .done⟩
  · exact ⟨[.answer (.create _ [])], rfl, .answer (.create .nil) rfl .done⟩
  · exact ⟨[.answer (.create _ [])], rfl, .answer (.create .nil) rfl .done⟩
  · have helper := Scope.Types.own sees.helperGetter .nil
    have passed := Scope.TypesAll.cons (.variable (parameter rfl)) .nil
    exact ⟨[.assign "aComponent" (.call (.own _ []) _ [.variable "m"])], rfl,
      .assign sees.activityField (.call helper passed activityApply) rfl .done⟩
  · have activity := Scope.Types.own sees.activityGetter .nil
    have helper := Scope.Types.call activity .nil answered.fragmentHelper
    have passed := Scope.TypesAll.cons (.variable (parameter rfl)) .nil
    exact ⟨[.assign "fComponent" (.call (.call (.own _ []) _ []) _ [.variable "m"])], rfl,
      .assign sees.fragmentField (.call helper passed fragmentApply) rfl .done⟩
  · exact ⟨[.answer (.variable "aComponent")], rfl,
      .answer (.variable sees.activityField) rfl .done⟩
  · exact ⟨[.answer (.variable "fComponent")], rfl,
      .answer (.variable sees.fragmentField) rfl .done⟩
  · exact ⟨_, readCode_switchCode _ _ _, Scope.runs_switchStatements sees.activityGetter rfl rfl
      (parameter rfl) answered.activities⟩
  · exact ⟨_, readCode_switchCode _ _ _, Scope.runs_switchStatements sees.fragmentGetter rfl rfl
      (parameter rfl) answered.fragments⟩

/-- The initializer respects the types of the files, whatever else is in scope. -/
theorem initializer_checks {f : SourceFile} (h : g.initializer d = .ok f)
    (builder : Γ.builder = g.builderName) : Γ.Checks f.type := by
  simp only [initializer, bind_ok_iff] at h
  obtain ⟨baseModule, _, module, _, facade, isFacade, base, isBase, applicationBase, _, _, _,
    made⟩ := h
  cases made
  obtain ⟨base', _, _, _, _, isBase', _, _, interface, _⟩ := facade_made isFacade
  cases isBase.symm.trans isBase'
  intro m hm
  obtain rfl := List.mem_singleton.mp hm
  refine ⟨_, readCode_initializeCode g baseModule module facade, ?_⟩
  -- The root component is foreign until it is assigned to a variable of its type.
  refine .declare (.cast (.variable rfl)) rfl (.declare (v := .foreign) ?_ trivial
    (.evaluate (.call (.variable rfl) (.cons (.variable rfl) .nil) answered.application)
      (.answer (Scope.types_of_checks interface ?_) rfl .done)))
  · rw [← builder]
    exact .foreignCall (.foreignCall (.foreignCall (.builder .nil)
      (.cons (.create (.cons (.variable rfl) .nil)) .nil)) (.cons (.create .nil) .nil)) .nil
  · refine facade_checks ?_ isFacade rfl
    exact answered

end ApplicationGenerator

end ComponentWiring
