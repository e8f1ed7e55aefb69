/-
ComponentWiring.Proofs.Wiring.Rendering — generated files declare their types and can be written.

* `SourceFile.Declares` — a file of a package and a type name that is written on every page.
* `childFiles_declare`, `applicationFiles_declare` — every generated file is of this kind,
  whatever was discovered.
* `SourceFile.IsGenerated` — a file that one of the generators returns, whatever it is given.

The formats in generated code are fixed, so each is taken apart once, where the code that
holds it is dealt with.
-/
import ComponentWiring.Proofs.Java.Emission
import ComponentWiring.Proofs.Run.Stages

namespace ComponentWiring

open Java

/-! ## 1. Parts -/

/-- The file declares a type of the name in the package, and the type can be written however
classes are spelled. -/
structure Java.SourceFile.Declares (f : SourceFile) (package name : String) : Prop where
  package : f.package = package
  name : f.type.name = name
  named : f.type.isAnonymous = false
  written : ∀ im, Emit.Keeps (emitType im f.type)

theorem Java.SourceFile.Declares.render_ok {f : SourceFile} {package name : String}
    (h : f.Declares package name) (named : name ≠ "") (width : Nat) :
    ∃ text, f.render width = .ok text :=
  SourceFile.render_ok h.named (h.name ▸ named) (h.written _) width

theorem Java.SourceFile.Declares.own {f : SourceFile} {package name : String}
    (h : f.Declares package name) : f.Declares f.package f.type.name :=
  ⟨rfl, rfl, h.named, h.written⟩

variable {im : Imports} {a b : Nat}

/-- Code of one format is written if its arguments stand for themselves. -/
theorem code_of_takes {format : String} {xs : List CodeArg} (ms : List Mark)
    (marks : formatMarks format.toList = some ms) (ends : endDepth ms xs a = some b) :
    Emit.Takes (emitCode im (Code.of format xs)) a b :=
  emitCode_of_takes ms marks (fits_of_endDepth ends)

theorem plain_keeps (c : ClassName) : Emit.Keeps ( emitAnnotation im (.plain c)) :=
  emitAnnotation_keeps (by simp [AnnotationUse.plain])

theorem installing_keeps (marker first second : ClassName) :
    Emit.Keeps ( emitAnnotation im (installing marker first second)) := by
  apply emitAnnotation_keeps
  intro m hm a
  obtain rfl : m = ("modules", Code.of "\x7b$T.class, $T.class\x7d"
      [.type (.ofClass first), .type (.ofClass second)]) := by
    simpa [installing, AnnotationUse.withMember, AnnotationUse.plain, Entries.put] using hm
  exact code_of_takes [.hole .type, .hole .type] (by decide) rfl

theorem interfaceMethod_keeps (name : String) (returns : TypeExpr) (parameters : List Parameter) :
    Emit.Keeps (emitMethod im true (interfaceMethod name returns parameters)) := by
  refine emitMethod_keeps (by simp [interfaceMethod, MethodDecl.plain]) ?_
  intro body
  cases body

/-- A public interface whose annotations and methods can be written. -/
theorem publicInterface_declares {package name : String} {annotations : List AnnotationUse}
    {base : TypeExpr} {methods : List MethodDecl}
    (marked : ∀ im, ∀ u ∈ annotations, Emit.Keeps ( emitAnnotation im u))
    (written : ∀ im, ∀ m ∈ methods, Emit.Keeps (emitMethod im true m)) :
    SourceFile.Declares { package, type := publicInterface name annotations base methods } package
      name :=
  ⟨rfl, rfl, rfl, fun im =>
    emitType_keeps rfl (marked im) ⟨by simp [publicInterface, TypeDecl.ofKind], written im⟩⟩

/-! ## 2. Lower tiers -/

theorem lookupCode_takes (contract : ClassName) (number : Nat) :
    Emit.Takes (emitCode im (ChildGenerator.lookupCode contract number)) a a := by
  refine emitCode_append_takes (emitCode_append_takes (b := a + 1) (c := a + 1) ?_ ?_) ?_
  · exact code_of_takes [.hole .type, .indent] (by decide) rfl
  · exact code_of_takes [.hole .literal] (by decide) rfl
  · exact code_of_takes [.outdent] (by decide) rfl

theorem provideMethod_keeps (name : String) (lazy : ClassName) (contracts : List ClassName) :
    Emit.Keeps (emitMethod im false (ChildGenerator.provideMethod name lazy contracts)) := by
  refine emitMethod_keeps ?_ fun _ a => emitCode_append_takes (emitCode_flatten_takes ?_) ?_
  · intro u hu
    obtain rfl := List.mem_singleton.mp hu
    exact plain_keeps _
  · intro code hcode
    obtain ⟨i, _, rfl⟩ := List.mem_mapIdx.mp hcode
    exact lookupCode_takes _ _
  · exact code_of_takes [] (by decide) rfl

theorem fieldDecl_keeps (lazy inject presenter : ClassName) (number : Nat) :
    Emit.Keeps (emitField im false (ChildGenerator.fieldDecl lazy inject presenter number)) := by
  refine emitField_keeps false rfl ?_
  intro u hu
  obtain rfl := List.mem_singleton.mp hu
  exact plain_keeps _

theorem injector_declares {g : ChildGenerator} {bindings : Bindings} {f : SourceFile}
    (h : g.injector bindings = .ok f) : f.Declares g.packages.injection g.names.injector := by
  simp only [ChildGenerator.injector, bind_ok_iff] at h
  obtain ⟨lazy, _, inject, _, injectable, _, bound, _, made⟩ := h
  cases made
  refine ⟨rfl, rfl, rfl, fun im => emitType_keeps rfl (by simp [TypeDecl.ofKind]) ⟨?_, ?_⟩⟩
  · intro field hfield
    obtain ⟨i, _, rfl⟩ := List.mem_mapIdx.mp hfield
    exact fieldDecl_keeps _ _ _ _
  · intro m hm
    obtain rfl := List.mem_singleton.mp hm
    exact provideMethod_keeps _ _ _

/-- What the component of a tier is made of, and the names that its classes were read from. -/
theorem component_read {g : ChildGenerator} {containers : ClassMap} {f : SourceFile}
    (h : g.component containers = .ok f) : ∃ scope subcomponent module baseModule base lower,
      classNamed g.names.scope = .ok scope ∧
      classNamed g.settings.framework.daggerSubcomponent = .ok subcomponent ∧
      classNamed g.module.qualifiedName = .ok module ∧
      classNamed g.names.baseModule = .ok baseModule ∧
      classNamed g.names.baseComponent = .ok base ∧
      (∀ t ∈ lower, ∃ c, t = .ofClass c ∧
        classNamed g.settings.framework.baseFragmentHelper = .ok c) ∧
      f = { package := g.packages.component
            type := publicInterface g.names.component
              [.plain scope, installing subcomponent module baseModule]
              (.parameterized base (lower ++ [.ofClass g.injectorName]))
              (g.componentMethods containers) } := by
  obtain ⟨s, packages, tier, module⟩ := g
  unfold ChildGenerator.component at h
  cases tier with
  | activity =>
    simp only [pure_bind, bind_ok_iff] at h
    obtain ⟨subcomponent, isSubcomponent, module, isModule, baseModule, isBase, helper, isHelper,
      scope, isScope, base, isComponent, made⟩ := h
    cases made
    refine ⟨scope, subcomponent, module, baseModule, base, [.ofClass helper], isScope,
      isSubcomponent, isModule, isBase, isComponent, ?_, rfl⟩
    intro t ht
    exact ⟨helper, List.mem_singleton.mp ht, isHelper⟩
  | fragment =>
    simp only [pure_bind, bind_ok_iff] at h
    obtain ⟨subcomponent, isSubcomponent, module, isModule, baseModule, isBase, scope, isScope,
      base, isComponent, made⟩ := h
    cases made
    exact ⟨scope, subcomponent, module, baseModule, base, [], isScope, isSubcomponent, isModule,
      isBase, isComponent, by simp, rfl⟩

/-- What the component of a tier is made of. -/
theorem component_cases {g : ChildGenerator} {containers : ClassMap} {f : SourceFile}
    (h : g.component containers = .ok f) : ∃ scope subcomponent module baseModule base,
      f = { package := g.packages.component
            type := publicInterface g.names.component
              [.plain scope, installing subcomponent module baseModule] base
              (g.componentMethods containers) } := by
  obtain ⟨scope, subcomponent, module, baseModule, base, lower, -, -, -, -, -, -, made⟩ :=
    component_read h
  exact ⟨scope, subcomponent, module, baseModule, _, made⟩

theorem component_declares {g : ChildGenerator} {containers : ClassMap} {f : SourceFile}
    (h : g.component containers = .ok f) : f.Declares g.packages.component g.names.component := by
  obtain ⟨scope, subcomponent, module, baseModule, base, rfl⟩ := component_cases h
  refine publicInterface_declares ?_ ?_
  · intro im u hu
    simp only [List.mem_cons, List.not_mem_nil, or_false] at hu
    rcases hu with rfl | rfl
    · exact plain_keeps _
    · exact installing_keeps _ _ _
  · intro im m hm
    simp only [ChildGenerator.componentMethods, List.mem_append, List.mem_cons, List.mem_map] at hm
    rcases hm with hm | rfl | ⟨c, _, rfl⟩
    · split at hm
      · obtain rfl := List.mem_singleton.mp hm
        exact interfaceMethod_keeps _ _ _
      · cases hm
    · exact interfaceMethod_keeps _ _ _
    · exact interfaceMethod_keeps _ _ _

theorem helper_declares {g : ChildGenerator} {f : SourceFile} (h : g.helper = .ok f) :
    f.Declares g.packages.helper g.names.helper := by
  simp only [ChildGenerator.helper, bind_ok_iff] at h
  obtain ⟨_, _, scope, _, subcomponent, _, _, _, _, _, made⟩ := h
  cases made
  refine publicInterface_declares ?_ ?_
  · intro im u hu
    simp only [List.mem_cons, List.not_mem_nil, or_false] at hu
    rcases hu with rfl | rfl <;> exact plain_keeps _
  · intro im m hm
    obtain rfl := List.mem_singleton.mp hm
    exact interfaceMethod_keeps _ _ _

/-- Each file of a lower tier is what its own generator returns. -/
theorem childFiles_made {g : ChildGenerator} {containers : ClassMap} {bindings : Bindings}
    {files : ChildFiles} (h : g.generate containers bindings = .ok files) :
    g.injector bindings = .ok files.injector ∧ g.component containers = .ok files.component ∧
      g.helper = .ok files.helper := by
  simp only [ChildGenerator.generate, bind_ok_iff] at h
  obtain ⟨injector, first, component, second, helper, third, made⟩ := h
  cases made
  exact ⟨first, second, third⟩

/-- The files of a lower tier. -/
theorem childFiles_declare {g : ChildGenerator} {containers : ClassMap} {bindings : Bindings}
    {files : ChildFiles} (h : g.generate containers bindings = .ok files) :
    files.injector.Declares g.packages.injection g.names.injector ∧
      files.component.Declares g.packages.component g.names.component ∧
      files.helper.Declares g.packages.helper g.names.helper := by
  obtain ⟨first, second, third⟩ := childFiles_made h
  exact ⟨injector_declares first, component_declares second, helper_declares third⟩

/-! ## 3. Application tier -/

section ApplicationGenerator

variable {g : ApplicationGenerator} {dispatch : Dispatch} {f : SourceFile}

theorem applicationComponent_declares (h : g.component = .ok f) :
    f.Declares g.packages.component g.settings.naming.applicationComponent := by
  simp only [ApplicationGenerator.component, bind_ok_iff] at h
  obtain ⟨_, _, _, _, _, _, _, _, _, _, made⟩ := h
  cases made
  refine publicInterface_declares ?_ ?_
  · intro im u hu
    simp only [List.mem_cons, List.not_mem_nil, or_false] at hu
    rcases hu with rfl | rfl
    · exact plain_keeps _
    · exact installing_keeps _ _ _
  · intro im m hm
    simp only [List.mem_cons, List.not_mem_nil, or_false] at hm
    rcases hm with rfl | rfl <;> exact interfaceMethod_keeps _ _ _

/-- A method of the facade is written if its code is. -/
theorem overriding_keeps (name : String) (returns : TypeExpr) (parameters : List Parameter)
    {code : Code} (level : Emit.Keeps (emitCode im code)) :
    Emit.Keeps (emitMethod im false
      (ApplicationGenerator.overriding name returns parameters code)) := by
  refine emitMethod_keeps ?_ fun _ => level
  intro u hu
  obtain rfl := List.mem_singleton.mp hu
  exact plain_keeps _

theorem caseCode_takes (injectMethod getter runtimeName : String) (c : AnnotatedClass) (a : Nat) :
    Emit.Takes (emitCode im (Dispatch.caseCode injectMethod getter runtimeName c)) a a := by
  have label : Emit.Takes (emitCode im (Code.of "case $S:\n$>" [.text runtimeName])) a (a + 1) :=
    code_of_takes [.hole .text, .indent] (by decide) rfl
  have injection : Emit.Takes (emitCode im (Code.statement "$N().$N(($T) o)"
      [.name getter, .name injectMethod, .type (.ofClass c.className)])) (a + 1) (a + 1) :=
    code_of_takes [.hole .name, .hole .name, .hole .type] (by decide) rfl
  have exit : Emit.Takes (emitCode im (Code.statement "break")) (a + 1) (a + 1) :=
    code_of_takes [] (by decide) rfl
  have ending : Emit.Takes (emitCode im Code.outdent) (a + 1) a :=
    code_of_takes [.outdent] (by decide) rfl
  exact emitCode_append_takes (emitCode_append_takes (emitCode_append_takes label injection) exit)
    ending

theorem switchCode_keeps (dispatch : Dispatch) (tier : Tier) (getter : String) :
    Emit.Keeps (emitCode im (dispatch.switchCode tier getter)) := by
  intro a
  unfold Dispatch.switchCode
  cases dispatch.entries tier with
  | nil => exact emitCode_nil_takes a
  | cons e es =>
    have opening : Emit.Takes (emitCode im (Code.opening "switch (o.getClass().getName())")) a
        (a + 1) := code_of_takes [.indent] (by decide) rfl
    have cases_level : Emit.Takes (emitCode im ((e :: es).flatMap fun e =>
        Dispatch.caseCode dispatch.injectMethod getter e.1 e.2)) (a + 1) (a + 1) := by
      refine emitCode_flatten_takes fun code hcode => ?_
      obtain ⟨e, _, rfl⟩ := List.mem_map.mp hcode
      exact caseCode_takes _ _ _ _ _
    have closing : Emit.Takes (emitCode im Code.closing) (a + 1) a :=
      code_of_takes [.outdent] (by decide) rfl
    exact emitCode_append_takes (emitCode_append_takes opening cases_level) closing

/-- A statement is level if its marks lead back to the depth from which they start. -/
theorem statement_keeps {format : String} {xs : List CodeArg} (ms : List Mark)
    (marks : formatMarks (format ++ ";\n").toList = some ms)
    (ends : ∀ a, endDepth ms xs a = some a) :
    Emit.Keeps (emitCode im (Code.statement format xs)) :=
  fun a => code_of_takes ms marks (ends a)

theorem facade_keeps {t : TypeDecl} (h : g.facade dispatch = .ok t) :
    Emit.Keeps (emitType im t) := by
  simp only [ApplicationGenerator.facade, bind_ok_iff] at h
  obtain ⟨_, _, _, _, _, _, _, _, _, _, made⟩ := h
  cases made
  refine emitType_anonymous_keeps rfl (List.cons_ne_nil _ _) ⟨?_, ?_⟩
  · intro field hfield
    simp only [List.mem_cons, List.not_mem_nil, or_false] at hfield
    rcases hfield with rfl | rfl <;>
      exact emitField_keeps _ rfl (by simp [ApplicationGenerator.privateField, FieldDecl.plain])
  · -- Six getters and two setters of one statement each, and two methods that choose a class.
    intro m hm
    simp only [List.mem_cons, List.not_mem_nil, or_false] at hm
    rcases hm with rfl | rfl | rfl | rfl | rfl | rfl | rfl | rfl | rfl | rfl <;>
      refine overriding_keeps _ _ _ ?_
    · exact statement_keeps [] (by decide) fun _ => rfl
    · exact statement_keeps [.hole .name] (by decide) fun _ => rfl
    · exact statement_keeps [.hole .type] (by decide) fun _ => rfl
    · exact statement_keeps [.hole .type] (by decide) fun _ => rfl
    · exact statement_keeps [.hole .name, .hole .name] (by decide) fun _ => rfl
    · exact statement_keeps [.hole .name, .hole .name, .hole .name] (by decide) fun _ => rfl
    · exact statement_keeps [] (by decide) fun _ => rfl
    · exact statement_keeps [] (by decide) fun _ => rfl
    · exact switchCode_keeps _ _ _
    · exact switchCode_keeps _ _ _

theorem initializeCode_keeps (baseModule module : ClassName) {facade : TypeDecl}
    (written : Emit.Keeps (emitType im facade)) :
    Emit.Keeps (emitCode im (g.initializeCode baseModule module facade)) := by
  intro a
  refine emitCode_append_takes (b := a) (emitCode_append_takes (b := a)
    (emitCode_append_takes (b := a) (emitCode_append_takes (b := a) ?_ ?_) ?_) ?_) ?_
  · exact statement_keeps [.hole .type, .hole .type] (by decide) (fun _ => rfl) a
  · exact statement_keeps [.hole .type, .hole .type, .indent, .indent, .hole .name, .hole .type,
      .hole .name, .hole .type, .outdent, .outdent] (by decide) (fun _ => rfl) a
  · exact statement_keeps [.hole .name] (by decide) (fun _ => rfl) a
  · exact code_of_takes [] (by decide) rfl
  · exact emitCode_of_takes [.hole .literal] (by decide)
      (.hole (emitArgument_anonymous_takes (written a)) (.nil a))

theorem initializer_declares (h : g.initializer dispatch = .ok f) :
    f.Declares g.packages.component g.settings.naming.initializer := by
  simp only [ApplicationGenerator.initializer, bind_ok_iff] at h
  obtain ⟨_, _, _, _, facade, built, _, _, _, _, _, _, made⟩ := h
  cases made
  refine ⟨rfl, rfl, rfl, fun im => emitType_keeps rfl (by simp [TypeDecl.ofKind])
    ⟨by simp [TypeDecl.ofKind], ?_⟩⟩
  intro m hm
  obtain rfl := List.mem_singleton.mp hm
  exact overriding_keeps _ _ _ (initializeCode_keeps _ _ (facade_keeps built))

/-- The application tier has two files, each of which its own generator returns. -/
theorem applicationFiles_made {own : List SourceFile} (h : g.generate dispatch = .ok own) :
    ∃ component initializer, own = [component, initializer] ∧ g.component = .ok component ∧
      g.initializer dispatch = .ok initializer := by
  simp only [ApplicationGenerator.generate, bind_ok_iff] at h
  obtain ⟨component, first, initializer, second, made⟩ := h
  cases made
  exact ⟨component, initializer, rfl, first, second⟩

/-- The files of the application tier. -/
theorem applicationFiles_declare {own : List SourceFile} (h : g.generate dispatch = .ok own) :
    ∃ component initializer, own = [component, initializer] ∧
      component.Declares g.packages.component g.settings.naming.applicationComponent ∧
      initializer.Declares g.packages.component g.settings.naming.initializer := by
  obtain ⟨component, initializer, rfl, first, second⟩ := applicationFiles_made h
  exact ⟨component, initializer, rfl, applicationComponent_declares first,
    initializer_declares second⟩

end ApplicationGenerator

/-! ## 4. All generated files -/

/-- The file is one of those that a generator returns, whatever settings, packages, classes and
bindings it is given. -/
inductive Java.SourceFile.IsGenerated (f : SourceFile) : Prop
  | lower {g : ChildGenerator} {containers : ClassMap} {bindings : Bindings} {files : ChildFiles}
    (made : g.generate containers bindings = .ok files) (mem : f ∈ files.toList) : IsGenerated f
  | application {g : ApplicationGenerator} {dispatch : Dispatch} {own : List SourceFile}
    (made : g.generate dispatch = .ok own) (mem : f ∈ own) : IsGenerated f

theorem Java.SourceFile.IsGenerated.declares {f : SourceFile} (h : f.IsGenerated) :
    f.Declares f.package f.type.name := by
  cases h with
  | lower made mem =>
    obtain ⟨injector, component, helper⟩ := childFiles_declare made
    simp only [ChildFiles.toList, List.mem_cons, List.not_mem_nil, or_false] at mem
    rcases mem with rfl | rfl | rfl
    · exact injector.own
    · exact component.own
    · exact helper.own
  | application made mem =>
    obtain ⟨_, _, rfl, component, initializer⟩ := applicationFiles_declare made
    simp only [List.mem_cons, List.not_mem_nil, or_false] at mem
    rcases mem with rfl | rfl
    · exact component.own
    · exact initializer.own

end ComponentWiring
