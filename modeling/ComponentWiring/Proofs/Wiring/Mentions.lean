/-
ComponentWiring.Proofs.Wiring.Mentions — the classes that generated types refer to.

* `generatedClasses`, `languageClasses` — classes that are known before anything is discovered.
* `Covers` — a property of these and of all library types that the settings name.
* `childFiles_mention`, `applicationFiles_mention` — such a property carries over to every class
  that generated types refer to, if it holds of what was discovered.
-/
import ComponentWiring.Proofs.Java.References
import ComponentWiring.Proofs.Run.Emitted

namespace ComponentWiring

open Java

/-! ## 1. Known classes -/

/-- The classes of the language that generated types refer to. -/
def languageClasses : List ClassName := [⟨"java.lang", "Override", []⟩, ⟨"java.lang", "Class", []⟩]

/-- The generated classes, and the one that is going to be generated from the root component. -/
def generatedClasses (n : Naming) (p : Packages) : List ClassName :=
  ⟨p.component, n.daggerPrefix ++ n.applicationComponent, []⟩
    :: (stagedNames n p).map fun e => ⟨e.1, e.2, []⟩

/-- The property holds of the classes of the language, of those that are generated, and of the
library types. -/
structure Covers (P : ClassName → Prop) (s : Settings) (packages : Packages) : Prop where
  language : ∀ c ∈ languageClasses, P c
  generated : ∀ c ∈ generatedClasses s.naming packages, P c
  library : ∀ name ∈ s.framework.referenced, ∀ c, classNamed name = .ok c → P c

variable {P : ClassName → Prop}

theorem mem_of_mapM_ok {ε α β : Type} {f : α → Except ε β} {l : List α} {bs : List β} {b : β}
    (h : l.mapM f = .ok bs) (hb : b ∈ bs) : ∃ a ∈ l, f a = .ok b := by
  induction l generalizing bs with
  | nil =>
    cases h
    cases hb
  | cons a l ih =>
    simp only [List.mapM_cons, bind_ok_iff] at h
    obtain ⟨first, made, rest, done, put⟩ := h
    cases put
    rcases List.mem_cons.mp hb with rfl | hb
    · exact ⟨a, List.mem_cons_self, made⟩
    · obtain ⟨a', ha', made'⟩ := ih done hb
      exact ⟨a', List.mem_cons_of_mem _ ha', made'⟩

theorem interfaceMethod_mentions {name : String} {returns : TypeExpr} {parameters : List Parameter}
    (h : ∀ c ∈ returns.references, P c) (h' : ∀ p ∈ parameters, ∀ c ∈ p.type.references, P c) :
    ∀ c ∈ (interfaceMethod name returns parameters).references, P c := by
  intro c hc
  rw [MethodDecl.mem_references] at hc
  simp only [interfaceMethod, MethodDecl.plain, referencesOfAnnotations_nil, referencesOfCode_nil,
    List.not_mem_nil, false_or, or_false] at hc
  rcases hc with hc | ⟨p, hp, hc⟩
  · exact h c hc
  · exact h' p hp c hc

theorem injectMethod_mentions {name parameter : String} {view : ClassName} (h : P view) :
    ∀ c ∈ (ChildGenerator.injectMethod name view parameter).references, P c := by
  refine interfaceMethod_mentions (by simp) fun p hp c hc => ?_
  obtain rfl := List.mem_singleton.mp hp
  obtain rfl : c = view := by simpa using hc
  exact h

theorem mem_references_installing {c marker first second : ClassName} :
    c ∈ (installing marker first second).references ↔ c = marker ∨ c = first ∨ c = second := by
  simp [installing, AnnotationUse.withMember, AnnotationUse.plain, Entries.put,
    AnnotationUse.references, referencesOfMembers, referencesOfMember]

theorem publicInterface_mentions {name : String} {annotations : List AnnotationUse}
    {base : TypeExpr} {methods : List MethodDecl}
    (marked : ∀ c ∈ referencesOfAnnotations annotations, P c)
    (extended : ∀ c ∈ base.references, P c) (declared : ∀ m ∈ methods, ∀ c ∈ m.references, P c) :
    ∀ c ∈ (publicInterface name annotations base methods).references, P c := by
  intro c hc
  rw [TypeDecl.mem_references] at hc
  simp only [publicInterface, TypeDecl.ofKind, TypeKind.references, TypeExpr.referencesOfAll,
    Option.elim_none, List.append_nil, List.not_mem_nil, false_or, false_and, exists_false] at hc
  rcases hc with hc | hc | ⟨m, hm, hc⟩
  · exact marked c hc
  · exact extended c hc
  · exact declared m hm c hc

/-! ## 2. Lower tiers -/

/-- The library types of a tier are among those that the settings name. -/
theorem ChildNames.mem_referenced (s : Settings) (tier : ChildTier) :
    let n := ChildNames.of s tier
    ∀ name ∈ [n.injectable, n.scope, n.baseComponent, n.baseHelper, n.baseModule],
      name ∈ s.framework.referenced := by
  cases tier <;> simp [ChildNames.of, FrameworkNames.referenced]

/-- The types of a tier are among the generated ones. -/
theorem ChildNames.mem_generatedClasses (s : Settings) (packages : Packages) (tier : ChildTier) :
    ∀ c ∈ [(⟨packages.injection, (ChildNames.of s tier).injector, []⟩ : ClassName),
        ⟨packages.component, (ChildNames.of s tier).component, []⟩,
        ⟨packages.helper, s.naming.fragmentHelper, []⟩],
      c ∈ generatedClasses s.naming packages := by
  cases tier <;> simp [ChildNames.of, generatedClasses, stagedNames]

theorem fieldDecl_mentions {lazy inject presenter : ClassName} (first : P lazy) (second : P inject)
    (third : P presenter) (number : Nat) :
    ∀ c ∈ (ChildGenerator.fieldDecl lazy inject presenter number).references, P c := by
  intro c hc
  simp only [ChildGenerator.fieldDecl, FieldDecl.plain, FieldDecl.references,
    TypeExpr.references, TypeExpr.referencesOfAll, referencesOfInitializer,
    referencesOfAnnotations_cons, referencesOfAnnotations_nil, AnnotationUse.references_plain,
    List.mem_append, List.mem_cons, List.not_mem_nil, or_false] at hc
  rcases hc with rfl | rfl | rfl <;> assumption

theorem referencesOfCode_lookupCode (contract : ClassName) (number : Nat) :
    referencesOfCode (ChildGenerator.lookupCode contract number) = [contract] := by
  simp [ChildGenerator.lookupCode]

theorem provideMethod_mentions {name : String} {lazy : ClassName} {contracts : List ClassName}
    (language : ∀ c ∈ languageClasses, P c) (first : P lazy) (bound : ∀ c ∈ contracts, P c) :
    ∀ c ∈ (ChildGenerator.provideMethod name lazy contracts).references, P c := by
  intro c hc
  rw [MethodDecl.mem_references] at hc
  rcases hc with hc | hc | ⟨p, hp, hc⟩ | hc
  · refine language c ?_
    simp_all [ChildGenerator.provideMethod, overrideMarker, languageClasses]
  · obtain rfl : c = lazy := by
      simpa [ChildGenerator.provideMethod, TypeExpr.references, TypeExpr.referencesOfAll] using hc
    exact first
  · refine language c ?_
    simp_all [ChildGenerator.provideMethod, languageClasses, TypeExpr.references,
      TypeExpr.referencesOfAll]
  · simp only [ChildGenerator.provideMethod, referencesOfCode_append, referencesOfCode_statement,
      referencesOfArguments_nil, List.append_nil, mem_referencesOfCode_flatten] at hc
    obtain ⟨code, hcode, hc⟩ := hc
    obtain ⟨i, hi, rfl⟩ := List.mem_mapIdx.mp hcode
    rw [referencesOfCode_lookupCode, List.mem_singleton] at hc
    exact hc ▸ bound _ (List.getElem_mem hi)

section ChildGenerator

variable {g : ChildGenerator} {f : SourceFile} (covers : Covers P g.settings g.packages)
include covers

theorem childLibrary_covered {name : String} (h : name ∈ [g.names.injectable, g.names.scope,
    g.names.baseComponent, g.names.baseHelper, g.names.baseModule]) {c : ClassName}
    (read : classNamed name = .ok c) : P c :=
  covers.library name (ChildNames.mem_referenced g.settings g.tier name h) c read

theorem childTypes_covered {c : ClassName} (h : c ∈ [g.injectorName, g.componentName,
    (⟨g.packages.helper, g.settings.naming.fragmentHelper, []⟩ : ClassName)]) : P c :=
  covers.generated c (ChildNames.mem_generatedClasses g.settings g.packages g.tier c h)

theorem injector_mentions {bindings : Bindings} (h : g.injector bindings = .ok f)
    (bound : ∀ e ∈ bindings.entries, ∀ c, classNamed e.1 = .ok c ∨ classNamed e.2 = .ok c → P c) :
    ∀ c ∈ f.type.references, P c := by
  simp only [ChildGenerator.injector, bind_ok_iff] at h
  obtain ⟨lazy, isLazy, inject, isInject, injectable, isInjectable, classes, read, made⟩ := h
  cases made
  have first : P lazy := covers.library _ (by simp [FrameworkNames.referenced]) _ isLazy
  have second : P inject := covers.library _ (by simp [FrameworkNames.referenced]) _ isInject
  have third : P injectable := childLibrary_covered covers (by simp) isInjectable
  have both : ∀ b ∈ classes, P b.1 ∧ P b.2 := by
    intro b hb
    obtain ⟨e, he, named⟩ := mem_of_mapM_ok read hb
    simp only [ChildGenerator.boundClasses, bind_ok_iff] at named
    obtain ⟨presenter, isPresenter, contract, isContract, made⟩ := named
    cases made
    exact ⟨bound e he _ (.inr isPresenter), bound e he _ (.inl isContract)⟩
  intro c hc
  rw [TypeDecl.mem_references] at hc
  simp only [TypeDecl.ofKind, TypeKind.references, TypeExpr.referencesOfAll,
    referencesOfAnnotations_nil, Option.elim_some, TypeExpr.references_ofClass, List.mem_singleton,
    List.not_mem_nil, false_or, exists_eq_left] at hc
  rcases hc with rfl | ⟨field, hfield, hc⟩ | hc
  · exact third
  · obtain ⟨i, hi, rfl⟩ := List.mem_mapIdx.mp hfield
    exact fieldDecl_mentions first second (both _ (List.getElem_mem hi)).1 _ c hc
  · refine provideMethod_mentions covers.language first (fun c hc => ?_) c hc
    obtain ⟨b, hb, rfl⟩ := List.mem_map.mp hc
    exact (both b hb).2

theorem component_mentions {containers : ClassMap} (h : g.component containers = .ok f)
    (module : ∀ c, classNamed g.module.qualifiedName = .ok c → P c)
    (discovered : ∀ d ∈ containers.toList, P d.className) : ∀ c ∈ f.type.references, P c := by
  have methods : ∀ m ∈ g.componentMethods containers, ∀ c ∈ m.references, P c := by
    intro m hm
    simp only [ChildGenerator.componentMethods, List.mem_append, List.mem_cons, List.mem_map] at hm
    rcases hm with hm | rfl | ⟨d, hd, rfl⟩
    · split at hm
      · obtain rfl := List.mem_singleton.mp hm
        refine interfaceMethod_mentions (fun c hc => ?_) (by simp)
        obtain rfl : c = _ := by simpa using hc
        exact childTypes_covered covers (by simp)
      · cases hm
    · exact injectMethod_mentions (childTypes_covered covers (by simp))
    · exact injectMethod_mentions (discovered d hd)
  obtain ⟨scope, subcomponent, module', baseModule, base, lower, isScope, isSubcomponent, isModule,
    isBase, isComponent, isLower, rfl⟩ := component_read h
  have first : P scope := childLibrary_covered covers (by simp) isScope
  have second : P subcomponent :=
    covers.library _ (by simp [FrameworkNames.referenced]) _ isSubcomponent
  have third : P module' := module _ isModule
  have fourth : P baseModule := childLibrary_covered covers (by simp) isBase
  have fifth : P base := childLibrary_covered covers (by simp) isComponent
  refine publicInterface_mentions ?_ ?_ methods
  · simp [first, mem_references_installing, second, third, fourth]
  · intro c hc
    simp only [TypeExpr.references, TypeExpr.referencesOfAll_eq_flatMap, List.mem_cons,
      List.mem_flatMap, List.mem_append, List.not_mem_nil, or_false] at hc
    rcases hc with rfl | ⟨t, ht | rfl, hc⟩
    · exact fifth
    · obtain ⟨helper, rfl, isHelper⟩ := isLower t ht
      obtain rfl : c = helper := by simpa using hc
      exact covers.library _ (by simp [FrameworkNames.referenced]) _ isHelper
    · obtain rfl : c = _ := by simpa using hc
      exact childTypes_covered covers (by simp)

theorem helper_mentions (h : g.helper = .ok f) : ∀ c ∈ f.type.references, P c := by
  simp only [ChildGenerator.helper, bind_ok_iff] at h
  obtain ⟨baseModule, isModule, scope, isScope, subcomponent, isSubcomponent, baseHelper, isHelper,
    baseComponent, isComponent, made⟩ := h
  cases made
  have first : P baseModule := childLibrary_covered covers (by simp) isModule
  have second : P scope := childLibrary_covered covers (by simp) isScope
  have third : P subcomponent :=
    covers.library _ (by simp [FrameworkNames.referenced]) _ isSubcomponent
  have fourth : P baseHelper := childLibrary_covered covers (by simp) isHelper
  have fifth : P baseComponent := childLibrary_covered covers (by simp) isComponent
  refine publicInterface_mentions ?_ ?_ ?_
  · simp [second, third]
  · simp [TypeExpr.references, TypeExpr.referencesOfAll, fourth, fifth]
  · intro m hm
    obtain rfl := List.mem_singleton.mp hm
    refine interfaceMethod_mentions ?_ ?_
    · simp [childTypes_covered covers]
    · simp [first]

/-- The types of a lower tier refer to known classes, to the user's module, and to what was
discovered. -/
theorem childFiles_mention {containers : ClassMap} {bindings : Bindings} {files : ChildFiles}
    (h : g.generate containers bindings = .ok files)
    (bound : ∀ e ∈ bindings.entries, ∀ c, classNamed e.1 = .ok c ∨ classNamed e.2 = .ok c → P c)
    (module : ∀ c, classNamed g.module.qualifiedName = .ok c → P c)
    (discovered : ∀ d ∈ containers.toList, P d.className) :
    ∀ f ∈ files.toList, ∀ c ∈ f.type.references, P c := by
  obtain ⟨first, second, third⟩ := childFiles_made h
  intro f hf
  simp only [ChildFiles.toList, List.mem_cons, List.not_mem_nil, or_false] at hf
  rcases hf with rfl | rfl | rfl
  · exact injector_mentions covers first bound
  · exact component_mentions covers second module discovered
  · exact helper_mentions covers third

end ChildGenerator

/-! ## 3. Application tier -/

theorem overriding_mentions {name : String} {returns : TypeExpr} {parameters : List Parameter}
    {code : Code} (language : ∀ c ∈ languageClasses, P c) (h : ∀ c ∈ returns.references, P c)
    (h' : ∀ p ∈ parameters, ∀ c ∈ p.type.references, P c) (h'' : ∀ c ∈ referencesOfCode code, P c) :
    ∀ c ∈ (ApplicationGenerator.overriding name returns parameters code).references, P c := by
  intro c hc
  rw [MethodDecl.mem_references] at hc
  rcases hc with hc | hc | ⟨p, hp, hc⟩ | hc
  · refine language c ?_
    simp_all [ApplicationGenerator.overriding, overrideMarker, languageClasses]
  · exact h c hc
  · exact h' p hp c hc
  · exact h'' c hc

theorem getter_mentions {name format : String} {returns : ClassName} {arguments : List CodeArg}
    (language : ∀ c ∈ languageClasses, P c) (h : P returns)
    (h' : ∀ c ∈ referencesOfArguments arguments, P c) :
    ∀ c ∈ (ApplicationGenerator.getter name returns format arguments).references, P c :=
  overriding_mentions language (by simpa using h) (by simp) (by simpa using h')

theorem setter_mentions {g : ApplicationGenerator} {format : String} {module : ClassName}
    {arguments : List CodeArg} (language : ∀ c ∈ languageClasses, P c) (h : P module)
    (h' : ∀ c ∈ referencesOfArguments arguments, P c) :
    ∀ c ∈ (g.setter module format arguments).references, P c :=
  overriding_mentions language (by simp) (by simpa using h) (by simpa using h')

theorem injecting_mentions {g : ApplicationGenerator} {view : ClassName} {code : Code}
    (language : ∀ c ∈ languageClasses, P c) (h : P view) (h' : ∀ c ∈ referencesOfCode code, P c) :
    ∀ c ∈ (g.injecting view code).references, P c :=
  overriding_mentions language (by simp) (by simpa using h) h'

theorem referencesOfCode_caseCode (injectMethod getter runtimeName : String)
    (c : AnnotatedClass) :
    referencesOfCode (Dispatch.caseCode injectMethod getter runtimeName c) = [c.className] := by
  simp [Dispatch.caseCode]

/-- The switch of a tier refers to the classes that the tier dispatches. -/
theorem switchCode_mentions {d : Dispatch} {tier : Tier} {getter : String}
    (targets : ∀ t ∈ d.targets tier, P t.className) :
    ∀ c ∈ referencesOfCode (d.switchCode tier getter), P c := by
  intro c hc
  have found : ∃ e ∈ d.entries tier, c = e.2.className := by
    unfold Dispatch.switchCode at hc
    split at hc
    · simp at hc
    · simp only [referencesOfCode_append, referencesOfCode_opening, referencesOfCode_closing,
        referencesOfArguments_nil, List.nil_append, List.append_nil, List.flatMap_def,
        mem_referencesOfCode_flatten] at hc
      obtain ⟨code, hcode, hc⟩ := hc
      obtain ⟨e, he, rfl⟩ := List.mem_map.mp hcode
      rw [referencesOfCode_caseCode, List.mem_singleton] at hc
      exact ⟨e, he, hc⟩
  obtain ⟨e, he, rfl⟩ := found
  exact targets _ (List.mem_map_of_mem he)

section ApplicationGenerator

variable {g : ApplicationGenerator} {d : Dispatch} {f : SourceFile}
  (covers : Covers P g.settings g.packages)
include covers

/-- The types that the application tier names itself are among the generated ones. -/
theorem applicationTypes_covered {c : ClassName} (h : c ∈ [g.componentName, g.builderName,
    g.activityComponent, g.fragmentComponent, g.activityHelper, g.activityInjector,
    g.fragmentInjector]) : P c := by
  refine covers.generated c ?_
  simp only [ApplicationGenerator.componentName, ApplicationGenerator.builderName,
    ApplicationGenerator.activityComponent, ApplicationGenerator.fragmentComponent,
    ApplicationGenerator.activityHelper, ApplicationGenerator.activityInjector,
    ApplicationGenerator.fragmentInjector, List.mem_cons, List.not_mem_nil, or_false] at h
  rcases h with rfl | rfl | rfl | rfl | rfl | rfl | rfl <;> simp [generatedClasses, stagedNames]

theorem applicationComponent_mentions (h : g.component = .ok f)
    (module : ∀ c, classNamed g.application.applicationModule.qualifiedName = .ok c → P c)
    (root : P g.application.root.className) : ∀ c ∈ f.type.references, P c := by
  simp only [ApplicationGenerator.component, bind_ok_iff] at h
  obtain ⟨dagger, isDagger, module', isModule, baseModule, isBase, singleton, isSingleton, base,
    isComponent, made⟩ := h
  cases made
  have first : P dagger := covers.library _ (by simp [FrameworkNames.referenced]) _ isDagger
  have second : P module' := module _ isModule
  have third : P baseModule := covers.library _ (by simp [FrameworkNames.referenced]) _ isBase
  have fourth : P singleton := covers.library _ (by simp [FrameworkNames.referenced]) _ isSingleton
  have fifth : P base := covers.library _ (by simp [FrameworkNames.referenced]) _ isComponent
  refine publicInterface_mentions ?_ ?_ ?_
  · simp [fourth, mem_references_installing, first, second, third]
  · simp [fifth]
  · intro m hm
    simp only [List.mem_cons, List.not_mem_nil, or_false] at hm
    rcases hm with rfl | rfl
    · refine interfaceMethod_mentions ?_ (by simp)
      simp [applicationTypes_covered covers]
    · exact injectMethod_mentions root

theorem facade_mentions {t : TypeDecl} (h : g.facade d = .ok t)
    (targets : ∀ tier : ChildTier, ∀ c ∈ d.targets tier.tier, P c.className) :
    ∀ c ∈ t.references, P c := by
  simp only [ApplicationGenerator.facade, bind_ok_iff] at h
  obtain ⟨base, isBase, activityModule, isActivityModule, fragmentModule, isFragmentModule,
    activityView, isActivityView, fragmentView, isFragmentView, made⟩ := h
  cases made
  have first : P base := covers.library _ (by simp [FrameworkNames.referenced]) _ isBase
  have second : P activityModule :=
    covers.library _ (by simp [FrameworkNames.referenced]) _ isActivityModule
  have third : P fragmentModule :=
    covers.library _ (by simp [FrameworkNames.referenced]) _ isFragmentModule
  have fourth : P activityView :=
    covers.library _ (by simp [FrameworkNames.referenced]) _ isActivityView
  have fifth : P fragmentView :=
    covers.library _ (by simp [FrameworkNames.referenced]) _ isFragmentView
  intro c hc
  rw [TypeDecl.mem_references] at hc
  simp only [TypeDecl.ofKind, TypeKind.references, TypeExpr.referencesOfAll,
    referencesOfAnnotations_nil, referencesOfCode_nil, Option.elim_none,
    TypeExpr.references_ofClass, List.append_nil, List.not_mem_nil, false_or,
    List.mem_singleton] at hc
  rcases hc with rfl | ⟨field, hfield, hc⟩ | ⟨m, hm, hc⟩
  · exact first
  · refine applicationTypes_covered covers ?_
    simp only [List.mem_cons, List.not_mem_nil, or_false] at hfield
    rcases hfield with rfl | rfl <;>
      simp_all [ApplicationGenerator.privateField, FieldDecl.plain, FieldDecl.references,
        referencesOfInitializer]
  · -- Six getters, two setters, and two methods that choose a class.
    have types := @applicationTypes_covered P g covers
    have language := covers.language
    simp only [List.mem_cons, List.not_mem_nil, or_false] at hm
    rcases hm with rfl | rfl | rfl | rfl | rfl | rfl | rfl | rfl | rfl | rfl
    · exact getter_mentions language (types (by simp)) (by simp) c hc
    · exact getter_mentions language (types (by simp)) (by simp) c hc
    · exact getter_mentions language (types (by simp)) (by simp [types]) c hc
    · exact getter_mentions language (types (by simp)) (by simp [types]) c hc
    · exact setter_mentions language second (by simp) c hc
    · exact setter_mentions language third (by simp) c hc
    · exact getter_mentions language (types (by simp)) (by simp) c hc
    · exact getter_mentions language (types (by simp)) (by simp) c hc
    · exact injecting_mentions language fourth (switchCode_mentions (targets .activity)) c hc
    · exact injecting_mentions language fifth (switchCode_mentions (targets .fragment)) c hc

theorem initializeCode_mentions {baseModule module : ClassName} {facade : TypeDecl}
    (root : P g.application.root.className) (first : P baseModule) (second : P module)
    (rest : ∀ c ∈ facade.references, P c) :
    ∀ c ∈ referencesOfCode (g.initializeCode baseModule module facade), P c := by
  have types := @applicationTypes_covered P g covers
  intro c hc
  simp only [ApplicationGenerator.initializeCode, referencesOfCode_append,
    referencesOfCode_statement, referencesOfCode_of, referencesOfArguments_cons,
    referencesOfArguments_nil, CodeArg.references_type, CodeArg.references_name,
    CodeArg.references_anonymous, TypeExpr.references_ofClass, List.mem_append, List.mem_singleton,
    List.not_mem_nil, or_false, false_or] at hc
  rcases hc with (((rfl | rfl) | rfl | rfl | rfl | rfl) | hc)
  · exact root
  · exact root
  · exact types (by simp)
  · exact types (by simp)
  · exact first
  · exact second
  · exact rest c hc

theorem initializer_mentions (h : g.initializer d = .ok f)
    (module : ∀ c, classNamed g.application.applicationModule.qualifiedName = .ok c → P c)
    (root : P g.application.root.className)
    (targets : ∀ tier : ChildTier, ∀ c ∈ d.targets tier.tier, P c.className) :
    ∀ c ∈ f.type.references, P c := by
  simp only [ApplicationGenerator.initializer, bind_ok_iff] at h
  obtain ⟨baseModule, isBase, module', isModule, facade, built, facadeBase, isFacade,
    applicationBase, isApplication, initializerBase, isInitializer, made⟩ := h
  cases made
  have first : P baseModule := covers.library _ (by simp [FrameworkNames.referenced]) _ isBase
  have second : P facadeBase := covers.library _ (by simp [FrameworkNames.referenced]) _ isFacade
  have third : P applicationBase :=
    covers.library _ (by simp [FrameworkNames.referenced]) _ isApplication
  have fourth : P initializerBase :=
    covers.library _ (by simp [FrameworkNames.referenced]) _ isInitializer
  intro c hc
  rw [TypeDecl.mem_references] at hc
  simp only [TypeDecl.ofKind, TypeKind.references, TypeExpr.referencesOfAll,
    referencesOfAnnotations_nil, Option.elim_none, TypeExpr.references_ofClass, List.append_nil,
    List.not_mem_nil, false_or, List.mem_singleton, false_and, exists_false,
    exists_eq_left] at hc
  rcases hc with rfl | hc
  · exact fourth
  · refine overriding_mentions covers.language (by simpa using second) (by simpa using third)
      ?_ c hc
    exact initializeCode_mentions covers root first (module _ isModule)
      (facade_mentions covers built targets)

/-- The types of the application tier refer to known classes, to the application and its module,
and to what is dispatched. -/
theorem applicationFiles_mention {own : List SourceFile} (h : g.generate d = .ok own)
    (module : ∀ c, classNamed g.application.applicationModule.qualifiedName = .ok c → P c)
    (root : P g.application.root.className)
    (targets : ∀ tier : ChildTier, ∀ c ∈ d.targets tier.tier, P c.className) :
    ∀ f ∈ own, ∀ c ∈ f.type.references, P c := by
  obtain ⟨component, initializer, rfl, first, second⟩ := applicationFiles_made h
  intro f hf
  simp only [List.mem_cons, List.not_mem_nil, or_false] at hf
  rcases hf with rfl | rfl
  · exact applicationComponent_mentions covers first module root
  · exact initializer_mentions covers second module root targets

end ApplicationGenerator

end ComponentWiring
