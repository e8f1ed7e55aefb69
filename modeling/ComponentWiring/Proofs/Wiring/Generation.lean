/-
ComponentWiring.Proofs.Wiring.Generation — when types are generated.

* `classNamed_succeeds_iff`, `succeeds_classNamed_bind` — work that starts by reading names.
* `FrameworkNames.AreReadable` — the names of library types can be read.
* `childFiles_succeeds_iff`, `applicationFiles_succeeds_iff` — generation succeeds exactly when
  all names can be read that it mentions.

These are the names of presenters and contracts, of modules, and of library types. The last ones
come from the settings. That these can be read is assumed where it matters; it holds of the default
settings.
-/
import ComponentWiring.Proofs.Java.Names
import ComponentWiring.Proofs.Run.Stages

namespace ComponentWiring

open Java

/-! ## 1. Names that can be read -/

theorem classNamed_succeeds_iff {name : String} :
    Succeeds (classNamed name) ↔ ClassName.IsReadable name := by
  rw [← parse?_isSome_iff, Succeeds, classNamed]
  cases ClassName.parse? name <;> simp

/-- Work that starts by reading a name succeeds if the name can be read and the rest, which
does not depend on the class, succeeds. -/
theorem succeeds_classNamed_bind {α : Type} {name : String} {f : ClassName → Except Failure α}
    {P : Prop} (h : ∀ c, Succeeds (f c) ↔ P) :
    Succeeds (classNamed name >>= f) ↔ ClassName.IsReadable name ∧ P := by
  rw [← classNamed_succeeds_iff]
  constructor
  · intro given
    obtain ⟨a, done⟩ := given
    obtain ⟨c, read, done⟩ := bind_ok_iff.mp done
    exact ⟨⟨c, read⟩, (h c).mp ⟨a, done⟩⟩
  · intro given
    obtain ⟨⟨c, read⟩, rest⟩ := given
    obtain ⟨a, done⟩ := (h c).mpr rest
    exact ⟨a, bind_ok_iff.mpr ⟨c, read, done⟩⟩

theorem succeeds_bind {ε α β : Type} {x : Except ε α} {f : α → Except ε β} {P : Prop}
    (h : ∀ a, Succeeds (f a) ↔ P) : Succeeds (x >>= f) ↔ Succeeds x ∧ P := by
  constructor
  · intro given
    obtain ⟨b, done⟩ := given
    obtain ⟨a, first, done⟩ := bind_ok_iff.mp done
    exact ⟨⟨a, first⟩, (h a).mp ⟨b, done⟩⟩
  · intro given
    obtain ⟨⟨a, first⟩, rest⟩ := given
    obtain ⟨b, done⟩ := (h a).mpr rest
    exact ⟨b, bind_ok_iff.mpr ⟨a, first, done⟩⟩

theorem succeeds_pure {ε α : Type} (a : α) : Succeeds (pure a : Except ε α) ↔ True :=
  iff_true_intro ⟨a, rfl⟩

theorem succeeds_mapM_iff {ε α β : Type} {f : α → Except ε β} {l : List α} :
    Succeeds (l.mapM f) ↔ ∀ a ∈ l, Succeeds (f a) := by
  induction l with
  | nil => simp [succeeds_pure]
  | cons a l ih =>
    rw [List.mapM_cons, succeeds_bind fun _ => succeeds_bind fun _ => succeeds_pure _, ih]
    simp

/-- The names of library types that generated sources refer to. -/
def FrameworkNames.referenced (n : FrameworkNames) : List String :=
  [n.applicationBase, n.perActivity, n.perFragment, n.baseApplicationComponent,
   n.baseActivityComponent, n.baseFragmentComponent, n.baseActivityHelper, n.baseFragmentHelper,
   n.baseApplicationModule, n.baseActivityModule, n.baseFragmentModule, n.activityInjectable,
   n.fragmentInjectable, n.facade, n.initializerInterface, n.activityView, n.fragmentView,
   n.daggerComponent, n.daggerSubcomponent, n.daggerLazy, n.inject, n.singleton]

/-- The names of library types can be read. -/
def FrameworkNames.AreReadable (n : FrameworkNames) : Prop :=
  ∀ name ∈ n.referenced, ClassName.IsReadable name

theorem default_areReadable : ({} : FrameworkNames).AreReadable := by
  unfold FrameworkNames.AreReadable
  decide +kernel

/-! ## 2. Lower tiers -/

/-- Contract and presenter of every binding can be read. -/
def Bindings.AreReadable (b : Bindings) : Prop :=
  ∀ e ∈ b.entries, ClassName.IsReadable e.2 ∧ ClassName.IsReadable e.1

namespace ChildGenerator

/-- The names that the types of the tier mention, whatever was discovered. -/
def namesRead (g : ChildGenerator) : List String :=
  [g.settings.framework.daggerLazy, g.settings.framework.inject, g.names.injectable,
   g.settings.framework.daggerSubcomponent, g.module.qualifiedName, g.names.baseModule,
   g.names.scope, g.names.baseComponent, g.names.baseHelper]
    ++ if g.tier = .activity then [g.settings.framework.baseFragmentHelper] else []

variable {g : ChildGenerator}

theorem boundClasses_succeeds_iff {bindings : Bindings} :
    Succeeds (bindings.entries.mapM boundClasses) ↔ bindings.AreReadable := by
  rw [succeeds_mapM_iff]
  refine forall₂_congr fun e _ => ?_
  unfold boundClasses
  rw [succeeds_classNamed_bind fun _ => succeeds_classNamed_bind fun _ => succeeds_pure _,
    and_true]

theorem injector_succeeds_iff {bindings : Bindings} :
    Succeeds (g.injector bindings) ↔ ClassName.IsReadable g.settings.framework.daggerLazy ∧
      ClassName.IsReadable g.settings.framework.inject ∧
      ClassName.IsReadable g.names.injectable ∧ bindings.AreReadable := by
  unfold injector
  rw [succeeds_classNamed_bind fun _ => succeeds_classNamed_bind fun _ =>
    succeeds_classNamed_bind fun _ => succeeds_bind fun _ => succeeds_pure _,
    boundClasses_succeeds_iff, and_true]

theorem component_succeeds_iff {containers : ClassMap} :
    Succeeds (g.component containers) ↔
      ClassName.IsReadable g.settings.framework.daggerSubcomponent ∧
      ClassName.IsReadable g.module.qualifiedName ∧ ClassName.IsReadable g.names.baseModule ∧
      (g.tier = .activity → ClassName.IsReadable g.settings.framework.baseFragmentHelper) ∧
      ClassName.IsReadable g.names.scope ∧ ClassName.IsReadable g.names.baseComponent := by
  obtain ⟨s, packages, tier, module⟩ := g
  unfold component
  cases tier with
  | activity =>
    simp only [pure_bind]
    rw [succeeds_classNamed_bind fun _ => succeeds_classNamed_bind fun _ =>
      succeeds_classNamed_bind fun _ => succeeds_classNamed_bind fun _ =>
      succeeds_classNamed_bind fun _ => succeeds_classNamed_bind fun _ => succeeds_pure _]
    simp
  | fragment =>
    simp only [pure_bind]
    rw [succeeds_classNamed_bind fun _ => succeeds_classNamed_bind fun _ =>
      succeeds_classNamed_bind fun _ => succeeds_classNamed_bind fun _ =>
      succeeds_classNamed_bind fun _ => succeeds_pure _]
    simp

theorem helper_succeeds_iff :
    Succeeds g.helper ↔ ClassName.IsReadable g.names.baseModule ∧
      ClassName.IsReadable g.names.scope ∧
      ClassName.IsReadable g.settings.framework.daggerSubcomponent ∧
      ClassName.IsReadable g.names.baseHelper ∧ ClassName.IsReadable g.names.baseComponent := by
  unfold helper
  rw [succeeds_classNamed_bind fun _ => succeeds_classNamed_bind fun _ =>
    succeeds_classNamed_bind fun _ => succeeds_classNamed_bind fun _ =>
    succeeds_classNamed_bind fun _ => succeeds_pure _, and_true]

end ChildGenerator

/-- The types of a lower tier are generated exactly when the names can be read that they mention,
and those of the presenters and their contracts. -/
theorem childFiles_succeeds_iff {g : ChildGenerator} {containers : ClassMap}
    {bindings : Bindings} :
    Succeeds (g.generate containers bindings) ↔
      (∀ name ∈ g.namesRead, ClassName.IsReadable name) ∧ bindings.AreReadable := by
  unfold ChildGenerator.generate
  rw [succeeds_bind fun _ => succeeds_bind fun _ => succeeds_bind fun _ => succeeds_pure _,
    ChildGenerator.injector_succeeds_iff, ChildGenerator.component_succeeds_iff,
    ChildGenerator.helper_succeeds_iff]
  by_cases activity : g.tier = .activity <;>
    simp only [ChildGenerator.namesRead, activity, if_true, if_false, List.forall_mem_append,
      List.forall_mem_cons] <;>
    grind

/-- Where the names of library types can be read, only the module of the tier is left. -/
theorem childNamesRead_readable_iff {g : ChildGenerator}
    (ready : g.settings.framework.AreReadable) :
    (∀ name ∈ g.namesRead, ClassName.IsReadable name) ↔
      ClassName.IsReadable g.module.qualifiedName := by
  constructor
  · exact fun readable => readable _ (by simp [ChildGenerator.namesRead])
  · intro module name mem
    by_cases own : name = g.module.qualifiedName
    · exact own ▸ module
    · refine ready name ?_
      obtain ⟨s, packages, tier, module⟩ := g
      cases tier <;>
        simp [ChildGenerator.namesRead, ChildGenerator.names, ChildNames.of, own,
          FrameworkNames.referenced] at mem ⊢ <;>
        grind

/-! ## 3. Application tier -/

namespace ApplicationGenerator

/-- The names that the types of the application tier mention, whatever was discovered below. -/
def namesRead (g : ApplicationGenerator) : List String :=
  [g.settings.framework.daggerComponent, g.application.applicationModule.qualifiedName,
   g.settings.framework.baseApplicationModule, g.settings.framework.singleton,
   g.settings.framework.baseApplicationComponent, g.settings.framework.facade,
   g.settings.framework.baseActivityModule, g.settings.framework.baseFragmentModule,
   g.settings.framework.activityView, g.settings.framework.fragmentView,
   g.settings.framework.applicationBase, g.settings.framework.initializerInterface]

variable {g : ApplicationGenerator}

theorem component_succeeds_iff :
    Succeeds g.component ↔ ClassName.IsReadable g.settings.framework.daggerComponent ∧
      ClassName.IsReadable g.application.applicationModule.qualifiedName ∧
      ClassName.IsReadable g.settings.framework.baseApplicationModule ∧
      ClassName.IsReadable g.settings.framework.singleton ∧
      ClassName.IsReadable g.settings.framework.baseApplicationComponent := by
  unfold component
  rw [succeeds_classNamed_bind fun _ => succeeds_classNamed_bind fun _ =>
    succeeds_classNamed_bind fun _ => succeeds_classNamed_bind fun _ =>
    succeeds_classNamed_bind fun _ => succeeds_pure _, and_true]

theorem facade_succeeds_iff (dispatch : Dispatch) :
    Succeeds (g.facade dispatch) ↔ ClassName.IsReadable g.settings.framework.facade ∧
      ClassName.IsReadable g.settings.framework.baseActivityModule ∧
      ClassName.IsReadable g.settings.framework.baseFragmentModule ∧
      ClassName.IsReadable g.settings.framework.activityView ∧
      ClassName.IsReadable g.settings.framework.fragmentView := by
  unfold facade
  rw [succeeds_classNamed_bind fun _ => succeeds_classNamed_bind fun _ =>
    succeeds_classNamed_bind fun _ => succeeds_classNamed_bind fun _ =>
    succeeds_classNamed_bind fun _ => succeeds_pure _, and_true]

theorem initializer_succeeds_iff (dispatch : Dispatch) :
    Succeeds (g.initializer dispatch) ↔
      ClassName.IsReadable g.settings.framework.baseApplicationModule ∧
      ClassName.IsReadable g.application.applicationModule.qualifiedName ∧
      Succeeds (g.facade dispatch) ∧ ClassName.IsReadable g.settings.framework.facade ∧
      ClassName.IsReadable g.settings.framework.applicationBase ∧
      ClassName.IsReadable g.settings.framework.initializerInterface := by
  unfold initializer
  rw [succeeds_classNamed_bind fun _ => succeeds_classNamed_bind fun _ => succeeds_bind fun _ =>
    succeeds_classNamed_bind fun _ => succeeds_classNamed_bind fun _ =>
    succeeds_classNamed_bind fun _ => succeeds_pure _, and_true]

end ApplicationGenerator

/-- The types of the application tier are generated exactly when the names can be read that they
mention. -/
theorem applicationFiles_succeeds_iff {g : ApplicationGenerator} (dispatch : Dispatch) :
    Succeeds (g.generate dispatch) ↔ ∀ name ∈ g.namesRead, ClassName.IsReadable name := by
  unfold ApplicationGenerator.generate
  rw [succeeds_bind fun _ => succeeds_bind fun _ => succeeds_pure _,
    ApplicationGenerator.component_succeeds_iff, ApplicationGenerator.initializer_succeeds_iff,
    ApplicationGenerator.facade_succeeds_iff]
  simp only [ApplicationGenerator.namesRead, List.forall_mem_cons]
  grind

/-- Where the names of library types can be read, only the application's module is left. -/
theorem applicationNamesRead_readable_iff {g : ApplicationGenerator}
    (ready : g.settings.framework.AreReadable) :
    (∀ name ∈ g.namesRead, ClassName.IsReadable name) ↔
      ClassName.IsReadable g.application.applicationModule.qualifiedName := by
  constructor
  · exact fun readable => readable _ (by simp [ApplicationGenerator.namesRead])
  · intro module name mem
    by_cases own : name = g.application.applicationModule.qualifiedName
    · exact own ▸ module
    · refine ready name ?_
      simp [ApplicationGenerator.namesRead, own, FrameworkNames.referenced] at mem ⊢
      grind

end ComponentWiring
