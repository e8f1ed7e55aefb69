/-
ComponentWiring.Settings.Basic — what a project may configure.

* `FrameworkNames` — the qualified names of the library types that the generator
  recognises or refers to.
* `Naming` — the names of the generated types and their methods.
* `Generation` — how the sources are generated and where they go.
* `Settings` — the three together. Every default is the value of its field.
-/
import ComponentWiring.Path

namespace ComponentWiring

/-! ## 1. Names -/

/-- The qualified names of the library types that the generator recognises or refers to. -/
structure FrameworkNames where
  /-- The base class of applications. -/
  applicationBase : String := "android.app.Application"
  /-- The base class of activity containers. -/
  activityBase : String := "com.kuassivi.october.mvp.OctoberActivity"
  /-- The base class of activity containers on the support library. -/
  compatActivityBase : String := "com.kuassivi.october.mvp.OctoberCompatActivity"
  /-- The base class of fragment containers. -/
  fragmentBase : String := "com.kuassivi.october.mvp.OctoberFragment"
  /-- The base class of presenters. -/
  presenterBase : String := "com.kuassivi.october.mvp.OctoberPresenter"
  /-- The interface that every presenter's contract extends. -/
  presentable : String := "com.kuassivi.october.mvp.contract.Presentable"
  /-- The interface that views implement. -/
  viewable : String := "com.kuassivi.october.mvp.contract.Viewable"
  /-- The annotation of the application root. -/
  applicationMarker : String := "com.kuassivi.october.annotation.ApplicationComponent"
  /-- The annotation of activity containers. -/
  activityMarker : String := "com.kuassivi.october.annotation.ActivityComponent"
  /-- The annotation of fragment containers. -/
  fragmentMarker : String := "com.kuassivi.october.annotation.FragmentComponent"
  /-- The scope annotation of the activity tier. -/
  perActivity : String := "com.kuassivi.october.annotation.PerActivity"
  /-- The scope annotation of the fragment tier. -/
  perFragment : String := "com.kuassivi.october.annotation.PerFragment"
  baseApplicationComponent : String := "com.kuassivi.october.di.component.BaseApplicationComponent"
  baseActivityComponent : String := "com.kuassivi.october.di.component.BaseActivityComponent"
  baseFragmentComponent : String := "com.kuassivi.october.di.component.BaseFragmentComponent"
  baseActivityHelper : String := "com.kuassivi.october.di.component.internal.BaseHelperActivityComponent"
  baseFragmentHelper : String := "com.kuassivi.october.di.component.internal.BaseHelperFragmentComponent"
  baseApplicationModule : String := "com.kuassivi.october.di.module.BaseApplicationModule"
  baseActivityModule : String := "com.kuassivi.october.di.module.BaseActivityModule"
  baseFragmentModule : String := "com.kuassivi.october.di.module.BaseFragmentModule"
  /-- The superclass of the activity tier's presenter injector. -/
  activityInjectable : String := "com.kuassivi.october.di.OctoberPresenterActivityInjectable"
  /-- The superclass of the fragment tier's presenter injector. -/
  fragmentInjectable : String := "com.kuassivi.october.di.OctoberPresenterFragmentInjectable"
  /-- The interface through which the runtime reaches all components. -/
  facade : String := "com.kuassivi.october.OctoberComponent"
  /-- The interface of the generated initializer. -/
  initializerInterface : String := "com.kuassivi.october.OctoberComponentInitializer"
  /-- The interface of everything injected as an activity. -/
  activityView : String := "com.kuassivi.october.mvp.OctoberActivityInterface"
  /-- The interface of everything injected as a fragment. -/
  fragmentView : String := "com.kuassivi.october.mvp.OctoberFragmentInterface"
  daggerComponent : String := "dagger.Component"
  daggerSubcomponent : String := "dagger.Subcomponent"
  daggerLazy : String := "dagger.Lazy"
  inject : String := "javax.inject.Inject"
  singleton : String := "javax.inject.Singleton"
deriving DecidableEq, Inhabited

/-- The five annotations that a run reads. -/
def FrameworkNames.markers (n : FrameworkNames) : List String :=
  [n.applicationMarker, n.activityMarker, n.fragmentMarker, n.perActivity, n.perFragment]

/-- The names of the generated types and their methods. -/
structure Naming where
  /-- The segment between `internal` and `di` in the generated packages. -/
  namespaceSegment : String := "october"
  /-- What precedes the name of a component in the name of its built form. -/
  daggerPrefix : String := "Dagger"
  applicationComponent : String := "OctoberApplicationComponent"
  activityComponent : String := "OctoberActivityComponent"
  fragmentComponent : String := "OctoberFragmentComponent"
  activityHelper : String := "HelperActivityComponent"
  fragmentHelper : String := "HelperFragmentComponent"
  activityInjector : String := "PresenterActivityInjector"
  fragmentInjector : String := "PresenterFragmentInjector"
  initializer : String := "OctoberInitializer"
  /-- The method of every component that injects an object. -/
  injectMethod : String := "inject"
  /-- The method of a helper that takes a module. -/
  applyMethod : String := "apply"
  /-- The method of an injector that looks up a presenter. -/
  provideMethod : String := "provide"
  /-- The entry point of the initializer. -/
  initializeMethod : String := "initialize"
deriving DecidableEq, Inhabited

/-! ## 2. Generation -/

/-- What happens when a second presenter is found for a contract. -/
inductive DuplicatePolicy
  /-- The presenter found last is bound. -/
  | lastWins
  /-- The presenter found first stays bound. -/
  | firstWins
  /-- A second presenter is an error. -/
  | reject
deriving DecidableEq, Inhabited

/-- How the sources are generated and where they go. -/
structure Generation where
  duplicatePresenters : DuplicatePolicy := .lastWins
  /-- The number of spaces of one level of indentation. -/
  indent : Nat := 4
  /-- The directory of the generated sources, seen from the project. -/
  outputDir : Path := ⟨"build/generated/source/october"⟩
  /-- The file of the class index, seen from the project. -/
  indexFile : Path := ⟨"october-index.toml"⟩
deriving DecidableEq, Inhabited

/-- The settings of a project. -/
structure Settings where
  framework : FrameworkNames := {}
  naming : Naming := {}
  generation : Generation := {}
deriving DecidableEq, Inhabited

/-- The name of the file that holds the settings of a project. -/
def Settings.fileName : Path := ⟨"october.toml"⟩

end ComponentWiring
