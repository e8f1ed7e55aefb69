/-
ComponentWiring.Settings.Document — settings as documents.

* `Settings.ofNode?` — the settings a document gives; what it leaves out keeps its default.
* `Settings.sections` — the settings as the sections of a document, every field written.
* `Settings.save?` — the text of a settings file.

Both directions go through one list of fields for each section, so that no field can be
read under one name and written under another.
-/
import ComponentWiring.Settings.Check
import ComponentWiring.Document.Toml.Statement
import ComponentWiring.Document.Toml.Writer

namespace ComponentWiring

open Document

/-! ## 1. Fields -/

/-- A field that holds a text: its key, how it is read off and how it is set. -/
structure TextField (σ : Type) where
  key : String
  get : σ → String
  set : String → σ → σ

/-- The fields of the framework names. -/
def FrameworkNames.fields : List (TextField FrameworkNames) :=
  [⟨"application_base", (·.applicationBase), fun v s => { s with applicationBase := v }⟩,
   ⟨"activity_base", (·.activityBase), fun v s => { s with activityBase := v }⟩,
   ⟨"compat_activity_base", (·.compatActivityBase), fun v s => { s with compatActivityBase := v }⟩,
   ⟨"fragment_base", (·.fragmentBase), fun v s => { s with fragmentBase := v }⟩,
   ⟨"presenter_base", (·.presenterBase), fun v s => { s with presenterBase := v }⟩,
   ⟨"presentable", (·.presentable), fun v s => { s with presentable := v }⟩,
   ⟨"viewable", (·.viewable), fun v s => { s with viewable := v }⟩,
   ⟨"application_component", (·.applicationMarker), fun v s => { s with applicationMarker := v }⟩,
   ⟨"activity_component", (·.activityMarker), fun v s => { s with activityMarker := v }⟩,
   ⟨"fragment_component", (·.fragmentMarker), fun v s => { s with fragmentMarker := v }⟩,
   ⟨"per_activity", (·.perActivity), fun v s => { s with perActivity := v }⟩,
   ⟨"per_fragment", (·.perFragment), fun v s => { s with perFragment := v }⟩,
   ⟨"base_application_component", (·.baseApplicationComponent), fun v s => { s with baseApplicationComponent := v }⟩,
   ⟨"base_activity_component", (·.baseActivityComponent), fun v s => { s with baseActivityComponent := v }⟩,
   ⟨"base_fragment_component", (·.baseFragmentComponent), fun v s => { s with baseFragmentComponent := v }⟩,
   ⟨"base_helper_activity_component", (·.baseActivityHelper), fun v s => { s with baseActivityHelper := v }⟩,
   ⟨"base_helper_fragment_component", (·.baseFragmentHelper), fun v s => { s with baseFragmentHelper := v }⟩,
   ⟨"base_application_module", (·.baseApplicationModule), fun v s => { s with baseApplicationModule := v }⟩,
   ⟨"base_activity_module", (·.baseActivityModule), fun v s => { s with baseActivityModule := v }⟩,
   ⟨"base_fragment_module", (·.baseFragmentModule), fun v s => { s with baseFragmentModule := v }⟩,
   ⟨"presenter_activity_injectable", (·.activityInjectable), fun v s => { s with activityInjectable := v }⟩,
   ⟨"presenter_fragment_injectable", (·.fragmentInjectable), fun v s => { s with fragmentInjectable := v }⟩,
   ⟨"october_component", (·.facade), fun v s => { s with facade := v }⟩,
   ⟨"component_initializer", (·.initializerInterface), fun v s => { s with initializerInterface := v }⟩,
   ⟨"activity_interface", (·.activityView), fun v s => { s with activityView := v }⟩,
   ⟨"fragment_interface", (·.fragmentView), fun v s => { s with fragmentView := v }⟩,
   ⟨"dagger_component", (·.daggerComponent), fun v s => { s with daggerComponent := v }⟩,
   ⟨"dagger_subcomponent", (·.daggerSubcomponent), fun v s => { s with daggerSubcomponent := v }⟩,
   ⟨"dagger_lazy", (·.daggerLazy), fun v s => { s with daggerLazy := v }⟩,
   ⟨"inject", (·.inject), fun v s => { s with inject := v }⟩,
   ⟨"singleton", (·.singleton), fun v s => { s with singleton := v }⟩]

/-- The fields of the names of generated types. -/
def Naming.fields : List (TextField Naming) :=
  [⟨"namespace", (·.namespaceSegment), fun v s => { s with namespaceSegment := v }⟩,
   ⟨"dagger_prefix", (·.daggerPrefix), fun v s => { s with daggerPrefix := v }⟩,
   ⟨"application_component", (·.applicationComponent), fun v s => { s with applicationComponent := v }⟩,
   ⟨"activity_component", (·.activityComponent), fun v s => { s with activityComponent := v }⟩,
   ⟨"fragment_component", (·.fragmentComponent), fun v s => { s with fragmentComponent := v }⟩,
   ⟨"helper_activity_component", (·.activityHelper), fun v s => { s with activityHelper := v }⟩,
   ⟨"helper_fragment_component", (·.fragmentHelper), fun v s => { s with fragmentHelper := v }⟩,
   ⟨"presenter_activity_injector", (·.activityInjector), fun v s => { s with activityInjector := v }⟩,
   ⟨"presenter_fragment_injector", (·.fragmentInjector), fun v s => { s with fragmentInjector := v }⟩,
   ⟨"initializer", (·.initializer), fun v s => { s with initializer := v }⟩,
   ⟨"inject_method", (·.injectMethod), fun v s => { s with injectMethod := v }⟩,
   ⟨"apply_method", (·.applyMethod), fun v s => { s with applyMethod := v }⟩,
   ⟨"provide_method", (·.provideMethod), fun v s => { s with provideMethod := v }⟩,
   ⟨"initialize_method", (·.initializeMethod), fun v s => { s with initializeMethod := v }⟩]

/-- The record of texts with the given fields, on top of `base`. -/
def readTexts? {σ : Type} (fields : List (TextField σ)) (base : σ) (d : Dialect) (n : Node) :
    Option σ := do
  let found ← n.record? d (fields.map (·.key))
  fields.foldlM (fun s f => (defaulted? found f.key (f.get base) Node.text?).map (f.set · s)) base

/-! ## 2. Sections -/

/-- The policies with their written names. -/
def DuplicatePolicy.names : List (String × DuplicatePolicy) :=
  [("last-wins", .lastWins), ("first-wins", .firstWins), ("reject", .reject)]

/-- The written name of a policy. -/
def DuplicatePolicy.name : DuplicatePolicy → String
  | .lastWins => "last-wins"
  | .firstWins => "first-wins"
  | .reject => "reject"

/-- The path a text spells. -/
def pathOfNode? (n : Node) : Option Path := n.text?.map Path.mk

/-- The generation settings a document gives. -/
def Generation.ofNode? (d : Dialect) (n : Node) : Option Generation := do
  let base : Generation := {}
  let found ← n.record? d ["duplicate_presenters", "indent", "output_dir", "index_file"]
  return {
    duplicatePresenters := ← defaulted? found "duplicate_presenters" base.duplicatePresenters
      (Node.variant? d DuplicatePolicy.names)
    indent := ← defaulted? found "indent" base.indent Node.count?
    outputDir := ← defaulted? found "output_dir" base.outputDir pathOfNode?
    indexFile := ← defaulted? found "index_file" base.indexFile pathOfNode? }

/-- The settings a document gives. -/
def Settings.ofNode? (d : Dialect) (n : Node) : Option Settings := do
  let base : Settings := {}
  let found ← n.record? d ["framework", "naming", "generation"]
  return {
    framework := ← defaulted? found "framework" base.framework
      (readTexts? FrameworkNames.fields base.framework d)
    naming := ← defaulted? found "naming" base.naming (readTexts? Naming.fields base.naming d)
    generation := ← defaulted? found "generation" base.generation (Generation.ofNode? d) }

/-- A record of texts as the pairs of a section. -/
def writeTexts {σ : Type} (fields : List (TextField σ)) (s : σ) : List (String × Toml.Scalar) :=
  fields.map fun f => (f.key, .text (f.get s))

/-- The generation settings as the pairs of a section. -/
def Generation.pairs (g : Generation) : List (String × Toml.Scalar) :=
  [("duplicate_presenters", .text g.duplicatePresenters.name),
   ("indent", .integer g.indent),
   ("output_dir", .text g.outputDir.text),
   ("index_file", .text g.indexFile.text)]

/-- The settings as the sections of a document. -/
def Settings.sections (s : Settings) : List (String × List (String × Toml.Scalar)) :=
  [("framework", writeTexts FrameworkNames.fields s.framework),
   ("naming", writeTexts Naming.fields s.naming),
   ("generation", s.generation.pairs)]

/-! ## 3. Files -/

/-- The settings of a TOML text, or `none` when it is no document of settings. -/
def Settings.parse? (text : String) : Option Settings := do
  Settings.ofNode? Toml.dialect (← Toml.read? text)

/-- Why a settings file is refused. -/
inductive SettingsFileFault
  /-- The text is no document of settings. -/
  | unreadable
  | unusable (fault : SettingsFault)
deriving DecidableEq

/-- The settings of a settings file. -/
def Settings.ofText (text : String) : Except SettingsFileFault Settings := do
  let some s := Settings.parse? text | throw .unreadable
  s.check.mapError .unusable
  return s

/-- The text of a settings file. An indentation beyond the integers of the format cannot
be written. -/
def Settings.save? (s : Settings) : Option String :=
  if s.generation.indent < signedBound then some (Toml.writeSections s.sections) else none

end ComponentWiring
