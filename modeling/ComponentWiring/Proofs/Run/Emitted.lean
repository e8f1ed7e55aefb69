/-
ComponentWiring.Proofs.Run.Emitted — the generated files of a round, taken together.

* `Plan.IsEmitted` — the files of a plan are those generated for what was discovered.
* `IsEmitted.files_generated` — every file of such a plan is generated.
* `stagedNames`, `IsEmitted.files_declare` — the packages and names of the eight types, in order.
* `IsEmitted.table` — the dispatch of a tier is filled from the containers of the tier.
* `IsEmitted.checkBatch_iff` — the last check refuses generated files for their names only.
* `plan_succeeds_iff` — planning depends on discovery, and on the settings and the application.
* `plan_succeeds_iff_discovered` — with suitable names, planning depends on discovery alone.

Components inject every container, and only containers are dispatched. So the last check can find
fault with the names, which come from the settings, but never with a missing injection.
-/
import ComponentWiring.Proofs.Wiring.Batch
import ComponentWiring.Proofs.Wiring.Dispatch
import ComponentWiring.Proofs.Wiring.Generation
import ComponentWiring.Proofs.Wiring.Rendering

namespace ComponentWiring

open Java

/-! ## 1. Emitted plans -/

/-- The plan of a lower tier. -/
def Plan.lower (p : Plan) : ChildTier → TierPlan
  | .activity => p.activity
  | .fragment => p.fragment

/-- The files of a plan are those generated for what was discovered. Whether they pass the last
check is left open. -/
structure Plan.IsEmitted (p : Plan) (s : Settings) : Prop where
  dispatch : p.dispatch = dispatchOf s p.activity p.fragment
  component : ∀ tier, (p.lower tier).component =
    (childGenerator s p.root (packagesOf s p.root) tier).componentName
  generated : ∀ tier, (childGenerator s p.root (packagesOf s p.root) tier).generate
    (p.lower tier).containers (p.lower tier).bindings = .ok (p.lower tier).files
  files : ∃ own,
    ApplicationGenerator.generate ⟨s, packagesOf s p.root, p.root⟩ p.dispatch = .ok own ∧
    p.files = p.fragment.files.toList ++ p.activity.files.toList ++ own

/-- What is generated for two planned tiers and the application makes up an emitted plan. -/
theorem emittedPlan_isEmitted {s : Settings} {r : Round} {root : ApplicationRoot}
    {fragment activity : TierPlan} {own : List SourceFile}
    (first : (planTier s r root (packagesOf s root) .fragment).result = .ok fragment)
    (second : (planTier s r root (packagesOf s root) .activity).result = .ok activity)
    (third : ApplicationGenerator.generate ⟨s, packagesOf s root, root⟩
      (dispatchOf s activity fragment) = .ok own) :
    (emittedPlan s root fragment activity own).IsEmitted s := by
  obtain ⟨_, _, fragmentFiles, generated, rfl⟩ := planTier_ok_iff.mp first
  obtain ⟨_, _, activityFiles, generated', rfl⟩ := planTier_ok_iff.mp second
  refine ⟨rfl, ?_, ?_, own, third, rfl⟩
  · intro tier
    cases tier <;> rfl
  · intro tier
    cases tier
    · exact generated'
    · exact generated

theorem plan_isEmitted {s : Settings} {r : Round} {p : Plan} (h : (plan s r).result = .ok p) :
    p.IsEmitted s := by
  obtain ⟨_, _, _, _, _, first, second, third, _, rfl⟩ := plan_ok_iff.mp h
  exact emittedPlan_isEmitted first second third

/-- The packages and names of the generated types in the order of their emission. -/
def stagedNames (n : Naming) (p : Packages) : List (String × String) :=
  [(p.injection, n.fragmentInjector), (p.component, n.fragmentComponent),
   (p.helper, n.fragmentHelper), (p.injection, n.activityInjector),
   (p.component, n.activityComponent), (p.helper, n.activityHelper),
   (p.component, n.applicationComponent), (p.component, n.initializer)]

/-- The names of the generated types. -/
def Naming.typeNames (n : Naming) : List String :=
  [n.fragmentInjector, n.fragmentComponent, n.fragmentHelper, n.activityInjector,
   n.activityComponent, n.activityHelper, n.applicationComponent, n.initializer]

theorem mem_typeNames_of_staged {n : Naming} {p : Packages} {e : String × String}
    (h : e ∈ stagedNames n p) : e.2 ∈ n.typeNames := by
  simp only [stagedNames, List.mem_cons, List.not_mem_nil, or_false] at h
  rcases h with rfl | rfl | rfl | rfl | rfl | rfl | rfl | rfl <;> simp [Naming.typeNames]

theorem package_of_staged {n : Naming} {p : Packages} {e : String × String}
    (h : e ∈ stagedNames n p) : e.1 = p.injection ∨ e.1 = p.component ∨ e.1 = p.helper := by
  simp only [stagedNames, List.mem_cons, List.not_mem_nil, or_false] at h
  rcases h with rfl | rfl | rfl | rfl | rfl | rfl | rfl | rfl <;> simp

namespace Plan.IsEmitted

variable {s : Settings} {p : Plan} (h : p.IsEmitted s)
include h

theorem files_generated : ∀ f ∈ p.files, f.IsGenerated := by
  obtain ⟨own, generated, files⟩ := h.files
  intro f hf
  rw [files, List.mem_append, List.mem_append] at hf
  rcases hf with (hf | hf) | hf
  · exact .lower (h.generated .fragment) hf
  · exact .lower (h.generated .activity) hf
  · exact .application generated hf

theorem mem_of_lower (tier : ChildTier) {f : SourceFile}
    (hf : f ∈ (p.lower tier).files.toList) : f ∈ p.files := by
  obtain ⟨own, _, files⟩ := h.files
  rw [files, List.mem_append, List.mem_append]
  cases tier with
  | activity => exact .inl (.inr hf)
  | fragment => exact .inl (.inl hf)

/-- The root component and the initializer are among the files. -/
theorem application_mem : ∃ component initializer,
    component ∈ p.files ∧ initializer ∈ p.files ∧
      ApplicationGenerator.component ⟨s, packagesOf s p.root, p.root⟩ = .ok component ∧
      ApplicationGenerator.initializer ⟨s, packagesOf s p.root, p.root⟩ p.dispatch =
        .ok initializer := by
  obtain ⟨own, generated, files⟩ := h.files
  obtain ⟨component, initializer, rfl, made, made'⟩ := applicationFiles_made generated
  exact ⟨component, initializer, by simp [files], by simp [files], made, made'⟩

/-- The emitted files in order: three of each lower tier, then two of the application tier. -/
theorem files_declare : p.files.map (·.key) = stagedNames s.naming (packagesOf s p.root) ∧
    ∀ f ∈ p.files, f.Declares f.package f.type.name := by
  obtain ⟨own, generated, files⟩ := h.files
  obtain ⟨component, initializer, rfl, seventh, eighth⟩ := applicationFiles_declare generated
  have fragments := childFiles_declare (h.generated .fragment)
  have activities := childFiles_declare (h.generated .activity)
  simp only [lower] at fragments activities
  refine ⟨?_, fun f hf => (h.files_generated f hf).declares⟩
  rw [files]
  simp only [ChildFiles.toList, SourceFile.key, List.cons_append, List.nil_append, List.map_cons,
    List.map_nil, fragments.1.package, fragments.1.name, fragments.2.1.package,
    fragments.2.1.name, fragments.2.2.package, fragments.2.2.name, activities.1.package,
    activities.1.name, activities.2.1.package, activities.2.1.name, activities.2.2.package,
    activities.2.2.name, seventh.package, seventh.name, eighth.package, eighth.name]
  rfl

/-! ## 2. Dispatch -/

/-- The table of a tier is filled from the containers of the tier. -/
theorem table (tier : ChildTier) : p.dispatch.tables.get? tier.tier =
    some (Dispatch.tableOf (p.lower tier).component (p.lower tier).containers) := by
  rw [h.dispatch, dispatchOf, Dispatch.tables_withTier, Dispatch.tables_withTier]
  cases tier <;> rfl

/-- What is dispatched in a tier depends on its containers only. -/
theorem targets (tier : ChildTier) : p.dispatch.targets tier.tier =
    (Keyed.ofList ((p.lower tier).containers.toList.map fun c => (c.binaryName, c))).values := by
  rw [Dispatch.targets, Dispatch.entries, h.table tier]
  rfl

/-- The dispatch relies on the components of the lower tiers. -/
theorem components : p.dispatch.components =
    [ChildTier.activity, .fragment].map fun tier => (tier.tier, (p.lower tier).component) := by
  rw [h.dispatch]
  rfl

/-- The component of a tier has the methods of the tier's generator. -/
theorem component_methods (tier : ChildTier) : (p.lower tier).files.component.type.methods =
    (childGenerator s p.root (packagesOf s p.root) tier).componentMethods
      (p.lower tier).containers := by
  obtain ⟨_, made, _⟩ := childFiles_made (h.generated tier)
  obtain ⟨_, _, _, _, _, spelled⟩ := component_cases made
  rw [spelled]
  rfl

/-- The component of a tier is among the files, under the name by which the dispatch knows it. -/
theorem component_mem (tier : ChildTier) : (p.lower tier).files.component ∈ p.files ∧
    (p.lower tier).files.component.className = (p.lower tier).component := by
  have declared := (childFiles_declare (h.generated tier)).2.1
  refine ⟨h.mem_of_lower tier (by simp [ChildFiles.toList]), ?_⟩
  rw [h.component tier, SourceFile.className, declared.package, declared.name]
  rfl

/-! ## 3. The last check -/

/-- The component of a tier injects every class that is dispatched to it. -/
theorem injects (tier : ChildTier) : ∀ c ∈ p.dispatch.targets tier.tier,
    declaresInjection (p.lower tier).files.component.type p.dispatch.injectMethod c.className =
      true := by
  intro c hc
  have discovered := Dispatch.mem_of_mem_targets (h.table tier) hc
  rw [declaresInjection_iff, h.dispatch, h.component_methods tier]
  refine ⟨ChildGenerator.injectMethod s.naming.injectMethod c.className "view", ?_, rfl,
    ⟨.ofClass c.className, "view", _⟩, List.mem_singleton_self _, rfl⟩
  rw [ChildGenerator.componentMethods, List.mem_append, List.mem_cons]
  exact .inr (.inr (List.mem_map.mpr ⟨c, discovered, rfl⟩))

/-- Generated files pass the last check exactly if their names are not blank and the types are told
apart by their names. -/
theorem checkBatch_iff : checkBatch p.files p.dispatch = .ok () ↔
    (∀ f ∈ p.files, f.IsNamed) ∧ (p.files.map (·.key)).Nodup := by
  rw [checkBatch_ok_iff]
  refine ⟨And.left, fun names => ⟨names, fun e he => ?_⟩⟩
  rw [h.components] at he
  obtain ⟨tier, _, rfl⟩ := List.mem_map.mp he
  obtain ⟨hf, named⟩ := h.component_mem tier
  -- No other file has the name of the component.
  cases found : p.files.find? (·.className = (p.lower tier).component) with
  | none =>
    rw [List.find?_eq_none] at found
    exact absurd (by simpa using named) (found _ hf)
  | some g =>
    have named' : g.className = (p.lower tier).component := by simpa using List.find?_some found
    have same : g.key = (p.lower tier).files.component.key := by
      have spelled := named'.trans named.symm
      simp only [SourceFile.className, ClassName.mk.injEq] at spelled
      exact Prod.ext spelled.1 spelled.2.1
    have alone : g = (p.lower tier).files.component :=
      List.inj_on_of_nodup_map names.2 (List.mem_of_find?_eq_some found) hf same
    refine ⟨g, rfl, ?_⟩
    rw [alone]
    exact h.injects tier

/-- So whether they pass depends on the names of the types and their packages alone. -/
theorem checkBatch_iff_staged : checkBatch p.files p.dispatch = .ok () ↔
    (∀ e ∈ stagedNames s.naming (packagesOf s p.root),
      Text.isBlankText e.2 = false ∧ Text.isBlankText e.1 = false) ∧
    (stagedNames s.naming (packagesOf s p.root)).Nodup := by
  rw [h.checkBatch_iff, ← h.files_declare.1, List.forall_mem_map]
  rfl

end Plan.IsEmitted

/-! ## 4. Planning -/

/-- The names of all generated types are given, and no type is generated twice, whatever the
package of the application. -/
structure Settings.NamesApart (s : Settings) : Prop where
  named : ∀ root, ∀ e ∈ stagedNames s.naming (packagesOf s root),
    Text.isBlankText e.2 = false ∧ Text.isBlankText e.1 = false
  apart : ∀ root, (stagedNames s.naming (packagesOf s root)).Nodup

theorem isBlankText_append (p q : String) :
    Text.isBlankText (p ++ q) = (Text.isBlankText p && Text.isBlankText q) := by
  simp [Text.isBlankText]

/-- No package of generated types is blank. -/
theorem packages_not_blank (s : Settings) (root : ApplicationRoot) (segments : String) :
    Text.isBlankText ((packagesOf s root).injection ++ segments) = false := by
  have below : Text.isBlankText ("internal." ++ s.naming.namespaceSegment ++ ".di") = false := by
    have first : Text.isBlankText "internal." = false := by decide
    rw [isBlankText_append, isBlankText_append, first, Bool.false_and, Bool.false_and]
  rw [isBlankText_append, packagesOf, Packages.below]
  simp only [ClassName.inPackage]
  split
  · rw [below, Bool.false_and]
  · rw [isBlankText_append, below, Bool.and_false, Bool.false_and]

theorem package_not_blank_of_staged {s : Settings} {root : ApplicationRoot} {e : String × String}
    (h : e ∈ stagedNames s.naming (packagesOf s root)) : Text.isBlankText e.1 = false := by
  rcases package_of_staged h with package | package | package
  · rw [package, ← String.append_empty (s := (packagesOf s root).injection)]
    exact packages_not_blank s root ""
  · rw [package]
    exact packages_not_blank s root ".component"
  · rw [package]
    exact packages_not_blank s root ".component.helper"

/-- It is enough that the names of the types are given and distinct. -/
theorem namesApart_of_typeNames {s : Settings}
    (named : ∀ name ∈ s.naming.typeNames, Text.isBlankText name = false)
    (distinct : s.naming.typeNames.Nodup) : s.NamesApart := by
  constructor
  · intro root e he
    exact ⟨named e.2 (mem_typeNames_of_staged he), package_not_blank_of_staged he⟩
  · intro root
    have names : ((stagedNames s.naming (packagesOf s root)).map Prod.snd).Nodup := distinct
    exact names.of_map _

theorem default_namesApart : ({} : Settings).NamesApart :=
  namesApart_of_typeNames (by decide) (by decide)

/-- The generated files of such settings pass the last check. -/
theorem Plan.IsEmitted.passes {s : Settings} {p : Plan} (h : p.IsEmitted s) (names : s.NamesApart) :
    checkBatch p.files p.dispatch = .ok () :=
  h.checkBatch_iff_staged.mpr ⟨names.named p.root, names.apart p.root⟩

/-- What is found for a tier that can be planned: no candidate is refused, and what is bound can be
read. -/
structure TierDiscovered (s : Settings) (r : Round) (tier : ChildTier) : Prop where
  containers : (containersOf s r tier).failure = none
  presenters : (presentersOf s r tier).failure = none
  bindings : Bindings.AreReadable (presentersOf s r tier).found

theorem planTier_succeeds_iff {s : Settings} {r : Round} {root : ApplicationRoot}
    {packages : Packages} {tier : ChildTier} :
    Succeeds (planTier s r root packages tier).result ↔ TierDiscovered s r tier ∧
      ∀ name ∈ (childGenerator s root packages tier).namesRead, ClassName.IsReadable name := by
  constructor
  · intro h
    obtain ⟨t, planned⟩ := h
    obtain ⟨containers, presenters, files, made, _⟩ := planTier_ok_iff.mp planned
    obtain ⟨readable, bindings⟩ := childFiles_succeeds_iff.mp ⟨files, made⟩
    exact ⟨⟨containers, presenters, bindings⟩, readable⟩
  · intro h
    obtain ⟨found, readable⟩ := h
    obtain ⟨files, made⟩ := childFiles_succeeds_iff.mpr ⟨readable, found.bindings⟩
    exact ⟨_, planTier_ok_iff.mpr ⟨found.containers, found.presenters, files, made, rfl⟩⟩

/-- What the settings and the application bring along for the generated types: every name that
these mention in any case can be read, and they have packages and names of their own. -/
structure Settings.Suit (s : Settings) (root : ApplicationRoot) : Prop where
  children : ∀ tier, ∀ name ∈ (childGenerator s root (packagesOf s root) tier).namesRead,
    ClassName.IsReadable name
  application : ∀ name ∈ ApplicationGenerator.namesRead ⟨s, packagesOf s root, root⟩,
    ClassName.IsReadable name
  named : ∀ e ∈ stagedNames s.naming (packagesOf s root),
    Text.isBlankText e.2 = false ∧ Text.isBlankText e.1 = false
  apart : (stagedNames s.naming (packagesOf s root)).Nodup

/-- A round can be planned exactly if its application is found, the settings suit it, and both lower
tiers are discovered. -/
theorem plan_succeeds_iff {s : Settings} {r : Round} : Succeeds (plan s r).result ↔
    ∃ root, applicationRoot s.framework r = .ok root ∧ s.Suit root ∧
      ∀ tier, TierDiscovered s r tier := by
  constructor
  · intro given
    obtain ⟨p, planned⟩ := given
    obtain ⟨root, fragment, activity, own, found, first, second, third, checked, rfl⟩ :=
      plan_ok_iff.mp planned
    have fragments := planTier_succeeds_iff.mp ⟨fragment, first⟩
    have activities := planTier_succeeds_iff.mp ⟨activity, second⟩
    have application := (applicationFiles_succeeds_iff _).mp ⟨own, third⟩
    obtain ⟨named, apart⟩ :=
      (emittedPlan_isEmitted first second third).checkBatch_iff_staged.mp checked
    refine ⟨root, found, ⟨?_, application, named, apart⟩, ?_⟩
    · intro tier
      cases tier
      · exact activities.2
      · exact fragments.2
    · intro tier
      cases tier
      · exact activities.1
      · exact fragments.1
  · intro given
    obtain ⟨root, found, suit, tiers⟩ := given
    obtain ⟨fragment, first⟩ :=
      planTier_succeeds_iff.mpr ⟨tiers .fragment, suit.children .fragment⟩
    obtain ⟨activity, second⟩ :=
      planTier_succeeds_iff.mpr ⟨tiers .activity, suit.children .activity⟩
    obtain ⟨own, third⟩ :=
      (applicationFiles_succeeds_iff (dispatchOf s activity fragment)).mpr suit.application
    have passes := (emittedPlan_isEmitted first second third).checkBatch_iff_staged.mpr
      ⟨suit.named, suit.apart⟩
    exact ⟨_, plan_ok_iff.mpr ⟨root, fragment, activity, own, found, first, second, third, passes,
      rfl⟩⟩

/-- Of settings that name library types and generated types suitably, only the modules of the
application are left. -/
theorem suit_iff {s : Settings} {root : ApplicationRoot} (ready : s.framework.AreReadable)
    (names : s.NamesApart) : s.Suit root ↔
      ClassName.IsReadable root.applicationModule.qualifiedName ∧
        ∀ tier, ClassName.IsReadable (root.childModule tier).qualifiedName := by
  have child (tier : ChildTier) :=
    childNamesRead_readable_iff (g := childGenerator s root (packagesOf s root) tier) ready
  have application :=
    applicationNamesRead_readable_iff (g := ⟨s, packagesOf s root, root⟩) ready
  constructor
  · intro suit
    exact ⟨application.mp suit.application, fun tier => (child tier).mp (suit.children tier)⟩
  · intro modules
    exact ⟨fun tier => (child tier).mpr (modules.2 tier), application.mpr modules.1,
      names.named root, names.apart root⟩

/-- What is found in a round that can be planned: an application whose modules can be read, and
what both lower tiers need. -/
structure Discovered (s : Settings) (r : Round) (root : ApplicationRoot) : Prop where
  found : applicationRoot s.framework r = .ok root
  applicationModule : ClassName.IsReadable root.applicationModule.qualifiedName
  modules : ∀ tier, ClassName.IsReadable (root.childModule tier).qualifiedName
  tiers : ∀ tier, TierDiscovered s r tier

/-- With settings that name all types, planning depends on discovery alone. -/
theorem plan_succeeds_iff_discovered {s : Settings} {r : Round} (ready : s.framework.AreReadable)
    (names : s.NamesApart) : Succeeds (plan s r).result ↔ ∃ root, Discovered s r root := by
  rw [plan_succeeds_iff]
  refine exists_congr fun root => ?_
  rw [suit_iff ready names]
  exact ⟨fun ⟨found, modules, tiers⟩ => ⟨found, modules.1, modules.2, tiers⟩,
    fun h => ⟨h.found, ⟨h.applicationModule, h.modules⟩, h.tiers⟩⟩

/-- The application, the containers and the bindings of a plan are those that were discovered. -/
theorem plan_discovered {s : Settings} {r : Round} {p : Plan} (h : (plan s r).result = .ok p) :
    applicationRoot s.framework r = .ok p.root ∧
      (∀ tier, (p.lower tier).containers = (containersOf s r tier).found) ∧
      ∀ tier, (p.lower tier).bindings = (presentersOf s r tier).found := by
  obtain ⟨_, _, _, _, found, first, second, _, _, rfl⟩ := plan_ok_iff.mp h
  obtain ⟨_, _, _, _, rfl⟩ := planTier_ok_iff.mp first
  obtain ⟨_, _, _, _, rfl⟩ := planTier_ok_iff.mp second
  refine ⟨found, ?_, ?_⟩ <;>
    intro tier <;> cases tier <;> rfl

/-- A round without presenters can be planned if its application is found with readable modules and
its containers are accepted. -/
theorem planned_of_noPresenters {s : Settings} {r : Round} {root : ApplicationRoot}
    (ready : s.framework.AreReadable) (names : s.NamesApart)
    (found : (applicationRoot s.framework r).toOption = some root)
    (applicationModule : ClassName.IsReadable root.applicationModule.qualifiedName)
    (modules : ∀ tier, ClassName.IsReadable (root.childModule tier).qualifiedName)
    (containers : ∀ tier, (containersOf s r tier).failure = none)
    (noPresenters : ∀ tier, r.elementsWith (TierRules.ofTier s.framework tier).scopeMarker = []) :
    ∃ p, (plan s r).result = .ok p ∧ p.root = root := by
  have found : applicationRoot s.framework r = .ok root := by
    cases result : applicationRoot s.framework r with
    | error fault =>
      rw [result] at found
      cases found
    | ok other =>
      rw [result] at found
      cases found
      rfl
  have nothing (tier : ChildTier) : presentersOf s r tier = ⟨.empty, [], none⟩ := by
    rw [presentersOf, noPresenters, presentersAmong]
  have discovered : Discovered s r root := by
    refine ⟨found, applicationModule, modules, fun tier => ⟨containers tier, by rw [nothing], ?_⟩⟩
    rw [nothing]
    intro e he
    cases he
  obtain ⟨p, planned⟩ := (plan_succeeds_iff_discovered ready names).mpr ⟨root, discovered⟩
  exact ⟨p, planned, Except.ok.inj ((plan_discovered planned).1.symm.trans found)⟩

/-! ## 5. A small project -/

/-- A class that carries an annotation and extends a base. -/
def sampleClass (name base marker : String) (members : List (String × AnnotationValue) := []) :
    TypeElement :=
  { TypeElement.ofClass name with
    superclass := .named base
    annotations := [⟨marker, Keyed.ofList members⟩] }

/-- An activity. -/
def sampleActivity (name : String) : TypeElement :=
  sampleClass name ({} : FrameworkNames).activityBase ({} : FrameworkNames).activityMarker

/-- The annotation of applications. -/
def sampleMarker : String := ({} : FrameworkNames).applicationMarker

/-- An application with its modules. -/
def sampleApplication : TypeElement :=
  sampleClass "com.example.App" ({} : FrameworkNames).applicationBase sampleMarker
    [("application", .classLiteral (.ofLoaded "com.example.AppModule")),
     ("activity", .classLiteral (.ofLoaded "com.example.ActivityModule")),
     ("fragment", .classLiteral (.ofLoaded "com.example.FragmentModule"))]

/-- A round over the application and some more classes. The bases of applications and activities
are known. -/
def sampleRound (classes : List TypeElement) : Round where
  store := TypeStore.empty.insertAll
    (.ofKind .classType ({} : FrameworkNames).applicationBase
      :: .ofKind .classType ({} : FrameworkNames).activityBase :: sampleApplication :: classes)
  roots := (sampleApplication :: classes).map (·.qualifiedName)

/-- The application of the small project. -/
def sampleRoot : ApplicationRoot :=
  ⟨.ofElement sampleApplication, .ofName "com.example.AppModule",
    .ofName "com.example.ActivityModule", .ofName "com.example.FragmentModule"⟩

/-- A small project without presenters can be planned if its containers are accepted. -/
theorem sample_planned {s : Settings} {classes : List TypeElement}
    (ready : s.framework.AreReadable) (names : s.NamesApart)
    (root : (applicationRoot s.framework (sampleRound classes)).toOption = some sampleRoot)
    (containers : ∀ tier, (containersOf s (sampleRound classes) tier).failure = none)
    (noPresenters : ∀ tier, (sampleRound classes).elementsWith
      (TierRules.ofTier s.framework tier).scopeMarker = []) :
    ∃ p, (plan s (sampleRound classes)).result = .ok p ∧ p.root = sampleRoot := by
  refine planned_of_noPresenters ready names root (by decide +kernel) ?_ containers noPresenters
  intro tier
  cases tier <;> decide +kernel

/-- The small project with one activity can be planned. -/
theorem oneActivity_planned : ∃ p,
    (plan {} (sampleRound [sampleActivity "com.example.Main"])).result = .ok p := by
  obtain ⟨p, planned, -⟩ : ∃ p, (plan {} (sampleRound [sampleActivity "com.example.Main"])).result =
      .ok p ∧ p.root = sampleRoot := by
    refine sample_planned default_areReadable default_namesApart (by decide +kernel) ?_ ?_ <;>
      intro tier <;> cases tier <;> decide +kernel
  exact ⟨p, planned⟩

end ComponentWiring
