/-
ComponentWiring.Proofs.Run.Linking — the generated files fit together.

* `Plan.IsEmitted.isAnswered` — the files of a plan declare what its initializer calls.
* `Plan.LinksTo` — what a file of a plan may refer to.
* `Plan.Links` — the calls respect the types, and generated names that are referred to have files.
* `Wiring.links_of_emit` — files that are generated for any containers and presenters do so, if
  they pass the last check.

The last check is needed for one thing only: that no two files share a name. Then a call that names
a generated type can mean one file, and the generators give it the method under the same name from
the settings by which it is called.
-/
import ComponentWiring.Proofs.Run.Clashes
import ComponentWiring.Proofs.Run.References
import ComponentWiring.Proofs.Wiring.Calls

namespace ComponentWiring

open Java

/-! ## 1. Declared methods -/

namespace Plan.IsEmitted

variable {s : Settings} {p : Plan} (h : p.IsEmitted s)
include h

/-- The helper of a tier is declared to make the component of the tier from the base module. -/
theorem helper_declared (apart : (p.files.map (·.className)).Nodup) (tier : ChildTier) :
    let g := childGenerator s p.root (packagesOf s p.root) tier
    ∃ module, classNamed g.names.baseModule = .ok module ∧
      Declares p.files g.helperName s.naming.applyMethod [.ofClass module]
        (.ofClass g.componentName) := by
  intro g
  have hf : (p.lower tier).files.helper ∈ p.files :=
    h.mem_of_lower tier (by simp [ChildFiles.toList])
  obtain ⟨_, _, made⟩ := childFiles_made (h.generated tier)
  obtain ⟨module, read, named, methods⟩ := ChildGenerator.helper_methods made
  have apply : interfaceMethod s.naming.applyMethod (.ofClass g.componentName)
      [{ type := .ofClass module, name := "module" }] ∈
        (p.lower tier).files.helper.type.methods := by
    rw [methods]
    exact List.mem_singleton_self _
  exact ⟨module, read, named ▸ declares_of_mem apart hf apply⟩

/-- The component of a tier is declared to inject every container that is dispatched to it. -/
theorem target_declared (apart : (p.files.map (·.className)).Nodup) (tier : ChildTier) :
    ∀ c ∈ p.dispatch.targets tier.tier,
      Declares p.files (childGenerator s p.root (packagesOf s p.root) tier).componentName
        p.dispatch.injectMethod [.ofClass c.className] .void := by
  intro c hc
  have discovered := Dispatch.mem_of_mem_targets (h.table tier) hc
  obtain ⟨hf, named⟩ := h.component_mem tier
  have name : p.dispatch.injectMethod = s.naming.injectMethod := by
    rw [h.dispatch]
    rfl
  have injects : ChildGenerator.injectMethod s.naming.injectMethod c.className "view" ∈
      (p.lower tier).files.component.type.methods := by
    rw [h.component_methods tier, ChildGenerator.componentMethods, List.mem_append, List.mem_cons]
    exact .inr (.inr (List.mem_map_of_mem discovered))
  rw [← h.component tier, ← named, name]
  exact declares_of_mem apart hf injects

/-- The activity component is declared to answer the fragment helper. -/
theorem fragmentHelper_declared (apart : (p.files.map (·.className)).Nodup) :
    let g := childGenerator s p.root (packagesOf s p.root) .activity
    Declares p.files g.componentName g.fragmentHelperMethod.name []
      g.fragmentHelperMethod.returns := by
  intro g
  obtain ⟨hf, named⟩ := h.component_mem .activity
  have accessor : g.fragmentHelperMethod ∈ (p.lower .activity).files.component.type.methods := by
    rw [h.component_methods .activity]
    exact List.mem_append_left _ (List.mem_singleton_self _)
  have same : (p.lower .activity).files.component.className = g.componentName :=
    named.trans (h.component .activity)
  exact same ▸ declares_of_mem apart hf accessor

/-- The files of an emitted plan declare what its initializer calls, if they are for different
classes. -/
theorem isAnswered (apart : (p.files.map (·.className)).Nodup) :
    ApplicationGenerator.IsAnswered ⟨s, packagesOf s p.root, p.root⟩ p.dispatch p.files := by
  obtain ⟨component, _, filed, _, made, _⟩ := h.application_mem
  obtain ⟨named, methods⟩ := ApplicationGenerator.component_methods made
  have declared {m : MethodDecl} (hm : m ∈ component.type.methods) :=
    named ▸ declares_of_mem apart filed hm
  exact
    { activityHelper := declared (methods ▸ List.mem_cons_self)
      application := declared (methods ▸ List.mem_cons_of_mem _ (List.mem_singleton_self _))
      fragmentHelper := h.fragmentHelper_declared apart
      activityApply := h.helper_declared apart .activity
      fragmentApply := h.helper_declared apart .fragment
      activities := h.target_declared apart .activity
      fragments := h.target_declared apart .fragment }

end Plan.IsEmitted

/-! ## 2. Files that fit together -/

/-- What a file of a plan may refer to: the files of the plan, the class that is going to be
generated from the root component, and classes that are there without the plan. -/
inductive Plan.LinksTo (p : Plan) (s : Settings) : ClassName → Prop
  | file {f : SourceFile} : f ∈ p.files → p.LinksTo s f.className
  | builder : p.LinksTo s (ApplicationGenerator.builderName ⟨s, packagesOf s p.root, p.root⟩)
  | language {c : ClassName} : c ∈ languageClasses → p.LinksTo s c
  | library {name : String} {c : ClassName} :
    name ∈ s.framework.referenced → classNamed name = .ok c → p.LinksTo s c
  | declared {c : ClassName} : p.IsDeclared c → p.LinksTo s c

/-- The generated injectors, components and helpers, by the names by which the generators refer to
them. -/
def referredClasses (s : Settings) (root : ApplicationRoot) : List ClassName :=
  let upper : ApplicationGenerator := ⟨s, packagesOf s root, root⟩
  let lower := childGenerator s root (packagesOf s root)
  [upper.componentName, upper.activityComponent, upper.fragmentComponent, upper.activityHelper,
    upper.fragmentHelper, upper.activityInjector, upper.fragmentInjector]
  ++ [ChildTier.activity, .fragment].flatMap fun tier =>
    [(lower tier).injectorName, (lower tier).componentName]

/-- The files of a plan fit together. -/
structure Plan.Links (p : Plan) (s : Settings) : Prop where
  /-- No class is declared twice. -/
  apart : (p.files.map (·.className)).Nodup
  /-- By whatever name a generator refers to a generated type, there is a file for it. -/
  generated : ∀ c ∈ referredClasses s p.root, ∃ f ∈ p.files, f.className = c
  references : ∀ f ∈ p.files, ∀ c ∈ f.references, p.LinksTo s c
  /-- What the initializer calls on generated types is declared. -/
  answered : ApplicationGenerator.IsAnswered ⟨s, packagesOf s p.root, p.root⟩ p.dispatch p.files
  /-- There is an initializer, all its code is read, and it respects the types. -/
  initializer : ∃ f ∈ p.files,
    f.className = ApplicationGenerator.initializerName ⟨s, packagesOf s p.root, p.root⟩ ∧
      Scope.Checks
        { files := p.files
          builder := ApplicationGenerator.builderName ⟨s, packagesOf s p.root, p.root⟩ } f.type

namespace Plan.IsEmitted

variable {s : Settings} {p : Plan} (h : p.IsEmitted s)
include h

/-- The names of the generated types are those of the files. -/
theorem exists_file_of_staged {e : String × String}
    (he : e ∈ stagedNames s.naming (packagesOf s p.root)) :
    ∃ f ∈ p.files, f.className = ⟨e.1, e.2, []⟩ := by
  rw [← h.files_declare.1] at he
  obtain ⟨f, hf, rfl⟩ := List.mem_map.mp he
  exact ⟨f, hf, rfl⟩

theorem exists_file_of_referred {c : ClassName} (hc : c ∈ referredClasses s p.root) :
    ∃ f ∈ p.files, f.className = c := by
  have staged : c ∈ (stagedNames s.naming (packagesOf s p.root)).map fun e => ⟨e.1, e.2, []⟩ := by
    simp only [referredClasses, List.mem_append, List.mem_cons, List.not_mem_nil, or_false,
      List.flatMap_cons, List.flatMap_nil, List.append_nil] at hc
    rcases hc with (rfl | rfl | rfl | rfl | rfl | rfl | rfl) | (rfl | rfl) | (rfl | rfl) <;>
      exact List.mem_map.mpr ⟨(_, _), by simp [stagedNames, childGenerator, ChildGenerator.names,
        ChildNames.of], rfl⟩
  obtain ⟨e, he, rfl⟩ := List.mem_map.mp staged
  exact h.exists_file_of_staged he

theorem linksTo {f : SourceFile} (hf : f ∈ p.files) {c : ClassName} (hc : c ∈ f.references) :
    p.LinksTo s c := by
  cases h.mentions f hf c hc with
  | language known => exact .language known
  | library named read => exact .library named read
  | declared declared => exact .declared declared
  | generated known =>
    rcases List.mem_cons.mp known with rfl | staged
    · exact .builder
    · obtain ⟨e, he, rfl⟩ := List.mem_map.mp staged
      obtain ⟨g, hg, named⟩ := h.exists_file_of_staged he
      exact named ▸ .file hg

/-- The files of an emitted plan fit together if no two share a name. -/
theorem links (names : (p.files.map (·.key)).Nodup) : p.Links s := by
  have apart := SourceFile.classNames_nodup names
  have answered := h.isAnswered apart
  obtain ⟨_, initializer, _, filed, _, made⟩ := h.application_mem
  have declared := initializer_declares made
  refine ⟨apart, fun _ => h.exists_file_of_referred, fun _ hf _ => h.linksTo hf, answered,
    initializer, filed, ?_, ApplicationGenerator.initializer_checks answered made rfl⟩
  rw [SourceFile.className, declared.package, declared.name]
  rfl

end Plan.IsEmitted

/-- Files that are generated for any application, any containers and any presenters fit together if
they pass the last check. -/
theorem Wiring.links_of_emit {w : Wiring} {s : Settings} {p : Plan} (h : w.emit s = .ok p)
    (passes : checkBatch p.files p.dispatch = .ok ()) : p.wiring = w ∧ p.Links s := by
  obtain ⟨emitted, same⟩ := emit_isEmitted h
  exact ⟨same, emitted.links (emitted.checkBatch_iff.mp passes).2⟩

/-- The files of the small project fit together, and its activity is dispatched. -/
theorem Wiring.links_of_oneActivity : ∃ (w : Wiring) (p : Plan), w.emit {} = .ok p ∧
    checkBatch p.files p.dispatch = .ok () ∧ p.Links {} ∧
    (p.dispatch.targets .activity).map (·.qualifiedName) = ["com.example.Main"] := by
  obtain ⟨p, planned⟩ := oneActivity_planned
  have emitted := plan_emits planned
  have passes := (plan_isEmitted planned).passes default_namesApart
  refine ⟨p.wiring, p, emitted, passes, (links_of_emit emitted passes).2, ?_⟩
  have targets : p.dispatch.targets .activity =
      (Keyed.ofList (p.activity.containers.toList.map fun c => (c.binaryName, c))).values :=
    (plan_isEmitted planned).targets .activity
  have found : p.activity.containers =
      (containersOf {} (sampleRound [sampleActivity "com.example.Main"]) .activity).found :=
    (plan_discovered planned).2.1 .activity
  rw [targets, found]
  decide +kernel

end ComponentWiring
