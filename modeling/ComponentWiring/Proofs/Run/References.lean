/-
ComponentWiring.Proofs.Run.References — which classes the files of a run refer to.

* `Plan.IsDeclared` — the classes of a plan that come from the declared types.
* `Plan.Mentions`, `plan_mentions` — planned files refer to these, to generated classes, to classes
  of the language, and to library types.
* `Coordinator.references_wellFormed_iff` — the declared classes among the references have
  well-formed names exactly if the application and all containers do.

Contracts, presenters and modules are read, and only well-formed names can be. The names of the
application and of containers are split at their dots, and nothing looks at the parts.
-/
import ComponentWiring.Proofs.Run.Correspondence
import ComponentWiring.Proofs.Wiring.Mentions

namespace ComponentWiring

open Java

/-! ## 1. Declared classes -/

/-- The class was declared, and takes part in the plan. -/
inductive Plan.IsDeclared (p : Plan) : ClassName → Prop
  | application : p.IsDeclared p.root.root.className
  | container {tier : ChildTier} {d : AnnotatedClass} :
    d ∈ (p.lower tier).containers.toList → p.IsDeclared d.className
  | contract {tier : ChildTier} {e : String × String} {c : ClassName} :
    e ∈ (p.lower tier).bindings.entries → classNamed e.1 = .ok c → p.IsDeclared c
  | presenter {tier : ChildTier} {e : String × String} {c : ClassName} :
    e ∈ (p.lower tier).bindings.entries → classNamed e.2 = .ok c → p.IsDeclared c
  | applicationModule {c : ClassName} :
    classNamed p.root.applicationModule.qualifiedName = .ok c → p.IsDeclared c
  | childModule {tier : ChildTier} {c : ClassName} :
    classNamed (p.root.childModule tier).qualifiedName = .ok c → p.IsDeclared c

/-- The files of a plan may refer to the class. -/
inductive Plan.Mentions (p : Plan) (s : Settings) : ClassName → Prop
  | language {c : ClassName} : c ∈ languageClasses → p.Mentions s c
  | generated {c : ClassName} :
    c ∈ generatedClasses s.naming (packagesOf s p.root) → p.Mentions s c
  | library {name : String} {c : ClassName} :
    name ∈ s.framework.referenced → classNamed name = .ok c → p.Mentions s c
  | declared {c : ClassName} : p.IsDeclared c → p.Mentions s c

/-- A file refers to every class that one of its methods injects. -/
theorem Java.SourceFile.mem_references_of_injects {f : SourceFile} {c : ClassName}
    (name parameter : String) (declares : ChildGenerator.injectMethod name c parameter ∈ f.type.methods) :
    c ∈ f.references := by
  refine List.mem_append_left _ (TypeDecl.mem_references.mpr ?_)
  refine .inr (.inr (.inr (.inr (.inr ⟨_, declares, MethodDecl.mem_references.mpr ?_⟩))))
  exact .inr (.inr (.inl ⟨_, List.mem_singleton_self _, by simp⟩))

namespace Plan.IsEmitted

variable {s : Settings} {p : Plan} (h : p.IsEmitted s)
include h

/-- The files of an emitted plan refer to nothing else. -/
theorem mentions : ∀ f ∈ p.files, ∀ c ∈ f.references, p.Mentions s c := by
  have covers : Covers (p.Mentions s) s (packagesOf s p.root) :=
    ⟨fun _ => .language, fun _ => .generated, fun _ hname _ => .library hname⟩
  obtain ⟨own, generated, files⟩ := h.files
  have lower (tier : ChildTier) :
      ∀ f ∈ (p.lower tier).files.toList, ∀ c ∈ f.type.references, p.Mentions s c := by
    refine childFiles_mention covers (h.generated tier) ?_ ?_ ?_
    · rintro e he c (read | read)
      · exact .declared (.contract he read)
      · exact .declared (.presenter he read)
    · exact fun c read => .declared (.childModule read)
    · exact fun d hd => .declared (.container hd)
  have upper : ∀ f ∈ own, ∀ c ∈ f.type.references, p.Mentions s c := by
    refine applicationFiles_mention covers generated ?_ (.declared .application) ?_
    · exact fun c read => .declared (.applicationModule read)
    · exact fun tier d hd => .declared (.container (Dispatch.mem_of_mem_targets (h.table tier) hd))
  intro f hf c hc
  rcases List.mem_append.mp hc with hc | hc
  · rw [files, List.mem_append, List.mem_append] at hf
    rcases hf with (hf | hf) | hf
    · exact lower .fragment f hf c hc
    · exact lower .activity f hf c hc
    · exact upper f hf c hc
  · obtain rfl := List.mem_singleton.mp hc
    have staged : f.key ∈ stagedNames s.naming (packagesOf s p.root) := by
      rw [← h.files_declare.1]
      exact List.mem_map_of_mem hf
    exact .generated (List.mem_cons_of_mem _ (List.mem_map_of_mem staged))

/-- A file refers to each of its containers by the component of their tier. -/
theorem refers_to_container {tier : ChildTier} {d : AnnotatedClass}
    (hd : d ∈ (p.lower tier).containers.toList) : ∃ f ∈ p.files, d.className ∈ f.references := by
  refine ⟨_, (h.component_mem tier).1,
    SourceFile.mem_references_of_injects s.naming.injectMethod "view" ?_⟩
  rw [h.component_methods tier, ChildGenerator.componentMethods]
  exact List.mem_append_right _ (List.mem_cons_of_mem _ (List.mem_map_of_mem hd))

/-- The root component refers to the application. -/
theorem refers_to_application : ∃ f ∈ p.files, p.root.root.className ∈ f.references := by
  obtain ⟨component, _, filed, _, generated, _⟩ := h.application_mem
  simp only [ApplicationGenerator.component, bind_ok_iff] at generated
  obtain ⟨_, _, _, _, _, _, _, _, _, _, made⟩ := generated
  cases made
  refine ⟨_, filed, SourceFile.mem_references_of_injects s.naming.injectMethod "injector" ?_⟩
  exact List.mem_cons_of_mem _ (List.mem_singleton_self _)

end Plan.IsEmitted

/-- The names of contracts, presenters and modules are well-formed. -/
theorem Plan.IsDeclared.wellFormed_or {p : Plan} {c : ClassName} (h : p.IsDeclared c) :
    c.IsWellFormed ∨ c = p.root.root.className ∨
      ∃ tier, ∃ d ∈ (p.lower tier).containers.toList, c = d.className := by
  have read {name : String} {c : ClassName} (h : classNamed name = .ok c) : c.IsWellFormed := by
    unfold classNamed at h
    split at h
    · rename_i parsed
      cases h
      exact ClassName.isWellFormed_of_parse? parsed
    · cases h
  cases h with
  | application => exact .inr (.inl rfl)
  | container hd => exact .inr (.inr ⟨_, _, hd, rfl⟩)
  | contract _ h => exact .inl (read h)
  | presenter _ h => exact .inl (read h)
  | applicationModule h => exact .inl (read h)
  | childModule h => exact .inl (read h)

/-! ## 2. Runs -/

namespace Coordinator

/-- The files of a successful run refer to declared classes, generated ones, those of the language
and library types. The declared ones among them have well-formed names exactly if the application
and all containers do. Those of contracts, presenters and modules always are. -/
theorem references_wellFormed_iff {σ : Type} (c : Coordinator) (filer : Filer σ)
    (annotations : List String) (r : Round) (state : σ)
    (h : (c.process filer annotations r state).1.succeeded = true) :
    ∃ p, (plan c.settings r).result = .ok p ∧
      (∀ f ∈ p.files, ∀ ref ∈ f.references, p.Mentions c.settings ref) ∧
      ((∀ f ∈ p.files, ∀ ref ∈ f.references, p.IsDeclared ref → ref.IsWellFormed) ↔
        p.root.root.className.IsWellFormed ∧
          ∀ tier, ∀ d ∈ (p.lower tier).containers.toList, d.className.IsWellFormed) ∧
      ∀ ref, p.IsDeclared ref → ref.IsWellFormed ∨ ref = p.root.root.className ∨
        ∃ tier, ∃ d ∈ (p.lower tier).containers.toList, ref = d.className := by
  obtain ⟨p, planned⟩ := plan_of_succeeded h
  have emitted := plan_isEmitted planned
  refine ⟨p, planned, emitted.mentions, ⟨fun wellFormed => ⟨?_, fun tier d hd => ?_⟩, ?_⟩,
    fun _ => Plan.IsDeclared.wellFormed_or⟩
  · obtain ⟨f, hf, refers⟩ := emitted.refers_to_application
    exact wellFormed f hf _ refers .application
  · obtain ⟨f, hf, refers⟩ := emitted.refers_to_container hd
    exact wellFormed f hf _ refers (.container hd)
  · intro wellFormed f _ ref _ declared
    rcases declared.wellFormed_or with good | rfl | ⟨tier, d, hd, rfl⟩
    · exact good
    · exact wellFormed.1
    · exact wellFormed.2 tier d hd

theorem references_wellFormed_of_one_activity :
    (({ settings := {} } : Coordinator).process SourceSet.filer [sampleMarker]
      (sampleRound [sampleActivity "com.example.Main"]) (.empty 4)).1.succeeded = true ∧
    ∃ p, (plan {} (sampleRound [sampleActivity "com.example.Main"])).result = .ok p ∧
      ∀ f ∈ p.files, ∀ ref ∈ f.references, p.IsDeclared ref → ref.IsWellFormed := by
  obtain ⟨succeeded, q, planned, root⟩ :=
    sample_succeeds {} [sampleActivity "com.example.Main"]
      default_areReadable rfl (by decide +kernel) (by intro tier; cases tier <;> decide +kernel)
      (by intro tier; cases tier <;> decide +kernel)
  obtain ⟨p, planned', -, wellFormed, -⟩ := references_wellFormed_iff _ _ _ _ _ succeeded
  obtain rfl : q = p := Except.ok.inj (planned.symm.trans planned')
  refine ⟨succeeded, q, planned, wellFormed.mpr ⟨?_, fun tier => ?_⟩⟩
  · rw [root]
    decide +kernel
  · rw [(plan_discovered planned).2.1 tier]
    cases tier <;> decide +kernel

/-- The name of an activity may start with a digit, and the generated types refer to it all the
same. -/
theorem not_references_wellFormed_of_digit :
    (({ settings := {} } : Coordinator).process SourceSet.filer [sampleMarker]
      (sampleRound [sampleActivity "com.example.1Main"]) (.empty 4)).1.succeeded = true ∧
    ∃ p, (plan {} (sampleRound [sampleActivity "com.example.1Main"])).result = .ok p ∧
      ∃ f ∈ p.files, ∃ ref ∈ f.references, p.IsDeclared ref ∧ ¬ ref.IsWellFormed := by
  obtain ⟨succeeded, p, planned, -⟩ :=
    sample_succeeds {} [sampleActivity "com.example.1Main"]
      default_areReadable rfl (by decide +kernel) (by intro tier; cases tier <;> decide +kernel)
      (by intro tier; cases tier <;> decide +kernel)
  have discovered : AnnotatedClass.ofElement (sampleActivity "com.example.1Main") ∈
      (p.lower .activity).containers.toList := by
    rw [(plan_discovered planned).2.1 .activity]
    decide +kernel
  obtain ⟨f, hf, refers⟩ := (plan_isEmitted planned).refers_to_container discovered
  exact ⟨succeeded, p, planned, f, hf, _, refers, .container discovered, by decide +kernel⟩

end Coordinator

end ComponentWiring
