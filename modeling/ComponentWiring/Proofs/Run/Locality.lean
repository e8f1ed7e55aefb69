/-
ComponentWiring.Proofs.Run.Locality — what a run looks up.

* `Round.Reads` — the root names, and the names that are looked up from annotated root types.
* `containersAmong_congr`, `presentersAmong_congr` — a search comes to the same in every store that
  gives the same verdicts.
* `plan_eq_of_reads` — stores that answer the same to these names have the same plan.
* `Coordinator.process_depends_on_reads` — so a call comes to the same report, news and files, and
  no other type matters.

Modules are the one exception to what is looked up. A module that is declared is stored under its
own name, so the look-up gives nothing that the reference does not.
-/
import ComponentWiring.Proofs.Declared.Agreement
import ComponentWiring.Proofs.Discovery.Root
import ComponentWiring.Proofs.Run.Staging

namespace ComponentWiring

open Java

/-! ## 1. What is read -/

/-- One of the annotations is on the type or on one of its methods. -/
def TypeElement.IsMarked (markers : List String) (t : TypeElement) : Prop :=
  ∃ marker ∈ markers, (t.marker? marker).isSome ∨ ∃ m ∈ t.methods, (m.marker? marker).isSome

/-- The names that are looked up in a round: the root names, and what is looked up from root types
that carry one of the annotations. -/
inductive Round.Reads (r : Round) (markers : List String) (n : String) : Prop
  | root (listed : n ∈ r.roots)
  | above {t : TypeElement} (declared : t ∈ r.rootElements) (marked : t.IsMarked markers)
    (looked : r.store.LooksUp t n)

/-- The other store answers as the store of the round does to all names that are looked up. -/
def Round.AgreesWith (r : Round) (markers : List String) (other : TypeStore) : Prop :=
  ∀ n, r.Reads markers n → other.get? n = r.store.get? n

/-! ## 2. Searches -/

theorem containersAmong_congr {rules : TierRules} {s s' : TypeStore} {cs : List Element}
    (same : ∀ c ∈ cs, rules.judge s' c = rules.judge s c) (found : ClassMap) :
    containersAmong rules s' found cs = containersAmong rules s found cs := by
  induction cs generalizing found with
  | nil => rfl
  | cons c cs ih =>
    obtain ⟨first, rest⟩ := List.forall_mem_cons.mp same
    simp only [containersAmong, first, ih rest]

theorem presentersAmong_congr {n : FrameworkNames} {s s' : TypeStore} {cs : List Element}
    (same : ∀ c ∈ cs, judgePresenter n s' c = judgePresenter n s c) (policy : DuplicatePolicy)
    (found : Bindings) :
    presentersAmong n policy s' found cs = presentersAmong n policy s found cs := by
  induction cs generalizing found with
  | nil => rfl
  | cons c cs ih =>
    obtain ⟨first, rest⟩ := List.forall_mem_cons.mp same
    simp only [presentersAmong, first, ih rest]

section Candidates

variable {s s' : TypeStore} {c : Element}

theorem TierRules.judge_eq_of_agreesOn (rules : TierRules)
    (h : ∀ t, c = .type t → s.AgreesOn s' t) : rules.judge s' c = rules.judge s c := by
  unfold TierRules.judge
  cases class? : c.class? with
  | none => rfl
  | some t =>
    have h := h t (Element.class?_eq_some_iff.mp class?).1
    simp only [h.isValid_eq]
    cases valid : s.isValid t with
    | false => rfl
    | true => rw [h.superclassChain_eq valid]

theorem judgePresenter_eq_of_agreesOn (n : FrameworkNames)
    (h : ∀ t, c = .type t → s.AgreesOn s' t) : judgePresenter n s' c = judgePresenter n s c := by
  unfold judgePresenter
  cases class? : c.class? with
  | none => rfl
  | some t =>
    have h := h t (Element.class?_eq_some_iff.mp class?).1
    simp only [h.isValid_eq]
    cases valid : s.isValid t with
    | false => rfl
    | true => rw [h.classify_eq valid]

theorem soleClass_eq_of_agreesOn {cs : List Element}
    (h : ∀ t, .type t ∈ cs → s.AgreesOn s' t) : soleClass s' cs = soleClass s cs := by
  match cs with
  | [] => rfl
  | [c] =>
    cases class? : c.class? with
    | none => simp only [soleClass, class?]
    | some t =>
      obtain ⟨type, _⟩ := Element.class?_eq_some_iff.mp class?
      simp only [soleClass, class?, (h t (type ▸ List.mem_cons_self)).isValid_eq]
  | _ :: _ :: _ => rfl

theorem validate_inherits_eq_of_agreesOn {t : TypeElement} (h : s.AgreesOn s' t)
    (valid : s.isValid t = true) (marker base : String) :
    validate s' (.type t) marker [.inherits base] =
      validate s (.type t) marker [.inherits base] := by
  have same (u : TypeElement) (class? : (Element.type t).class? = some u) :
      s'.inheritsFrom u base = s.inheritsFrom u base := by
    obtain ⟨type, _⟩ := Element.class?_eq_some_iff.mp class?
    cases type
    rw [TypeStore.inheritsFrom, TypeStore.inheritsFrom, h.superclassChain_eq valid]
  have violation : Check.violation? s' (.type t) marker (.inherits base) =
      Check.violation? s (.type t) marker (.inherits base) := by
    simp only [Check.violation?, Check.inheritanceViolation]
    cases class? : (Element.type t).class? with
    | none => rfl
    | some u => simp only [same u class?]
  simp only [validate_eq, violations_eq_eraseDups, List.filterMap_cons, List.filterMap_nil,
    violation]

end Candidates

/-! ## 3. Modules -/

/-- A module that is declared has the names that its reference tells. -/
theorem ModuleRef.resolve_byName (s : TypeStore) (name : String) :
    ModuleRef.resolve s (some (.byReference (.named name))) = .ofName name := by
  rw [resolve]
  cases known : s.get? name with
  | none => rfl
  | some t =>
    show (⟨t.qualifiedName, ComponentWiring.simpleName t.qualifiedName⟩ : ModuleRef) = _
    rw [TypeStore.qualifiedName_of_get? known, ofName]

/-- So all stores resolve a literal to the same module. -/
theorem ModuleRef.resolve_eq (s s' : TypeStore) (literal? : Option ClassLiteral) :
    ModuleRef.resolve s' literal? = ModuleRef.resolve s literal? := by
  rcases literal? with _ | literal
  · rfl
  cases literal with
  | loaded canonicalName name => rfl
  | byReference type =>
    cases type with
    | absent | unresolved => rfl
    | named name => rw [resolve_byName, resolve_byName]

theorem ApplicationRoot.ofMarker_eq (s s' : TypeStore) (t : TypeElement) (a : AnnotationElement) :
    ofMarker s' t a = ofMarker s t a := by
  unfold ofMarker
  simp only [ModuleRef.resolve_eq s s']

/-! ## 4. Plans -/

section Plans

variable {r : Round} {other : TypeStore} {markers : List String}
  (agree : r.AgreesWith markers other)
include agree

theorem elementsWith_eq_of_reads (marker : String) :
    ({ r with store := other } : Round).elementsWith marker = r.elementsWith marker := by
  have same : ({ r with store := other } : Round).rootElements = r.rootElements :=
    List.filterMap_congr fun n listed => agree n (.root listed)
  rw [Round.elementsWith, same]
  rfl

/-- The stores agree on every candidate. -/
theorem agreesOn_of_reads {marker : String} (known : marker ∈ markers) {t : TypeElement}
    (ht : .type t ∈ r.elementsWith marker) : r.store.AgreesOn other t := by
  obtain ⟨declared, annotated⟩ := Round.type_mem_elementsWith_iff.mp ht
  obtain ⟨n, listed, found⟩ := List.mem_filterMap.mp declared
  have stored := r.declares_elementsWith marker t ht
  have marked : t.IsMarked markers := ⟨marker, known, .inl annotated⟩
  refine ⟨stored, ?_, fun m looked => agree m (.above declared marked looked)⟩
  rw [← stored, TypeStore.qualifiedName_of_get? found]
  exact agree n (.root listed)

theorem applicationRoot_eq_of_reads {n : FrameworkNames} (known : n.applicationMarker ∈ markers) :
    applicationRoot n { r with store := other } = applicationRoot n r := by
  have agreesOn (t : TypeElement) (ht : .type t ∈ r.elementsWith n.applicationMarker) :=
    agreesOn_of_reads agree known ht
  unfold applicationRoot
  rw [elementsWith_eq_of_reads agree]
  show ((soleClass other _).mapError _ >>= _) = ((soleClass r.store _).mapError _ >>= _)
  rw [soleClass_eq_of_agreesOn agreesOn]
  cases sole : soleClass r.store (r.elementsWith n.applicationMarker) with
  | error fault => rfl
  | ok t =>
    obtain ⟨only, _, valid⟩ := soleClass_ok_iff.mp sole
    have same := validate_inherits_eq_of_agreesOn (agreesOn t (only ▸ List.mem_cons_self)) valid
    show (validate other _ _ _ >>= _) = (validate r.store _ _ _ >>= _)
    rw [same]
    simp only [ApplicationRoot.ofMarker_eq r.store other]

theorem planTier_eq_of_reads {s : Settings} {tier : ChildTier}
    (container : (TierRules.ofTier s.framework tier).containerMarker ∈ markers)
    (scope : (TierRules.ofTier s.framework tier).scopeMarker ∈ markers) (root : ApplicationRoot)
    (packages : Packages) :
    planTier s { r with store := other } root packages tier = planTier s r root packages tier := by
  have containers := containersAmong_congr (fun c hc =>
    (TierRules.ofTier s.framework tier).judge_eq_of_agreesOn fun t type =>
      agreesOn_of_reads agree container (type ▸ hc)) .empty
  have presenters := presentersAmong_congr (fun c hc =>
    judgePresenter_eq_of_agreesOn s.framework fun t type =>
      agreesOn_of_reads agree scope (type ▸ hc)) s.generation.duplicatePresenters .empty
  unfold planTier
  simp only [elementsWith_eq_of_reads agree, containers, presenters]

end Plans

/-- Stores that answer the same to all names that are looked up have the same plan. -/
theorem plan_eq_of_reads {s : Settings} {r : Round} {other : TypeStore}
    (agree : r.AgreesWith s.framework.markers other) :
    plan s { r with store := other } = plan s r := by
  have tiers (tier : ChildTier) (root : ApplicationRoot) (packages : Packages) :
      planTier s { r with store := other } root packages tier =
        planTier s r root packages tier := by
    refine planTier_eq_of_reads agree ?_ ?_ root packages <;>
      cases tier <;> simp [TierRules.ofTier, FrameworkNames.markers]
  have root := applicationRoot_eq_of_reads agree (n := s.framework)
    (by simp [FrameworkNames.markers])
  unfold plan
  rw [root]
  simp only [planTierAt, tiers]

/-! ## 5. Calls -/

theorem generate_eq_of_reads {σ : Type} {s : Settings} {r : Round} {other : TypeStore}
    (agree : r.AgreesWith s.framework.markers other) (filer : Filer σ) (state : σ) :
    generate s filer { r with store := other } state = generate s filer r state := by
  unfold generate
  rw [plan_eq_of_reads agree]

namespace Coordinator

theorem process_eq_of_reads {σ : Type} (c : Coordinator) (filer : Filer σ) {r : Round} (state : σ)
    {other : TypeStore} (agree : r.AgreesWith c.settings.framework.markers other) :
    (∀ annotations, c.process filer annotations { r with store := other } state =
      c.process filer annotations r state) ∧
    c.processRound filer { r with store := other } state = c.processRound filer r state := by
  have processed (annotations : List String) :
      c.process filer annotations { r with store := other } state =
        c.process filer annotations r state := by
    simp only [process, generate_eq_of_reads agree]
  have carried : ({ r with store := other } : Round).markersPresent c.settings.framework.markers =
      r.markersPresent c.settings.framework.markers := by
    simp only [Round.markersPresent, elementsWith_eq_of_reads agree]
  refine ⟨processed, ?_⟩
  rw [processRound, carried, processed, processRound]

/-- A call depends on the declared types through the root names and what is looked up from annotated
root types, and through nothing else: stores that answer the same to these names lead to the same
report, the same news and the same files. So the type of any other name, which may be a module of
the application, can be declared, replaced or taken away. -/
theorem process_depends_on_reads {σ : Type} (c : Coordinator) (filer : Filer σ) (r : Round)
    (state : σ) :
    (∀ other : TypeStore,
      (∀ n, r.Reads c.settings.framework.markers n → other.get? n = r.store.get? n) →
      (∀ annotations, c.process filer annotations { r with store := other } state =
        c.process filer annotations r state) ∧
      c.processRound filer { r with store := other } state = c.processRound filer r state) ∧
    ∀ name, ¬ r.Reads c.settings.framework.markers name → ∀ other : TypeStore,
      (∀ n, n ≠ name → other.get? n = r.store.get? n) →
      (∀ annotations, c.process filer annotations { r with store := other } state =
        c.process filer annotations r state) ∧
      c.processRound filer { r with store := other } state = c.processRound filer r state := by
  refine ⟨fun other agree => process_eq_of_reads c filer state agree, ?_⟩
  intro name unread other apart
  refine process_eq_of_reads c filer state fun n reads => apart n ?_
  rintro rfl
  exact unread reads

/-- An application that names its modules by references only. -/
def referringApplication : TypeElement :=
  sampleClass "com.example.App" ({} : FrameworkNames).applicationBase sampleMarker
    [("application", .classLiteral (.byReference (.named "com.example.AppModule"))),
     ("activity", .classLiteral (.byReference (.named "com.example.ActivityModule"))),
     ("fragment", .classLiteral (.byReference (.named "com.example.FragmentModule")))]

/-- A round over that application, without its modules. -/
def referringRound : Round where
  store := TypeStore.empty.insertAll
    [.ofKind .classType ({} : FrameworkNames).applicationBase, referringApplication]
  roots := [referringApplication.qualifiedName]

theorem referringRound_succeeds :
    ((start {}).processRound SourceSet.filer referringRound (.empty 4)).1.succeeded = true := by
  obtain ⟨p, planned, _⟩ : ∃ p, (plan {} referringRound).result = .ok p ∧ p.root = sampleRoot := by
    refine planned_of_noPresenters default_areReadable default_namesApart (by decide +kernel)
      (by decide +kernel) ?_ ?_ ?_ <;> intro tier <;> cases tier <;> decide +kernel
  exact start_succeeds_of_plan planned (by decide +kernel) .empty none 4

/-- It makes no difference whether a module is declared. -/
theorem processRound_eq_of_declared_module :
    ((start {}).processRound SourceSet.filer referringRound (.empty 4)).1.succeeded = true ∧
    (start {}).processRound SourceSet.filer
        { referringRound with
          store := referringRound.store.insert (.ofClass "com.example.AppModule") } (.empty 4) =
      (start {}).processRound SourceSet.filer referringRound (.empty 4) := by
  have unread : ¬ referringRound.Reads ({} : FrameworkNames).markers "com.example.AppModule" := by
    intro reads
    cases reads with
    | root listed => revert listed; decide +kernel
    | above declared _ looked =>
      have only : referringRound.rootElements = [referringApplication] := by rfl
      rw [only, List.mem_singleton] at declared
      subst declared
      have asked : "com.example.AppModule" ∈ [({} : FrameworkNames).applicationBase] :=
        looked.mem_of_closed (by decide +kernel) (by decide +kernel)
      revert asked
      decide +kernel
  refine ⟨referringRound_succeeds, ?_⟩
  refine ((process_depends_on_reads (start {}) SourceSet.filer referringRound (.empty 4)).2
    "com.example.AppModule" unread _ fun n apart => ?_).2
  exact (TypeStore.get?_insert ..).trans (if_neg fun same => apart same.symm)

end Coordinator

end ComponentWiring
