/-
ComponentWiring.Proofs.Run.Literals — what a run makes of class literals.

* `KeepsModules` — a map of class literals under which they name the same modules.
* `containersAmong_mapLiterals`, `presentersAmong_mapLiterals` — searches do not look at literals.
* `applicationRoot_mapLiterals` — the root is looked up with the modules that its literals name.
* `Coordinator.processRound_mapLiterals` — so a run depends on the modules alone.
-/
import ComponentWiring.Project
import ComponentWiring.Proofs.Declared.Literals
import ComponentWiring.Proofs.Run.Locality

namespace ComponentWiring

open Java

variable (f : ClassLiteral → ClassLiteral)

/-! ## 1. Containers -/

/-- The fault with other class literals. -/
def ContainerFault.mapLiterals : ContainerFault → ContainerFault
  | .notAClass e => .notAClass (e.mapLiterals f)
  | .hasTypeParameters t => .hasTypeParameters (t.mapLiterals f)
  | .misannotated t sibling => .misannotated (t.mapLiterals f) sibling
  | .missingBase t => .missingBase (t.mapLiterals f)

/-- The verdict with other class literals. -/
def ContainerVerdict.mapLiterals : ContainerVerdict → ContainerVerdict
  | .accepted t => .accepted (t.mapLiterals f)
  | .skipped t => .skipped (t.mapLiterals f)
  | .refused fault => .refused (fault.mapLiterals f)

theorem ContainerFault.toFailure_mapLiterals (rules : TierRules) (fault : ContainerFault) :
    (fault.mapLiterals f).toFailure rules = fault.toFailure rules := by
  cases fault with
  | notAClass e => rw [mapLiterals, toFailure, toFailure, Element.displayName_mapLiterals]
  | hasTypeParameters | misannotated | missingBase => rfl

theorem TierRules.judgeBases_mapLiterals (rules : TierRules) (t : TypeElement)
    (bases : List String) (chainEnd : TypeStore.ChainEnd) :
    rules.judgeBases (t.mapLiterals f) bases chainEnd =
      (rules.judgeBases t bases chainEnd).mapLiterals f := by
  unfold judgeBases
  rcases bases.findSome? rules.baseKind? with _ | _ | sibling
  · cases chainEnd <;> rfl
  · rfl
  · rfl

theorem TierRules.judge_mapLiterals (rules : TierRules) (s : TypeStore) (c : Element) :
    rules.judge (s.mapLiterals f) (c.mapLiterals f) = (rules.judge s c).mapLiterals f := by
  rw [judge, judge, Element.class?_mapLiterals]
  cases c.class? with
  | none => rfl
  | some t =>
    have parameters : (t.mapLiterals f).typeParameters = t.typeParameters := rfl
    simp only [Option.map_some, TypeStore.isValid_mapLiterals, parameters,
      TypeStore.superclassChain_mapLiterals, judgeBases_mapLiterals]
    split
    · rfl
    · split <;> rfl

theorem containersAmong_mapLiterals (rules : TierRules) (s : TypeStore) (found : ClassMap)
    (cs : List Element) :
    containersAmong rules (s.mapLiterals f) found (cs.map (·.mapLiterals f)) =
      containersAmong rules s found cs := by
  induction cs generalizing found with
  | nil => rfl
  | cons c cs ih =>
    rw [List.map_cons, containersAmong, containersAmong, rules.judge_mapLiterals]
    cases rules.judge s c with
    | refused fault =>
      simp only [ContainerVerdict.mapLiterals, ContainerFault.toFailure_mapLiterals]
    | skipped t =>
      simp only [ContainerVerdict.mapLiterals, ih]
      rfl
    | accepted t =>
      simp only [ContainerVerdict.mapLiterals, ih]
      rfl

/-! ## 2. Presenters -/

/-- The verdict with other class literals. -/
def PresenterVerdict.mapLiterals : PresenterVerdict → PresenterVerdict
  | .passed => .passed
  | .skipped t => .skipped (t.mapLiterals f)
  | .presenter t contract => .presenter (t.mapLiterals f) contract
  | .noContract t => .noContract (t.mapLiterals f)

theorem judgePresenter_mapLiterals (n : FrameworkNames) (s : TypeStore) (c : Element) :
    judgePresenter n (s.mapLiterals f) (c.mapLiterals f) = (judgePresenter n s c).mapLiterals f := by
  rw [judgePresenter, judgePresenter, Element.class?_mapLiterals]
  cases c.class? with
  | none => rfl
  | some t =>
    simp only [Option.map_some, TypeStore.isValid_mapLiterals, TypeStore.classify_mapLiterals]
    split
    · rfl
    · split
      · rfl
      · cases (s.classify t n.presenterBase n.presentable).contract <;> rfl

theorem presentersAmong_mapLiterals (n : FrameworkNames) (policy : DuplicatePolicy) (s : TypeStore)
    (found : Bindings) (cs : List Element) :
    presentersAmong n policy (s.mapLiterals f) found (cs.map (·.mapLiterals f)) =
      presentersAmong n policy s found cs := by
  induction cs generalizing found with
  | nil => rfl
  | cons c cs ih =>
    rw [List.map_cons, presentersAmong, presentersAmong, judgePresenter_mapLiterals]
    cases judgePresenter n s c with
    | passed => exact ih found
    | skipped t =>
      simp only [PresenterVerdict.mapLiterals, ih]
      rfl
    | noContract t => rfl
    | presenter t contract =>
      simp only [PresenterVerdict.mapLiterals, ih]
      rfl

/-! ## 3. The root -/

theorem soleClass_mapLiterals (s : TypeStore) (es : List Element) (marker : String) :
    (soleClass (s.mapLiterals f) (es.map (·.mapLiterals f))).mapError (·.toFailure marker) =
      ((soleClass s es).mapError (·.toFailure marker)).map (·.mapLiterals f) := by
  match es with
  | [] => rfl
  | [e] =>
    simp only [List.map_cons, List.map_nil, soleClass, Element.class?_mapLiterals]
    cases e.class? with
    | none =>
      show Except.error (RootFault.toFailure marker (.notAClass (e.mapLiterals f))) = _
      rw [RootFault.toFailure, Element.displayName_mapLiterals]
      rfl
    | some t =>
      simp only [Option.map_some, TypeStore.isValid_mapLiterals]
      split <;> rfl
  | e :: second :: es =>
    have names : ((e :: second :: es).map (·.mapLiterals f)).map Element.displayName =
        (e :: second :: es).map Element.displayName := by
      rw [List.map_map]
      exact List.map_congr_left fun e _ => Element.displayName_mapLiterals f e
    show Except.error (RootFault.toFailure marker (.several (second.mapLiterals f)
      ((e :: second :: es).map (·.mapLiterals f)))) = _
    rw [RootFault.toFailure, names, Element.displayName_mapLiterals]
    rfl

theorem violation?_mapLiterals (s : TypeStore) (e : Element) (marker : String) (c : Check) :
    c.violation? (s.mapLiterals f) (e.mapLiterals f) marker = c.violation? s e marker := by
  cases c with
  | accessible | abstractIs | inInterfaceIs => cases e <;> rfl
  | inherits superclass =>
    rw [Check.violation?, Check.violation?, Check.inheritanceViolation, Check.inheritanceViolation,
      Element.class?_mapLiterals]
    cases e.class? with
    | none => rfl
    | some t =>
      simp only [Option.map_some, TypeStore.inheritsFrom_mapLiterals]
      rfl

theorem validate_mapLiterals (s : TypeStore) (e : Element) (marker : String)
    (checks : List Check) :
    validate (s.mapLiterals f) (e.mapLiterals f) marker checks = validate s e marker checks := by
  simp only [validate_eq, violations_eq_eraseDups, violation?_mapLiterals,
    Element.displayName_mapLiterals]

/-- Class literals name the same modules under the map. -/
def KeepsModules : Prop :=
  ∀ s c, ModuleRef.resolve s (some (f c)) = ModuleRef.resolve s (some c)

section Modules

variable {f} (keeps : KeepsModules f)
include keeps

theorem ApplicationRoot.ofMarker_mapLiterals (s : TypeStore) (t : TypeElement)
    (a : AnnotationElement) :
    ofMarker (s.mapLiterals f) (t.mapLiterals f) (a.mapLiterals f) = ofMarker s t a := by
  have modules (member : String) :
      ModuleRef.resolve (s.mapLiterals f) ((a.mapLiterals f).classValue? member) =
        ModuleRef.resolve s (a.classValue? member) := by
    rw [ModuleRef.resolve_eq s, AnnotationElement.classValue?_mapLiterals]
    cases a.classValue? member with
    | none => rfl
    | some c => exact keeps s c
  simp only [ofMarker, modules]
  rfl

theorem applicationRoot_mapLiterals (n : FrameworkNames) (r : Round) :
    applicationRoot n (r.mapLiterals f) = applicationRoot n r := by
  have store : (r.mapLiterals f).store = r.store.mapLiterals f := rfl
  dsimp only [applicationRoot]
  rw [store, Round.elementsWith_mapLiterals, soleClass_mapLiterals, map_bind]
  refine congrArg _ (funext fun t => ?_)
  have valid : validate (r.store.mapLiterals f) (.type (t.mapLiterals f)) =
      validate r.store (.type t) :=
    funext₂ (validate_mapLiterals f r.store (.type t))
  rw [valid, TypeElement.marker?_mapLiterals]
  cases t.marker? n.applicationMarker with
  | none => rfl
  | some a => simp only [Option.map_some, ApplicationRoot.ofMarker_mapLiterals keeps]

end Modules

/-! ## 4. Runs -/

theorem planTier_mapLiterals (s : Settings) (r : Round) (root : ApplicationRoot)
    (packages : Packages) (tier : ChildTier) :
    planTier s (r.mapLiterals f) root packages tier = planTier s r root packages tier := by
  have store : (r.mapLiterals f).store = r.store.mapLiterals f := rfl
  unfold planTier
  simp only [Round.elementsWith_mapLiterals, store, containersAmong_mapLiterals,
    presentersAmong_mapLiterals]

section Runs

variable {f} (keeps : KeepsModules f)
include keeps

theorem plan_mapLiterals (s : Settings) (r : Round) : plan s (r.mapLiterals f) = plan s r := by
  unfold plan
  simp only [planTierAt, applicationRoot_mapLiterals keeps, planTier_mapLiterals]

theorem generate_mapLiterals {σ : Type} (s : Settings) (filer : Filer σ) (r : Round) (state : σ) :
    generate s filer (r.mapLiterals f) state = generate s filer r state := by
  unfold generate
  rw [plan_mapLiterals keeps]

theorem Coordinator.processRound_mapLiterals {σ : Type} (c : Coordinator) (filer : Filer σ)
    (r : Round) (state : σ) :
    c.processRound filer (r.mapLiterals f) state = c.processRound filer r state := by
  simp only [processRound, process, Round.markersPresent_mapLiterals, generate_mapLiterals keeps]

/-! ## 5. Projects -/

/-- Class literals that name the same modules lead to the same report, news and sources. -/
theorem Project.generateOn_mapLiterals {σ : Type} (root : Path) (s : Settings)
    (ts : List TypeElement) (bus : Option Bus) (filer : Filer σ) (state : σ) :
    (ofDeclarations root s (ts.map (·.mapLiterals f))).generateOn bus filer state =
      (ofDeclarations root s ts).generateOn bus filer state := by
  have store := TypeStore.insertAll_mapLiterals f (Platform.store s.framework) ts
  rw [Platform.store_mapLiterals] at store
  have roots : (ts.map (·.mapLiterals f)).map TypeElement.qualifiedName =
      ts.map TypeElement.qualifiedName := List.map_map
  have round : (ofDeclarations root s (ts.map (·.mapLiterals f))).round =
      (ofDeclarations root s ts).round.mapLiterals f := by
    simp only [Project.round, ofDeclarations, Round.mapLiterals, store, roots]
  unfold generateOn
  rw [round]
  simp only [Coordinator.processRound_mapLiterals keeps]
  rfl

end Runs

end ComponentWiring
