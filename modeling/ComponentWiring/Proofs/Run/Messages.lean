/-
ComponentWiring.Proofs.Run.Messages — which messages a run can end with.

* `FailsBy` — work that fails by failures of one kind only.
* `Failure.IsSingle` — a failure that is told by one error.
* `FailsSingly`, `Logged.IsOrderly` — work that fails by such a failure only, and that logs
  notes and warnings before it.
* `childFiles_failsBy`, `applicationFiles_failsBy` — generation fails as emission does.
* `generate_orderly` — every run is of this kind, whatever the filer does.

A failure that breaks several rules at once would be told by several errors. A run never
meets one, since the root class is held to one rule only.
-/
import ComponentWiring.Run.Coordinator

namespace ComponentWiring

open Java

/-! ## 1. Failures -/

/-- The failure is told by one message, which is an error. -/
def Failure.IsSingle (f : Failure) : Prop := ∃ d, f.diagnostics = [d] ∧ d.isError = true

theorem misuse_single (element : Option String) (message : String) :
    (Failure.misuse element message).IsSingle := ⟨_, rfl, rfl⟩

theorem emission_single (reason : String) : (Failure.emission reason).IsSingle := ⟨_, rfl, rfl⟩

theorem state_single (reason : String) : (Failure.state reason).IsSingle := ⟨_, rfl, rfl⟩

theorem internal_single (reason : String) : (Failure.internal reason).IsSingle := ⟨_, rfl, rfl⟩

theorem violation_single (element message : String) :
    (Failure.violations element [message]).IsSingle := ⟨_, rfl, rfl⟩

/-- What goes wrong is of one kind. -/
def FailsBy (P : Failure → Prop) {α : Type} (x : Except Failure α) : Prop :=
  ∀ f, x = .error f → P f

namespace FailsBy

variable {α β : Type} {P : Failure → Prop}

theorem ok (a : α) : FailsBy P (.ok a) := fun _ h => nomatch h

theorem error {f : Failure} (h : P f) : FailsBy P (.error f : Except Failure α) := by
  rintro _ ⟨⟩
  exact h

theorem bind {x : Except Failure α} {f : α → Except Failure β} (hx : FailsBy P x)
    (hf : ∀ a, FailsBy P (f a)) : FailsBy P (x >>= f) := by
  cases x with
  | error e => exact error (hx e rfl)
  | ok a => exact hf a

theorem mapM {f : α → Except Failure β} (hf : ∀ a, FailsBy P (f a)) (l : List α) :
    FailsBy P (l.mapM f) := by
  induction l with
  | nil => exact ok []
  | cons a l ih =>
    rw [List.mapM_cons]
    exact (hf a).bind fun _ => ih.bind fun _ => ok _

theorem mapError {ε : Type} {x : Except ε α} {f : ε → Failure} (h : ∀ e, P (f e)) :
    FailsBy P (x.mapError f) := by
  cases x with
  | error e => exact error (h e)
  | ok a => exact ok a

end FailsBy

/-- What goes wrong is told by one error. -/
abbrev FailsSingly {α : Type} (x : Except Failure α) : Prop := FailsBy Failure.IsSingle x

/-! ## 2. Logs -/

theorem Log.diagnostics_reportAll (l : Log) (ds : List Diagnostic) :
    (l.reportAll ds).diagnostics = l.diagnostics ++ ds := by
  induction ds generalizing l with
  | nil => simp [reportAll]
  | cons d ds ih => simpa [reportAll, report] using ih (l.report d)

theorem Log.diagnostics_announceAll (l : Log) (es : List Event) :
    (l.announceAll es).diagnostics = l.diagnostics := by
  induction es generalizing l with
  | nil => rfl
  | cons e es ih => exact ih (l.announce e)

/-- No message is an error. -/
def AreMild (ds : List Diagnostic) : Prop := ∀ d ∈ ds, d.isError = false

theorem AreMild.append {ds es : List Diagnostic} (hd : AreMild ds) (he : AreMild es) :
    AreMild (ds ++ es) := by
  intro d h
  rcases List.mem_append.mp h with h | h
  · exact hd d h
  · exact he d h

theorem AreMild.errorCount_eq {ds : List Diagnostic} (h : AreMild ds) : errorCount ds = 0 := by
  rw [errorCount, List.countP_eq_zero]
  intro d hd
  simp [h d hd]

/-- Notes and warnings are logged, and what goes wrong is told by one error. -/
structure Logged.IsOrderly {α : Type} (x : Logged α) : Prop where
  mild : AreMild x.log.diagnostics
  single : FailsSingly x.result

namespace Logged.IsOrderly

variable {α β : Type}

theorem pure (a : α) : IsOrderly (Pure.pure a) := ⟨nofun, .ok a⟩

theorem fail {f : Failure} (h : f.IsSingle) : IsOrderly (Logged.fail f : Logged α) :=
  ⟨nofun, .error h⟩

theorem bind {x : Logged α} {f : α → Logged β} (hx : x.IsOrderly) (hf : ∀ a, (f a).IsOrderly) :
    (x >>= f).IsOrderly := by
  cases h : x.result with
  | error e =>
    refine ⟨?_, ?_⟩
    · rw [log_bind_of_error h]
      exact hx.mild
    · rw [result_bind, h]
      exact .error (hx.single e h)
  | ok a =>
    refine ⟨?_, ?_⟩
    · rw [log_bind_of_ok h]
      exact hx.mild.append (hf a).mild
    · rw [result_bind, h]
      exact (hf a).single

theorem lift {x : Except Failure α} (h : FailsSingly x) : IsOrderly (liftM x) := ⟨nofun, h⟩

theorem say {ds : List Diagnostic} (h : AreMild ds) : IsOrderly (Logged.say ds) :=
  ⟨by rw [Logged.say, Log.diagnostics_reportAll]; exact h, .ok ()⟩

theorem tell (es : List Event) : IsOrderly (Logged.tell es) :=
  ⟨by rw [Logged.tell, Log.diagnostics_announceAll]; exact nofun, .ok ()⟩

end Logged.IsOrderly

/-! ## 3. Discovery -/

/-- Candidates are commented on by notes and warnings, and a failure is bound to one of them. -/
structure Findings.IsOrderly {α : Type} (f : Findings α) : Prop where
  mild : AreMild f.diagnostics
  bound : ∀ e, f.failure = some e → ∃ element message, e = .misuse (some element) message

namespace Findings.IsOrderly

variable {α : Type}

theorem found (a : α) : IsOrderly ⟨a, [], none⟩ := ⟨nofun, nofun⟩

theorem refused (a : α) (element message : String) :
    IsOrderly ⟨a, [], some (.misuse (some element) message)⟩ :=
  ⟨nofun, by rintro _ ⟨⟩; exact ⟨element, message, rfl⟩⟩

theorem after {f : Findings α} {ds : List Diagnostic} (hf : f.IsOrderly) (hd : AreMild ds) :
    (f.after ds).IsOrderly :=
  ⟨hd.append hf.mild, hf.bound⟩

theorem failsBy {P : Failure → Prop} {f : Findings α} (hf : f.IsOrderly)
    (told : ∀ element message, P (.misuse (some element) message)) :
    FailsBy P (Logged.ofFindings f).result := by
  unfold Logged.ofFindings
  cases h : f.failure with
  | none => exact .ok _
  | some e =>
    obtain ⟨element, message, rfl⟩ := hf.bound e h
    exact .error (told element message)

theorem logged {f : Findings α} (hf : f.IsOrderly) : (Logged.ofFindings f).IsOrderly := by
  refine ⟨?_, hf.failsBy fun _ _ => misuse_single _ _⟩
  rw [Logged.ofFindings, Log.diagnostics_reportAll]
  exact hf.mild

end Findings.IsOrderly

theorem containersAmong_orderly (rules : TierRules) (s : TypeStore) (cs : List Element) :
    ∀ found, (containersAmong rules s found cs).IsOrderly := by
  induction cs with
  | nil => exact fun found => .found found
  | cons c cs ih =>
    intro found
    rw [containersAmong]
    cases rules.judge s c with
    | refused fault => cases fault <;> exact .refused found _ _
    | skipped t => exact (ih found).after (by simp [AreMild, TierRules.skippedWarning]; rfl)
    | accepted t =>
      by_cases known : found.contains t.qualifiedName
      · simpa [known] using ih found
      · simp only [known]
        exact (ih _).after (by simp [AreMild, processingNote]; rfl)

theorem bindingMessages_mild (t : TypeElement) (contract : String) (o : BindingOutcome) :
    AreMild (bindingMessages t contract o) := by
  intro d h
  cases o <;> simp only [bindingMessages, List.mem_cons, List.not_mem_nil, or_false] at h
  · exact h ▸ rfl
  · rcases h with rfl | rfl <;> rfl
  · exact h ▸ rfl

theorem presentersAmong_orderly (n : FrameworkNames) (policy : DuplicatePolicy) (s : TypeStore)
    (cs : List Element) : ∀ found, (presentersAmong n policy s found cs).IsOrderly := by
  induction cs with
  | nil => exact fun found => .found found
  | cons c cs ih =>
    intro found
    rw [presentersAmong]
    cases judgePresenter n s c with
    | passed => exact ih found
    | skipped t => exact (ih found).after (by simp [AreMild, unresolvedWarning]; rfl)
    | noContract t => exact .refused found _ _
    | presenter t contract =>
      cases h : found.bind contract t.qualifiedName policy with
      | error clash =>
        have refused : Findings.IsOrderly ⟨found, [], some clash.toFailure⟩ := .refused found _ _
        simpa [h] using refused
      | ok bound =>
        obtain ⟨outcome, found'⟩ := bound
        simpa [h] using (ih found').after (bindingMessages_mild t contract outcome)

/-- A class is held to the one rule that it extends the base of applications. -/
theorem validate_inherits_failsSingly (s : TypeStore) (e : Element) (marker base : String) :
    FailsSingly (validate s e marker [.inherits base]) := by
  rw [validate, Validator.checkAll, List.foldl_cons, List.foldl_nil, Validator.check]
  cases h : Check.violation? s e marker (.inherits base) with
  | none => exact FailsBy.ok ()
  | some message =>
    exact FailsBy.error (violation_single e.displayName message)

theorem applicationRoot_failsSingly (n : FrameworkNames) (r : Round) :
    FailsSingly (applicationRoot n r) := by
  refine .bind (.mapError ?_) fun t => .bind (validate_inherits_failsSingly _ _ _ _) fun _ => ?_
  · intro fault
    cases fault <;> exact misuse_single _ _
  · cases t.marker? n.applicationMarker with
    | none => exact .error (internal_single _)
    | some a =>
      simp only [ApplicationRoot.ofMarker]
      split
      · exact .error (misuse_single _ _)
      · exact .ok _

/-! ## 4. Generation -/

theorem advance_failsSingly (p : Progress) (stage : Stage) : FailsSingly (p.advance stage) := by
  rw [Progress.advance]
  split
  · exact .ok _
  · exact .error (state_single _)

theorem require_failsSingly (p : Progress) (stage : Stage) : FailsSingly (p.require stage) := by
  rw [Progress.require]
  split
  · exact .error (state_single _)
  · exact .ok _

section Files

variable {P : Failure → Prop} (told : ∀ reason, P (.emission reason))
include told

theorem classNamed_failsBy (name : String) : FailsBy P (classNamed name) := by
  rw [classNamed]
  cases ClassName.parse? name with
  | none => exact .error (told _)
  | some c => exact .ok c

/-- Only names that cannot be read are in the way of the types of a lower tier. -/
theorem childFiles_failsBy (g : ChildGenerator) (containers : ClassMap) (bindings : Bindings) :
    FailsBy P (g.generate containers bindings) := by
  have named (name : String) : FailsBy P (classNamed name) := classNamed_failsBy told name
  have injector : FailsBy P (g.injector bindings) := by
    refine .bind (named _) fun _ => .bind (named _) fun _ =>
      .bind (named _) fun _ => .bind (.mapM (fun b => ?_) _) fun _ => .ok _
    exact .bind (named _) fun _ => .bind (named _) fun _ => .ok _
  have component : FailsBy P (g.component containers) := by
    refine .bind (named _) fun _ => .bind (named _) fun _ => .bind (named _) fun _ => ?_
    -- The modules in force depend on the tier.
    cases g.tier with
    | activity =>
      exact .bind (named _) fun _ => .bind (.ok _) fun _ =>
        .bind (named _) fun _ => .bind (named _) fun _ => .ok _
    | fragment =>
      exact .bind (.ok _) fun _ => .bind (named _) fun _ => .bind (named _) fun _ => .ok _
  have helper : FailsBy P g.helper :=
    .bind (named _) fun _ => .bind (named _) fun _ => .bind (named _) fun _ =>
      .bind (named _) fun _ => .bind (named _) fun _ => .ok _
  exact injector.bind fun _ => component.bind fun _ => helper.bind fun _ => .ok _

/-- Nor is anything else in the way of the types of the application tier. -/
theorem applicationFiles_failsBy (g : ApplicationGenerator) (dispatch : Dispatch) :
    FailsBy P (g.generate dispatch) := by
  have named (name : String) : FailsBy P (classNamed name) := classNamed_failsBy told name
  have component : FailsBy P g.component :=
    .bind (named _) fun _ => .bind (named _) fun _ => .bind (named _) fun _ =>
      .bind (named _) fun _ => .bind (named _) fun _ => .ok _
  have facade : FailsBy P (g.facade dispatch) :=
    .bind (named _) fun _ => .bind (named _) fun _ => .bind (named _) fun _ =>
      .bind (named _) fun _ => .bind (named _) fun _ => .ok _
  have initializer : FailsBy P (g.initializer dispatch) :=
    .bind (named _) fun _ => .bind (named _) fun _ => facade.bind fun _ =>
      .bind (named _) fun _ => .bind (named _) fun _ => .bind (named _) fun _ => .ok _
  exact component.bind fun _ => initializer.bind fun _ => .ok _

end Files

/-! ## 5. Runs -/

theorem planTier_orderly (s : Settings) (r : Round) (root : ApplicationRoot)
    (packages : Packages) (tier : ChildTier) : (planTier s r root packages tier).IsOrderly :=
  .bind (containersAmong_orderly _ _ _ _).logged fun _ =>
  .bind (.lift (advance_failsSingly _ _)) fun _ =>
  .bind (presentersAmong_orderly _ _ _ _ _).logged fun _ =>
  .bind (.lift (advance_failsSingly _ _)) fun _ =>
  .bind (.tell _) fun _ =>
  .bind (.lift (childFiles_failsBy emission_single _ _ _)) fun _ =>
  .bind (.lift (advance_failsSingly _ _)) fun _ => .pure _

theorem plan_orderly (s : Settings) (r : Round) : (plan s r).IsOrderly := by
  refine .bind (.lift (applicationRoot_failsSingly _ _)) fun _ =>
    .bind (planTier_orderly _ _ _ _ _) fun _ =>
    .bind (planTier_orderly _ _ _ _ _) fun _ =>
    .bind (.say ?_) fun _ =>
    .bind (.tell _) fun _ =>
    .bind (.lift (advance_failsSingly _ _)) fun _ =>
    .bind (.lift (require_failsSingly _ _)) fun _ =>
    .bind (.lift (require_failsSingly _ _)) fun _ =>
    .bind (.lift (advance_failsSingly _ _)) fun _ =>
    .bind (.lift (applicationFiles_failsBy emission_single _ _)) fun _ =>
    .bind (.lift (advance_failsSingly _ _)) fun _ =>
    .bind (.lift (.mapError ?_)) fun _ => .pure _
  · simp [AreMild]
    rfl
  · intro fault
    cases fault <;> exact emission_single _

theorem fileAll_orderly {σ : Type} (filer : Filer σ) (fs : List SourceFile) (state : σ) :
    (fileAll filer fs state).1.IsOrderly := by
  induction fs generalizing state with
  | nil => exact .pure []
  | cons f fs ih =>
    rw [fileAll]
    split
    · exact .fail (emission_single _)
    · exact .bind (.tell _) fun _ => .bind (ih _) fun _ => .pure _

/-- A run logs notes and warnings, and if it fails, one error tells why. -/
theorem generate_orderly {σ : Type} (s : Settings) (filer : Filer σ) (r : Round) (state : σ) :
    (generate s filer r state).1.IsOrderly := by
  have planned := plan_orderly s r
  rw [generate]
  split
  · next e h => exact ⟨planned.mild, .error (planned.single e h)⟩
  · next p h =>
    refine .bind planned fun q => .bind (fileAll_orderly _ _ _) fun _ =>
      .bind (.lift ?_) fun _ => .pure _
    exact .bind (advance_failsSingly _ _) fun _ => .bind (advance_failsSingly _ _) fun _ =>
      .bind (advance_failsSingly _ _) fun _ => .ok _

end ComponentWiring
