/-
ComponentWiring.Proofs.Run.Turns — no tier is ever out of turn.

* `Failure.IsOrdinary` — a failure that the classes, the names or the filer give reason for.
* `planTierFreely`, `planFreely`, `generateFreely` — the same work if nobody asks whose turn it is.
* `planTier_eq_freely`, `plan_eq_freely`, `generate_eq_freely` — asking makes no difference.
* `applicationRoot_ordinary` — the application that is found is annotated if it is looked up again.
* `generate_ordinary` — every run that fails has an ordinary reason.
* `Coordinator.run_stays_in_turn` — so no report in a history is about the order or the inside.

A rejected turn would be a failure of the run, which nothing recovers from. So that each turn is
accepted follows from both: free work comes to the same, and it has no failure of that kind.
-/
import ComponentWiring.Proofs.Discovery.Root
import ComponentWiring.Proofs.Run.Emitted
import ComponentWiring.Proofs.Run.Filing
import ComponentWiring.Proofs.Run.Once

namespace ComponentWiring

open Java

/-! ## 1. Ordinary failures -/

/-- The failure is about an element, about the lack of an application, or about sources. -/
inductive Failure.IsOrdinary : Failure → Prop
  | misuse (element message : String) : IsOrdinary (.misuse (some element) message)
  | noApplication (marker : String) : IsOrdinary (RootFault.missing.toFailure marker)
  | violations (element : String) (messages : List String) :
    IsOrdinary (.violations element messages)
  | emission (reason : String) : IsOrdinary (.emission reason)

namespace Failure.IsOrdinary

variable {f : Failure}

theorem not_state (h : f.IsOrdinary) (reason : String) : f ≠ .state reason := by
  rintro rfl
  cases h

theorem not_internal (h : f.IsOrdinary) (reason : String) : f ≠ .internal reason := by
  rintro rfl
  cases h

end Failure.IsOrdinary

/-- The message tells of a tier that is out of turn, or of an internal error. -/
def Diagnostic.IsInternal (d : Diagnostic) : Prop :=
  ∃ reason, d = .error (Failure.state reason).userText ∨
    d = .error (Failure.internal reason).userText

theorem append_ne_of_head {p q a b : String} {c d : Char} (hp : p.toList.head? = some c)
    (hq : q.toList.head? = some d) (apart : c ≠ d) : p ++ a ≠ q ++ b := by
  intro same
  have heads := congrArg List.head? (congrArg String.toList same)
  rw [String.toList_append, String.toList_append, List.head?_append, List.head?_append, hp, hq]
    at heads
  exact apart (Option.some.inj heads)

/-- A message about no element that starts with another letter tells of something else. -/
theorem not_isInternal_of_head {p a : String} {c : Char} (hp : p.toList.head? = some c)
    (other : c ≠ 'I') : ¬ (Diagnostic.error (p ++ a)).IsInternal := by
  have apart {q b : String} (hq : q.toList.head? = some 'I') :
      Diagnostic.error (p ++ a) ≠ .error (q ++ b) := by
    intro same
    exact append_ne_of_head hp hq other (congrArg Diagnostic.message same)
  rintro ⟨reason, same | same⟩
  · exact apart (by decide) same
  · exact apart (by decide) same

theorem not_isInternal_of_element {message element : String} :
    ¬ (Diagnostic.error message (some element)).IsInternal := by
  rintro ⟨reason, same | same⟩ <;>
    cases congrArg Diagnostic.element same

/-- An ordinary failure is never told in the words of an internal one. -/
theorem Failure.IsOrdinary.not_told {f : Failure} (h : f.IsOrdinary) :
    ∀ d ∈ f.diagnostics, ¬ d.IsInternal := by
  intro d hd
  cases h with
  | misuse element message =>
    cases List.mem_singleton.mp hd
    exact not_isInternal_of_element
  | noApplication marker =>
    cases List.mem_singleton.mp hd
    exact not_isInternal_of_head (c := 'Y') (by decide) (by decide)
  | violations element messages =>
    obtain ⟨message, _, rfl⟩ := List.mem_map.mp hd
    exact not_isInternal_of_element
  | emission reason =>
    cases List.mem_singleton.mp hd
    exact not_isInternal_of_head (c := 'C') (by decide) (by decide)

/-! ## 2. Work without turns -/

namespace Logged

variable {α β : Type}

@[simp] theorem lift_ok_bind (a : α) (f : α → Logged β) :
    ((liftM (Except.ok a : Except Failure α) : Logged α) >>= f) = f a := rfl

/-- What follows needs to agree on results only. -/
theorem bind_congr_of_ok {x : Logged α} {f g : α → Logged β}
    (h : ∀ a, x.result = .ok a → f a = g a) : (x >>= f) = (x >>= g) := by
  obtain ⟨log, result⟩ := x
  cases result with
  | error e => rfl
  | ok a =>
    show (⟨log ++ (f a).log, (f a).result⟩ : Logged β) = ⟨log ++ (g a).log, (g a).result⟩
    rw [h a rfl]

end Logged

/-- The stages after the start, in the order in which a plan enters them. -/
def Stage.planned : List Stage := [.containersDiscovered, .presentersDiscovered, .componentsEmitted]

/-- Enters stages one after the other. -/
def Progress.follow (p : Progress) (stages : List Stage) : Except Failure Progress :=
  stages.foldlM Progress.advance p

/-- What is planned for a tier when nobody asks whose turn it is. -/
def planTierFreely (s : Settings) (r : Round) (root : ApplicationRoot) (packages : Packages)
    (tier : ChildTier) : Logged TierPlan := do
  let containers ← Logged.ofFindings (containersOf s r tier)
  let bindings ← Logged.ofFindings (presentersOf s r tier)
  Logged.tell (tierNews tier containers bindings)
  let generator := childGenerator s root packages tier
  let files ← generator.generate containers bindings
  return { tier, containers, bindings, component := generator.componentName, files
           progress := ⟨tier.tier, .componentsEmitted⟩ }

/-- What is planned when nobody asks whose turn it is. -/
def planFreely (s : Settings) (r : Round) : Logged Plan := do
  let root ← applicationRoot s.framework r
  let packages := packagesOf s root
  let fragment ← planTierFreely s r root packages .fragment
  let activity ← planTierFreely s r root packages .activity
  Logged.say [.note ("Processing class " ++ root.root.simpleName)]
  Logged.tell [.classProcessed .application root.root.qualifiedName]
  let dispatch := dispatchOf s activity fragment
  let generator : ApplicationGenerator := ⟨s, packages, root⟩
  let own ← generator.generate dispatch
  let files := fragment.files.toList ++ activity.files.toList ++ own
  (checkBatch files dispatch).mapError BatchFault.toFailure
  return { root, fragment, activity, dispatch, initializer := generator.initializerName, files
           progress := ⟨.application, .componentsEmitted⟩ }

/-- What a run comes to when nobody asks whose turn it is. -/
def generateFreely {σ : Type} (s : Settings) (filer : Filer σ) (r : Round) (state : σ) :
    Logged Generated × σ :=
  let planned := planFreely s r
  match planned.result with
  | .error e => (⟨planned.log, .error e⟩, state)
  | .ok p =>
    let (filed, state) := fileAll filer p.files state
    (do let p ← planned
        let files ← filed
        return { application := p.root.root.qualifiedName
                 initializer := p.initializer.canonicalName
                 files },
     state)

/-- The turns of a lower tier are all accepted. -/
theorem planTier_eq_freely (s : Settings) (r : Round) (root : ApplicationRoot)
    (packages : Packages) (tier : ChildTier) :
    planTier s r root packages tier = planTierFreely s r root packages tier := by
  -- Each stage is entered from the one before it, so all turns compute.
  rfl

/-- So are those of the application tier, which finds both lower tiers where it expects them. -/
theorem plan_eq_freely (s : Settings) (r : Round) : plan s r = planFreely s r := by
  unfold plan planFreely
  simp only [planTierAt, ← planTier_eq_freely]
  refine Logged.bind_congr_of_ok fun root _ => ?_
  refine Logged.bind_congr_of_ok fun fragment planned => ?_
  refine Logged.bind_congr_of_ok fun activity planned' => ?_
  simp only [require_of_planTier planned, require_of_planTier planned']
  rfl

/-- And all tiers can be marked as done. -/
theorem generate_eq_freely {σ : Type} (s : Settings) (filer : Filer σ) (r : Round) (state : σ) :
    generate s filer r state = generateFreely s filer r state := by
  unfold generate generateFreely
  rw [← plan_eq_freely]
  cases planned : (plan s r).result with
  | error fault => simp only [planned]
  | ok p =>
    simp only [planned]
    refine Prod.ext (Logged.bind_congr_of_ok fun q planned' => ?_) rfl
    simp only [finish_of_plan planned', Logged.lift_ok_bind]

/-- The tiers of a plan have entered their stages in order, and can enter the last one. -/
structure Plan.IsInTurn (p : Plan) : Prop where
  lower : ∀ tier, Progress.follow ⟨tier.tier, .start⟩ Stage.planned = .ok (p.lower tier).progress
  lowerDone : ∀ tier, (p.lower tier).progress.advance .done = .ok ⟨tier.tier, .done⟩
  application : Progress.follow ⟨.application, .start⟩ Stage.planned = .ok p.progress
  applicationDone : p.progress.advance .done = .ok ⟨.application, .done⟩
  finished : p.finish = .ok ()

theorem plan_isInTurn {s : Settings} {r : Round} {p : Plan} (h : (plan s r).result = .ok p) :
    p.IsInTurn := by
  have finished := finish_of_plan h
  obtain ⟨root, fragment, activity, own, _, first, second, _, _, rfl⟩ := plan_ok_iff.mp h
  obtain ⟨_, _, _, _, rfl⟩ := planTier_ok_iff.mp first
  obtain ⟨_, _, _, _, rfl⟩ := planTier_ok_iff.mp second
  refine ⟨?_, ?_, rfl, rfl, finished⟩ <;>
    intro tier <;> cases tier <;> rfl

/-! ## 3. Reasons -/

/-- The class that is found is annotated when its annotation is looked up. -/
theorem marker?_of_soleClass {r : Round} {marker : String} {t : TypeElement}
    (h : soleClass r.store (r.elementsWith marker) = .ok t) : ∃ a, t.marker? marker = some a := by
  obtain ⟨only, _⟩ := soleClass_ok_iff.mp h
  have found : .type t ∈ r.elementsWith marker := by
    rw [only]
    exact List.mem_singleton_self _
  exact marker?_of_mem_elementsWith found

theorem rootFault_ordinary (marker : String) (fault : RootFault) :
    (fault.toFailure marker).IsOrdinary := by
  cases fault with
  | missing => exact .noApplication marker
  | several second all => exact .misuse _ _
  | notAClass e => exact .misuse _ _
  | invalid t => exact .misuse _ _

theorem validate_ordinary (s : TypeStore) (e : Element) (marker : String) (checks : List Check) :
    FailsBy Failure.IsOrdinary (validate s e marker checks) := by
  rw [validate_eq]
  split
  · exact .ok ()
  · exact .error (.violations _ _)

theorem applicationRoot_ordinary (n : FrameworkNames) (r : Round) :
    FailsBy Failure.IsOrdinary (applicationRoot n r) := by
  unfold applicationRoot
  cases sole : soleClass r.store (r.elementsWith n.applicationMarker) with
  | error fault => exact .error (rootFault_ordinary _ fault)
  | ok t =>
    refine FailsBy.bind (x := validate _ _ _ _) (validate_ordinary _ _ _ _) fun _ => ?_
    obtain ⟨a, annotated⟩ := marker?_of_soleClass sole
    simp only [annotated, ApplicationRoot.ofMarker]
    split
    · exact .error (.misuse _ _)
    · exact .ok _

/-- What follows a step fails by its own failures only. -/
theorem Logged.failsBy_bind {α β : Type} {P : Failure → Prop} {x : Logged α} {f : α → Logged β}
    (hx : FailsBy P x.result) (hf : ∀ a, FailsBy P (f a).result) :
    FailsBy P (x >>= f).result := by
  rw [result_bind]
  exact FailsBy.bind hx hf

theorem planTierFreely_ordinary (s : Settings) (r : Round) (root : ApplicationRoot)
    (packages : Packages) (tier : ChildTier) :
    FailsBy Failure.IsOrdinary (planTierFreely s r root packages tier).result :=
  Logged.failsBy_bind ((containersAmong_orderly _ _ _ _).failsBy .misuse) fun _ =>
  Logged.failsBy_bind ((presentersAmong_orderly _ _ _ _ _).failsBy .misuse) fun _ =>
  Logged.failsBy_bind (.ok ()) fun _ =>
  Logged.failsBy_bind (childFiles_failsBy .emission _ _ _) fun _ => .ok _

theorem planFreely_ordinary (s : Settings) (r : Round) :
    FailsBy Failure.IsOrdinary (planFreely s r).result := by
  refine Logged.failsBy_bind (applicationRoot_ordinary _ _) fun _ =>
    Logged.failsBy_bind (planTierFreely_ordinary _ _ _ _ _) fun _ =>
    Logged.failsBy_bind (planTierFreely_ordinary _ _ _ _ _) fun _ =>
    Logged.failsBy_bind (.ok ()) fun _ =>
    Logged.failsBy_bind (.ok ()) fun _ =>
    Logged.failsBy_bind (applicationFiles_failsBy .emission _ _) fun _ =>
    Logged.failsBy_bind (.mapError ?_) fun _ => .ok _
  intro fault
  cases fault <;> exact .emission _

theorem fileAll_ordinary {σ : Type} (filer : Filer σ) (fs : List SourceFile) (state : σ) :
    FailsBy Failure.IsOrdinary (fileAll filer fs state).1.result := by
  induction fs generalizing state with
  | nil => exact .ok []
  | cons f fs ih =>
    rw [fileAll]
    split
    · exact .error (.emission _)
    · exact Logged.failsBy_bind (.ok ()) fun _ => Logged.failsBy_bind (ih _) fun _ => .ok _

/-- Every run that fails has an ordinary reason. -/
theorem generate_ordinary {σ : Type} (s : Settings) (filer : Filer σ) (r : Round) (state : σ) :
    FailsBy Failure.IsOrdinary (generate s filer r state).1.result := by
  have planned := planFreely_ordinary s r
  rw [generate_eq_freely]
  unfold generateFreely
  cases result : (planFreely s r).result with
  | error fault =>
    simp only [result]
    exact .error (planned fault result)
  | ok p =>
    simp only [result]
    exact Logged.failsBy_bind planned fun _ =>
      Logged.failsBy_bind (fileAll_ordinary _ _ _) fun _ => .ok _

/-! ## 4. Histories -/

/-- What the guards of a round ask for holds of every round. -/
structure Round.KeepsTurns (s : Settings) (r : Round) : Prop where
  /-- Work comes to the same, log and result, when nobody asks whose turn it is. -/
  tier : ∀ root packages tier,
    planTier s r root packages tier = planTierFreely s r root packages tier
  plan : ComponentWiring.plan s r = planFreely s r
  generate : ∀ {σ : Type} (filer : Filer σ) (state : σ),
    ComponentWiring.generate s filer r state = generateFreely s filer r state
  /-- The tiers of a plan have entered all their stages in order. -/
  inTurn : ∀ p, (ComponentWiring.plan s r).result = .ok p → p.IsInTurn
  /-- The class that is found as the application still has its annotation. -/
  annotated : ∀ t, soleClass r.store (r.elementsWith s.framework.applicationMarker) = .ok t →
    ∃ a, t.marker? s.framework.applicationMarker = some a
  /-- The tiers that are planned are lower ones. -/
  asked : ∀ root packages, ∀ tier : ChildTier, tier.tier.child = .ok tier ∧
    planTierAt s r root packages tier.tier = planTier s r root packages tier

theorem Round.keepsTurns (s : Settings) (r : Round) : r.KeepsTurns s where
  tier := planTier_eq_freely s r
  plan := plan_eq_freely s r
  generate filer state := generate_eq_freely s filer r state
  inTurn _ h := plan_isInTurn h
  annotated _ h := marker?_of_soleClass h
  asked _ _ tier := by cases tier <;> exact ⟨rfl, rfl⟩

namespace Coordinator

/-- What a call reports is never told in the words of an internal failure. -/
theorem not_isInternal_of_call (c : Coordinator) (k : Call) :
    ∀ d ∈ (c.step k).report.diagnostics, ¬ d.IsInternal := by
  show ∀ d ∈ (c.call k).1.diagnostics, ¬ d.IsInternal
  rw [call_eq_process]
  by_cases idle : c.IsIdle (c.carried k)
  · rw [process_of_idle idle]
    exact nofun
  · obtain ⟨news, called⟩ := process_of_work idle k.filer k.round k.state
    have mild := (generate_orderly c.settings k.filer k.round k.state).mild
    have quiet {d : Diagnostic} (h : d.isError = false) : ¬ d.IsInternal := by
      rintro ⟨reason, rfl | rfl⟩ <;> cases h
    rw [called]
    unfold conclude
    cases result : (generate c.settings k.filer k.round k.state).1.result with
    | ok g => exact fun d hd => quiet (mild d hd)
    | error f =>
      intro d hd
      simp only [Log.diagnostics_reportAll, List.mem_append] at hd
      rcases hd with hd | hd
      · exact quiet (mild d hd)
      · exact (generate_ordinary c.settings k.filer k.round k.state f result).not_told d hd

/-- In every history of any coordinator, no report tells of a tier out of turn or of an internal
error, and no run fails for such a reason. That is so because the guards of a round hold anyway: the
same is logged and comes out without them. -/
theorem run_stays_in_turn (c : Coordinator) (calls : List Call) :
    ∀ x ∈ c.run calls,
      (∀ d ∈ x.report.diagnostics, ∀ reason,
        d ≠ .error (Failure.state reason).userText ∧
        d ≠ .error (Failure.internal reason).userText) ∧
      (∀ f,
        (generate x.before.settings x.call.filer x.call.round x.call.state).1.result = .error f →
        f.IsOrdinary ∧ ∀ reason, f ≠ .state reason ∧ f ≠ .internal reason) ∧
      x.call.round.KeepsTurns x.before.settings := by
  refine forall_mem_run (fun c k => ?_) c calls
  refine ⟨fun d hd reason => ?_, fun f failed => ?_, Round.keepsTurns _ _⟩
  · have quiet := not_isInternal_of_call c k d hd
    exact ⟨fun same => quiet ⟨reason, .inl same⟩, fun same => quiet ⟨reason, .inr same⟩⟩
  · have ordinary := generate_ordinary _ _ _ _ f failed
    exact ⟨ordinary, fun reason => ⟨ordinary.not_state reason, ordinary.not_internal reason⟩⟩

/-- A call about an application, whatever the round holds. -/
def applicationCall (r : Round) : Call where
  filer := SourceSet.filer
  state := .empty 4
  annotations := some [sampleMarker]
  round := r

/-- A first call fails for want of an application, and after it one can be planned. -/
theorem run_stays_in_turn_after_noApplication :
    let first := applicationCall { store := .empty, roots := [] }
    let second := applicationCall (sampleRound [sampleActivity "com.example.Main"])
    ∃ x y, (start {}).run [first, second] = [x, y] ∧ x.report.hasErrors = true ∧
      (∀ d ∈ x.report.diagnostics, ∀ reason, d ≠ .error (Failure.internal reason).userText) ∧
      ∃ p, (plan {} y.call.round).result = .ok p ∧ p.IsInTurn := by
  intro first second
  refine ⟨(start {}).step first, ((start {}).step first).after.step second, rfl, ?_, ?_, ?_⟩
  · show ((start {}).process _ _ _ _).1.hasErrors = true
    exact (process_hasErrors_iff _ _ _ _ _).mpr ⟨by simp [IsIdle, start], _, rfl⟩
  · have held := run_stays_in_turn (start {}) [first, second] _ List.mem_cons_self
    exact fun d hd reason => (held.1 d hd reason).2
  · obtain ⟨p, planned⟩ := oneActivity_planned
    have held := run_stays_in_turn (start {}) [first, second] _
      (List.mem_cons_of_mem _ List.mem_cons_self)
    have settings : ((start {}).step first).after.settings = {} := (call_round _ _).2.2
    exact ⟨p, planned, held.2.2.inTurn p (settings ▸ planned)⟩

end Coordinator

end ComponentWiring
