/-
ComponentWiring.Proofs.Run.News — what subscribers are told of a call.

* `Event.class?`, `Event.emitted?` — the class and the path that an event is about.
* `tierClasses` — the classes of a tier in the order in which they are told.
* `Step.IsToldBy` — what the news of a call say about its report.
* `Coordinator.call_bus`, `Coordinator.call_tells_report` — a call publishes such news, and every
  subscription that is held gets them.

News come from the searches, the planning and the filing, while the report is put together at the
end. The log is what both are made from.
-/
import ComponentWiring.Proofs.Run.Logs
import ComponentWiring.Proofs.Run.Staging

namespace ComponentWiring

open Java

/-! ## 1. Events -/

/-- The class that became part of a tier, with the tier. -/
def Event.class? : Event → Option (Tier × String)
  | .classProcessed tier name => some (tier, name)
  | _ => none

/-- The path under which a file was accepted, if the event is about a file. -/
def Event.emitted? : Event → Option (Option Path)
  | .fileEmitted _ _ path => some path
  | _ => none

/-- What events about rounds do not tell is told in between. -/
theorem filterMap_round {α : Type} {f : Event → Option α}
    (started : ∀ n, f (.roundStarted n) = none)
    (completed : ∀ n files errors, f (.roundCompleted n files errors) = none)
    (n files errors : Nat) (within : List Event) :
    (Event.roundStarted n :: within ++ [Event.roundCompleted n files errors]).filterMap f =
      within.filterMap f := by
  rw [List.cons_append, List.filterMap_cons_none (started n), List.filterMap_append,
    List.filterMap_cons_none (completed n files errors), List.filterMap_nil, List.append_nil]

/-- The classes of a tier in the order in which they are told: its containers in the order of their
discovery, then the presenters that are left bound. -/
def tierClasses (s : Settings) (r : Round) (tier : ChildTier) : List (Tier × String) :=
  ((containersOf s r tier).found.names ++ (presentersOf s r tier).found.values).map (tier.tier, ·)

theorem class?_tierLog (s : Settings) (r : Round) (tier : ChildTier) :
    (tierLog s r tier).news.filterMap Event.class? = tierClasses s r tier := by
  have others (ds : List Diagnostic) : (ds.map Event.diagnostic).filterMap Event.class? = [] := by
    simp [Event.class?]
  have told (names : List String) : (names.map (Event.classProcessed tier.tier)).filterMap
      Event.class? = names.map (tier.tier, ·) := by
    simp [Event.class?, Function.comp_def]
  simp [tierLog, tierNews, tierClasses, others, told]

theorem emitted?_tierLog (s : Settings) (r : Round) (tier : ChildTier) :
    (tierLog s r tier).news.filterMap Event.emitted? = [] := by
  simp [tierLog, tierNews, Event.emitted?]

theorem class?_planLog (s : Settings) (r : Round) (root : AnnotatedClass) :
    (planLog s r root).news.filterMap Event.class? =
      tierClasses s r .fragment ++ tierClasses s r .activity
        ++ [(.application, root.qualifiedName)] := by
  simp only [planLog, Log.news_append, List.filterMap_append, class?_tierLog, List.append_assoc]
  rfl

theorem emitted?_planLog (s : Settings) (r : Round) (root : AnnotatedClass) :
    (planLog s r root).news.filterMap Event.emitted? = [] := by
  simp [planLog, emitted?_tierLog, Event.emitted?]

theorem class?_filingNews (fs : List SourceFile) (paths : List Path) :
    (filingNews fs paths).filterMap Event.class? = [] := by
  induction fs generalizing paths with
  | nil => rfl
  | cons f fs ih =>
    cases paths with
    | nil => rfl
    | cons path paths => exact ih paths

theorem emitted?_filingNews {fs : List SourceFile} {paths : List Path}
    (same : paths.length = fs.length) :
    (filingNews fs paths).filterMap Event.emitted? = paths.map some := by
  induction fs generalizing paths with
  | nil => rw [List.eq_nil_of_length_eq_zero same, filingNews, List.zipWith_nil_left]; rfl
  | cons f fs ih =>
    cases paths with
    | nil => rfl
    | cons path paths => exact congrArg (some path :: ·) (ih (Nat.succ.inj same))

/-- What the news of a successful run say about classes and files. -/
theorem news_generate {σ : Type} {s : Settings} {filer : Filer σ} {r : Round} {state : σ}
    {g : Generated} (h : (generate s filer r state).1.result = .ok g) :
    let news := (generate s filer r state).1.log.news
    news.filterMap Event.class? = tierClasses s r .fragment ++ tierClasses s r .activity
        ++ [(.application, g.application)] ∧
      news.filterMap Event.emitted? = g.files.map some := by
  obtain ⟨p, _, application, filed, log⟩ := log_generate h
  simp only [log, Log.news_append, Log.news_ofNews, List.filterMap_append, class?_planLog,
    class?_filingNews, emitted?_planLog, emitted?_filingNews (log_fileAll filed).2, List.append_nil,
    List.nil_append, application]
  exact ⟨trivial, trivial⟩

/-! ## 2. Calls -/

/-- What the news of a call say about its report. -/
structure Step.IsToldBy (x : Step) (news : List Event) : Prop where
  /-- A skipped call has no other news. -/
  skipped : x.report.skipped = true →
    news = [.roundStarted x.report.round, .roundSkipped x.report.round]
  /-- Any other call is told from its start to its end, and neither is told again. -/
  worked : x.report.skipped = false → ∃ within,
    news = .roundStarted x.report.round :: within
      ++ [.roundCompleted x.report.round x.report.files.length x.report.errors] ∧
    ∀ e ∈ within, e.isOfRound = false
  diagnostics : news.filterMap Event.diagnostic? = x.report.diagnostics
  /-- Every file is told, with the path under which it was accepted. -/
  files : x.report.succeeded = true → news.filterMap Event.emitted? = x.report.files.map some
  /-- Every class is told: those of the fragment tier, those of the activity tier, and the
  application. -/
  classes : x.report.succeeded = true → ∃ root, x.report.application = some root ∧
    news.filterMap Event.class? = tierClasses x.before.settings x.call.round .fragment
      ++ tierClasses x.before.settings x.call.round .activity ++ [(.application, root)]

namespace Coordinator

/-- A report has the messages of its log, and the log tells them. -/
theorem conclude_faithful {n : Nat} {run : Logged Generated} (h : run.IsFaithful) :
    (conclude n run).2.IsFaithful ∧
      (conclude n run).1.diagnostics = (conclude n run).2.diagnostics ∧
      (conclude n run).1.skipped = false ∧ (conclude n run).1.round = n := by
  unfold conclude
  cases run.result with
  | ok g => exact ⟨h, rfl, rfl, rfl⟩
  | error f => exact ⟨Log.IsFaithful.reportAll h _, rfl, rfl, rfl⟩

theorem bus_afterRun (c : Coordinator) (result : Except Failure Generated) :
    (c.afterRun result).bus = c.bus := by
  cases result <;> rfl

/-- A call publishes news that tell its report. -/
theorem call_bus (c : Coordinator) (k : Call) :
    ∃ news, (c.call k).2.1.bus = c.bus.map (·.publish news) ∧ (c.step k).IsToldBy news := by
  by_cases idle : c.IsIdle (c.carried k)
  · have called := (call_eq_process c k).trans (process_of_idle idle k.filer k.round k.state)
    refine ⟨_, congrArg (·.2.1.bus) called, ?_⟩
    constructor <;> simp [step, called, Event.diagnostic?, RunReport.succeeded]
  · have called := (call_eq_process c k).trans (process_eq_of_work idle k.filer k.round k.state)
    have succeeds := process_succeeded_iff c k.filer (c.carried k) k.round k.state
    rw [← call_eq_process] at succeeds
    obtain ⟨faithful, same, worked, round⟩ := conclude_faithful (n := c.rounds + 1)
      (generate_faithful c.settings k.filer k.round k.state)
    have published := congrArg (·.2.1.bus) called
    refine ⟨_, published.trans (congrArg (Option.map _) (bus_afterRun c _)), ?_⟩
    have report : (c.step k).report = _ := congrArg (·.1) called
    constructor
    · intro skipped
      rw [report, worked] at skipped
      cases skipped
    · intro _
      rw [report, round]
      exact ⟨_, rfl, faithful.within⟩
    · rw [filterMap_round (f := Event.diagnostic?) (fun _ => rfl) fun _ _ _ => rfl, faithful.told,
        report, same]
    · intro succeeded
      obtain ⟨_, g, result⟩ := succeeds.mp succeeded
      rw [filterMap_round (f := Event.emitted?) (fun _ => rfl) fun _ _ _ => rfl, report]
      simp only [conclude, result, (news_generate result).2]
    · intro succeeded
      obtain ⟨_, g, result⟩ := succeeds.mp succeeded
      refine ⟨g.application, ?_, ?_⟩
      · rw [report]
        simp only [conclude, result]
      · rw [filterMap_round (f := Event.class?) (fun _ => rfl) fun _ _ _ => rfl]
        simp only [conclude, result, (news_generate result).1]
        rfl

/-- Every subscription that is held at a call gets the same news of it, behind those that wait, and
they tell the report of the call, which carries its number. -/
theorem call_tells_report (c : Coordinator) (k : Call) {bus : Bus} (attached : c.bus = some bus) :
    ∃ news bus', (c.call k).2.1.bus = some bus' ∧
      (∀ i, (bus.held? i).isSome → bus'.waiting i = bus.waiting i ++ news) ∧
      (c.step k).report.round = c.rounds + 1 ∧ (c.step k).IsToldBy news := by
  obtain ⟨news, published, told⟩ := call_bus c k
  refine ⟨news, bus.publish news, ?_, fun i held => bus.waiting_publish news i held,
    (call_round c k).1, told⟩
  rw [published, attached]
  rfl

/-- Somebody who has subscribed before the first round is told of its success. -/
theorem call_tells_report_of_one_activity :
    let c := start {} .empty (some Bus.empty.subscribe)
    let k : Call :=
      ⟨SourceSet.filer, .empty 4, none, sampleRound [sampleActivity "com.example.Main"]⟩
    c.bus = some Bus.empty.subscribe ∧ (c.call k).1.succeeded = true ∧
      ∃ news bus', (c.call k).2.1.bus = some bus' ∧ bus'.waiting 0 = news ∧
        (c.step k).IsToldBy news := by
  intro c k
  obtain ⟨p, planned⟩ := oneActivity_planned
  obtain ⟨news, bus', attached, waiting, _, told⟩ :=
    call_tells_report c k (rfl : c.bus = some Bus.empty.subscribe)
  exact ⟨rfl, start_succeeds_of_plan planned (by decide +kernel) .empty _ 4, news, bus', attached,
    waiting 0 rfl, told⟩

end Coordinator

end ComponentWiring
