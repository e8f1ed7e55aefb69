/-
ComponentWiring.Proofs.Run.Once — sources are generated at most once.

* `Call`, `Coordinator.call` — one call of a coordinator, with the filer it is given.
* `Step`, `Coordinator.run` — a history of calls, each with what it came to.
* `Coordinator.call_cases` — what one call can come to: it is skipped, it generates, it fails.
* `Coordinator.run_generates_once` — what a whole history can come to.

The invariant of a history is the list of processed applications: it is empty until a call
succeeds, and no call succeeds from then on.
-/
import ComponentWiring.Proofs.Run.Messages

namespace ComponentWiring

open Java

/-! ## 1. Histories -/

/-- A call of a coordinator. Every call may bring a filer of its own kind. -/
structure Call where
  {σ : Type}
  filer : Filer σ
  /-- What the filer holds before the call. -/
  state : σ
  /-- The annotations the round is said to carry; if nothing is said, those it does carry. -/
  annotations : Option (List String) := none
  round : Round

namespace Coordinator

/-- A coordinator that was not called yet. -/
def start (settings : Settings) (registry : Registry := .empty) (bus : Option Bus := none) :
    Coordinator :=
  { settings, registry, bus }

/-- Carries a call out. -/
def call (c : Coordinator) (k : Call) : RunReport × Coordinator × k.σ :=
  match k.annotations with
  | some annotations => c.process k.filer annotations k.round k.state
  | none => c.processRound k.filer k.round k.state

end Coordinator

/-- A call that was carried out. -/
structure Step where
  call : Call
  before : Coordinator
  report : RunReport
  after : Coordinator
  /-- What the filer holds after the call. -/
  filed : call.σ

namespace Coordinator

/-- Carries a call out and records it. -/
def step (c : Coordinator) (k : Call) : Step :=
  ⟨k, c, (c.call k).1, (c.call k).2.1, (c.call k).2.2⟩

/-- Carries calls out one after the other. -/
def run (c : Coordinator) : List Call → List Step
  | [] => []
  | k :: ks => c.step k :: run (c.step k).after ks

end Coordinator

/-! ## 2. What a call can come to -/

namespace Step

/-- Nothing happened: neither the filer nor what is remembered has changed. -/
structure IsSkipped (x : Step) : Prop where
  skipped : x.report.skipped = true
  diagnostics : x.report.diagnostics = []
  files : x.report.files = []
  application : x.report.application = none
  initializer : x.report.initializer = none
  filed : x.filed = x.call.state
  processed : x.after.processed = x.before.processed
  registry : x.after.registry = x.before.registry

/-- The initializer of the application was generated, and that is remembered. -/
structure HasGenerated (x : Step) (root creator : String) : Prop where
  worked : x.report.skipped = false
  diagnostics : AreMild x.report.diagnostics
  application : x.report.application = some root
  initializer : x.report.initializer = some creator
  processed : x.after.processed = x.before.processed ++ [root]
  registry : x.after.registry = x.before.registry.insert root creator

/-- One error came last, and nothing is remembered of the call. -/
structure HasFailed (x : Step) : Prop where
  worked : x.report.skipped = false
  diagnostics : ∃ notes d, x.report.diagnostics = notes ++ [d] ∧ AreMild notes ∧ d.isError = true
  files : x.report.files = []
  application : x.report.application = none
  initializer : x.report.initializer = none
  processed : x.after.processed = x.before.processed
  registry : x.after.registry = x.before.registry

theorem IsSkipped.not_succeeded {x : Step} (h : x.IsSkipped) : x.report.succeeded = false := by
  simp [RunReport.succeeded, h.skipped]

theorem HasFailed.not_succeeded {x : Step} (h : x.HasFailed) : x.report.succeeded = false := by
  simp [RunReport.succeeded, h.initializer]

theorem HasGenerated.errors_eq {x : Step} {root creator : String}
    (h : x.HasGenerated root creator) : x.report.errors = 0 :=
  h.diagnostics.errorCount_eq

theorem HasGenerated.succeeded {x : Step} {root creator : String}
    (h : x.HasGenerated root creator) : x.report.succeeded = true := by
  simp [RunReport.succeeded, RunReport.hasErrors, h.worked, h.errors_eq, h.initializer]

theorem HasFailed.errors_eq {x : Step} (h : x.HasFailed) : x.report.errors = 1 := by
  obtain ⟨notes, d, ends, mild, bad⟩ := h.diagnostics
  have none_before : notes.countP (·.isError) = 0 := mild.errorCount_eq
  rw [RunReport.errors, errorCount, ends, List.countP_append, none_before]
  simp [bad]

end Step

namespace Coordinator

/-! ## 3. One call -/

/-- Whether a call has nothing to do. -/
def IsIdle (c : Coordinator) (annotations : List String) : Prop :=
  (annotations.isEmpty || !c.processed.isEmpty) = true

/-- The annotations a call is about. -/
def carried (c : Coordinator) (k : Call) : List String :=
  k.annotations.getD (k.round.markersPresent c.settings.framework.markers)

theorem call_eq_process (c : Coordinator) (k : Call) :
    c.call k = c.process k.filer (c.carried k) k.round k.state := by
  unfold call carried
  cases k.annotations <;> rfl

theorem process_of_idle {σ : Type} {c : Coordinator} {annotations : List String}
    (h : c.IsIdle annotations) (filer : Filer σ) (r : Round) (state : σ) :
    c.process filer annotations r state =
      ({ round := c.rounds + 1, skipped := true },
        { c with rounds := c.rounds + 1 }.publish
          [.roundStarted (c.rounds + 1), .roundSkipped (c.rounds + 1)], state) := by
  unfold process
  exact if_pos h

/-- What is remembered after a run. -/
def afterRun (c : Coordinator) (result : Except Failure Generated) : Coordinator :=
  match result with
  | .ok g => { c with rounds := c.rounds + 1 }.remember g
  | .error _ => { c with rounds := c.rounds + 1 }

theorem process_eq_of_work {σ : Type} {c : Coordinator} {annotations : List String}
    (h : ¬ c.IsIdle annotations) (filer : Filer σ) (r : Round) (state : σ) :
    let n := c.rounds + 1
    let run := generate c.settings filer r state
    let told := conclude n run.1
    c.process filer annotations r state =
      (told.1, (c.afterRun run.1.result).publish (.roundStarted n :: told.2.news
        ++ [.roundCompleted n told.1.files.length told.1.errors]), run.2) := by
  unfold process
  exact if_neg h

theorem process_of_work {σ : Type} {c : Coordinator} {annotations : List String}
    (h : ¬ c.IsIdle annotations) (filer : Filer σ) (r : Round) (state : σ) :
    let run := generate c.settings filer r state
    ∃ news, c.process filer annotations r state =
      ((conclude (c.rounds + 1) run.1).1, (c.afterRun run.1.result).publish news, run.2) :=
  ⟨_, process_eq_of_work h filer r state⟩

/-- A call succeeds when it has work to do and the run has a result. -/
theorem process_succeeded_iff {σ : Type} (c : Coordinator) (filer : Filer σ)
    (annotations : List String) (r : Round) (state : σ) :
    (c.process filer annotations r state).1.succeeded = true ↔
      ¬ c.IsIdle annotations ∧ ∃ g, (generate c.settings filer r state).1.result = .ok g := by
  by_cases idle : c.IsIdle annotations
  · rw [process_of_idle idle]
    simp [RunReport.succeeded, idle]
  · have orderly := generate_orderly c.settings filer r state
    obtain ⟨news, called⟩ := process_of_work idle filer r state
    rw [called]
    unfold conclude
    cases h : (generate c.settings filer r state).1.result with
    | ok g =>
      have quiet : errorCount (generate c.settings filer r state).1.log.diagnostics = 0 :=
        orderly.mild.errorCount_eq
      simp [RunReport.succeeded, RunReport.hasErrors, RunReport.errors, quiet, idle]
    | error f => simp [RunReport.succeeded]

/-- A call reports an error when it has work to do and the run fails. -/
theorem process_hasErrors_iff {σ : Type} (c : Coordinator) (filer : Filer σ)
    (annotations : List String) (r : Round) (state : σ) :
    (c.process filer annotations r state).1.hasErrors = true ↔
      ¬ c.IsIdle annotations ∧ ∃ f, (generate c.settings filer r state).1.result = .error f := by
  by_cases idle : c.IsIdle annotations
  · rw [process_of_idle idle]
    simp [RunReport.hasErrors, RunReport.errors, errorCount, idle]
  · have orderly := generate_orderly c.settings filer r state
    obtain ⟨news, called⟩ := process_of_work idle filer r state
    rw [called]
    unfold conclude
    cases h : (generate c.settings filer r state).1.result with
    | ok g =>
      have quiet : errorCount (generate c.settings filer r state).1.log.diagnostics = 0 :=
        orderly.mild.errorCount_eq
      simp [RunReport.hasErrors, RunReport.errors, quiet]
    | error f =>
      obtain ⟨d, told, bad⟩ := orderly.single f h
      simp [RunReport.hasErrors, RunReport.errors, Log.diagnostics_reportAll, told, errorCount, bad,
        idle]

/-- A call is skipped, or it generates, or it fails. -/
theorem call_cases (c : Coordinator) (k : Call) :
    (c.step k).IsSkipped ∨
      (∃ root creator, (c.step k).HasGenerated root creator) ∨
      (c.step k).HasFailed := by
  by_cases idle : c.IsIdle (c.carried k)
  · have called := (call_eq_process c k).trans (process_of_idle idle k.filer k.round k.state)
    left
    constructor <;> simp only [step, called] <;> rfl
  · right
    have orderly := generate_orderly c.settings k.filer k.round k.state
    obtain ⟨news, called⟩ := process_of_work idle k.filer k.round k.state
    rw [← call_eq_process] at called
    cases h : (generate c.settings k.filer k.round k.state).1.result with
    | ok g =>
      left
      refine ⟨g.application, g.initializer, ?_⟩
      simp only [conclude, afterRun, h] at called
      constructor <;> simp only [step, called]
      · exact orderly.mild
      all_goals rfl
    | error f =>
      right
      simp only [conclude, afterRun, h] at called
      obtain ⟨d, told, bad⟩ := orderly.single f h
      refine ⟨?_, ⟨_, d, ?_, orderly.mild, bad⟩, ?_, ?_, ?_, ?_, ?_⟩ <;>
        simp only [step, called]
      · rw [Log.diagnostics_reportAll, told]
      all_goals rfl

theorem call_round (c : Coordinator) (k : Call) :
    (c.step k).report.round = c.rounds + 1 ∧ (c.step k).after.rounds = c.rounds + 1 ∧
      (c.step k).after.settings = c.settings := by
  by_cases idle : c.IsIdle (c.carried k)
  · have called := (call_eq_process c k).trans (process_of_idle idle k.filer k.round k.state)
    show (c.call k).1.round = _ ∧ (c.call k).2.1.rounds = _ ∧ (c.call k).2.1.settings = _
    rw [called]
    exact ⟨rfl, rfl, rfl⟩
  · obtain ⟨news, called⟩ := process_of_work idle k.filer k.round k.state
    rw [← call_eq_process] at called
    show (c.call k).1.round = _ ∧ (c.call k).2.1.rounds = _ ∧ (c.call k).2.1.settings = _
    rw [called]
    unfold conclude afterRun
    cases (generate c.settings k.filer k.round k.state).1.result <;> exact ⟨rfl, rfl, rfl⟩

/-- After a success nothing is left to do. -/
theorem call_of_processed {c : Coordinator} (h : c.processed ≠ []) (k : Call) :
    (c.step k).IsSkipped := by
  have idle : c.IsIdle (c.carried k) := by simp [IsIdle, h]
  rcases call_cases c k with done | ⟨_, _, done⟩ | done
  · exact done
  all_goals
    have called := (call_eq_process c k).trans (process_of_idle idle k.filer k.round k.state)
    have worked := done.worked
    simp [step, called] at worked

/-- A call depends on the settings and the guard only, up to the number of the round. -/
theorem call_agree (c c' : Coordinator) (sameSettings : c.settings = c'.settings)
    (sameGuard : c.processed = c'.processed) (k : Call) :
    (c.call k).1 = { (c'.call k).1 with round := c.rounds + 1 } ∧
      (c.call k).2.2 = (c'.call k).2.2 := by
  have sameCarried : c.carried k = c'.carried k := by rw [carried, carried, sameSettings]
  rw [call_eq_process, call_eq_process, ← sameCarried]
  by_cases idle : c.IsIdle (c.carried k)
  · have idle' : c'.IsIdle (c.carried k) := by rwa [IsIdle, ← sameGuard]
    rw [process_of_idle idle, process_of_idle idle']
    exact ⟨rfl, rfl⟩
  · have work' : ¬ c'.IsIdle (c.carried k) := by rwa [IsIdle, ← sameGuard]
    obtain ⟨news, called⟩ := process_of_work idle k.filer k.round k.state
    obtain ⟨news', called'⟩ := process_of_work work' k.filer k.round k.state
    rw [called, called', sameSettings]
    refine ⟨?_, rfl⟩
    unfold conclude
    cases (generate c'.settings k.filer k.round k.state).1.result <;> rfl

/-! ## 4. Histories of calls -/

theorem countP_le_one {α : Type _} {p : α → Bool} {l : List α}
    (h : l.Pairwise fun x y => p x = true → p y = false) : l.countP p ≤ 1 := by
  induction h with
  | nil => exact Nat.zero_le 1
  | @cons x l first rest ih =>
    by_cases hx : p x = true
    · have none_later : l.countP p = 0 := by
        rw [List.countP_eq_zero]
        intro y hy
        simp [first y hy hx]
      have once : (x :: l).countP p = 1 := by
        rw [List.countP_cons_of_pos hx, none_later]
      exact Nat.le_of_eq once
    · rw [List.countP_cons_of_neg hx]
      exact ih

theorem run_calls (c : Coordinator) (ks : List Call) : (c.run ks).map (·.call) = ks := by
  induction ks generalizing c with
  | nil => rfl
  | cons k ks ih => exact congrArg (k :: ·) (ih _)

/-- What holds of every call holds of every call of a history. -/
theorem forall_mem_run {P : Step → Prop} (h : ∀ c k, P (step c k)) (c : Coordinator)
    (ks : List Call) : ∀ x ∈ c.run ks, P x := by
  induction ks generalizing c with
  | nil => simp [run]
  | cons k ks ih =>
    intro x hx
    rcases List.mem_cons.mp hx with rfl | hx
    · exact h c k
    · exact ih _ x hx

theorem run_cases (c : Coordinator) (ks : List Call) :
    ∀ x ∈ c.run ks, x.IsSkipped ∨
      (∃ root creator, x.HasGenerated root creator) ∨ x.HasFailed :=
  forall_mem_run call_cases c ks

theorem run_round {c : Coordinator} {ks : List Call} {i : Nat} {x : Step}
    (h : (c.run ks)[i]? = some x) : x.report.round = c.rounds + i + 1 := by
  induction ks generalizing c i with
  | nil => simp [run] at h
  | cons k ks ih =>
    cases i with
    | zero =>
      obtain rfl : c.step k = x := by simpa [run] using h
      exact (call_round c k).1
    | succ i =>
      have later := ih (c := (c.step k).after) (i := i) (by simpa [run] using h)
      rw [later, (call_round c k).2.1]
      omega

/-- Once an application is processed, every call is skipped. -/
theorem run_of_processed {c : Coordinator} (h : c.processed ≠ []) (ks : List Call) :
    ∀ x ∈ c.run ks, x.IsSkipped := by
  induction ks generalizing c with
  | nil => simp [run]
  | cons k ks ih =>
    have skipped := call_of_processed h k
    intro x hx
    rcases List.mem_cons.mp hx with rfl | hx
    · exact skipped
    · refine ih ?_ x hx
      rw [skipped.processed]
      exact h

/-- The calls after a success are skipped. -/
theorem run_after_success (c : Coordinator) (ks : List Call) :
    (c.run ks).Pairwise fun x y => x.report.succeeded = true → y.IsSkipped := by
  induction ks generalizing c with
  | nil => exact .nil
  | cons k ks ih =>
    -- Only a success sets the guard, and nothing clears it.
    refine .cons (fun y hy succeeded => ?_) (ih _)
    rcases call_cases c k with done | ⟨_, _, done⟩ | done
    · rw [done.not_succeeded] at succeeded
      contradiction
    · refine run_of_processed ?_ ks y hy
      rw [done.processed]
      simp
    · rw [done.not_succeeded] at succeeded
      contradiction

/-- Until a call succeeds, the guard and the settings stay as they are. -/
theorem run_before_success {c : Coordinator} {ks : List Call} {i : Nat} {x : Step}
    (h : (c.run ks)[i]? = some x)
    (unsuccessful : ∀ y ∈ (c.run ks).take i, y.report.succeeded = false) :
    x.report = (x.before.call x.call).1 ∧ x.filed = (x.before.call x.call).2.2 ∧
      x.before.settings = c.settings ∧ x.before.processed = c.processed ∧
      x.before.rounds = c.rounds + i := by
  induction ks generalizing c i with
  | nil => simp [run] at h
  | cons k ks ih =>
    cases i with
    | zero =>
      obtain rfl : c.step k = x := by simpa [run] using h
      exact ⟨rfl, rfl, rfl, rfl, rfl⟩
    | succ i =>
      have kept : (c.step k).after.processed = c.processed := by
        rcases call_cases c k with done | ⟨_, _, done⟩ | done
        · exact done.processed
        · have failed := unsuccessful (c.step k) (by simp [run])
          rw [done.succeeded] at failed
          contradiction
        · exact done.processed
      obtain ⟨report, filed, settings, processed, rounds⟩ :=
        ih (c := (c.step k).after) (i := i) (by simpa [run] using h)
          fun y hy => unsuccessful y (by simp [run, hy])
      have counted := (call_round c k).2
      refine ⟨report, filed, settings.trans counted.2, processed.trans kept, ?_⟩
      rw [rounds, counted.1]
      omega

/-- In every history of a new coordinator, reports carry the number of their call; at most one
of them tells of a success, and the calls after it are skipped; every other call is skipped,
fails with one error that comes last, or is that success; and up to its success the
coordinator answers as a new one would. -/
theorem run_generates_once (settings : Settings) (registry : Registry) (bus : Option Bus)
    (calls : List Call) :
    let steps := (start settings registry bus).run calls
    steps.map (·.call) = calls ∧
    (∀ i x, steps[i]? = some x → x.report.round = i + 1) ∧
    steps.countP (·.report.succeeded) ≤ 1 ∧
    (steps.Pairwise fun x y => x.report.succeeded = true → y.IsSkipped) ∧
    (∀ x ∈ steps, x.IsSkipped ∨
      (∃ root creator, x.HasGenerated root creator ∧
        x.report.succeeded = true ∧ x.report.errors = 0) ∨
      x.HasFailed ∧ x.report.succeeded = false ∧ x.report.errors = 1) ∧
    ∀ i x, steps[i]? = some x → (∀ y ∈ steps.take i, y.report.succeeded = false) →
      ∀ registry' bus', let fresh := (start settings registry' bus').call x.call
        x.report = { fresh.1 with round := i + 1 } ∧ x.filed = fresh.2.2 := by
  intro steps
  have once := run_after_success (start settings registry bus) calls
  refine ⟨run_calls _ _, ?_, ?_, once, ?_, ?_⟩
  · intro i x h
    rw [run_round h]
    exact congrArg (· + 1) (Nat.zero_add i)
  · exact countP_le_one (once.imp fun h succeeded => (h succeeded).not_succeeded)
  · intro x hx
    rcases run_cases _ _ x hx with skipped | ⟨root, creator, generated⟩ | failed
    · exact .inl skipped
    · exact .inr (.inl ⟨root, creator, generated, generated.succeeded,
        generated.errors_eq⟩)
    · exact .inr (.inr ⟨failed, failed.not_succeeded, failed.errors_eq⟩)
  · intro i x h unsuccessful registry' bus' fresh
    obtain ⟨report, filed, sameSettings, sameGuard, rounds⟩ := run_before_success h unsuccessful
    have agree := call_agree x.before (start settings registry' bus') sameSettings sameGuard x.call
    have numbered : x.before.rounds + 1 = i + 1 := by
      rw [rounds]
      exact congrArg (· + 1) (Nat.zero_add i)
    rw [report, filed, agree.1, agree.2, numbered]
    exact ⟨rfl, rfl⟩

end Coordinator

end ComponentWiring
