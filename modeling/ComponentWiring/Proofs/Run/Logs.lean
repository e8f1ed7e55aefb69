/-
ComponentWiring.Proofs.Run.Logs — what a run logs.

* `Log.IsFaithful` — the news of a log tell its messages in order, and nothing about rounds.
* `generate_faithful` — so do the news of every run, whether it succeeds or not.
* `Logged.Logs` — what work logs if it succeeds.
* `tierLog`, `planLog`, `filingNews` — what is logged by the stages of a run that succeeds.
* `log_generate` — such a run logs these one after the other.
-/
import ComponentWiring.Proofs.Run.Filing
import ComponentWiring.Proofs.Run.Messages

namespace ComponentWiring

open Java

/-! ## 1. Logs -/

namespace Log

theorem reportAll_eq (l : Log) (ds : List Diagnostic) :
    l.reportAll ds = ⟨l.diagnostics ++ ds, l.news ++ ds.map .diagnostic⟩ := by
  induction ds generalizing l with
  | nil => simp [reportAll]
  | cons d ds ih => simpa [reportAll, report] using ih (l.report d)

theorem announceAll_eq (l : Log) (es : List Event) :
    l.announceAll es = ⟨l.diagnostics, l.news ++ es⟩ := by
  induction es generalizing l with
  | nil => simp [announceAll]
  | cons e es ih => simpa [announceAll, announce] using ih (l.announce e)

@[simp] theorem append_empty (l : Log) : l ++ ({} : Log) = l :=
  congr (congrArg Log.mk (List.append_nil _)) (List.append_nil _)

/-- A log of messages only. -/
def ofDiagnostics (ds : List Diagnostic) : Log := ⟨ds, ds.map .diagnostic⟩

/-- A log of other news only. -/
def ofNews (es : List Event) : Log := ⟨[], es⟩

@[simp] theorem diagnostics_ofDiagnostics (ds : List Diagnostic) :
    (ofDiagnostics ds).diagnostics = ds := rfl

@[simp] theorem diagnostics_ofNews (es : List Event) : (ofNews es).diagnostics = [] := rfl

@[simp] theorem news_ofDiagnostics (ds : List Diagnostic) :
    (ofDiagnostics ds).news = ds.map .diagnostic := rfl

@[simp] theorem news_ofNews (es : List Event) : (ofNews es).news = es := rfl

end Log

/-! ## 2. Faithful logs -/

/-- Whether the event tells of a round. -/
def Event.isOfRound : Event → Bool
  | .roundStarted _ | .roundSkipped _ | .roundCompleted .. => true
  | _ => false

/-- The event is neither a message nor about a round. -/
def Event.IsOther (e : Event) : Prop := e.diagnostic? = none ∧ e.isOfRound = false

/-- The news are the messages in order, with others in between, and say nothing about rounds. -/
structure Log.IsFaithful (l : Log) : Prop where
  told : l.news.filterMap Event.diagnostic? = l.diagnostics
  within : ∀ e ∈ l.news, e.isOfRound = false

namespace Log.IsFaithful

theorem append {l k : Log} (hl : l.IsFaithful) (hk : k.IsFaithful) : (l ++ k).IsFaithful := by
  refine ⟨?_, fun e he => ?_⟩
  · rw [news_append, List.filterMap_append, hl.told, hk.told, diagnostics_append]
  · rcases List.mem_append.mp he with he | he
    · exact hl.within e he
    · exact hk.within e he

theorem ofDiagnostics (ds : List Diagnostic) : (Log.ofDiagnostics ds).IsFaithful := by
  refine ⟨?_, fun e he => ?_⟩
  · rw [news_ofDiagnostics, List.filterMap_map]
    exact List.filterMap_some
  · obtain ⟨d, _, rfl⟩ := List.mem_map.mp he
    rfl

theorem ofNews {es : List Event} (h : ∀ e ∈ es, e.IsOther) : (Log.ofNews es).IsFaithful :=
  ⟨List.filterMap_eq_nil_iff.mpr fun e he => (h e he).1, fun e he => (h e he).2⟩

theorem empty : ({} : Log).IsFaithful := ⟨rfl, nofun⟩

theorem reportAll {l : Log} (h : l.IsFaithful) (ds : List Diagnostic) :
    (l.reportAll ds).IsFaithful := by
  rw [reportAll_eq]
  exact h.append (.ofDiagnostics ds)

end Log.IsFaithful

namespace Logged

variable {α β : Type}

@[simp] theorem log_say (ds : List Diagnostic) : (say ds).log = .ofDiagnostics ds :=
  Log.reportAll_eq {} ds

@[simp] theorem log_tell (es : List Event) : (tell es).log = .ofNews es := Log.announceAll_eq {} es

@[simp] theorem log_ofFindings (f : Findings α) :
    (ofFindings f).log = .ofDiagnostics f.diagnostics := Log.reportAll_eq {} f.diagnostics

@[simp] theorem log_lift (x : Except Failure α) : (liftM x : Logged α).log = {} := rfl

@[simp] theorem log_pure (a : α) : (pure a : Logged α).log = {} := rfl

/-- The work keeps a faithful log. -/
def IsFaithful (x : Logged α) : Prop := x.log.IsFaithful

namespace IsFaithful

theorem bind {x : Logged α} {f : α → Logged β} (hx : x.IsFaithful)
    (hf : ∀ a, (f a).IsFaithful) : (x >>= f).IsFaithful := by
  unfold IsFaithful
  cases h : x.result with
  | error e =>
    rw [log_bind_of_error h]
    exact hx
  | ok a =>
    rw [log_bind_of_ok h]
    exact hx.append (hf a)

theorem pure (a : α) : IsFaithful (Pure.pure a) := .empty

theorem lift (x : Except Failure α) : IsFaithful (liftM x) := .empty

theorem say (ds : List Diagnostic) : IsFaithful (Logged.say ds) := by
  rw [IsFaithful, log_say]
  exact .ofDiagnostics ds

theorem tell {es : List Event} (h : ∀ e ∈ es, e.IsOther) : IsFaithful (Logged.tell es) := by
  rw [IsFaithful, log_tell]
  exact .ofNews h

theorem ofFindings (f : Findings α) : IsFaithful (Logged.ofFindings f) := by
  rw [IsFaithful, log_ofFindings]
  exact .ofDiagnostics _

end IsFaithful

end Logged

/-! ## 3. Runs -/

theorem planTier_faithful (s : Settings) (r : Round) (root : ApplicationRoot)
    (packages : Packages) (tier : ChildTier) : (planTier s r root packages tier).IsFaithful := by
  refine .bind (.ofFindings _) fun _ => .bind (.lift _) fun _ => .bind (.ofFindings _) fun _ =>
    .bind (.lift _) fun _ => .bind (.tell ?_) fun _ => .bind (.lift _) fun _ =>
    .bind (.lift _) fun _ => .pure _
  intro e he
  obtain ⟨name, _, rfl⟩ := List.mem_map.mp he
  exact ⟨rfl, rfl⟩

theorem plan_faithful (s : Settings) (r : Round) : (plan s r).IsFaithful := by
  refine .bind (.lift _) fun _ => .bind (planTier_faithful _ _ _ _ _) fun _ =>
    .bind (planTier_faithful _ _ _ _ _) fun _ => .bind (.say _) fun _ => .bind (.tell ?_) fun _ =>
    .bind (.lift _) fun _ => .bind (.lift _) fun _ => .bind (.lift _) fun _ =>
    .bind (.lift _) fun _ => .bind (.lift _) fun _ => .bind (.lift _) fun _ =>
    .bind (.lift _) fun _ => .pure _
  intro e he
  cases List.mem_singleton.mp he
  exact ⟨rfl, rfl⟩

theorem fileAll_faithful {σ : Type} (filer : Filer σ) (fs : List SourceFile) (state : σ) :
    (fileAll filer fs state).1.IsFaithful := by
  induction fs generalizing state with
  | nil => exact .pure []
  | cons f fs ih =>
    rw [fileAll]
    split
    · exact .empty
    · refine .bind (.tell ?_) fun _ => .bind (ih _) fun _ => .pure _
      intro e he
      cases List.mem_singleton.mp he
      exact ⟨rfl, rfl⟩

/-- The news of a run tell its messages in order, whether it succeeds or not. -/
theorem generate_faithful {σ : Type} (s : Settings) (filer : Filer σ) (r : Round) (state : σ) :
    (generate s filer r state).1.IsFaithful := by
  have planned := plan_faithful s r
  rw [generate]
  split
  · exact planned
  · exact planned.bind fun _ => .bind (fileAll_faithful _ _ _) fun _ =>
      .bind (.lift _) fun _ => .pure _

/-! ## 4. Work that succeeds -/

namespace Logged

variable {α β : Type}

/-- If the work succeeds, this is what it logs. -/
def Logs (x : Logged α) (l : Log) : Prop := ∀ a, x.result = .ok a → x.log = l

namespace Logs

theorem bind {x : Logged α} {f : α → Logged β} {l k : Log} (hx : x.Logs l)
    (hf : ∀ a, x.result = .ok a → (f a).Logs k) : (x >>= f).Logs (l ++ k) := by
  intro b h
  obtain ⟨a, first, second⟩ := bind_ok h
  rw [log_bind_of_ok first, hx a first, hf a first b second]

/-- A step that logs nothing is left out. -/
theorem step {x : Except Failure α} {f : α → Logged β} {l : Log}
    (hf : ∀ a, x = .ok a → (f a).Logs l) : ((liftM x : Logged α) >>= f).Logs l := by
  have nothing : (liftM x : Logged α).Logs {} := fun _ _ => rfl
  exact nothing.bind hf

/-- What follows is left out if it logs nothing. -/
theorem last {x : Logged α} {f : α → Logged β} {l : Log} (hx : x.Logs l)
    (hf : ∀ a, x.result = .ok a → (f a).Logs {}) : (x >>= f).Logs l := by
  have both := hx.bind hf
  rwa [Log.append_empty] at both

theorem pure (a : α) : Logs (Pure.pure a) {} := fun _ _ => rfl

theorem say (ds : List Diagnostic) : Logs (Logged.say ds) (.ofDiagnostics ds) :=
  fun _ _ => log_say ds

theorem tell (es : List Event) : Logs (Logged.tell es) (.ofNews es) := fun _ _ => log_tell es

theorem ofFindings (f : Findings α) : Logs (Logged.ofFindings f) (.ofDiagnostics f.diagnostics) :=
  fun _ _ => log_ofFindings f

end Logs

end Logged

/-! ## 5. Runs that succeed -/

/-- What is logged for a lower tier: the messages about its containers, those about its presenters,
then the news of both. -/
def tierLog (s : Settings) (r : Round) (tier : ChildTier) : Log :=
  .ofDiagnostics (containersOf s r tier).diagnostics
    ++ (.ofDiagnostics (presentersOf s r tier).diagnostics
      ++ .ofNews (tierNews tier (containersOf s r tier).found (presentersOf s r tier).found))

theorem planTier_logs (s : Settings) (r : Round) (root : ApplicationRoot) (packages : Packages)
    (tier : ChildTier) : (planTier s r root packages tier).Logs (tierLog s r tier) := by
  refine .bind (.ofFindings _) fun containers found => .step fun _ _ =>
    .bind (.ofFindings _) fun bindings found' => .step fun _ _ => ?_
  obtain ⟨_, rfl⟩ := Logged.result_ofFindings_ok_iff.mp found
  obtain ⟨_, rfl⟩ := Logged.result_ofFindings_ok_iff.mp found'
  exact .last (.tell _) fun _ _ => .step fun _ _ => .step fun _ _ => .pure _

/-- What is logged for a plan: the fragment tier, the activity tier, then the application. -/
def planLog (s : Settings) (r : Round) (root : AnnotatedClass) : Log :=
  tierLog s r .fragment ++ (tierLog s r .activity
    ++ (.ofDiagnostics [.note ("Processing class " ++ root.simpleName)]
      ++ .ofNews [.classProcessed .application root.qualifiedName]))

theorem plan_logs {s : Settings} {r : Round} {root : ApplicationRoot}
    (found : applicationRoot s.framework r = .ok root) :
    (plan s r).Logs (planLog s r root.root) := by
  refine .step fun root' found' => ?_
  cases found.symm.trans found'
  exact .bind (planTier_logs _ _ _ _ _) fun _ _ => .bind (planTier_logs _ _ _ _ _) fun _ _ =>
    .bind (.say _) fun _ _ => .last (.tell _) fun _ _ => .step fun _ _ => .step fun _ _ =>
    .step fun _ _ => .step fun _ _ => .step fun _ _ => .step fun _ _ => .step fun _ _ => .pure _

/-- The news of files that were accepted under these paths. -/
def filingNews (fs : List SourceFile) (paths : List Path) : List Event :=
  List.zipWith (fun f path => .fileEmitted f.package f.type.name (some path)) fs paths

theorem log_fileAll {σ : Type} {filer : Filer σ} {fs : List SourceFile} {state : σ}
    {paths : List Path} (h : (fileAll filer fs state).1.result = .ok paths) :
    (fileAll filer fs state).1.log = .ofNews (filingNews fs paths) ∧ paths.length = fs.length := by
  induction fs generalizing state paths with
  | nil =>
    cases h
    exact ⟨rfl, rfl⟩
  | cons f fs ih =>
    rw [fileAll] at h ⊢
    split at h
    · cases h
    · next path state' written =>
      obtain ⟨_, _, h⟩ := Logged.bind_ok h
      obtain ⟨rest, filed, done⟩ := Logged.bind_ok h
      cases done
      obtain ⟨log, length⟩ := ih filed
      refine ⟨?_, congrArg (· + 1) length⟩
      have told : (Logged.tell [.fileEmitted f.package f.type.name (some path)]).result = .ok () :=
        rfl
      rw [Logged.log_bind_of_ok told, Logged.log_tell, Logged.log_bind_of_ok filed, log,
        Logged.log_pure, Log.append_empty]
      rfl

/-- A run that succeeds has a plan, hands all its files over, and logs the plan and the files. -/
theorem log_generate {σ : Type} {s : Settings} {filer : Filer σ} {r : Round} {state : σ}
    {g : Generated} (h : (generate s filer r state).1.result = .ok g) :
    ∃ p, (plan s r).result = .ok p ∧ g.application = p.root.root.qualifiedName ∧
      (fileAll filer p.files state).1.result = .ok g.files ∧
      (generate s filer r state).1.log =
        planLog s r p.root.root ++ .ofNews (filingNews p.files g.files) := by
  cases planned : (plan s r).result with
  | error fault =>
    rw [(generate_of_no_plan planned filer state).1] at h
    cases h
  | ok p =>
    rw [(generate_of_plan planned filer state).2] at h
    cases filed : (fileAll filer p.files state).1.result with
    | error fault =>
      rw [filed] at h
      cases h
    | ok files =>
      rw [filed] at h
      cases h
      refine ⟨p, rfl, rfl, filed, ?_⟩
      obtain ⟨_, _, _, _, found, _, _, _, _, rfl⟩ := plan_ok_iff.mp planned
      simp only [generate, planned]
      rw [Logged.log_bind_of_ok planned, plan_logs found _ planned, Logged.log_bind_of_ok filed,
        (log_fileAll filed).1, Logged.log_bind_of_ok (finish_of_plan planned), Logged.log_lift,
        Logged.log_pure, Log.append_empty, Log.append_empty]
      rfl

end ComponentWiring
