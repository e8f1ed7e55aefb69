/-
ComponentWiring.Proofs.Run.Removal — roots that cannot be checked.

* `Round.without` — a round without one of its roots.
* `Round.IsUnchecked` — the root cannot be checked, and none of its methods is annotated.
* `containersAmong_filter`, `presentersAmong_filter` — a search that leaves out candidates which
  cannot be checked says nothing about them, and comes to the same otherwise.
* `plan_without` — so the plan of the round stays the same.
* `Coordinator.call_without_unchecked` — a call that succeeds does so without the root as well; its
  report loses the messages bound to the root, and the files are the same.

Supertypes are looked up in the store, where the root stays, so other candidates that extend it are
judged as before.
-/
import ComponentWiring.Proofs.Discovery.Containers
import ComponentWiring.Proofs.Discovery.Root
import ComponentWiring.Proofs.Run.Logs
import ComponentWiring.Proofs.Run.Staging

namespace ComponentWiring

open Java

/-! ## 1. Candidates -/

/-- The round without a root, wherever it is listed. -/
def Round.without (r : Round) (name : String) : Round :=
  { r with roots := r.roots.filter (· ≠ name) }

/-- Whether the element is the type of the name. -/
def Element.declares (name : String) (e : Element) : Bool := e.type?.any (·.qualifiedName = name)

theorem Element.declares_iff {name : String} {e : Element} :
    e.declares name = true ↔ ∃ t, e = .type t ∧ t.qualifiedName = name := by
  cases e <;> simp [declares, type?]

/-- The root cannot be checked, and none of its methods carries one of the annotations. -/
structure Round.IsUnchecked (r : Round) (markers : List String) (t : TypeElement) : Prop where
  known : r.store.get? t.qualifiedName = some t
  invalid : r.store.isValid t = false
  bare : ∀ m ∈ t.methods, ∀ marker ∈ markers, m.marker? marker = none

namespace Round

variable {r : Round} {name marker : String} {t : TypeElement}

theorem rootElements_without :
    (r.without name).rootElements = r.rootElements.filter (·.qualifiedName ≠ name) := by
  simp only [rootElements, without, List.filterMap_filter, List.filter_filterMap]
  refine List.filterMap_congr fun n _ => ?_
  cases found : r.store.get? n with
  | none => simp
  | some t =>
    have named := TypeStore.qualifiedName_of_get? found
    by_cases same : n = name <;> simp [Option.filter, named, same]

/-- Of a type other than the left out one, all annotated elements are kept. -/
theorem filter_carriers_of_ne (other : t.qualifiedName ≠ name) :
    (carriers marker t).filter (!·.declares name) = carriers marker t := by
  refine List.filter_eq_self.mpr fun e he => ?_
  rw [Bool.not_eq_true', ← Bool.not_eq_true, Element.declares_iff]
  rintro ⟨u, rfl, same⟩
  obtain ⟨rfl, _⟩ := type_mem_carriers_iff.mp he
  exact other same

/-- Of the left out type, no annotated element is kept. -/
theorem filter_carriers_of_eq (same : t.qualifiedName = name)
    (bare : ∀ m ∈ t.methods, m.marker? marker = none) :
    (carriers marker t).filter (!·.declares name) = [] := by
  have no_methods : t.methods.filter (fun m => (m.marker? marker).isSome) = [] := by
    refine List.filter_eq_nil_iff.mpr fun m hm => ?_
    rw [bare m hm]
    exact Bool.false_ne_true
  rw [carriers, no_methods]
  split <;> simp [Element.declares, Element.type?, same]

/-- The annotated elements that are left are those other than the type. -/
theorem elementsWith_without {markers : List String} (h : r.IsUnchecked markers t)
    (asked : marker ∈ markers) :
    (r.without t.qualifiedName).elementsWith marker =
      (r.elementsWith marker).filter (!·.declares t.qualifiedName) := by
  rw [elementsWith, elementsWith, rootElements_without, List.filter_flatMap]
  have same {u : TypeElement} (hu : u ∈ r.rootElements) (name : u.qualifiedName = t.qualifiedName) :
      u = t := by
    obtain ⟨n, _, found⟩ := List.mem_filterMap.mp hu
    rw [← TypeStore.qualifiedName_of_get? found, name, h.known] at found
    exact (Option.some.inj found).symm
  generalize r.rootElements = ts at same
  induction ts with
  | nil => rfl
  | cons u ts ih =>
    have ih := ih fun hu => same (List.mem_cons_of_mem _ hu)
    rw [List.flatMap_cons, ← ih]
    by_cases name : u.qualifiedName = t.qualifiedName
    · cases same List.mem_cons_self name
      rw [List.filter_cons_of_neg (by simp),
        filter_carriers_of_eq rfl fun m hm => h.bare m hm marker asked]
      rfl
    · rw [List.filter_cons_of_pos (by simpa using name), List.flatMap_cons,
        filter_carriers_of_ne name]

end Round

/-! ## 2. Searches -/

/-- The messages that are not bound to the element. -/
def messagesWithout (name : String) (ds : List Diagnostic) : List Diagnostic :=
  ds.filter (·.element ≠ some name)

/-- The findings without the messages bound to an element. -/
def Findings.without {α : Type} (name : String) (f : Findings α) : Findings α :=
  { f with diagnostics := messagesWithout name f.diagnostics }

theorem Findings.without_after {α : Type} (name : String) (ds : List Diagnostic) (f : Findings α) :
    (f.after ds).without name = (f.without name).after (messagesWithout name ds) := by
  simp only [without, after, messagesWithout, List.filter_append]

section Searches

variable {s : TypeStore} {cs : List Element} {name : String}

theorem filter_cons_of_eq {t : TypeElement} (same : t.qualifiedName = name) (cs : List Element) :
    (Element.type t :: cs).filter (!·.declares name) = cs.filter (!·.declares name) :=
  List.filter_cons_of_neg (by simp [Element.declares, Element.type?, same])

theorem filter_cons_of_ne {t : TypeElement} (other : t.qualifiedName ≠ name) (cs : List Element) :
    (Element.type t :: cs).filter (!·.declares name) =
      .type t :: cs.filter (!·.declares name) :=
  List.filter_cons_of_pos (by simp [Element.declares, Element.type?, other])

/-- A search that only has a message about a candidate has none if it is left out, and the same one
if it is kept. -/
theorem filter_cons_of_skipped {α : Type} {f : List Element → Findings α} {t : TypeElement}
    {d : Diagnostic} (bound : d.element = some t.qualifiedName)
    (skipped : ∀ cs, f (.type t :: cs) = (f cs).after [d])
    (ih : f (cs.filter (!·.declares name)) = (f cs).without name) :
    f ((Element.type t :: cs).filter (!·.declares name)) =
      (f (.type t :: cs)).without name := by
  rw [skipped, Findings.without_after, ← ih]
  by_cases named : t.qualifiedName = name
  · rw [filter_cons_of_eq named]
    simp [messagesWithout, bound, named, Findings.after]
  · rw [filter_cons_of_ne named, skipped]
    simp [messagesWithout, bound, named]

/-- A candidate for a presenter is passed over, cannot be checked, or is a presenter. -/
theorem judgePresenter_cases (n : FrameworkNames) (s : TypeStore) (c : Element) :
    judgePresenter n s c = .passed ∨
      (∃ t, c = .type t ∧ s.isValid t = false ∧ judgePresenter n s c = .skipped t) ∨
      ∃ t, c = .type t ∧ s.isValid t = true ∧
        (judgePresenter n s c = .noContract t ∨
          ∃ contract, judgePresenter n s c = .presenter t contract) := by
  cases class? : c.class? with
  | none => exact .inl (by rw [judgePresenter, class?])
  | some t =>
    obtain ⟨type, _⟩ := Element.class?_eq_some_iff.mp class?
    cases valid : s.isValid t with
    | false => exact .inr (.inl ⟨t, type, valid, by simp [judgePresenter, class?, valid]⟩)
    | true =>
      let found := s.classify t n.presenterBase n.presentable
      cases below : found.isPresenter with
      | false => exact .inl (by simp [judgePresenter, class?, valid, found, below])
      | true =>
        refine .inr (.inr ⟨t, type, valid, ?_⟩)
        cases contract : found.contract with
        | none => exact .inl (by simp [judgePresenter, class?, valid, found, below, contract])
        | some name =>
          exact .inr ⟨name, by simp [judgePresenter, class?, valid, found, below, contract]⟩

/-- A search for containers that leaves out candidates which cannot be checked says nothing about
them, and comes to the same otherwise. -/
theorem containersAmong_filter {rules : TierRules} {found : ClassMap} (declared : s.Declares cs)
    (unchecked : ∀ t, .type t ∈ cs → t.qualifiedName = name → s.isValid t = false)
    (succeeds : (containersAmong rules s found cs).failure = none) :
    containersAmong rules s found (cs.filter (!·.declares name)) =
      (containersAmong rules s found cs).without name := by
  rw [containersAmong_failure_iff] at succeeds
  induction cs generalizing found with
  | nil => rfl
  | cons c cs ih =>
    obtain ⟨passes, rest⟩ := List.forall_mem_cons.mp succeeds
    have ih (found : ClassMap) := @ih found
      (fun t ht => declared t (List.mem_cons_of_mem _ ht))
      (fun t ht => unchecked t (List.mem_cons_of_mem _ ht)) rest
    have stored (t : TypeElement) (type : c = .type t) := declared t (type ▸ List.mem_cons_self)
    rcases TierRules.judge_spec (r := rules) stored with
      ⟨fault, _, refused⟩ | ⟨t, rfl, _, _, verdict⟩ | ⟨t, rfl, accepted, verdict⟩
    · exact absurd ⟨fault, refused⟩ passes
    · exact filter_cons_of_skipped (f := containersAmong rules s found) rfl
        (fun cs => by rw [containersAmong, verdict]) (ih found)
    · have other : t.qualifiedName ≠ name := by
        intro named
        cases accepted.checked.valid.symm.trans (unchecked t List.mem_cons_self named)
      rw [filter_cons_of_ne other, containersAmong_cons_of_accepted verdict,
        containersAmong_cons_of_accepted verdict, Findings.without_after, ih]
      congr 1
      split <;> rfl

theorem bindingMessages_without {t : TypeElement} (other : t.qualifiedName ≠ name)
    (contract : String) (outcome : BindingOutcome) :
    messagesWithout name (bindingMessages t contract outcome) =
      bindingMessages t contract outcome := by
  cases outcome <;>
    simp [messagesWithout, bindingMessages, processingNote, Diagnostic.note, Diagnostic.warning,
      other]

/-- A search for presenters that leaves out candidates which cannot be checked says nothing about
them, and comes to the same otherwise. -/
theorem presentersAmong_filter {n : FrameworkNames} {policy : DuplicatePolicy} {found : Bindings}
    (unchecked : ∀ t, .type t ∈ cs → t.qualifiedName = name → s.isValid t = false) :
    presentersAmong n policy s found (cs.filter (!·.declares name)) =
      (presentersAmong n policy s found cs).without name := by
  induction cs generalizing found with
  | nil => rfl
  | cons c cs ih =>
    have ih (found : Bindings) := @ih found
      fun t ht => unchecked t (List.mem_cons_of_mem _ ht)
    have kept {t : TypeElement} (type : c = .type t) (valid : s.isValid t = true) :
        t.qualifiedName ≠ name := by
      intro named
      cases valid.symm.trans (unchecked t (type ▸ List.mem_cons_self) named)
    rcases judgePresenter_cases n s c with
      passed | ⟨t, rfl, _, verdict⟩ | ⟨t, rfl, valid, verdict | ⟨contract, verdict⟩⟩
    · have same (cs : List Element) : presentersAmong n policy s found (c :: cs) =
          presentersAmong n policy s found cs := by
        rw [presentersAmong, passed]
      rw [same, ← ih]
      by_cases left_out : c.declares name = true
      · rw [List.filter_cons_of_neg (by simp [left_out])]
      · rw [List.filter_cons_of_pos (by simp [left_out]), same]
    · exact filter_cons_of_skipped (f := presentersAmong n policy s found) rfl
        (fun cs => by rw [presentersAmong, verdict]) (ih found)
    · rw [filter_cons_of_ne (kept rfl valid), presentersAmong, presentersAmong, verdict]
      rfl
    · have other := kept rfl valid
      rw [filter_cons_of_ne other, presentersAmong, presentersAmong, verdict]
      cases bound : found.bind contract t.qualifiedName policy with
      | error clash =>
        simp only [bound]
        rfl
      | ok made => simp only [bound, Findings.without_after, ih, bindingMessages_without other]

end Searches

/-! ## 3. Plans -/

section Plans

variable {s : Settings} {r : Round} {t : TypeElement} (h : r.IsUnchecked s.framework.markers t)
include h

theorem unchecked_of_mem {marker : String} {u : TypeElement}
    (hu : .type u ∈ r.elementsWith marker) (named : u.qualifiedName = t.qualifiedName) :
    r.store.isValid u = false := by
  rw [(r.declares_elementsWith marker).eq_of_name hu h.known named]
  exact h.invalid

theorem containersOf_without {tier : ChildTier}
    (succeeds : (containersOf s r tier).failure = none) :
    containersOf s (r.without t.qualifiedName) tier =
      (containersOf s r tier).without t.qualifiedName := by
  have asked : (TierRules.ofTier s.framework tier).containerMarker ∈ s.framework.markers := by
    cases tier <;> simp [TierRules.ofTier, FrameworkNames.markers]
  rw [containersOf, Round.elementsWith_without h asked]
  exact containersAmong_filter (r.declares_elementsWith _) (fun _ => unchecked_of_mem h) succeeds

theorem presentersOf_without (tier : ChildTier) :
    presentersOf s (r.without t.qualifiedName) tier =
      (presentersOf s r tier).without t.qualifiedName := by
  have asked : (TierRules.ofTier s.framework tier).scopeMarker ∈ s.framework.markers := by
    cases tier <;> simp [TierRules.ofTier, FrameworkNames.markers]
  rw [presentersOf, Round.elementsWith_without h asked]
  exact presentersAmong_filter fun _ => unchecked_of_mem h

/-- The root is not the application. -/
theorem applicationRoot_without {root : ApplicationRoot}
    (found : applicationRoot s.framework r = .ok root) :
    applicationRoot s.framework (r.without t.qualifiedName) = .ok root := by
  obtain ⟨u, a, only, below, annotated, made⟩ := applicationRoot_ok_iff.mp found
  have other : u.qualifiedName ≠ t.qualifiedName := by
    intro named
    cases below.valid.symm.trans (unchecked_of_mem h (only ▸ List.mem_singleton_self _) named)
  refine applicationRoot_ok_iff.mpr ⟨u, a, ?_, below, annotated, made⟩
  rw [Round.elementsWith_without h (by simp [FrameworkNames.markers]), only]
  simp [Element.declares, Element.type?, other]

theorem planTier_without {root : ApplicationRoot} {packages : Packages} {tier : ChildTier}
    {p : TierPlan} (planned : (planTier s r root packages tier).result = .ok p) :
    (planTier s (r.without t.qualifiedName) root packages tier).result = .ok p := by
  rw [planTier_ok_iff] at planned ⊢
  obtain ⟨containers, presenters, files, made, rfl⟩ := planned
  simp only [emittedTier, containersOf_without h containers, presentersOf_without h]
  exact ⟨containers, presenters, files, made, rfl⟩

/-- A plan stays the same without the root. -/
theorem plan_without {p : Plan} (planned : (plan s r).result = .ok p) :
    (plan s (r.without t.qualifiedName)).result = .ok p := by
  rw [plan_ok_iff] at planned ⊢
  obtain ⟨root, fragment, activity, own, found, first, second, made, checked, rfl⟩ := planned
  exact ⟨root, fragment, activity, own, applicationRoot_without h found, planTier_without h first,
    planTier_without h second, made, checked, rfl⟩

/-- What is logged for a plan loses the messages bound to the root. -/
theorem planLog_without {p : Plan} (planned : (plan s r).result = .ok p) (root : AnnotatedClass) :
    (planLog s (r.without t.qualifiedName) root).diagnostics =
      messagesWithout t.qualifiedName (planLog s r root).diagnostics := by
  obtain ⟨_, _, _, _, _, first, second, _⟩ := plan_ok_iff.mp planned
  have fragments := containersOf_without h (planTier_ok_iff.mp first).1
  have activities := containersOf_without h (planTier_ok_iff.mp second).1
  simp [planLog, tierLog, fragments, activities, presentersOf_without h, Findings.without,
    messagesWithout, Diagnostic.note]

/-- A run that succeeds comes to the same without the root, up to the messages bound to it. -/
theorem generate_without {σ : Type} {filer : Filer σ} {state : σ} {g : Generated}
    (result : (generate s filer r state).1.result = .ok g) :
    let run := generate s filer (r.without t.qualifiedName) state
    run.1.result = .ok g ∧ run.2 = (generate s filer r state).2 ∧
      run.1.log.diagnostics =
        messagesWithout t.qualifiedName (generate s filer r state).1.log.diagnostics := by
  intro run
  obtain ⟨p, planned, _, _, log⟩ := log_generate result
  have planned' := plan_without h planned
  obtain ⟨state_eq, outcome⟩ := generate_of_plan planned filer state
  obtain ⟨state_eq', outcome'⟩ := generate_of_plan planned' filer state
  have result' : run.1.result = .ok g := outcome'.trans (outcome.symm.trans result)
  refine ⟨result', state_eq'.trans state_eq.symm, ?_⟩
  obtain ⟨_, planned'', _, _, log'⟩ := log_generate result'
  cases planned'.symm.trans planned''
  rw [log, log', Log.diagnostics_append, Log.diagnostics_append, planLog_without h planned]
  simp

end Plans

/-! ## 4. Calls -/

namespace Coordinator

/-- Without the root there is still work to do, since the application is left. -/
theorem not_isIdle_without {c : Coordinator} {k : Call} {t : TypeElement} {g : Generated}
    (unchecked : k.round.IsUnchecked c.settings.framework.markers t)
    (work : ¬ c.IsIdle (c.carried k))
    (result : (generate c.settings k.filer k.round k.state).1.result = .ok g) :
    ¬ c.IsIdle (c.carried { k with round := k.round.without t.qualifiedName }) := by
  obtain ⟨p, planned, _⟩ := log_generate result
  obtain ⟨root, _, _, _, found, _⟩ := plan_ok_iff.mp (plan_without unchecked planned)
  obtain ⟨u, _, only, _⟩ := applicationRoot_ok_iff.mp found
  have asked : c.settings.framework.applicationMarker ∈ c.settings.framework.markers :=
    List.mem_cons_self
  have present := Round.markersPresent_ne_nil asked (only ▸ List.cons_ne_nil _ _)
  have new : c.processed = [] := by
    simp only [IsIdle, Bool.or_eq_true, not_or] at work
    simpa using work.2
  cases given : k.annotations with
  | some annotations => simpa [carried, given] using work
  | none => simpa [IsIdle, carried, given, new] using present

/-- A root that cannot be checked and has no annotated method plays no part in a call that succeeds,
whatever annotations the root itself carries, however often it is listed, and whatever extends it:
on the round without it the call succeeds as well, with the same application, initializer and paths,
and the filer holds the same afterwards. The report only loses the messages bound to the root. -/
theorem call_without_unchecked (c : Coordinator) (k : Call) {t : TypeElement}
    (succeeded : (c.call k).1.succeeded = true)
    (unchecked : k.round.IsUnchecked c.settings.framework.markers t) :
    let reduced : Call := { k with round := k.round.without t.qualifiedName }
    (c.call reduced).1.succeeded = true ∧
      (c.call reduced).1 = { (c.call k).1 with
        diagnostics := messagesWithout t.qualifiedName (c.call k).1.diagnostics } ∧
      (c.call reduced).2.2 = (c.call k).2.2 := by
  intro reduced
  have succeeds (k : Call) := process_succeeded_iff c k.filer (c.carried k) k.round k.state
  rw [call_eq_process] at succeeded
  obtain ⟨work, g, result⟩ := (succeeds k).mp succeeded
  obtain ⟨result', state, said⟩ := generate_without unchecked result
  have work' : ¬ c.IsIdle (c.carried reduced) := not_isIdle_without unchecked work result
  have called := process_eq_of_work work k.filer k.round k.state
  have called' := process_eq_of_work work' k.filer (k.round.without t.qualifiedName) k.state
  rw [call_eq_process, call_eq_process, called, called']
  refine ⟨?_, ?_, state⟩
  · rw [← called']
    exact (succeeds reduced).mpr ⟨work', g, result'⟩
  · simp only [conclude, result, result', said]

/-- An activity below a class that cannot be resolved. -/
def brokenActivity : TypeElement :=
  { sampleActivity "com.example.Broken" with superclass := .unresolved "Missing" }

/-- A round with an activity, and with the broken one on both sides of it. -/
def mixedRound : Round :=
  sampleRound [brokenActivity, sampleActivity "com.example.Main", brokenActivity]

/-- The broken activity is passed over, and the other one is wired as if it were alone. -/
theorem call_without_brokenActivity :
    let k : Call := ⟨SourceSet.filer, .empty 4, none, mixedRound⟩
    let reduced : Call := { k with round := mixedRound.without "com.example.Broken" }
    ((start {}).call k).1.succeeded = true ∧
      mixedRound.IsUnchecked ({} : FrameworkNames).markers brokenActivity ∧
      (mixedRound.without "com.example.Broken").roots = ["com.example.App", "com.example.Main"] ∧
      ((start {}).call reduced).1.succeeded = true ∧
      ((start {}).call reduced).2.2 = ((start {}).call k).2.2 := by
  intro k reduced
  obtain ⟨p, planned, _⟩ : ∃ p, (plan {} mixedRound).result = .ok p ∧ p.root = sampleRoot := by
    refine sample_planned default_areReadable default_namesApart (by decide +kernel) ?_ ?_ <;>
      intro tier <;> cases tier <;> decide +kernel
  have succeeded := start_succeeds_of_plan planned (by decide +kernel) .empty none 4
  have unchecked : mixedRound.IsUnchecked ({} : FrameworkNames).markers brokenActivity :=
    ⟨rfl, by decide +kernel, nofun⟩
  obtain ⟨succeeded', _, filed⟩ := call_without_unchecked (start {}) k succeeded unchecked
  exact ⟨succeeded, unchecked, by decide +kernel, succeeded', filed⟩

end Coordinator

end ComponentWiring
