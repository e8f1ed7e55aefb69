/-
ComponentWiring.Proofs.Discovery.Presenters — what a search for presenters comes to under each
policy.

* `presentersIn` — the presenters among candidates, in order.
* `IsRefusal` — what is wrong with a presenter that comes after others.
* `IsBound` — the bindings of presenters under a policy, without any search.
* `outcome_presentersAmong` — a search binds one presenter after the other.
* `foldlM_bindStep_of_allPass` — presenters of which none is refused are bound as the policy has
  it.
* `presentersAmong_decides` — which searches fail, at which presenter, what the others find, and
  how the policies compare.

Candidates are declared types, so a presenter is known by its name and a name that is bound twice is
that of one presenter.
-/
import ComponentWiring.Declared.Platform
import ComponentWiring.Proofs.Discovery.Verdicts
import Mathlib.Data.List.Induction
import Mathlib.Data.List.Nodup

namespace ComponentWiring

/-! ## 1. Presenters -/

/-- The presenters among candidates, in order. -/
def presentersIn (n : FrameworkNames) (s : TypeStore) (cs : List Element) : List TypeElement :=
  cs.filterMap (presenter? n s)

variable {n : FrameworkNames} {s : TypeStore} {c : Element} {cs : List Element} {t : TypeElement}

theorem mem_presentersIn_iff (declared : s.Declares cs) :
    t ∈ presentersIn n s cs ↔ .type t ∈ cs ∧ IsPresenter n s t := by
  rw [presentersIn, List.mem_filterMap]
  constructor
  · rintro ⟨c, hc, found⟩
    have known (u : TypeElement) (type : c = .type u) : s.get? u.qualifiedName = some u :=
      declared u (type ▸ hc)
    obtain ⟨rfl, presenter⟩ := (presenter?_eq_some_iff known).mp found
    exact ⟨hc, presenter⟩
  · rintro ⟨ht, presenter⟩
    refine ⟨_, ht, (presenter?_eq_some_iff fun u type => ?_).mpr ⟨rfl, presenter⟩⟩
    cases type
    exact declared t ht

/-- Presenters among declared candidates are known by their names. -/
theorem eq_of_mem_presentersIn (declared : s.Declares cs) {u : TypeElement}
    (ht : t ∈ presentersIn n s cs) (hu : u ∈ presentersIn n s cs)
    (same : t.qualifiedName = u.qualifiedName) : t = u := by
  have known := declared u ((mem_presentersIn_iff declared).mp hu).1
  exact declared.eq_of_name ((mem_presentersIn_iff declared).mp ht).1 known same

/-! ## 2. Policies -/

/-- The presenter that stays bound under a policy, among all presenters of one contract. -/
def DuplicatePolicy.chosen (policy : DuplicatePolicy) (ts : List TypeElement) :
    Option TypeElement :=
  match policy with
  | .lastWins => ts.getLast?
  | .firstWins | .reject => ts.head?

/-- What is wrong with a presenter that comes after others: it has no contract, or a different
presenter has the same one and only one is allowed. -/
inductive IsRefusal (n : FrameworkNames) (s : TypeStore) (policy : DuplicatePolicy)
    (earlier : List TypeElement) (t : TypeElement) : Failure → Prop
  | noContract (none_there : contractOf? n s t = none) :
    IsRefusal n s policy earlier t (noContractFailure n t)
  | clash {u : TypeElement} {contract : String} (strict : policy = .reject) (mem : u ∈ earlier)
    (other : u ≠ t) (taken : contractOf? n s u = some contract)
    (wanted : contractOf? n s t = some contract) :
    IsRefusal n s policy earlier t
      (BindingClash.toFailure ⟨u.qualifiedName, t.qualifiedName, contract⟩)

/-- None of the presenters is refused at its place. -/
def AllPass (n : FrameworkNames) (s : TypeStore) (policy : DuplicatePolicy)
    (ts : List TypeElement) : Prop :=
  ∀ before t after, ts = before ++ t :: after → ∀ failure, ¬ IsRefusal n s policy before t failure

/-- The bindings are those of the presenters under the policy. -/
structure IsBound (n : FrameworkNames) (s : TypeStore) (policy : DuplicatePolicy)
    (ts : List TypeElement) (b : Bindings) : Prop where
  /-- The contracts come in the order in which presenters have them first. -/
  contracts : b.keys = (ts.filterMap (contractOf? n s)).eraseDups
  chosen : ∀ contract, b.get? contract =
    (policy.chosen (ts.filter (contractOf? n s · = some contract))).map (·.qualifiedName)
  /-- Where only one presenter is allowed, each one is bound to its contract. -/
  only : policy = .reject → ∀ t ∈ ts, ∀ contract, contractOf? n s t = some contract →
    b.get? contract = some t.qualifiedName

/-! ## 3. One presenter -/

theorem Bindings.bind_reject {b : Bindings} {contract name existing : String}
    (found : b.get? contract = some existing) (other : existing ≠ name) :
    b.bind contract name .reject = .error ⟨existing, name, contract⟩ := by
  rw [bind, found]
  exact if_neg other

/-- The bindings with one more presenter. -/
def bindStep (n : FrameworkNames) (s : TypeStore) (policy : DuplicatePolicy) (b : Bindings)
    (t : TypeElement) : Except Failure Bindings :=
  match contractOf? n s t with
  | none => .error (noContractFailure n t)
  | some contract =>
    match b.bind contract t.qualifiedName policy with
    | .error clash => .error clash.toFailure
    | .ok (_, b) => .ok b

variable {policy : DuplicatePolicy} {b : Bindings} {ts : List TypeElement}

theorem filter_contract_concat (contract : String) :
    (ts ++ [t]).filter (contractOf? n s · = some contract) =
      ts.filter (contractOf? n s · = some contract) ++
        if contractOf? n s t = some contract then [t] else [] := by
  rw [List.filter_append]
  by_cases same : contractOf? n s t = some contract <;> simp [same]

theorem DuplicatePolicy.chosen_concat (ts : List TypeElement) (t : TypeElement) :
    (policy.chosen (ts ++ [t])).map (·.qualifiedName) =
      some (policy.keep ((policy.chosen ts).map (·.qualifiedName)) t.qualifiedName) := by
  cases policy with
  | lastWins => simp [chosen, keep]
  | firstWins | reject => cases ts <;> simp [chosen, keep]

theorem DuplicatePolicy.mem_of_chosen (h : policy.chosen ts = some t) : t ∈ ts := by
  cases policy with
  | lastWins => exact List.mem_of_getLast? h
  | firstWins | reject => exact List.mem_of_head? h

/-- The name that is bound to a contract is that of a presenter of the contract. -/
theorem IsBound.exists_presenter (h : IsBound n s policy ts b) {contract name : String}
    (bound : b.get? contract = some name) :
    ∃ t ∈ ts, contractOf? n s t = some contract ∧ t.qualifiedName = name := by
  rw [h.chosen, Option.map_eq_some_iff] at bound
  obtain ⟨t, chosen, rfl⟩ := bound
  obtain ⟨mem, contract?⟩ := List.mem_filter.mp (DuplicatePolicy.mem_of_chosen chosen)
  exact ⟨t, mem, of_decide_eq_true contract?, rfl⟩

/-- A presenter that is not refused is bound. -/
theorem IsBound.exists_step (h : IsBound n s policy ts b)
    (passes : ∀ failure, ¬ IsRefusal n s policy ts t failure) :
    ∃ b', bindStep n s policy b t = .ok b' ∧ IsBound n s policy (ts ++ [t]) b' := by
  cases wanted : contractOf? n s t with
  | none => exact absurd (.noContract wanted) (passes _)
  | some contract =>
    have free (strict : policy = .reject) (existing : String)
        (found : b.get? contract = some existing) : existing = t.qualifiedName := by
      obtain ⟨u, mem, taken, rfl⟩ := h.exists_presenter found
      refine Classical.byContradiction fun other => ?_
      exact passes _ (.clash strict mem (fun same => other (same ▸ rfl)) taken wanted)
    obtain ⟨outcome, b', done, keys, get?⟩ := Bindings.exists_bind free
    refine ⟨b', by simp only [bindStep, wanted, done], ?_, fun k => ?_,
      fun strict u hu k given => ?_⟩
    · rw [keys, Keyed.keys_insert, h.contracts, List.filterMap_append]
      simp only [List.filterMap_cons_some wanted, List.filterMap_nil, eraseDups_concat,
        List.mem_eraseDups]
    · rw [get?, filter_contract_concat, wanted]
      by_cases same : contract = k
      · subst same
        rw [if_pos rfl, if_pos rfl, DuplicatePolicy.chosen_concat, h.chosen]
      · rw [if_neg same, if_neg (fun e => same (Option.some.inj e)), List.append_nil, h.chosen]
    · rw [get?]
      subst strict
      rcases List.mem_append.mp hu with earlier | last
      · have bound := h.only rfl u earlier k given
        split
        · next same => rw [DuplicatePolicy.keep, same, bound, Option.getD_some]
        · exact bound
      · obtain rfl := List.mem_singleton.mp last
        obtain rfl : contract = k := Option.some.inj (wanted.symm.trans given)
        rw [if_pos rfl, DuplicatePolicy.keep]
        cases found : b.get? contract with
        | none => rfl
        | some existing => rw [free rfl existing found, Option.getD_some]

/-- A presenter that is refused ends the search. -/
theorem IsBound.step_eq_error (h : IsBound n s policy ts b)
    (named : ∀ u ∈ ts, u.qualifiedName = t.qualifiedName → u = t) {failure : Failure}
    (refused : IsRefusal n s policy ts t failure) : bindStep n s policy b t = .error failure := by
  cases refused with
  | noContract none_there => simp only [bindStep, none_there]
  | @clash u contract strict mem other taken wanted =>
    subst strict
    have bound := h.only rfl u mem contract taken
    have clash := Bindings.bind_reject bound fun same => other (named u mem same)
    simp only [bindStep, wanted, clash]

/-! ## 4. Presenters one after the other -/

theorem isBound_nil : IsBound n s policy [] .empty where
  contracts := rfl
  chosen := by cases policy <;> exact fun _ => rfl
  only := fun _ _ impossible => (List.not_mem_nil impossible).elim

theorem AllPass.of_append {ts' : List TypeElement} (h : AllPass n s policy (ts ++ ts')) :
    AllPass n s policy ts := by
  rintro before t after rfl
  exact h before t (after ++ ts') (by simp)

theorem allPass_concat_iff : AllPass n s policy (ts ++ [t]) ↔
    AllPass n s policy ts ∧ ∀ failure, ¬ IsRefusal n s policy ts t failure := by
  constructor
  · exact fun h => ⟨h.of_append, h ts t [] rfl⟩
  · rintro ⟨pass, last⟩ before u after split
    rcases List.eq_nil_or_concat after with rfl | ⟨after, v, rfl⟩
    · obtain ⟨rfl, same⟩ := List.append_inj' split rfl
      cases same
      exact last
    · rw [List.concat_eq_append, ← List.cons_append, ← List.append_assoc] at split
      obtain ⟨rfl, -⟩ := List.append_inj' split rfl
      exact pass before u after rfl

/-- Presenters of which none is refused are bound as the policy has it. -/
theorem foldlM_bindStep_of_allPass (pass : AllPass n s policy ts) :
    ∃ b, ts.foldlM (bindStep n s policy) .empty = .ok b ∧ IsBound n s policy ts b := by
  induction ts using List.reverseRecOn with
  | nil => exact ⟨.empty, rfl, isBound_nil⟩
  | append_singleton ts t ih =>
    obtain ⟨pass, last⟩ := allPass_concat_iff.mp pass
    obtain ⟨b, done, bound⟩ := ih pass
    obtain ⟨b', step, bound'⟩ := bound.exists_step last
    refine ⟨b', ?_, bound'⟩
    rw [List.foldlM_append, done]
    show (bindStep n s policy b t >>= pure) = _
    rw [step]
    rfl

/-- The first presenter that is refused is what the search fails for. -/
theorem foldlM_bindStep_of_refusal {before after : List TypeElement} {failure : Failure}
    (named : ∀ u ∈ before, u.qualifiedName = t.qualifiedName → u = t)
    (pass : AllPass n s policy before) (refused : IsRefusal n s policy before t failure) :
    (before ++ t :: after).foldlM (bindStep n s policy) .empty = .error failure := by
  obtain ⟨b, done, bound⟩ := foldlM_bindStep_of_allPass pass
  rw [List.foldlM_append, done]
  show (bindStep n s policy b t >>= fun b => after.foldlM (bindStep n s policy) b) = _
  rw [bound.step_eq_error named refused]
  rfl

/-- Where not all presenters pass, there is a first one that is refused. -/
theorem exists_first_refusal (h : ¬ AllPass n s policy ts) :
    ∃ before t after failure, ts = before ++ t :: after ∧ AllPass n s policy before ∧
      IsRefusal n s policy before t failure := by
  induction ts using List.reverseRecOn with
  | nil => exact (h fun before t after split => by simp at split).elim
  | append_singleton ts t ih =>
    by_cases pass : AllPass n s policy ts
    · have refused : ∃ failure, IsRefusal n s policy ts t failure := by
        refine Classical.byContradiction fun last => h (allPass_concat_iff.mpr ⟨pass, ?_⟩)
        exact fun failure refused => last ⟨failure, refused⟩
      obtain ⟨failure, refused⟩ := refused
      exact ⟨ts, t, [], failure, rfl, pass, refused⟩
    · obtain ⟨before, u, after, failure, rfl, pass, refused⟩ := ih pass
      exact ⟨before, u, after ++ [t], failure, by simp, pass, refused⟩

/-- All presenters pass exactly if all have contracts, and where only one presenter is allowed, no
two of them have the same one. -/
theorem not_allPass_iff : ¬ AllPass n s policy ts ↔
    (∃ t ∈ ts, contractOf? n s t = none) ∨ policy = .reject ∧ ∃ t ∈ ts, ∃ u ∈ ts, t ≠ u ∧
      ∃ contract, contractOf? n s t = some contract ∧ contractOf? n s u = some contract := by
  constructor
  · intro h
    obtain ⟨before, t, after, failure, rfl, -, refused⟩ := exists_first_refusal h
    cases refused with
    | noContract none_there => exact .inl ⟨t, by simp, none_there⟩
    | @clash u contract strict mem other taken wanted =>
      exact .inr ⟨strict, u, by simp [mem], t, by simp, other, contract, taken, wanted⟩
  · rintro (⟨t, ht, none_there⟩ | ⟨strict, t, ht, u, hu, other, contract, bound, bound'⟩) pass
    · obtain ⟨before, after, rfl⟩ := List.append_of_mem ht
      exact pass before t after rfl _ (.noContract none_there)
    · -- One of the two comes after the other one, and is refused for it.
      obtain ⟨before, after, rfl⟩ := List.append_of_mem ht
      rcases List.mem_append.mp hu with earlier | later
      · exact pass before t after rfl _ (.clash strict earlier other.symm bound' bound)
      · have later : u ∈ after := (List.mem_cons.mp later).resolve_left other.symm
        obtain ⟨between, rest, rfl⟩ := List.append_of_mem later
        exact pass (before ++ t :: between) u rest (by simp) _
          (.clash strict (by simp) other bound bound')

/-! ## 5. One search -/

/-- What has been found, or the failure. -/
def Findings.outcome {α : Type} (f : Findings α) : Except Failure α :=
  match f.failure with
  | none => .ok f.found
  | some failure => .error failure

/-- A search binds one presenter after the other. -/
theorem outcome_presentersAmong (found : Bindings) (cs : List Element) :
    (presentersAmong n policy s found cs).outcome =
      (presentersIn n s cs).foldlM (bindStep n s policy) found := by
  induction cs generalizing found with
  | nil => rfl
  | cons c cs ih =>
    cases h : presenter? n s c with
    | none =>
      rw [presentersIn, List.filterMap_cons_none h, ← presentersIn, ← ih, presentersAmong]
      rcases judgePresenter_of_presenter?_eq_none h with passed | ⟨t, skipped⟩
      · rw [passed]
      · rw [skipped]
        rfl
    | some t =>
      rw [presentersIn, List.filterMap_cons_some h, ← presentersIn, List.foldlM_cons,
        presentersAmong, judgePresenter_of_presenter? h, bindStep]
      cases contractOf? n s t with
      | none => rfl
      | some contract =>
        simp only [Option.elim_some]
        cases found.bind contract t.qualifiedName policy with
        | error clash => rfl
        | ok bound => exact ih bound.2

theorem Findings.outcome_eq_ok_iff {α : Type} {f : Findings α} {found : α} :
    f.outcome = .ok found ↔ f.failure = none ∧ f.found = found := by
  unfold outcome
  cases f.failure <;> simp

theorem Findings.outcome_eq_error_iff {α : Type} {f : Findings α} {failure : Failure} :
    f.outcome = .error failure ↔ f.failure = some failure := by
  unfold outcome
  cases f.failure <;> simp

/-- No presenter is bound to two contracts. -/
theorem IsBound.nodup_values (h : IsBound n s policy ts b)
    (named : ∀ t ∈ ts, ∀ u ∈ ts, t.qualifiedName = u.qualifiedName → t = u) : b.values.Nodup := by
  refine List.Nodup.map_on (fun e he e' he' same => ?_) (List.Nodup.of_map Prod.fst b.nodup_keys)
  obtain ⟨t, ht, contract?, name⟩ := h.exists_presenter (Keyed.get?_eq_some_iff.mpr he)
  obtain ⟨u, hu, contract?', name'⟩ := h.exists_presenter (Keyed.get?_eq_some_iff.mpr he')
  obtain rfl := named t ht u hu (name.trans (same.trans name'.symm))
  exact Prod.ext (Option.some.inj (contract?.symm.trans contract?')) same

/-- A refusal is bound to the presenter that is refused. -/
theorem IsRefusal.eq_misuse {failure : Failure} (h : IsRefusal n s policy ts t failure) :
    ∃ message, failure = .misuse (some t.qualifiedName) message := by
  cases h <;> exact ⟨_, rfl⟩

/-- What a search for presenters comes to, in terms of the presenters alone. -/
structure IsDecided (n : FrameworkNames) (s : TypeStore) (policy : DuplicatePolicy)
    (ts : List TypeElement) (result : Findings Bindings) : Prop where
  /-- The search fails if a presenter has no contract, or if two presenters have the same one and
  only one is allowed. -/
  fails_iff : result.failure ≠ none ↔
    (∃ t ∈ ts, contractOf? n s t = none) ∨ policy = .reject ∧ ∃ t ∈ ts, ∃ u ∈ ts, t ≠ u ∧
      ∃ contract, contractOf? n s t = some contract ∧ contractOf? n s u = some contract
  /-- The failure is bound to the first presenter at which this becomes visible. -/
  first : ∀ failure, result.failure = some failure ↔
    ∃ before t after, ts = before ++ t :: after ∧ AllPass n s policy before ∧
      IsRefusal n s policy before t failure ∧
      ∃ message, failure = .misuse (some t.qualifiedName) message
  bound : result.failure = none → IsBound n s policy ts result.found
  /-- No presenter is bound twice. -/
  once : result.failure = none → result.found.values.Nodup

theorem isDecided_of_outcome {result : Findings Bindings}
    (named : ∀ t ∈ ts, ∀ u ∈ ts, t.qualifiedName = u.qualifiedName → t = u)
    (outcome : result.outcome = ts.foldlM (bindStep n s policy) .empty) :
    IsDecided n s policy ts result := by
  have refusal (before : List TypeElement) (t : TypeElement) (after : List TypeElement)
      (failure : Failure) (split : ts = before ++ t :: after) (pass : AllPass n s policy before)
      (refused : IsRefusal n s policy before t failure) : result.failure = some failure := by
    subst split
    have named (u : TypeElement) (hu : u ∈ before) := named u (by simp [hu]) t (by simp)
    rw [← Findings.outcome_eq_error_iff, outcome]
    exact foldlM_bindStep_of_refusal named pass refused
  have success (pass : AllPass n s policy ts) :
      result.failure = none ∧ IsBound n s policy ts result.found := by
    obtain ⟨b, done, bound⟩ := foldlM_bindStep_of_allPass pass
    obtain ⟨succeeds, rfl⟩ := Findings.outcome_eq_ok_iff.mp (outcome.trans done)
    exact ⟨succeeds, bound⟩
  have fails_iff : result.failure ≠ none ↔ ¬ AllPass n s policy ts := by
    refine ⟨fun fails pass => fails (success pass).1, fun h => ?_⟩
    obtain ⟨before, t, after, failure, split, pass, refused⟩ := exists_first_refusal h
    rw [refusal before t after failure split pass refused]
    exact Option.some_ne_none failure
  have bound (succeeds : result.failure = none) : IsBound n s policy ts result.found :=
    (success (not_not.mp (mt fails_iff.mpr (not_not.mpr succeeds)))).2
  refine ⟨fails_iff.trans not_allPass_iff, fun failure => ⟨fun failed => ?_, ?_⟩, bound,
    fun succeeds => (bound succeeds).nodup_values named⟩
  · have fails : result.failure ≠ none := by simp [failed]
    obtain ⟨before, t, after, failure', split, pass, refused⟩ :=
      exists_first_refusal (fails_iff.mp fails)
    have failed' := refusal before t after failure' split pass refused
    obtain rfl : failure' = failure := Option.some.inj (failed'.symm.trans failed)
    exact ⟨before, t, after, split, pass, refused, refused.eq_misuse⟩
  · rintro ⟨before, t, after, split, pass, refused, -⟩
    exact refusal before t after failure split pass refused

/-- Among declared candidates, a search is decided by the presenters. -/
theorem isDecided_presentersAmong (declared : s.Declares cs) :
    IsDecided n s policy (presentersIn n s cs) (presentersAmong n policy s .empty cs) :=
  isDecided_of_outcome (fun _ ht _ hu => eq_of_mem_presentersIn declared ht hu)
    (outcome_presentersAmong .empty cs)

/-! ## 6. Policies compared -/

/-- A presenter that a strict policy lets pass is bound in the same way by each. -/
theorem Bindings.bind_of_reject {contract name : String} {r : BindingOutcome × Bindings}
    (h : b.bind contract name .reject = .ok r) : b.bind contract name policy = .ok r := by
  unfold bind at h ⊢
  cases found : b.get? contract with
  | none => rwa [found] at h
  | some existing =>
    rw [found] at h
    by_cases same : existing = name
    · simp only [if_pos same] at h ⊢
      exact h
    · simp only [if_neg same] at h
      cases h

/-- A search that a strict policy brings to its end is the same under each policy. -/
theorem presentersAmong_of_reject {found : Bindings}
    (succeeds : (presentersAmong n .reject s found cs).failure = none) :
    presentersAmong n policy s found cs = presentersAmong n .reject s found cs := by
  induction cs generalizing found with
  | nil => rfl
  | cons c cs ih =>
    rw [presentersAmong] at succeeds ⊢
    rw [presentersAmong]
    cases verdict : judgePresenter n s c with
    | passed =>
      rw [verdict] at succeeds
      exact ih succeeds
    | skipped t =>
      rw [verdict] at succeeds
      exact congrArg (Findings.after [unresolvedWarning t]) (ih succeeds)
    | noContract t => rfl
    | presenter t contract =>
      rw [verdict] at succeeds
      simp only at succeeds ⊢
      cases bound : found.bind contract t.qualifiedName .reject with
      | error clash =>
        rw [bound] at succeeds
        cases succeeds
      | ok r =>
        rw [bound] at succeeds
        rw [Bindings.bind_of_reject bound]
        exact congrArg (Findings.after (bindingMessages t contract r.1)) (ih succeeds)

/-- Where several presenters of a contract are allowed, only those without one are refused. -/
theorem IsDecided.succeeds_iff {result : Findings Bindings} (h : IsDecided n s policy ts result)
    (lenient : policy ≠ .reject) :
    result.failure = none ↔ ∀ t ∈ ts, contractOf? n s t ≠ none := by
  rw [← not_iff_not, ← ne_eq, h.fails_iff]
  simp [lenient]

theorem presentersIn_reverse (cs : List Element) :
    presentersIn n s cs.reverse = (presentersIn n s cs).reverse :=
  List.filterMap_reverse

/-- The last presenter of a contract is the first one from behind. -/
theorem get?_reverse_of_isDecided {last first : Findings Bindings}
    (hl : IsDecided n s .lastWins ts last) (hf : IsDecided n s .firstWins ts.reverse first)
    (succeeds : last.failure = none) (succeeds' : first.failure = none) (contract : String) :
    last.found.get? contract = first.found.get? contract := by
  rw [(hl.bound succeeds).chosen, (hf.bound succeeds').chosen, List.filter_reverse]
  simp only [DuplicatePolicy.chosen, List.head?_reverse]

/-- Under each policy, a search for presenters is decided by the presenters among the candidates.
If only one presenter is allowed and that is so, the policy makes no difference. The last presenters
win among candidates exactly if the first ones win among the same candidates in reverse. -/
theorem presentersAmong_decides (declared : s.Declares cs) :
    (∀ t, t ∈ presentersIn n s cs ↔ .type t ∈ cs ∧ IsPresenter n s t) ∧
    (∀ policy, IsDecided n s policy (presentersIn n s cs) (presentersAmong n policy s .empty cs)) ∧
    ((presentersAmong n .reject s .empty cs).failure = none → ∀ policy,
      presentersAmong n policy s .empty cs = presentersAmong n .reject s .empty cs) ∧
    ((presentersAmong n .lastWins s .empty cs).failure = none ↔
      (presentersAmong n .firstWins s .empty cs.reverse).failure = none) ∧
    ((presentersAmong n .lastWins s .empty cs).failure = none → ∀ contract,
      (presentersAmong n .lastWins s .empty cs).found.get? contract =
        (presentersAmong n .firstWins s .empty cs.reverse).found.get? contract) := by
  have last : IsDecided n s .lastWins (presentersIn n s cs)
      (presentersAmong n .lastWins s .empty cs) := isDecided_presentersAmong declared
  have first : IsDecided n s .firstWins (presentersIn n s cs).reverse
      (presentersAmong n .firstWins s .empty cs.reverse) := by
    rw [← presentersIn_reverse]
    exact isDecided_presentersAmong fun t ht => declared t (List.mem_reverse.mp ht)
  have both : (presentersAmong n .lastWins s .empty cs).failure = none ↔
      (presentersAmong n .firstWins s .empty cs.reverse).failure = none := by
    rw [last.succeeds_iff (by decide), first.succeeds_iff (by decide)]
    simp only [List.mem_reverse]
  refine ⟨fun t => mem_presentersIn_iff declared, fun policy => isDecided_presentersAmong declared,
    fun succeeds policy => presentersAmong_of_reject succeeds, both, fun succeeds => ?_⟩
  exact get?_reverse_of_isDecided last first succeeds (both.mp succeeds)

/-- A presenter of one contract. -/
def notesPresenter (name : String) : TypeElement :=
  { Platform.subclass name ({} : FrameworkNames).presenterBase with
    interfaces := [.named "com.example.Notes"] }

/-- Two presenters of one contract, and what is above them. -/
def notesStore : TypeStore :=
  TypeStore.empty.insertAll [.ofKind .classType ({} : FrameworkNames).presenterBase,
    .ofInterface ({} : FrameworkNames).presentable,
    { TypeElement.ofInterface "com.example.Notes" with
      interfaces := [.named ({} : FrameworkNames).presentable] },
    notesPresenter "com.example.Plain", notesPresenter "com.example.Rich"]

/-- The two presenters. -/
def notesCandidates : List Element :=
  [.type (notesPresenter "com.example.Plain"), .type (notesPresenter "com.example.Rich")]

theorem presentersAmong_decides_notesCandidates :
    notesStore.Declares notesCandidates ∧
    (∃ t ∈ presentersIn {} notesStore notesCandidates,
      ∃ u ∈ presentersIn {} notesStore notesCandidates, t ≠ u ∧
        ∃ contract, contractOf? {} notesStore t = some contract ∧
          contractOf? {} notesStore u = some contract) ∧
    (presentersAmong {} .firstWins notesStore .empty notesCandidates.reverse).found.get?
      "com.example.Notes" = some "com.example.Rich" := by
  have declared : notesStore.Declares notesCandidates := by
    intro t ht
    simp only [notesCandidates, List.mem_cons, Element.type.injEq, List.not_mem_nil, or_false] at ht
    rcases ht with rfl | rfl <;> rfl
  obtain ⟨-, decided, -, -, same⟩ := presentersAmong_decides (n := {}) declared
  have twice := (decided .reject).fails_iff.mp (by decide +kernel)
  have contracts := ((decided .lastWins).succeeds_iff (by decide)).mp (by decide +kernel)
  refine ⟨declared, ?_, ?_⟩
  · rcases twice with ⟨t, ht, none_there⟩ | ⟨-, shared⟩
    · exact absurd none_there (contracts t ht)
    · exact shared
  · exact (same (by decide +kernel) _).symm.trans (by decide +kernel)

end ComponentWiring
