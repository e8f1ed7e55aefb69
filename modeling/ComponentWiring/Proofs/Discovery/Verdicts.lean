/-
ComponentWiring.Proofs.Discovery.Verdicts — which candidates stop a search, and what is found.

* `IsContainer`, `IsPresenter`, `contractOf?` — what is asked of the candidates.
* `containersAmong_succeeds_iff` — a search for containers comes to its end exactly if every valid
  candidate is one.
* `presentersAmong_succeeds_iff` — a search for presenters comes to its end exactly if every
  presenter has a contract.
* `get?_presentersAmong_iff` — a contract then has the presenter found last.

Superclasses are those of a complete walk. Candidates are declared types, so the bounded walk of a
valid one is complete.
-/
import ComponentWiring.Declared.Round
import ComponentWiring.Discovery.Presenters
import ComponentWiring.Proofs.Declared.Superclasses
import ComponentWiring.Proofs.Keyed

namespace ComponentWiring

/-! ## 1. Candidates -/

theorem Element.class?_eq_some_iff {e : Element} {t : TypeElement} :
    e.class? = some t ↔ e = .type t ∧ t.isClass = true := by
  unfold Element.class? Element.type?
  cases e with
  | method m owner => simp
  | type u => rw [Option.filter_eq_some_iff, Option.some.injEq, Element.type.injEq]

/-- A type among the elements is the one declared under its name. -/
def TypeStore.Declares (s : TypeStore) (es : List Element) : Prop :=
  ∀ t, .type t ∈ es → s.get? t.qualifiedName = some t

theorem Round.type_mem_carriers_iff {marker : String} {t u : TypeElement} :
    .type u ∈ carriers marker t ↔ u = t ∧ (t.marker? marker).isSome := by
  by_cases annotated : (t.marker? marker).isSome <;> simp [carriers, annotated]

theorem Round.type_mem_elementsWith_iff {r : Round} {marker : String} {t : TypeElement} :
    .type t ∈ r.elementsWith marker ↔ t ∈ r.rootElements ∧ (t.marker? marker).isSome := by
  simp only [elementsWith, List.mem_flatMap, type_mem_carriers_iff]
  constructor
  · rintro ⟨_, declared, rfl, annotated⟩
    exact ⟨declared, annotated⟩
  · intro h
    exact ⟨t, h.1, rfl, h.2⟩

theorem Round.declares_elementsWith (r : Round) (marker : String) :
    r.store.Declares (r.elementsWith marker) := by
  intro t ht
  obtain ⟨name, _, known⟩ := List.mem_filterMap.mp (type_mem_elementsWith_iff.mp ht).1
  rwa [TypeStore.qualifiedName_of_get? known]

/-- A round with an annotated element carries annotations. -/
theorem Round.markersPresent_ne_nil {r : Round} {markers : List String} {marker : String}
    (asked : marker ∈ markers) (carried : r.elementsWith marker ≠ []) :
    r.markersPresent markers ≠ [] := by
  have present : marker ∈ r.markersPresent markers := by
    rw [markersPresent, List.mem_eraseDups, List.mem_filter]
    exact ⟨asked, by simpa using carried⟩
  exact List.ne_nil_of_mem present

/-- Among declared elements, a type is known by its name. -/
theorem TypeStore.Declares.eq_of_name {s : TypeStore} {es : List Element} {t u : TypeElement}
    (declared : s.Declares es) (hu : .type u ∈ es)
    (known : s.get? t.qualifiedName = some t) (same : u.qualifiedName = t.qualifiedName) : u = t :=
  Option.some.inj ((declared u hu).symm.trans (same ▸ known))

/-! ## 2. Containers -/

/-- The type is a class, and everything above it is known and of the right kind. -/
structure TypeStore.IsChecked (s : TypeStore) (t : TypeElement) : Prop where
  isClass : t.isClass = true
  valid : s.isValid t = true

/-- The bases that tell activities, fragments and presenters apart. -/
def FrameworkNames.bases (n : FrameworkNames) : List String :=
  [n.activityBase, n.compatActivityBase, n.fragmentBase, n.presenterBase]

/-- The class has no type parameters, and the nearest base above it is one that the tier
accepts. -/
structure IsContainer (n : FrameworkNames) (tier : ChildTier) (s : TypeStore) (t : TypeElement) :
    Prop where
  plain : t.typeParameters = []
  nearest : ∃ below base above, s.Superclasses t (below ++ base :: above) ∧
    base ∈ (TierRules.ofTier n tier).acceptedBases ∧ ∀ name ∈ below, name ∉ n.bases

namespace TierRules

theorem baseKind?_eq_accepted_iff {r : TierRules} {base : String} :
    r.baseKind? base = some .accepted ↔ base ∈ r.acceptedBases := by
  rw [← List.contains_iff_mem, baseKind?, accepts]
  cases r.acceptedBases.contains base with
  | true => simp
  | false => cases r.sibling? base <;> simp

theorem baseKind?_eq_none_iff {n : FrameworkNames} {tier : ChildTier} {base : String} :
    (ofTier n tier).baseKind? base = none ↔ base ∉ n.bases := by
  have known : base ∈ n.bases ↔
      base ∈ (ofTier n tier).acceptedBases ∨ ∃ b ∈ (ofTier n tier).siblings, b.name = base := by
    cases tier <;> simp [FrameworkNames.bases, ofTier, presenterSibling] <;> grind
  rw [known, ← List.contains_iff_mem, baseKind?, accepts]
  cases (ofTier n tier).acceptedBases.contains base with
  | true => simp
  | false => simp [sibling?]

/-- The verdict on a class that can be checked depends on its type parameters and superclasses. -/
theorem judge_of_isChecked {r : TierRules} {s : TypeStore} {t : TypeElement} {ns : List String}
    (known : s.get? t.qualifiedName = some t) (checked : s.IsChecked t)
    (walk : s.Superclasses t ns) :
    r.judge s (.type t) =
      if t.typeParameters = [] then r.judgeBases t ns .root
      else .refused (.hasTypeParameters t) := by
  have class? : (Element.type t).class? = some t :=
    Element.class?_eq_some_iff.mpr ⟨rfl, checked.isClass⟩
  rw [judge, class?]
  simp only [checked.valid, Bool.not_true, Bool.false_eq_true, if_false,
    TypeStore.superclassChain_of_superclasses known walk]
  by_cases plain : t.typeParameters = [] <;> simp [plain]

/-- A valid class is refused exactly if it is no container. -/
theorem judge_refused_iff {n : FrameworkNames} {tier : ChildTier} {s : TypeStore} {t : TypeElement}
    (isClass : t.isClass = true) (known : s.get? t.qualifiedName = some t)
    (valid : s.isValid t = true) :
    (∃ fault, (ofTier n tier).judge s (.type t) = .refused fault) ↔ ¬ IsContainer n tier s t := by
  obtain ⟨ns, walk⟩ := TypeStore.superclasses_of_isValid known valid
  rw [judge_of_isChecked known ⟨isClass, valid⟩ walk]
  by_cases plain : t.typeParameters = []
  · rw [if_pos plain]
    -- The first of the superclasses that means anything for the tier decides.
    have decisive : ns.findSome? (ofTier n tier).baseKind? = some .accepted ↔
        IsContainer n tier s t := by
      rw [List.findSome?_eq_some_iff]
      constructor
      · intro h
        obtain ⟨below, base, above, rfl, accepted, others⟩ := h
        exact ⟨plain, below, base, above, walk, baseKind?_eq_accepted_iff.mp accepted,
          fun name hname => baseKind?_eq_none_iff.mp (others name hname)⟩
      · intro h
        obtain ⟨_, below, base, above, walk', accepted, others⟩ := h
        exact ⟨below, base, above, walk.unique walk', baseKind?_eq_accepted_iff.mpr accepted,
          fun name hname => baseKind?_eq_none_iff.mpr (others name hname)⟩
    rw [← decisive]
    unfold judgeBases
    cases ns.findSome? (ofTier n tier).baseKind? with
    | none => simp
    | some kind => cases kind <;> simp
  · rw [if_neg plain]
    exact iff_of_true ⟨_, rfl⟩ fun container => plain container.plain

/-- A candidate is not refused exactly if it is a class, and a container where it is valid. -/
theorem judge_passes_iff {n : FrameworkNames} {tier : ChildTier} {s : TypeStore} {c : Element}
    (known : ∀ t, c = .type t → s.get? t.qualifiedName = some t) :
    (¬ ∃ fault, (ofTier n tier).judge s c = .refused fault) ↔
      ∃ t, c = .type t ∧ t.isClass = true ∧ (s.isValid t = true → IsContainer n tier s t) := by
  cases class? : c.class? with
  | none =>
    have refused : (ofTier n tier).judge s c = .refused (.notAClass c) := by rw [judge, class?]
    refine iff_of_false (fun passes => passes ⟨_, refused⟩) ?_
    intro h
    obtain ⟨t, type, isClass, _⟩ := h
    cases class?.symm.trans (Element.class?_eq_some_iff.mpr ⟨type, isClass⟩)
  | some t =>
    obtain ⟨rfl, isClass⟩ := Element.class?_eq_some_iff.mp class?
    by_cases valid : s.isValid t = true
    · rw [judge_refused_iff isClass (known t rfl) valid, Classical.not_not]
      constructor
      · intro container
        exact ⟨t, rfl, isClass, fun _ => container⟩
      · intro h
        obtain ⟨u, same, _, container⟩ := h
        cases same
        exact container valid
    · have skipped : (ofTier n tier).judge s (.type t) = .skipped t := by
        rw [judge, class?]
        simp [valid]
      refine iff_of_true ?_ ⟨t, rfl, isClass, fun impossible => absurd impossible valid⟩
      intro h
      obtain ⟨fault, refused⟩ := h
      cases skipped.symm.trans refused

end TierRules

/-- A search for containers ends early exactly at a refused candidate. -/
theorem containersAmong_failure_iff {r : TierRules} {s : TypeStore} {found : ClassMap}
    {cs : List Element} :
    (containersAmong r s found cs).failure = none ↔
      ∀ c ∈ cs, ¬ ∃ fault, r.judge s c = .refused fault := by
  induction cs generalizing found with
  | nil => simp [containersAmong]
  | cons c cs ih =>
    rw [List.forall_mem_cons, containersAmong]
    cases verdict : r.judge s c with
    | refused fault => simp
    | skipped t =>
      simp only [Findings.after, ih]
      simp
    | accepted t =>
      by_cases again : found.contains t.qualifiedName = true
      · simp only [if_pos again, ih]
        simp
      · simp only [if_neg again, Findings.after, ih]
        simp

/-- A search for the containers of a tier comes to its end exactly if every candidate is a class,
and a container where it is valid. -/
theorem containersAmong_succeeds_iff {n : FrameworkNames} {tier : ChildTier} {s : TypeStore}
    {found : ClassMap} {cs : List Element} (declared : s.Declares cs) :
    (containersAmong (.ofTier n tier) s found cs).failure = none ↔
      ∀ c ∈ cs, ∃ t, c = .type t ∧ t.isClass = true ∧
        (s.isValid t = true → IsContainer n tier s t) := by
  rw [containersAmong_failure_iff]
  refine forall₂_congr fun c hc => TierRules.judge_passes_iff fun t type => ?_
  subst type
  exact declared t hc

/-! ## 3. Presenters -/

/-- The class is below the presenter base. -/
abbrev IsPresenter (n : FrameworkNames) (s : TypeStore) (t : TypeElement) : Prop :=
  s.IsBelow n.presenterBase t

/-- The declared interface of a class that leads to the interface of all contracts. -/
def contractOf? (n : FrameworkNames) (s : TypeStore) (t : TypeElement) : Option String :=
  (s.findDeclaringInterface t.interfaces n.presentable).map (·.qualifiedName)

/-- The candidate as a presenter: a class below the presenter base that can be checked. -/
def presenter? (n : FrameworkNames) (s : TypeStore) (c : Element) : Option TypeElement :=
  c.class?.filter fun t => s.isValid t && s.inheritsFrom t n.presenterBase

theorem presenter?_eq_some_iff {n : FrameworkNames} {s : TypeStore} {c : Element} {t : TypeElement}
    (known : ∀ t, c = .type t → s.get? t.qualifiedName = some t) :
    presenter? n s c = some t ↔ c = .type t ∧ IsPresenter n s t := by
  rw [presenter?, Option.filter_eq_some_iff, Element.class?_eq_some_iff, Bool.and_eq_true,
    and_assoc]
  refine and_congr_right fun type => ?_
  constructor
  · rintro ⟨isClass, valid, below⟩
    exact (TypeStore.isBelow_iff_contains isClass valid (known t type)).mpr below
  · intro h
    exact ⟨h.isClass, h.valid,
      (TypeStore.isBelow_iff_contains h.isClass h.valid (known t type)).mp h⟩

/-- The verdict on a presenter depends on its contract only. -/
theorem judgePresenter_of_presenter? {n : FrameworkNames} {s : TypeStore} {c : Element}
    {t : TypeElement} (h : presenter? n s c = some t) :
    judgePresenter n s c = (contractOf? n s t).elim (.noContract t) (.presenter t) := by
  obtain ⟨class?, means⟩ := Option.filter_eq_some_iff.mp h
  obtain ⟨valid, below⟩ := (Bool.and_eq_true _ _).mp means
  rw [TypeStore.inheritsFrom] at below
  simp only [judgePresenter, class?, valid, TypeStore.classify, below, Bool.not_true,
    Bool.false_eq_true, if_false, contractOf?]
  cases s.findDeclaringInterface t.interfaces n.presentable <;> rfl

/-- What is no presenter is passed over or left out. -/
theorem judgePresenter_of_presenter?_eq_none {n : FrameworkNames} {s : TypeStore} {c : Element}
    (h : presenter? n s c = none) :
    judgePresenter n s c = .passed ∨ ∃ t, judgePresenter n s c = .skipped t := by
  rw [presenter?] at h
  rw [judgePresenter]
  cases class? : c.class? with
  | none => exact .inl rfl
  | some t =>
    by_cases valid : s.isValid t = true
    · have other : (s.superclassChain t).1.contains n.presenterBase = false := by
        simpa [class?, valid, TypeStore.inheritsFrom] using h
      refine .inl ?_
      simp only [valid, TypeStore.classify, other, Bool.not_true, Bool.false_eq_true, if_false,
        Bool.not_false, if_true]
    · exact .inr ⟨t, by simp [valid]⟩

theorem judgePresenter_of_isPresenter {n : FrameworkNames} {s : TypeStore} {t : TypeElement}
    (known : s.get? t.qualifiedName = some t) (h : IsPresenter n s t) :
    judgePresenter n s (.type t) =
      (contractOf? n s t).elim (.noContract t) (.presenter t) := by
  refine judgePresenter_of_presenter? ((presenter?_eq_some_iff fun u same => ?_).mpr ⟨rfl, h⟩)
  cases same
  exact known

/-- Other candidates are passed over or left out. -/
theorem judgePresenter_of_not_isPresenter {n : FrameworkNames} {s : TypeStore} {c : Element}
    (known : ∀ t, c = .type t → s.get? t.qualifiedName = some t)
    (h : ∀ t, c = .type t → ¬ IsPresenter n s t) :
    judgePresenter n s c = .passed ∨ ∃ t, judgePresenter n s c = .skipped t := by
  refine judgePresenter_of_presenter?_eq_none (Option.eq_none_iff_forall_ne_some.mpr ?_)
  intro t found
  obtain ⟨type, presenter⟩ := (presenter?_eq_some_iff known).mp found
  exact h t type presenter

/-- The contract that a candidate is to be bound to, with the name of the candidate. -/
def binding? (n : FrameworkNames) (s : TypeStore) (c : Element) : Option (String × String) :=
  match judgePresenter n s c with
  | .presenter t contract => some (contract, t.qualifiedName)
  | _ => none

theorem binding?_eq_some_iff {n : FrameworkNames} {s : TypeStore} {c : Element}
    (known : ∀ t, c = .type t → s.get? t.qualifiedName = some t) {contract name : String} :
    binding? n s c = some (contract, name) ↔ ∃ t, c = .type t ∧ IsPresenter n s t ∧
      contractOf? n s t = some contract ∧ t.qualifiedName = name := by
  by_cases h : ∃ t, c = .type t ∧ IsPresenter n s t
  · obtain ⟨t, rfl, presenter⟩ := h
    rw [binding?, judgePresenter_of_isPresenter (known t rfl) presenter]
    constructor
    · intro bound
      cases contract? : contractOf? n s t with
      | none =>
        rw [contract?] at bound
        cases bound
      | some found =>
        rw [contract?] at bound
        cases bound
        exact ⟨t, rfl, presenter, contract?, rfl⟩
    · intro given
      obtain ⟨u, same, _, contract?, rfl⟩ := given
      cases same
      rw [contract?]
      rfl
  · have others : ∀ t, c = .type t → ¬ IsPresenter n s t :=
      fun t type presenter => h ⟨t, type, presenter⟩
    refine iff_of_false (fun bound => ?_) fun ⟨t, type, presenter, _⟩ => h ⟨t, type, presenter⟩
    rcases judgePresenter_of_not_isPresenter known others with passed | ⟨t, skipped⟩
    · rw [binding?, passed] at bound
      cases bound
    · rw [binding?, skipped] at bound
      cases bound

/-- What another presenter makes of the name bound to its contract. -/
def DuplicatePolicy.keep (policy : DuplicatePolicy) (existing : Option String) (name : String) :
    String :=
  match policy with
  | .lastWins => name
  | .firstWins | .reject => existing.getD name

/-- Where no other presenter is in the way of a strict policy, a presenter is bound to its contract
as the policy has it. -/
theorem Bindings.exists_bind {b : Bindings} {contract name : String} {policy : DuplicatePolicy}
    (free : policy = .reject → ∀ existing, b.get? contract = some existing → existing = name) :
    ∃ outcome b', b.bind contract name policy = .ok (outcome, b') ∧
      b'.keys = (b.insert contract name).keys ∧
      ∀ k, b'.get? k = if contract = k then some (policy.keep (b.get? contract) name)
        else b.get? k := by
  unfold Bindings.bind
  cases found : b.get? contract with
  | none =>
    refine ⟨_, _, rfl, rfl, fun k => ?_⟩
    rw [Keyed.get?_insert]
    cases policy <;> rfl
  | some existing =>
    have known : contract ∈ b.keys := by
      refine Classical.byContradiction fun new => ?_
      cases found.symm.trans (Keyed.get?_eq_none_iff.mpr new)
    have keys : (b.insert contract name).keys = b.keys := by rw [Keyed.keys_insert, if_pos known]
    have unchanged (k : String) : b.get? k = if contract = k then some existing else b.get? k := by
      split
      · next same => rw [← same, found]
      · rfl
    by_cases same : existing = name
    · refine ⟨.unchanged, b, if_pos same, keys.symm, fun k => ?_⟩
      subst same
      cases policy <;> exact unchanged k
    · cases policy with
      | lastWins =>
        exact ⟨_, _, if_neg same, rfl, fun k => Keyed.get?_insert b contract k name⟩
      | firstWins => exact ⟨_, _, if_neg same, keys.symm, unchanged⟩
      | reject => exact absurd (free rfl existing found) same

/-- With the last presenter winning, a binding is a write. -/
theorem Bindings.bind_lastWins (b : Bindings) (contract presenter : String) :
    ∃ outcome bound, b.bind contract presenter .lastWins = .ok (outcome, bound) ∧
      ∀ k, bound.get? k = (b.insert contract presenter).get? k := by
  have free : DuplicatePolicy.lastWins = .reject → ∀ existing, b.get? contract = some existing →
      existing = presenter := fun impossible => by cases impossible
  obtain ⟨outcome, bound, done, -, get?⟩ := Bindings.exists_bind free
  exact ⟨outcome, bound, done, fun k => (get? k).trans (Keyed.get?_insert b contract k _).symm⟩

/-- A search for presenters ends early exactly at one without a contract. Otherwise every contract
has the presenter that was found last. -/
theorem presentersAmong_lastWins {n : FrameworkNames} {s : TypeStore} {found : Bindings}
    {cs : List Element} :
    ((presentersAmong n .lastWins s found cs).failure = none ↔
      ∀ c ∈ cs, ∀ t, judgePresenter n s c ≠ .noContract t) ∧
    ((presentersAmong n .lastWins s found cs).failure = none → ∀ k,
      (presentersAmong n .lastWins s found cs).found.get? k =
        (Keyed.lastValue? (cs.filterMap (binding? n s)) k).or (found.get? k)) := by
  induction cs generalizing found with
  | nil => simp [presentersAmong, Keyed.lastValue?]
  | cons c cs ih =>
    rw [List.forall_mem_cons, presentersAmong]
    cases verdict : judgePresenter n s c with
    | passed =>
      have nothing : binding? n s c = none := by rw [binding?, verdict]
      rw [List.filterMap_cons_none nothing]
      simpa using @ih found
    | skipped t =>
      have nothing : binding? n s c = none := by rw [binding?, verdict]
      rw [List.filterMap_cons_none nothing]
      simpa [Findings.after] using @ih found
    | noContract t => simp
    | presenter t contract =>
      have pair : binding? n s c = some (contract, t.qualifiedName) := by rw [binding?, verdict]
      obtain ⟨outcome, bound, done, written⟩ := found.bind_lastWins contract t.qualifiedName
      rw [List.filterMap_cons_some pair]
      simp only [done, Findings.after]
      refine ⟨by simpa using (@ih bound).1, fun succeeds k => ?_⟩
      rw [(@ih bound).2 succeeds k, written, Keyed.get?_insert, Keyed.lastValue?_cons,
        Option.or_assoc]
      by_cases same : contract = k <;> simp [same]

/-- A search for presenters comes to its end exactly if every presenter has a contract. -/
theorem presentersAmong_succeeds_iff {n : FrameworkNames} {s : TypeStore} {found : Bindings}
    {cs : List Element} (declared : s.Declares cs) :
    (presentersAmong n .lastWins s found cs).failure = none ↔
      ∀ t, .type t ∈ cs → IsPresenter n s t → ∃ contract, contractOf? n s t = some contract := by
  rw [presentersAmong_lastWins.1]
  constructor
  · intro accepted t ht presenter
    have verdict := judgePresenter_of_isPresenter (declared t ht) presenter
    cases contract? : contractOf? n s t with
    | some contract => exact ⟨contract, rfl⟩
    | none =>
      rw [contract?] at verdict
      exact absurd verdict (accepted _ ht t)
  · intro contracts c hc t refused
    have known : ∀ u, c = .type u → s.get? u.qualifiedName = some u := by
      rintro u rfl
      exact declared u hc
    by_cases h : ∃ u, c = .type u ∧ IsPresenter n s u
    · obtain ⟨u, rfl, presenter⟩ := h
      obtain ⟨contract, contract?⟩ := contracts u hc presenter
      rw [judgePresenter_of_isPresenter (known u rfl) presenter, contract?] at refused
      cases refused
    · have others : ∀ u, c = .type u → ¬ IsPresenter n s u :=
        fun u type presenter => h ⟨u, type, presenter⟩
      rcases judgePresenter_of_not_isPresenter known others with passed | ⟨u, skipped⟩
      · cases passed.symm.trans refused
      · cases skipped.symm.trans refused

/-- The class is the last presenter of the contract among the candidates. -/
structure IsLastPresenter (n : FrameworkNames) (s : TypeStore) (cs : List Element)
    (contract : String) (t : TypeElement) : Prop where
  presenter : IsPresenter n s t
  bound : contractOf? n s t = some contract
  last : ∃ before after, cs = before ++ .type t :: after ∧
    ∀ u, .type u ∈ after → IsPresenter n s u → contractOf? n s u ≠ some contract

/-- The presenter that is found for a contract is the last one. -/
theorem get?_presentersAmong_iff {n : FrameworkNames} {s : TypeStore} {cs : List Element}
    (declared : s.Declares cs) (succeeds : (presentersAmong n .lastWins s .empty cs).failure = none)
    {contract name : String} :
    (presentersAmong n .lastWins s .empty cs).found.get? contract = some name ↔
      ∃ t, IsLastPresenter n s cs contract t ∧ t.qualifiedName = name := by
  have known {c : Element} (hc : c ∈ cs) : ∀ u, c = .type u → s.get? u.qualifiedName = some u := by
    rintro u rfl
    exact declared u hc
  rw [presentersAmong_lastWins.2 succeeds, Keyed.get?_empty, Option.or_none,
    Keyed.lastValue?_filterMap_eq_some_iff]
  constructor
  · intro h
    obtain ⟨before, c, after, rfl, bound, last⟩ := h
    obtain ⟨t, rfl, presenter, contract?, rfl⟩ := (binding?_eq_some_iff (known (by simp))).mp bound
    refine ⟨t, ⟨presenter, contract?, before, after, rfl, fun u hu presenter' again => ?_⟩, rfl⟩
    refine last _ hu u.qualifiedName ?_
    exact (binding?_eq_some_iff (known (by simp [hu]))).mpr ⟨u, rfl, presenter', again, rfl⟩
  · intro h
    obtain ⟨t, ⟨presenter, contract?, before, after, rfl, last⟩, rfl⟩ := h
    refine ⟨before, .type t, after, rfl, ?_, fun d hd w again => ?_⟩
    · exact (binding?_eq_some_iff (known (by simp))).mpr ⟨t, rfl, presenter, contract?, rfl⟩
    · obtain ⟨u, rfl, presenter', contract', _⟩ :=
        (binding?_eq_some_iff (known (by simp [hd]))).mp again
      exact last u hd presenter' contract'

end ComponentWiring
