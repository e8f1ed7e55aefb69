/-
ComponentWiring.Proofs.Run.Order — the order in which root types are listed.

* `containersAmong_perm`, `presentersAmong_perm` — a search among the same candidates in another
  order comes to its end as well, and finds the same.
* `Plan.WiresAlike` — a tier of two plans has the same containers, bindings and injections.
* `plan_reordered` — the same round in another order has a plan that is wired alike.
* `Coordinator.processRound_reordered` — so a call comes to the same application, initializer and
  files.

Candidates are judged one by one, so their order only decides which failure is met first, and in
which order members are declared. It decides between the presenters of a contract as well, unless
only one is allowed.
-/
import ComponentWiring.Proofs.Discovery.Containers
import ComponentWiring.Proofs.Discovery.Presenters
import ComponentWiring.Proofs.Discovery.Root
import ComponentWiring.Proofs.Run.Staging
import Mathlib.Data.List.Perm.Basic

namespace ComponentWiring

open Java

/-! ## 1. Searches -/

section Candidates

variable {n : FrameworkNames} {rules : TierRules} {s : TypeStore} {cs cs' : List Element}

theorem TypeStore.Declares.perm (declared : s.Declares cs) (order : cs.Perm cs') :
    s.Declares cs' :=
  fun t ht => declared t (order.mem_iff.mpr ht)

/-- A search that comes to its end finds the candidates that can be checked. -/
theorem toList_containersAmong (declared : s.Declares cs)
    (succeeds : (containersAmong rules s .empty cs).failure = none) :
    (containersAmong rules s .empty cs).found.toList = checkableClasses s cs := by
  have passes (c : Element) (hc : c ∈ cs) : ¬ rules.IsBad s c := by
    rintro ⟨fault, bad⟩
    have refused := bad.judge_eq fun t type => declared t (type ▸ hc)
    exact containersAmong_failure_iff.mp succeeds c hc ⟨fault, refused⟩
  have first : ClassMap.empty.toList = checkableClasses s [] := rfl
  exact (containersAmong_of_passes declared first passes).2.1

/-- The same candidates in another order are containers as well. -/
theorem containersAmong_perm (declared : s.Declares cs) (order : cs.Perm cs')
    (succeeds : (containersAmong rules s .empty cs).failure = none) :
    (containersAmong rules s .empty cs').failure = none ∧
      (containersAmong rules s .empty cs).found.toList.Perm
        (containersAmong rules s .empty cs').found.toList := by
  have succeeds' : (containersAmong rules s .empty cs').failure = none := by
    rw [containersAmong_failure_iff] at succeeds ⊢
    exact fun c hc => succeeds c (order.mem_iff.mpr hc)
  refine ⟨succeeds', ?_⟩
  have once (cs : List Element) : (checkableClasses s cs).Nodup := nodup_eraseDups _
  rw [toList_containersAmong declared succeeds,
    toList_containersAmong (declared.perm order) succeeds',
    List.perm_ext_iff_of_nodup (once cs) (once cs')]
  simp only [mem_checkableClasses_iff, order.mem_iff, implies_true]

/-- Where only one presenter of a contract is allowed, each one is bound to its contract. -/
theorem IsBound.get?_eq_some_iff {ts : List TypeElement} {b : Bindings}
    (h : IsBound n s .reject ts b) {contract name : String} :
    b.get? contract = some name ↔
      ∃ t ∈ ts, contractOf? n s t = some contract ∧ t.qualifiedName = name := by
  constructor
  · exact h.exists_presenter
  · rintro ⟨t, ht, wanted, rfl⟩
    exact h.only rfl t ht contract wanted

/-- The same presenters in another order are bound to the same contracts, if only one presenter of a
contract is allowed. -/
theorem presentersAmong_perm (declared : s.Declares cs) (order : cs.Perm cs')
    (succeeds : (presentersAmong n .reject s .empty cs).failure = none) :
    (presentersAmong n .reject s .empty cs').failure = none ∧
      ∀ contract, (presentersAmong n .reject s .empty cs).found.get? contract =
        (presentersAmong n .reject s .empty cs').found.get? contract := by
  have decided : IsDecided n s .reject (presentersIn n s cs) _ :=
    isDecided_presentersAmong declared
  have decided' : IsDecided n s .reject (presentersIn n s cs') _ :=
    isDecided_presentersAmong (declared.perm order)
  have presenters : (presentersIn n s cs).Perm (presentersIn n s cs') := order.filterMap _
  have fails_iff : (presentersAmong n .reject s .empty cs').failure ≠ none ↔
      (presentersAmong n .reject s .empty cs).failure ≠ none := by
    rw [decided.fails_iff, decided'.fails_iff]
    simp only [presenters.mem_iff]
  have succeeds' := not_not.mp (mt fails_iff.mp (not_not.mpr succeeds))
  refine ⟨succeeds', fun contract => Option.ext fun name => ?_⟩
  rw [(decided.bound succeeds).get?_eq_some_iff, (decided'.bound succeeds').get?_eq_some_iff]
  simp only [presenters.mem_iff]

end Candidates

/-! ## 2. Rounds -/

section Rounds

variable {s : Settings} {r : Round} {names : List String} (order : r.roots.Perm names)
include order

theorem Round.elementsWith_perm (marker : String) :
    (r.elementsWith marker).Perm ({ r with roots := names }.elementsWith marker) :=
  (order.filterMap _).flatMap_right _

theorem Round.markersPresent_reordered (markers : List String) :
    { r with roots := names }.markersPresent markers = r.markersPresent markers := by
  have same (marker : String) : ({ r with roots := names }.elementsWith marker).isEmpty =
      (r.elementsWith marker).isEmpty := by
    rw [Bool.eq_iff_iff, List.isEmpty_iff, List.isEmpty_iff]
    exact ⟨fun none_there => (none_there ▸ r.elementsWith_perm order marker).eq_nil,
      fun none_there => (none_there ▸ r.elementsWith_perm order marker).symm.eq_nil⟩
  simp only [markersPresent, same]

/-- The application is the only annotated element, so there is no order to it. -/
theorem applicationRoot_reordered {n : FrameworkNames} {root : ApplicationRoot}
    (found : applicationRoot n r = .ok root) :
    applicationRoot n { r with roots := names } = .ok root := by
  obtain ⟨t, a, only, below, annotated, made⟩ := applicationRoot_ok_iff.mp found
  have only' : { r with roots := names }.elementsWith n.applicationMarker = [.type t] := by
    have elements := r.elementsWith_perm order n.applicationMarker
    rw [only] at elements
    exact elements.symm.eq_singleton
  exact applicationRoot_ok_iff.mpr ⟨t, a, only', below, annotated, made⟩

theorem containersOf_reordered {tier : ChildTier} (succeeds : (containersOf s r tier).failure = none) :
    (containersOf s { r with roots := names } tier).failure = none ∧
      (containersOf s r tier).found.toList.Perm
        (containersOf s { r with roots := names } tier).found.toList :=
  containersAmong_perm (r.declares_elementsWith _) (r.elementsWith_perm order _) succeeds

theorem presentersOf_reordered (policy : s.generation.duplicatePresenters = .reject)
    {tier : ChildTier} (succeeds : (presentersOf s r tier).failure = none) :
    (presentersOf s { r with roots := names } tier).failure = none ∧
      ∀ contract, (presentersOf s r tier).found.get? contract =
        (presentersOf s { r with roots := names } tier).found.get? contract := by
  unfold presentersOf at succeeds ⊢
  rw [policy] at succeeds ⊢
  exact presentersAmong_perm (r.declares_elementsWith _) (r.elementsWith_perm order _) succeeds

/-- What is found for a tier is found in every order. -/
theorem TierDiscovered.reordered (policy : s.generation.duplicatePresenters = .reject)
    {tier : ChildTier} (h : TierDiscovered s r tier) :
    TierDiscovered s { r with roots := names } tier := by
  obtain ⟨presenters, same⟩ := presentersOf_reordered order policy h.presenters
  refine ⟨(containersOf_reordered order h.containers).1, presenters, fun e he => ?_⟩
  have bound := (same e.1).trans (Keyed.get?_eq_some_iff.mpr he)
  exact h.bindings e (Keyed.get?_eq_some_iff.mp bound)

end Rounds

/-! ## 3. Plans -/

/-- The types that a component injects by methods of the name. -/
def injectedTypes (t : TypeDecl) (injectMethod : String) : List TypeExpr :=
  (t.methodsNamed injectMethod).flatMap fun m => m.parameters.map (·.type)

/-- A tier of two plans has the same containers, bindings and injections, in whatever order. -/
structure Plan.WiresAlike (p q : Plan) (n : Naming) (tier : ChildTier) : Prop where
  containers : (p.lower tier).containers.toList.Perm (q.lower tier).containers.toList
  bindings : ∀ contract,
    (p.lower tier).bindings.get? contract = (q.lower tier).bindings.get? contract
  injected : (injectedTypes (p.lower tier).files.component.type n.injectMethod).Perm
    (injectedTypes (q.lower tier).files.component.type n.injectMethod)
  /-- Where no two containers have one name at run time, each name is resolved to the same one. -/
  resolved : (p.lower tier).containers.binaryNames.Nodup → ∀ name,
    p.dispatch.resolve tier.tier name = q.dispatch.resolve tier.tier name

/-- With distinct names at run time, the class of a name does not depend on the order. -/
theorem ClassMap.namedLast?_eq_some_iff {m : ClassMap} (distinct : m.binaryNames.Nodup)
    {name : String} {c : AnnotatedClass} :
    m.namedLast? name = some c ↔ c ∈ m.toList ∧ c.binaryName = name := by
  constructor
  · exact mem_of_namedLast?
  · rintro ⟨hc, rfl⟩
    exact namedLast?_self_iff.mpr distinct c hc

theorem ClassMap.namedLast?_perm {m m' : ClassMap} (same : m.toList.Perm m'.toList)
    (distinct : m.binaryNames.Nodup) (name : String) : m.namedLast? name = m'.namedLast? name := by
  have distinct' : m'.binaryNames.Nodup := (same.map _).nodup_iff.mp distinct
  refine Option.ext fun c => ?_
  rw [namedLast?_eq_some_iff distinct, namedLast?_eq_some_iff distinct', same.mem_iff]

/-- The component of a tier injects its containers in the order of their discovery. -/
theorem ChildGenerator.componentMethods_perm (g : ChildGenerator) {m m' : ClassMap}
    (same : m.toList.Perm m'.toList) : (g.componentMethods m).Perm (g.componentMethods m') :=
  ((same.map _).cons _).append_left _

section Plans

variable {s : Settings} {r : Round} {names : List String} {p q : Plan}

/-- Plans of one application are wired alike if the same was discovered. -/
theorem Plan.IsEmitted.wiresAlike (first : p.IsEmitted s) (second : q.IsEmitted s)
    (root : q.root = p.root) {tier : ChildTier}
    (containers : (p.lower tier).containers.toList.Perm (q.lower tier).containers.toList)
    (bindings : ∀ contract,
      (p.lower tier).bindings.get? contract = (q.lower tier).bindings.get? contract) :
    p.WiresAlike q s.naming tier where
  containers := containers
  bindings := bindings
  injected := by
    unfold injectedTypes TypeDecl.methodsNamed
    rw [first.component_methods tier, second.component_methods tier, root]
    exact ((ChildGenerator.componentMethods_perm _ containers).filter _).flatMap_right _
  resolved distinct name := by
    rw [Dispatch.resolve_of_table (first.table tier), Dispatch.resolve_of_table (second.table tier)]
    exact ClassMap.namedLast?_perm containers distinct name

/-- A round that can be planned can be planned in every order, and is wired alike. -/
theorem plan_reordered (order : r.roots.Perm names)
    (policy : s.generation.duplicatePresenters = .reject) (h : (plan s r).result = .ok p) :
    ∃ q, (plan s { r with roots := names }).result = .ok q ∧ q.root = p.root ∧
      ∀ tier, p.WiresAlike q s.naming tier := by
  obtain ⟨root, found, suit, tiers⟩ := plan_succeeds_iff.mp ⟨p, h⟩
  obtain ⟨q, planned⟩ := plan_succeeds_iff.mpr ⟨root, applicationRoot_reordered order found, suit,
    fun tier => (tiers tier).reordered order policy⟩
  obtain ⟨found', containers, bindings⟩ := plan_discovered h
  obtain ⟨found'', containers', bindings'⟩ := plan_discovered planned
  have same : q.root = p.root :=
    Except.ok.inj (found''.symm.trans (applicationRoot_reordered order found'))
  refine ⟨q, planned, same, fun tier =>
    (plan_isEmitted h).wiresAlike (plan_isEmitted planned) same ?_ fun contract => ?_⟩
  · rw [containers, containers']
    exact (containersOf_reordered order (tiers tier).containers).2
  · rw [bindings, bindings']
    exact (presentersOf_reordered order policy (tiers tier).presenters).2 contract

/-- The initializer is named after the application. -/
theorem plan_initializer (h : (plan s r).result = .ok p) :
    p.initializer = ApplicationGenerator.initializerName ⟨s, packagesOf s p.root, p.root⟩ := by
  obtain ⟨_, _, _, _, _, _, _, _, _, rfl⟩ := plan_ok_iff.mp h
  rfl

end Plans

/-! ## 4. Calls -/

namespace Coordinator

section Reordered

variable {s : Settings} {r : Round} {names : List String} (registry : Registry) (bus : Option Bus)
  (width : Nat)

/-- A first call that succeeds does so in every order. -/
theorem processRound_succeeds_reordered (order : r.roots.Perm names)
    (policy : s.generation.duplicatePresenters = .reject)
    (h : ((start s registry bus).processRound SourceSet.filer r (.empty width)).1.succeeded = true) :
    ((start s registry bus).processRound SourceSet.filer { r with roots := names }
      (.empty width)).1.succeeded = true := by
  rw [processRound, process_succeeded_iff_plan] at h ⊢
  obtain ⟨work, p, planned, apart⟩ := h
  obtain ⟨q, planned', root, -⟩ := plan_reordered order policy planned
  rw [plan_locations planned] at apart
  rw [Round.markersPresent_reordered order]
  refine ⟨work, q, planned', ?_⟩
  rwa [plan_locations planned', root]

/-- If only one presenter of a contract is allowed, then the order in which root types are listed
does not matter: the first call succeeds in every order or in none. In every order it generates the
same files for the same application, and the tiers are wired alike. -/
theorem processRound_reordered (order : r.roots.Perm names)
    (policy : s.generation.duplicatePresenters = .reject) :
    let c := start s registry bus
    let first := (c.processRound SourceSet.filer r (.empty width)).1
    let second := (c.processRound SourceSet.filer { r with roots := names } (.empty width)).1
    (first.succeeded = true ↔ second.succeeded = true) ∧
    (first.succeeded = true → second.succeeded = true →
      first.application = second.application ∧ first.initializer = second.initializer ∧
      first.files = second.files ∧
      ∃ p q, (plan s r).result = .ok p ∧ (plan s { r with roots := names }).result = .ok q ∧
        p.root = q.root ∧ ∀ tier, p.WiresAlike q s.naming tier) := by
  intro c first second
  refine ⟨⟨processRound_succeeds_reordered registry bus width order policy,
    processRound_succeeds_reordered (r := { r with roots := names }) registry bus width order.symm
      policy⟩, fun succeeds succeeds' => ?_⟩
  obtain ⟨work, p, planned, apart⟩ := (process_succeeded_iff_plan _ _ _ _).mp succeeds
  obtain ⟨work', q', planned', apart'⟩ := (process_succeeded_iff_plan _ _ _ _).mp succeeds'
  obtain ⟨q, found, root, alike⟩ := plan_reordered order policy planned
  obtain rfl : q' = q := Except.ok.inj (planned'.symm.trans found)
  obtain ⟨application, initializer, files⟩ := report_of_plan work planned apart width
  obtain ⟨application', initializer', files'⟩ := report_of_plan work' planned' apart' width
  refine ⟨?_, ?_, ?_, p, q', planned, planned', root.symm, alike⟩
  · exact application.trans (root ▸ application'.symm)
  · rw [plan_initializer planned] at initializer
    rw [plan_initializer planned', root] at initializer'
    exact initializer.trans initializer'.symm
  · rw [plan_paths planned] at files
    rw [plan_paths planned', root] at files'
    exact files.trans files'.symm

end Reordered

/-- Settings that allow one presenter of a contract only. -/
def strictSettings : Settings := { generation := { duplicatePresenters := .reject } }

/-- Two activities and a presenter. -/
def notesRound : Round :=
  sampleRound [.ofKind .classType ({} : FrameworkNames).presenterBase,
    .ofInterface ({} : FrameworkNames).presentable,
    { TypeElement.ofInterface "com.example.Notes" with
      interfaces := [.named ({} : FrameworkNames).presentable] },
    { sampleClass "com.example.NotesPresenter" ({} : FrameworkNames).presenterBase
        ({} : FrameworkNames).perActivity with interfaces := [.named "com.example.Notes"] },
    sampleActivity "com.example.First", sampleActivity "com.example.Second"]

theorem notesRound_planned : ∃ p, (plan strictSettings notesRound).result = .ok p := by
  have names : strictSettings.NamesApart := namesApart_of_typeNames (by decide) (by decide)
  refine (plan_succeeds_iff_discovered default_areReadable names).mpr
    ⟨sampleRoot, by decide +kernel, by decide +kernel, ?_, fun tier => ⟨?_, ?_, ?_⟩⟩
  · intro tier
    cases tier <;> decide +kernel
  · cases tier <;> decide +kernel
  · cases tier <;> decide +kernel
  · unfold Bindings.AreReadable
    cases tier <;> decide +kernel

/-- Listed from behind, the activities are discovered in the other order. -/
theorem processRound_reordered_of_notesRound :
    notesRound.roots.Perm notesRound.roots.reverse ∧
    strictSettings.generation.duplicatePresenters = .reject ∧
    let reversed : Round := ⟨notesRound.store, notesRound.roots.reverse, notesRound.isOver⟩
    let first := ((start strictSettings).processRound SourceSet.filer notesRound (.empty 4)).1
    let second := ((start strictSettings).processRound SourceSet.filer reversed (.empty 4)).1
    first.succeeded = true ∧ second.succeeded = true ∧ first.files = second.files ∧
      ∃ p q, (plan strictSettings notesRound).result = .ok p ∧
        (plan strictSettings reversed).result = .ok q ∧
        p.activity.containers.names = ["com.example.First", "com.example.Second"] ∧
        q.activity.containers.names = ["com.example.Second", "com.example.First"] ∧
        ∀ tier, p.WiresAlike q strictSettings.naming tier := by
  have order : notesRound.roots.Perm notesRound.roots.reverse := (List.reverse_perm _).symm
  have policy : strictSettings.generation.duplicatePresenters = .reject := rfl
  obtain ⟨p, planned⟩ := notesRound_planned
  have first := start_succeeds_of_plain planned default_isPlainName (by decide +kernel) .empty none 4
  obtain ⟨both, same⟩ := processRound_reordered .empty none 4 order policy
  obtain ⟨-, -, files, p, q, planned, planned', -, alike⟩ := same first (both.mp first)
  have found : p.activity.containers = _ := (plan_discovered planned).2.1 .activity
  have found' : q.activity.containers = _ := (plan_discovered planned').2.1 .activity
  refine ⟨order, policy, first, both.mp first, files, p, q, planned, planned', ?_, ?_, alike⟩
  · rw [found]
    decide +kernel
  · rw [found']
    decide +kernel

end Coordinator

end ComponentWiring
