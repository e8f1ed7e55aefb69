/-
ComponentWiring.Proofs.Discovery.Completeness — no candidate that can be checked gets lost.

* `TypeStore.Superclasses.isClass` — the superclasses of a valid type are declared classes.
* `TierRules.IsLost` — a class that can be checked and yet leads to an unresolved name, so that
  nothing can be said about its bases.
* `TierRules.judge_eq_skipped_iff` — a class is left out if it is invalid or lost.
* `TypeStore.not_isLost` — no stored class is lost.
* `containersAmong_complete` — so every valid candidate is taken in or ends the search.

The check of a class and the walk up its superclasses are two searches with bounds of their own.
They agree because a valid type has a complete walk, and there is one complete walk at most. Both go
by names, so all of this is about stored types. The candidates of a round are stored
(`Round.declares_elementsWith`).
-/
import ComponentWiring.Proofs.Discovery.Containers

namespace ComponentWiring

/-! ## 1. Superclasses of valid types -/

namespace TypeStore

variable {s : TypeStore} {t : TypeElement} {ns : List String}

/-- What lies above a valid type is valid. -/
theorem isValid_of_isSupertype {p : TypeElement} (known : s.get? t.qualifiedName = some t)
    (valid : s.isValid t = true) (step : s.IsSupertype t p) : s.isValid p = true :=
  (isValid_iff step.get?_eq).mpr fun u above => (isValid_iff known).mp valid u (.head step above)

/-- The superclasses of a valid type are declared classes. -/
theorem Superclasses.isClass (walk : s.Superclasses t ns)
    (known : s.get? t.qualifiedName = some t) (valid : s.isValid t = true) :
    ∀ n ∈ ns, ∃ p, s.get? n = some p ∧ p.isClass = true := by
  induction walk with
  | root => exact List.forall_mem_nil _
  | @next t parent n ns named parentKnown _ ih =>
    have found : s.resolve t.superclass = some parent := by
      rw [named]
      exact parentKnown
    have isClass : parent.isClass = true := by
      rcases ((isValid_iff known).mp valid t .refl).1.superclass with none_above | ⟨p, found', kind⟩
      · cases named.symm.trans none_above
      · cases found.symm.trans found'
        exact decide_eq_true kind
    have step : s.IsSupertype t parent := ⟨t.superclass, List.mem_cons_self, found⟩
    exact List.forall_mem_cons.mpr
      ⟨⟨parent, parentKnown, isClass⟩,
        ih step.get?_eq (isValid_of_isSupertype known valid step)⟩

/-- The search among the superclasses of a valid type ends at the root. All it lists are declared
classes, each once. -/
theorem superclassChain_of_isValid (known : s.get? t.qualifiedName = some t)
    (valid : s.isValid t = true) :
    (s.superclassChain t).2 = .root ∧ (s.superclassChain t).1.Nodup ∧
      ∀ n ∈ (s.superclassChain t).1, ∃ p, s.get? n = some p ∧ p.isClass = true := by
  obtain ⟨ns, walk⟩ := superclasses_of_isValid known valid
  rw [superclassChain_of_superclasses known walk]
  exact ⟨rfl, walk.nodup, walk.isClass known valid⟩

end TypeStore

/-! ## 2. Lost candidates -/

/-- The class can be checked and has no type parameters, but the search among its superclasses stops
at an unresolved name before it meets a base of the tier. -/
structure TierRules.IsLost (r : TierRules) (s : TypeStore) (t : TypeElement) : Prop where
  checked : s.IsChecked t
  plain : t.typeParameters = []
  unknown : ∀ name ∈ (s.superclassChain t).1, ¬ r.Knows name
  unresolved : ∃ name, (s.superclassChain t).2 = .unresolved name

section Candidates

variable {r : TierRules} {s : TypeStore} {t : TypeElement} {c : Element}

/-- Superclasses do not decide exactly if none of them is a base of the tier and the search among
them stops at an unresolved name. -/
theorem TierRules.judgeBases_eq_skipped_iff {ns : List String} {chainEnd : TypeStore.ChainEnd} :
    r.judgeBases t ns chainEnd = .skipped t ↔
      (∀ name ∈ ns, ¬ r.Knows name) ∧ ∃ name, chainEnd = .unresolved name := by
  have nothing : ns.findSome? r.baseKind? = none ↔ ∀ name ∈ ns, ¬ r.Knows name := by
    simp only [List.findSome?_eq_none_iff, baseKind?_eq_none_iff_not_knows]
  rw [← nothing]
  cases decisive : ns.findSome? r.baseKind? with
  | none => cases chainEnd <;> simp [judgeBases, decisive]
  | some kind => cases kind <;> simp [judgeBases, decisive]

/-- A class is left out exactly if it is invalid or lost. -/
theorem TierRules.judge_eq_skipped_iff (isClass : t.isClass = true) :
    r.judge s (.type t) = .skipped t ↔ s.isValid t = false ∨ r.IsLost s t := by
  have class? : (Element.type t).class? = some t := Element.class?_eq_some_iff.mpr ⟨rfl, isClass⟩
  cases valid : s.isValid t with
  | false => simp [judge, class?, valid]
  | true =>
    have lost_iff : r.IsLost s t ↔ t.typeParameters = [] ∧
        r.judgeBases t (s.superclassChain t).1 (s.superclassChain t).2 = .skipped t := by
      rw [judgeBases_eq_skipped_iff]
      constructor
      · exact fun lost => ⟨lost.plain, lost.unknown, lost.unresolved⟩
      · rintro ⟨plain, unknown, unresolved⟩
        exact ⟨⟨isClass, valid⟩, plain, unknown, unresolved⟩
    by_cases plain : t.typeParameters = []
    · simp [judge, class?, valid, lost_iff, plain]
    · simp [judge, class?, valid, lost_iff, plain]

/-- A stored class is not lost: what can be checked leads to the root. -/
theorem TypeStore.not_isLost (known : s.get? t.qualifiedName = some t) : ¬ r.IsLost s t := by
  intro lost
  obtain ⟨name, unresolved⟩ := lost.unresolved
  have root := (superclassChain_of_isValid known lost.checked.valid).1
  cases unresolved.symm.trans root

/-- So a stored class is left out exactly if it is invalid. -/
theorem TierRules.judge_skipped_iff_invalid (known : s.get? t.qualifiedName = some t)
    (isClass : t.isClass = true) : r.judge s (.type t) = .skipped t ↔ s.isValid t = false := by
  rw [judge_eq_skipped_iff isClass, or_iff_left (TypeStore.not_isLost known)]

/-- A valid stored type is taken in or refused, be it a class or not. -/
theorem TierRules.judge_of_isValid (known : s.get? t.qualifiedName = some t)
    (valid : s.isValid t = true) :
    r.judge s (.type t) = .accepted t ∨ ∃ fault, r.judge s (.type t) = .refused fault := by
  have declared (u : TypeElement) (same : Element.type t = .type u) :
      s.get? u.qualifiedName = some u := by
    cases same
    exact known
  rcases judge_spec (r := r) declared with
    ⟨fault, _, refused⟩ | ⟨u, same, _, invalid, _⟩ | ⟨u, same, _, accepted⟩
  · exact .inr ⟨fault, refused⟩
  · cases same
    cases invalid.symm.trans valid
  · cases same
    exact .inl accepted

end Candidates

/-! ## 3. Searches -/

/-- The classes of the map are those of stored types. -/
def TypeStore.Lists (s : TypeStore) (m : ClassMap) : Prop :=
  ∀ a ∈ m.toList, ∃ t, s.get? t.qualifiedName = some t ∧ .ofElement t = a

section Searches

variable {r : TierRules} {s : TypeStore} {t : TypeElement} {cs rest : List Element}
  {found : ClassMap} {a : AnnotatedClass}

theorem lists_containersAmong (declared : s.Declares cs) (lists : s.Lists found) :
    s.Lists (containersAmong r s found cs).found := by
  intro a ha
  rcases mem_containersAmong declared ha with before | ⟨t, ht, _, same⟩
  · exact lists a before
  · exact ⟨t, declared t ht, same⟩

theorem ClassMap.mem_insert_of_mem {m : ClassMap} (h : a ∈ m.toList) (b : AnnotatedClass) :
    a ∈ (m.insert b).toList := by
  rw [toList_insert]
  split
  · exact h
  · exact List.mem_append_left _ h

/-- A stored type that is taken in is listed then, also if it was listed before. -/
theorem ClassMap.ofElement_mem_insert {m : ClassMap} (lists : s.Lists m)
    (known : s.get? t.qualifiedName = some t) :
    .ofElement t ∈ (m.insert (.ofElement t)).toList := by
  rw [toList_insert]
  split
  next listed =>
    rw [contains, Keyed.contains_iff, ← names, ← map_qualifiedName_toList] at listed
    obtain ⟨a, ha, name⟩ := List.mem_map.mp listed
    obtain ⟨u, stored, rfl⟩ := lists a ha
    have same : t.qualifiedName = u.qualifiedName := name.symm
    rw [same] at known
    cases stored.symm.trans known
    exact ha
  next => exact List.mem_append_right _ (List.mem_singleton_self _)

/-- A search keeps what was found before. -/
theorem mem_containersAmong_of_mem (h : a ∈ found.toList) :
    a ∈ (containersAmong r s found cs).found.toList := by
  induction cs generalizing found with
  | nil => exact h
  | cons c cs ih =>
    rw [containersAmong]
    cases r.judge s c with
    | refused fault => exact h
    | skipped t => exact ih h
    | accepted t =>
      by_cases again : found.contains t.qualifiedName = true
      · simp only [if_pos again]
        exact ih h
      · simp only [if_neg again]
        exact ih (ClassMap.mem_insert_of_mem h _)

/-- A search that has failed does not go on. -/
theorem containersAmong_append_of_fails (fails : (containersAmong r s found cs).failure ≠ none) :
    containersAmong r s found (cs ++ rest) = containersAmong r s found cs := by
  induction cs generalizing found with
  | nil => exact absurd rfl fails
  | cons c cs ih =>
    rw [List.cons_append, containersAmong, containersAmong]
    rw [containersAmong] at fails
    cases verdict : r.judge s c with
    | refused fault => rfl
    | skipped t =>
      simp only [verdict] at fails ⊢
      rw [ih fails]
    | accepted t =>
      by_cases again : found.contains t.qualifiedName = true
      · simp only [verdict, if_pos again] at fails ⊢
        exact ih fails
      · simp only [verdict, if_neg again] at fails ⊢
        rw [ih fails]

/-- A search that comes to a valid type takes it in and keeps it, or fails at this type. -/
theorem containersAmong_of_isValid {before after : List Element}
    (declared : s.Declares (before ++ .type t :: after)) (lists : s.Lists found)
    (valid : s.isValid t = true) (reached : (containersAmong r s found before).failure = none) :
    (r.judge s (.type t) = .accepted t ∧
      .ofElement t ∈ (containersAmong r s found (before ++ .type t :: after)).found.toList) ∨
    ∃ fault, r.judge s (.type t) = .refused fault ∧
      (containersAmong r s found (before ++ .type t :: after)).failure =
        some (fault.toFailure r) := by
  have known : s.get? t.qualifiedName = some t := declared t (by simp)
  have before_declared : s.Declares before := fun u hu => declared u (List.mem_append_left _ hu)
  rw [containersAmong_append reached]
  refine (TierRules.judge_of_isValid known valid).imp (fun accepted => ⟨accepted, ?_⟩) ?_
  · rw [containersAmong_cons_of_accepted accepted]
    have listed := ClassMap.ofElement_mem_insert
      (lists_containersAmong (r := r) before_declared lists) known
    exact mem_containersAmong_of_mem listed
  · rintro ⟨fault, refused⟩
    refine ⟨fault, refused, ?_⟩
    rw [containersAmong, refused]
    rfl

end Searches

/-- The search among the superclasses of a valid stored type ends at the root, and all it lists are
declared classes, each once. So no candidate is left out for its superclasses: it is left out
exactly if it is no valid class. A valid candidate is taken in and kept, or the search fails at it,
unless an earlier candidate has ended the search. -/
theorem containersAmong_complete (s : TypeStore) :
    (∀ t, s.get? t.qualifiedName = some t → s.isValid t = true →
      (s.superclassChain t).2 = .root ∧ (s.superclassChain t).1.Nodup ∧
        ∀ n ∈ (s.superclassChain t).1, ∃ p, s.get? n = some p ∧ p.isClass = true) ∧
    (∀ (r : TierRules) t, s.get? t.qualifiedName = some t → ¬ r.IsLost s t ∧
      (t.isClass = true → (r.judge s (.type t) = .skipped t ↔ s.isValid t = false))) ∧
    ∀ (r : TierRules) found before t after, s.Lists found →
      s.Declares (before ++ .type t :: after) → s.isValid t = true →
      let search := containersAmong r s found
      ((search before).failure ≠ none ∧ search (before ++ .type t :: after) = search before) ∨
      (r.judge s (.type t) = .accepted t ∧
        .ofElement t ∈ (search (before ++ .type t :: after)).found.toList) ∨
      ∃ fault, r.judge s (.type t) = .refused fault ∧
        (search (before ++ .type t :: after)).failure = some (fault.toFailure r) := by
  refine ⟨fun t known valid => TypeStore.superclassChain_of_isValid known valid,
    fun r t known => ⟨TypeStore.not_isLost known, TierRules.judge_skipped_iff_invalid known⟩, ?_⟩
  intro r found before t after lists declared valid
  by_cases reached : (containersAmong r s found before).failure = none
  · exact .inr (containersAmong_of_isValid declared lists valid reached)
  · exact .inl ⟨reached, containersAmong_append_of_fails reached⟩

/-- The presenter is valid and no activity, so the search fails at it and not before. -/
theorem containersAmong_complete_mixedCandidates :
    mixedStore.get? inboxPresenter.qualifiedName = some inboxPresenter ∧
    mixedStore.isValid inboxPresenter = true ∧
    (mixedStore.superclassChain inboxPresenter).2 = .root ∧
    mixedStore.Lists .empty ∧
    mixedStore.Declares (mixedCandidates ++ [.type inboxPresenter]) ∧
    ∃ fault, (TierRules.ofTier {} .activity).judge mixedStore (.type inboxPresenter) =
        .refused fault ∧
      (containersAmong (.ofTier {} .activity) mixedStore .empty
        (mixedCandidates ++ [.type inboxPresenter])).failure =
          some (fault.toFailure (.ofTier {} .activity)) := by
  have known : mixedStore.get? inboxPresenter.qualifiedName = some inboxPresenter := rfl
  have valid : mixedStore.isValid inboxPresenter = true := by decide +kernel
  have lists : mixedStore.Lists .empty := List.forall_mem_nil _
  obtain ⟨chains, -, searches⟩ := containersAmong_complete mixedStore
  refine ⟨known, valid, (chains _ known valid).1, lists, mixedStore_declares, ?_⟩
  rcases searches (.ofTier {} .activity) .empty mixedCandidates inboxPresenter [] lists
    mixedStore_declares valid with ⟨early, -⟩ | ⟨-, listed⟩ | refused
  · exact absurd (by decide +kernel) early
  · exact absurd listed (by decide +kernel)
  · exact refused

end ComponentWiring
