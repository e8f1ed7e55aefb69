/-
ComponentWiring.Proofs.Discovery.Containers — what a search for containers comes to.

* `TierRules.IsFault` — what is wrong with a candidate, without any search.
* `TierRules.IsAccepted` — a class that is taken in.
* `TierRules.judge_spec` — each candidate has a fault, is left out or is taken in.
* `mem_containersAmong` — what a search has found was taken in, also if the search failed.
* `containersAmong_of_passes` — a search past candidates without fault lists the classes that can
  be checked, and says of each candidate what its place calls for.
* `containersAmong_decides` — which searches fail, at which candidate, and what the others find.

The nearest base decides. A name is a base of the tier if it is accepted or that of a sibling, so
the classes below the nearest base have names that mean nothing for the tier.
-/
import ComponentWiring.Declared.Platform
import ComponentWiring.Proofs.Discovery.Verdicts
import ComponentWiring.Proofs.Wiring.Dispatch

namespace ComponentWiring

namespace TierRules

/-! ## 1. Faults -/

/-- The name means something for the tier. -/
def Knows (r : TierRules) (base : String) : Prop :=
  base ∈ r.acceptedBases ∨ ∃ b ∈ r.siblings, b.name = base

/-- The name is the first among the superclasses that means something for the tier. -/
def IsNearest (r : TierRules) (s : TypeStore) (t : TypeElement) (base : String) : Prop :=
  r.Knows base ∧ ∃ below above, s.Superclasses t (below ++ base :: above) ∧
    ∀ name ∈ below, ¬ r.Knows name

/-- The class is taken in: it has no type parameters and an accepted base is the nearest one. -/
structure IsAccepted (r : TierRules) (s : TypeStore) (t : TypeElement) : Prop where
  checked : s.IsChecked t
  plain : t.typeParameters = []
  nearest : ∃ base ∈ r.acceptedBases, r.IsNearest s t base

/-- What is wrong with a candidate. -/
inductive IsFault (r : TierRules) (s : TypeStore) : Element → ContainerFault → Prop
  | notAClass {c : Element} (other : ∀ t, c = .type t → t.isClass = false) :
    IsFault r s c (.notAClass c)
  | hasTypeParameters {t : TypeElement} (checked : s.IsChecked t)
    (parameters : t.typeParameters ≠ []) : IsFault r s (.type t) (.hasTypeParameters t)
  /-- The nearest base is that of a sibling only. -/
  | misannotated {t : TypeElement} {base : String} {sibling : SiblingBase} (checked : s.IsChecked t)
    (plain : t.typeParameters = []) (nearest : r.IsNearest s t base)
    (other : base ∉ r.acceptedBases) (listed : r.sibling? base = some sibling) :
    IsFault r s (.type t) (.misannotated t sibling)
  /-- None of the superclasses means anything for the tier. -/
  | missingBase {t : TypeElement} {ns : List String} (checked : s.IsChecked t)
    (plain : t.typeParameters = []) (walk : s.Superclasses t ns)
    (unknown : ∀ name ∈ ns, ¬ r.Knows name) : IsFault r s (.type t) (.missingBase t)

/-- Something is wrong with the candidate. -/
def IsBad (r : TierRules) (s : TypeStore) (c : Element) : Prop := ∃ fault, r.IsFault s c fault

variable {r : TierRules} {s : TypeStore} {t : TypeElement} {c : Element} {fault : ContainerFault}

/-- The failure for a fault is bound to the candidate that has it. -/
theorem IsFault.toFailure_eq (h : r.IsFault s c fault) :
    ∃ message, fault.toFailure r = .misuse (some c.displayName) message := by
  cases h <;> exact ⟨_, rfl⟩

/-! ## 2. Verdicts -/

theorem baseKind?_eq_sibling_iff {base : String} {b : SiblingBase} :
    r.baseKind? base = some (.sibling b) ↔ base ∉ r.acceptedBases ∧ r.sibling? base = some b := by
  rw [← List.contains_iff_mem, baseKind?, accepts]
  cases r.acceptedBases.contains base <;> simp

theorem baseKind?_eq_none_iff_not_knows {base : String} :
    r.baseKind? base = none ↔ ¬ r.Knows base := by
  rw [baseKind?, Knows, not_or, ← List.contains_iff_mem, ← accepts]
  by_cases accepted : r.accepts base = true
  · simp [accepted]
  · simp [accepted, sibling?]

/-- The nearest base of a class without type parameters decides whether it is taken in. -/
theorem judgeBases_spec {ns : List String} (checked : s.IsChecked t) (plain : t.typeParameters = [])
    (walk : s.Superclasses t ns) :
    (∃ fault, r.IsFault s (.type t) fault ∧ r.judgeBases t ns .root = .refused fault) ∨
      (r.IsAccepted s t ∧ r.judgeBases t ns .root = .accepted t) := by
  unfold judgeBases
  cases decisive : ns.findSome? r.baseKind? with
  | none =>
    have unknown (name : String) (hname : name ∈ ns) : ¬ r.Knows name :=
      baseKind?_eq_none_iff_not_knows.mp (List.findSome?_eq_none_iff.mp decisive name hname)
    exact .inl ⟨_, .missingBase checked plain walk unknown, rfl⟩
  | some kind =>
    obtain ⟨below, base, above, rfl, means, others⟩ := List.findSome?_eq_some_iff.mp decisive
    have knows : r.Knows base := by
      refine Classical.byContradiction fun unknown => ?_
      cases means.symm.trans (baseKind?_eq_none_iff_not_knows.mpr unknown)
    have nearest : r.IsNearest s t base :=
      ⟨knows, below, above, walk, fun name hname =>
        baseKind?_eq_none_iff_not_knows.mp (others name hname)⟩
    cases kind with
    | accepted =>
      exact .inr ⟨⟨checked, plain, base, baseKind?_eq_accepted_iff.mp means, nearest⟩, rfl⟩
    | sibling b =>
      obtain ⟨other, listed⟩ := baseKind?_eq_sibling_iff.mp means
      exact .inl ⟨_, .misannotated checked plain nearest other listed, rfl⟩

/-- Each candidate has a fault, cannot be checked, or is taken in. -/
theorem judge_spec (known : ∀ t, c = .type t → s.get? t.qualifiedName = some t) :
    (∃ fault, r.IsFault s c fault ∧ r.judge s c = .refused fault) ∨
      (∃ t, c = .type t ∧ t.isClass = true ∧ s.isValid t = false ∧ r.judge s c = .skipped t) ∨
      (∃ t, c = .type t ∧ r.IsAccepted s t ∧ r.judge s c = .accepted t) := by
  cases class? : c.class? with
  | none =>
    refine .inl ⟨.notAClass c, .notAClass fun t type => ?_, by rw [judge, class?]⟩
    rw [← Bool.not_eq_true]
    intro isClass
    cases class?.symm.trans (Element.class?_eq_some_iff.mpr ⟨type, isClass⟩)
  | some t =>
    obtain ⟨rfl, isClass⟩ := Element.class?_eq_some_iff.mp class?
    cases valid : s.isValid t with
    | false =>
      refine .inr (.inl ⟨t, rfl, isClass, valid, ?_⟩)
      rw [judge, class?]
      simp [valid]
    | true =>
      have checked : s.IsChecked t := ⟨isClass, valid⟩
      obtain ⟨ns, walk⟩ := TypeStore.superclasses_of_isValid (known t rfl) valid
      rw [judge_of_isChecked (known t rfl) checked walk]
      by_cases plain : t.typeParameters = []
      · rw [if_pos plain]
        refine (judgeBases_spec checked plain walk).imp_right fun accepted => ?_
        exact .inr ⟨t, rfl, accepted⟩
      · rw [if_neg plain]
        exact .inl ⟨_, .hasTypeParameters checked plain, rfl⟩

/-- A fault is what the candidate is refused for. -/
theorem IsFault.judge_eq (h : r.IsFault s c fault)
    (known : ∀ t, c = .type t → s.get? t.qualifiedName = some t) :
    r.judge s c = .refused fault := by
  cases h with
  | notAClass other =>
    have class? : c.class? = none := by
      refine Option.eq_none_iff_forall_ne_some.mpr fun t class? => ?_
      obtain ⟨type, isClass⟩ := Element.class?_eq_some_iff.mp class?
      cases isClass.symm.trans (other t type)
    rw [judge, class?]
  | @hasTypeParameters t checked parameters =>
    obtain ⟨ns, walk⟩ := TypeStore.superclasses_of_isValid (known t rfl) checked.valid
    rw [judge_of_isChecked (known t rfl) checked walk, if_neg parameters]
  | @misannotated t base sibling checked plain nearest other listed =>
    obtain ⟨_, below, above, walk, others⟩ := nearest
    have decisive : (below ++ base :: above).findSome? r.baseKind? = some (.sibling sibling) := by
      refine List.findSome?_eq_some_iff.mpr ⟨below, base, above, rfl, ?_, fun name hname => ?_⟩
      · exact baseKind?_eq_sibling_iff.mpr ⟨other, listed⟩
      · exact baseKind?_eq_none_iff_not_knows.mpr (others name hname)
    rw [judge_of_isChecked (known t rfl) checked walk, if_pos plain]
    unfold judgeBases
    rw [decisive]
  | @missingBase t ns checked plain walk unknown =>
    have nothing : ns.findSome? r.baseKind? = none :=
      List.findSome?_eq_none_iff.mpr fun name hname =>
        baseKind?_eq_none_iff_not_knows.mpr (unknown name hname)
    rw [judge_of_isChecked (known t rfl) checked walk, if_pos plain]
    unfold judgeBases
    rw [nothing]

/-- A candidate is refused exactly for its fault. -/
theorem judge_eq_refused_iff (known : ∀ t, c = .type t → s.get? t.qualifiedName = some t) :
    r.judge s c = .refused fault ↔ r.IsFault s c fault := by
  constructor
  · intro refused
    rcases judge_spec (r := r) known with
      ⟨_, h, verdict⟩ | ⟨_, _, _, _, verdict⟩ | ⟨_, _, _, verdict⟩
    · cases verdict.symm.trans refused
      exact h
    · cases verdict.symm.trans refused
    · cases verdict.symm.trans refused
  · exact fun h => h.judge_eq known

/-- A class that can be checked is taken in unless something is wrong with it. -/
theorem isAccepted_of_isChecked (h : s.IsChecked t) (known : s.get? t.qualifiedName = some t)
    (passes : ¬ r.IsBad s (.type t)) : r.IsAccepted s t := by
  have known (u : TypeElement) (same : Element.type t = .type u) :
      s.get? u.qualifiedName = some u := by
    cases same
    exact known
  rcases judge_spec (r := r) known with ⟨_, fault, _⟩ | ⟨u, same, _, invalid, _⟩ | ⟨u, same, h, _⟩
  · exact absurd ⟨_, fault⟩ passes
  · cases same
    cases invalid.symm.trans h.valid
  · cases same
    exact h

end TierRules

/-! ## 3. Many candidates -/

/-- The classes among candidates that can be checked, each once, in the order in which they appear
first. -/
def checkableClasses (s : TypeStore) (cs : List Element) : List AnnotatedClass :=
  (((cs.filterMap Element.class?).filter (s.isValid ·)).map .ofElement).eraseDups

/-- Whether a class is among candidates. -/
def isAmong (t : TypeElement) (cs : List Element) : Bool :=
  (cs.filterMap Element.class?).any (·.qualifiedName = t.qualifiedName)

namespace TierRules

/-- What is said about a candidate without fault that comes after others: a warning if it cannot be
checked, and a note if it is taken in. -/
def remark (r : TierRules) (s : TypeStore) (earlier : List Element) (c : Element) :
    List Diagnostic :=
  match c.class? with
  | none => []
  | some t =>
    if s.isValid t then if isAmong t earlier then [] else [processingNote t]
    else [r.skippedWarning t]

/-- What is said about candidates without fault that come after others, each at its place. -/
def remarks (r : TierRules) (s : TypeStore) (earlier cs : List Element) : List Diagnostic :=
  (cs.mapIdx fun i c => r.remark s (earlier ++ cs.take i) c).flatten

end TierRules

section Among

variable {r : TierRules} {s : TypeStore} {earlier cs : List Element} {found : ClassMap}
  {t : TypeElement}

theorem mem_class?_iff {u : TypeElement} :
    u ∈ cs.filterMap Element.class? ↔ .type u ∈ cs ∧ u.isClass = true := by
  simp only [List.mem_filterMap, Element.class?_eq_some_iff]
  constructor
  · rintro ⟨_, mem, rfl, isClass⟩
    exact ⟨mem, isClass⟩
  · exact fun h => ⟨_, h.1, rfl, h.2⟩

theorem isAmong_iff (declared : s.Declares cs) (known : s.get? t.qualifiedName = some t)
    (isClass : t.isClass = true) : isAmong t cs = true ↔ .type t ∈ cs := by
  simp only [isAmong, List.any_eq_true, mem_class?_iff, decide_eq_true_iff]
  constructor
  · rintro ⟨u, ⟨hu, _⟩, same⟩
    exact declared.eq_of_name hu known same ▸ hu
  · exact fun mem => ⟨t, ⟨mem, isClass⟩, rfl⟩

theorem mem_checkableClasses_iff {a : AnnotatedClass} :
    a ∈ checkableClasses s cs ↔ ∃ u, .type u ∈ cs ∧ s.IsChecked u ∧ .ofElement u = a := by
  simp only [checkableClasses, List.mem_eraseDups, List.mem_map, List.mem_filter, mem_class?_iff]
  constructor
  · rintro ⟨u, ⟨⟨hu, isClass⟩, valid⟩, same⟩
    exact ⟨u, hu, ⟨isClass, valid⟩, same⟩
  · rintro ⟨u, hu, ⟨isClass, valid⟩, same⟩
    exact ⟨u, ⟨⟨hu, isClass⟩, valid⟩, same⟩

/-- Among declared candidates, a class that can be checked is listed exactly if it is there. -/
theorem ofElement_mem_checkableClasses_iff (declared : s.Declares cs)
    (known : s.get? t.qualifiedName = some t) (checked : s.IsChecked t) :
    .ofElement t ∈ checkableClasses s cs ↔ .type t ∈ cs := by
  rw [mem_checkableClasses_iff]
  constructor
  · rintro ⟨u, hu, _, same⟩
    exact declared.eq_of_name hu known (congrArg AnnotatedClass.qualifiedName same) ▸ hu
  · exact fun mem => ⟨t, mem, checked, rfl⟩

/-- A class that can be checked is found already exactly if it is among the earlier candidates. -/
theorem contains_qualifiedName_iff (declared : s.Declares earlier)
    (known : s.get? t.qualifiedName = some t) (checked : s.IsChecked t)
    (lists : found.toList = checkableClasses s earlier) :
    found.contains t.qualifiedName = true ↔ .type t ∈ earlier := by
  rw [ClassMap.contains, Keyed.contains_iff, ← ClassMap.names, ← ClassMap.map_qualifiedName_toList,
    lists, List.mem_map]
  constructor
  · rintro ⟨a, ha, same⟩
    obtain ⟨u, hu, _, rfl⟩ := mem_checkableClasses_iff.mp ha
    exact declared.eq_of_name hu known same ▸ hu
  · exact fun mem => ⟨_, mem_checkableClasses_iff.mpr ⟨t, mem, checked, rfl⟩, rfl⟩

/-- A class that cannot be checked is not listed. -/
theorem checkableClasses_concat_of_not_valid (invalid : s.isValid t = false) :
    checkableClasses s (cs ++ [.type t]) = checkableClasses s cs := by
  have nothing : ([Element.type t].filterMap Element.class?).filter (s.isValid ·) = [] := by
    refine List.filter_eq_nil_iff.mpr fun u hu => ?_
    obtain ⟨mem, _⟩ := mem_class?_iff.mp hu
    cases List.mem_singleton.mp mem
    simp [invalid]
  rw [checkableClasses, List.filterMap_append, List.filter_append, nothing, List.append_nil]
  rfl

/-- A class that can be checked comes last, unless it is listed already. -/
theorem checkableClasses_concat_of_isChecked (checked : s.IsChecked t) :
    checkableClasses s (cs ++ [.type t]) =
      if .ofElement t ∈ checkableClasses s cs then checkableClasses s cs
      else checkableClasses s cs ++ [.ofElement t] := by
  have class? : (Element.type t).class? = some t :=
    Element.class?_eq_some_iff.mpr ⟨rfl, checked.isClass⟩
  have one : [Element.type t].filterMap Element.class? = [t] :=
    (List.filterMap_cons_some class?).trans rfl
  simp only [checkableClasses, List.filterMap_append, one, List.filter_append,
    List.filter_cons_of_pos checked.valid, List.filter_nil, List.map_append, List.map_cons,
    List.map_nil, eraseDups_concat, List.mem_eraseDups]

theorem ClassMap.toList_insert (m : ClassMap) (a : AnnotatedClass) :
    (m.insert a).toList = if m.contains a.qualifiedName then m.toList else m.toList ++ [a] := by
  rw [insert]
  by_cases known : m.contains a.qualifiedName = true
  · rw [if_pos known, if_pos known]
  · have new : a.qualifiedName ∉ m.classes.keys := fun mem => known (Keyed.contains_iff.mpr mem)
    rw [if_neg known, if_neg known]
    exact Keyed.values_insert_of_new new a

/-- Taking in a class that can be checked lists the candidates up to that class. -/
theorem toList_insert_of_isChecked (declared : s.Declares earlier)
    (known : s.get? t.qualifiedName = some t) (checked : s.IsChecked t)
    (lists : found.toList = checkableClasses s earlier) :
    (found.insert (.ofElement t)).toList = checkableClasses s (earlier ++ [.type t]) := by
  have contains := contains_qualifiedName_iff declared known checked lists
  have listed := ofElement_mem_checkableClasses_iff declared known checked
  rw [ClassMap.toList_insert, checkableClasses_concat_of_isChecked checked, lists]
  exact if_congr (contains.trans listed.symm) rfl rfl

/-- After a class that is taken in, the search goes on with that class, and a note is made of it if
it is new. -/
theorem containersAmong_cons_of_accepted (verdict : r.judge s (.type t) = .accepted t) :
    containersAmong r s found (.type t :: cs) =
      (containersAmong r s (found.insert (.ofElement t)) cs).after
        (if found.contains t.qualifiedName then [] else [processingNote t]) := by
  rw [containersAmong, verdict]
  by_cases again : found.contains t.qualifiedName = true
  · have same : found.insert (.ofElement t) = found := if_pos again
    simp only [if_pos again, same]
    rfl
  · simp only [if_neg again]

/-- What a search says of a candidate that is taken in is what its place calls for. -/
theorem remark_of_isChecked (declared : s.Declares earlier)
    (known : s.get? t.qualifiedName = some t) (checked : s.IsChecked t)
    (lists : found.toList = checkableClasses s earlier) :
    r.remark s earlier (.type t) =
      if found.contains t.qualifiedName then [] else [processingNote t] := by
  have class? : (Element.type t).class? = some t :=
    Element.class?_eq_some_iff.mpr ⟨rfl, checked.isClass⟩
  have contains := contains_qualifiedName_iff declared known checked lists
  simp only [TierRules.remark, class?, checked.valid, if_true]
  exact if_congr ((isAmong_iff declared known checked.isClass).trans contains.symm) rfl rfl

theorem TierRules.remarks_cons (r : TierRules) (s : TypeStore) (earlier : List Element)
    (c : Element) (cs : List Element) :
    r.remarks s earlier (c :: cs) =
      r.remark s earlier c ++ r.remarks s (earlier ++ [c]) cs := by
  simp [remarks, List.mapIdx_cons]

/-- A search past candidates without fault does not fail. What it finds and says continues what was
found among the candidates before. -/
theorem containersAmong_of_passes (declared : s.Declares (earlier ++ cs))
    (lists : found.toList = checkableClasses s earlier) (passes : ∀ c ∈ cs, ¬ r.IsBad s c) :
    (containersAmong r s found cs).failure = none ∧
      (containersAmong r s found cs).found.toList = checkableClasses s (earlier ++ cs) ∧
      (containersAmong r s found cs).diagnostics = r.remarks s earlier cs := by
  induction cs generalizing earlier found with
  | nil => exact ⟨rfl, by simpa [containersAmong] using lists, rfl⟩
  | cons c cs ih =>
    obtain ⟨passes, rest⟩ := List.forall_mem_cons.mp passes
    have known (t : TypeElement) (type : c = .type t) : s.get? t.qualifiedName = some t :=
      declared t (by simp [type])
    have before : s.Declares earlier := fun t ht => declared t (List.mem_append_left _ ht)
    rw [List.append_cons] at declared ⊢
    rw [TierRules.remarks_cons]
    rcases TierRules.judge_spec (r := r) known with
      ⟨_, fault, _⟩ | ⟨t, rfl, isClass, invalid, verdict⟩ | ⟨t, rfl, accepted, verdict⟩
    · exact absurd ⟨_, fault⟩ passes
    · have class? : (Element.type t).class? = some t :=
        Element.class?_eq_some_iff.mpr ⟨rfl, isClass⟩
      have remark : r.remark s earlier (.type t) = [r.skippedWarning t] := by
        simp [TierRules.remark, class?, invalid]
      obtain ⟨succeeds, lists, said⟩ :=
        ih declared (lists.trans (checkableClasses_concat_of_not_valid invalid).symm) rest
      rw [containersAmong, verdict, remark]
      exact ⟨succeeds, lists, congrArg ([r.skippedWarning t] ++ ·) said⟩
    · have checked := accepted.checked
      obtain ⟨succeeds, lists', said⟩ :=
        ih declared (toList_insert_of_isChecked before (known t rfl) checked lists) rest
      rw [containersAmong_cons_of_accepted verdict,
        remark_of_isChecked before (known t rfl) checked lists]
      exact ⟨succeeds, lists', congrArg (_ ++ ·) said⟩

/-- Every class that a search has found, whether or not it has failed, was found before or is a
candidate that is taken in. -/
theorem mem_containersAmong {a : AnnotatedClass} (declared : s.Declares cs)
    (h : a ∈ (containersAmong r s found cs).found.toList) :
    a ∈ found.toList ∨ ∃ t, .type t ∈ cs ∧ r.IsAccepted s t ∧ .ofElement t = a := by
  induction cs generalizing found with
  | nil => exact .inl h
  | cons c cs ih =>
    have rest : s.Declares cs := fun t ht => declared t (List.mem_cons_of_mem _ ht)
    have known (t : TypeElement) (type : c = .type t) : s.get? t.qualifiedName = some t :=
      declared t (type ▸ List.mem_cons_self)
    -- What comes of the later candidates is covered by the induction.
    have later {found' : ClassMap} (h' : a ∈ (containersAmong r s found' cs).found.toList) :
        a ∈ found'.toList ∨ ∃ t, .type t ∈ c :: cs ∧ r.IsAccepted s t ∧ .ofElement t = a := by
      refine (ih rest h').imp_right fun new => ?_
      obtain ⟨t, ht, accepted⟩ := new
      exact ⟨t, List.mem_cons_of_mem _ ht, accepted⟩
    rcases TierRules.judge_spec (r := r) known with
      ⟨fault, _, verdict⟩ | ⟨t, rfl, _, _, verdict⟩ | ⟨t, rfl, accepted, verdict⟩
    · rw [containersAmong, verdict] at h
      exact .inl h
    · rw [containersAmong, verdict] at h
      exact later h
    · rw [containersAmong_cons_of_accepted verdict] at h
      rcases later h with known | new
      · rw [ClassMap.toList_insert] at known
        split at known
        · exact .inl known
        · rcases List.mem_append.mp known with known | new
          · exact .inl known
          · cases List.mem_singleton.mp new
            exact .inr ⟨t, List.mem_cons_self, accepted, rfl⟩
      · exact .inr new

/-- A search goes on after candidates that do not end it. -/
theorem containersAmong_append {rest : List Element}
    (succeeds : (containersAmong r s found cs).failure = none) :
    containersAmong r s found (cs ++ rest) =
      (containersAmong r s (containersAmong r s found cs).found rest).after
        (containersAmong r s found cs).diagnostics := by
  induction cs generalizing found with
  | nil => rfl
  | cons c cs ih =>
    cases verdict : r.judge s c with
    | refused fault => simp [containersAmong, verdict] at succeeds
    | skipped t =>
      simp only [List.cons_append, containersAmong, verdict] at succeeds ⊢
      rw [ih succeeds]
      rfl
    | accepted t =>
      simp only [List.cons_append, containersAmong, verdict] at succeeds ⊢
      by_cases again : found.contains t.qualifiedName = true
      · simp only [if_pos again] at succeeds ⊢
        exact ih succeeds
      · simp only [if_neg again] at succeeds ⊢
        rw [ih succeeds]
        rfl

/-- A search ends at the first candidate with a fault, with what was found and said before it. -/
theorem containersAmong_of_fault {before after : List Element} {c : Element}
    {fault : ContainerFault} (declared : s.Declares (before ++ c :: after))
    (passes : ∀ b ∈ before, ¬ r.IsBad s b) (bad : r.IsFault s c fault) :
    (containersAmong r s .empty (before ++ c :: after)).failure = some (fault.toFailure r) ∧
      (containersAmong r s .empty (before ++ c :: after)).diagnostics = r.remarks s [] before := by
  have known (t : TypeElement) (type : c = .type t) : s.get? t.qualifiedName = some t :=
    declared t (by simp [type])
  have first : ClassMap.empty.toList = checkableClasses s [] := rfl
  have declaredBefore : s.Declares ([] ++ before) := fun t ht => declared t (by simp_all)
  obtain ⟨succeeds, _, said⟩ := containersAmong_of_passes declaredBefore first passes
  rw [containersAmong_append succeeds, containersAmong, bad.judge_eq known]
  exact ⟨rfl, (List.append_nil _).trans said⟩

/-- A search fails exactly if something is wrong with a candidate. -/
theorem containersAmong_fails_iff (declared : s.Declares cs) :
    (containersAmong r s .empty cs).failure ≠ none ↔ ∃ c ∈ cs, r.IsBad s c := by
  rw [ne_eq, containersAmong_failure_iff]
  simp only [not_forall, exists_prop, not_not]
  refine exists_congr fun c => and_congr_right fun hc => ?_
  have known (t : TypeElement) (type : c = .type t) : s.get? t.qualifiedName = some t :=
    declared t (type ▸ hc)
  exact exists_congr fun fault => TierRules.judge_eq_refused_iff known

/-- A search for containers fails exactly if something is wrong with a candidate. It is then bound
to the first such candidate, after what there is to say about those before it. Otherwise it lists
the classes that can be checked, all of which are taken in, each at its first appearance. -/
theorem containersAmong_decides (declared : s.Declares cs) :
    ((containersAmong r s .empty cs).failure ≠ none ↔ ∃ c ∈ cs, r.IsBad s c) ∧
    (∀ before c after fault, cs = before ++ c :: after → (∀ b ∈ before, ¬ r.IsBad s b) →
      r.IsFault s c fault →
        (containersAmong r s .empty cs).failure = some (fault.toFailure r) ∧
        (∃ message, fault.toFailure r = .misuse (some c.displayName) message) ∧
        (containersAmong r s .empty cs).diagnostics = r.remarks s [] before) ∧
    ((∀ c ∈ cs, ¬ r.IsBad s c) →
      (containersAmong r s .empty cs).found.toList = checkableClasses s cs ∧
      (∀ t, .type t ∈ cs → (s.IsChecked t ↔ r.IsAccepted s t)) ∧
      (containersAmong r s .empty cs).diagnostics = r.remarks s [] cs) := by
  have first : ClassMap.empty.toList = checkableClasses s [] := rfl
  refine ⟨containersAmong_fails_iff declared, ?_, fun passes => ?_⟩
  · rintro before c after fault rfl passes bad
    obtain ⟨fails, said⟩ := containersAmong_of_fault declared passes bad
    exact ⟨fails, bad.toFailure_eq, said⟩
  · obtain ⟨_, lists, said⟩ := containersAmong_of_passes declared first passes
    refine ⟨lists, fun t ht => ⟨fun checked => ?_, fun accepted => accepted.checked⟩, said⟩
    exact TierRules.isAccepted_of_isChecked checked (declared t ht) (passes _ ht)

end Among

/-- An activity. -/
def mainActivity : TypeElement :=
  Platform.subclass "com.example.Main" ({} : FrameworkNames).activityBase

/-- A class whose superclass cannot be resolved. -/
def lostActivity : TypeElement :=
  { TypeElement.ofKind .classType "com.example.Lost" with superclass := .unresolved "Base" }

/-- A presenter, which is no activity. -/
def inboxPresenter : TypeElement :=
  Platform.subclass "com.example.Inbox" ({} : FrameworkNames).presenterBase

/-- The three classes and the bases of two of them. -/
def mixedStore : TypeStore :=
  TypeStore.empty.insertAll [.ofKind .classType ({} : FrameworkNames).activityBase,
    .ofKind .classType ({} : FrameworkNames).presenterBase, mainActivity, lostActivity,
    inboxPresenter]

/-- An activity, twice, and the class that cannot be checked. -/
def mixedCandidates : List Element :=
  [.type mainActivity, .type lostActivity, .type mainActivity]

theorem mixedStore_declares : mixedStore.Declares (mixedCandidates ++ [.type inboxPresenter]) := by
  intro t ht
  simp only [mixedCandidates, List.cons_append, List.nil_append, List.mem_cons,
    Element.type.injEq, List.not_mem_nil, or_false] at ht
  rcases ht with rfl | rfl | rfl | rfl <;> rfl

/-- The presenter is refused. Without it, the activity is found once and the other class is left
out. -/
theorem containersAmong_decides_mixedCandidates :
    mixedStore.Declares (mixedCandidates ++ [.type inboxPresenter]) ∧
    (∃ c ∈ mixedCandidates ++ [.type inboxPresenter],
      (TierRules.ofTier {} .activity).IsBad mixedStore c) ∧
    (containersAmong (.ofTier {} .activity) mixedStore .empty mixedCandidates).found.toList =
      [.ofElement mainActivity] ∧
    (containersAmong (.ofTier {} .activity) mixedStore .empty mixedCandidates).diagnostics =
      [processingNote mainActivity,
        (TierRules.ofTier {} .activity).skippedWarning lostActivity] := by
  have declared : mixedStore.Declares mixedCandidates :=
    fun t ht => mixedStore_declares t (List.mem_append_left _ ht)
  obtain ⟨fails_iff, -⟩ :=
    containersAmong_decides (r := .ofTier {} .activity) mixedStore_declares
  obtain ⟨fails_iff', -, succeeds⟩ := containersAmong_decides (r := .ofTier {} .activity) declared
  have none_bad (c : Element) (hc : c ∈ mixedCandidates) :
      ¬ (TierRules.ofTier {} .activity).IsBad mixedStore c :=
    fun bad => fails_iff'.mpr ⟨c, hc, bad⟩ (by decide +kernel)
  obtain ⟨lists, -, said⟩ := succeeds none_bad
  exact ⟨mixedStore_declares, fails_iff.mp (by decide +kernel), lists.trans (by decide +kernel),
    said.trans (by decide +kernel)⟩

end ComponentWiring
