/-
ComponentWiring.Proofs.Discovery.Validators — rules that an element is held to one after the other.

* `firstFailure` — the place of the first rule that says something.
* `pairwise_firstFailure` — violations stand in the order in which they are found.
* `Validator.checkEach` — several validators at work, call by call.
* `validators_accumulate` — rules count each on its own, in any order and however often, and every
  validator goes by its own rules.

Two rules may say the same. So the violations of all rules are fewer than those of each rule, but
they are the same set.
-/
import ComponentWiring.Proofs.Discovery.Root
import ComponentWiring.Proofs.Keyed

namespace ComponentWiring

variable {s : TypeStore} {e : Element} {marker : String} {checks checks' : List Check} {c : Check}
  {m : String}

/-! ## 1. Violations -/

theorem violations_singleton : violations s e marker [c] = (c.violation? s e marker).toList := by
  rw [violations_eq_eraseDups, List.filterMap_cons]
  cases c.violation? s e marker with
  | none => rfl
  | some m => rfl

theorem violations_singleton_eq_iff :
    violations s e marker [c] = [m] ↔ c.violation? s e marker = some m := by
  rw [violations_singleton, Option.toList_eq_singleton_iff]

theorem nodup_violations : (violations s e marker checks).Nodup := by
  rw [violations_eq_eraseDups]
  exact nodup_eraseDups _

/-- The violations are what the rules say when they are run alone. -/
theorem mem_violations_iff :
    m ∈ violations s e marker checks ↔ ∃ c ∈ checks, violations s e marker [c] = [m] := by
  simp only [violations_singleton_eq_iff]
  rw [violations_eq_eraseDups, List.mem_eraseDups, List.mem_filterMap]

/-- The violations under rules of which none is new and none is missing are the same set. -/
theorem violations_perm (same : ∀ c, c ∈ checks ↔ c ∈ checks') :
    (violations s e marker checks).Perm (violations s e marker checks') := by
  refine (List.perm_ext_iff_of_nodup nodup_violations nodup_violations).mpr fun m => ?_
  rw [mem_violations_iff, mem_violations_iff]
  exact exists_congr fun c => and_congr_left' (same c)

/-! ## 2. The order of violations -/

/-- The place of the first rule that says the message when it is run alone. -/
def firstFailure (s : TypeStore) (e : Element) (marker : String) (checks : List Check)
    (m : String) : Nat :=
  checks.findIdx fun c => violations s e marker [c] = [m]

theorem firstFailure_lt_iff :
    firstFailure s e marker checks m < checks.length ↔ m ∈ violations s e marker checks := by
  rw [firstFailure, List.findIdx_lt_length, mem_violations_iff]
  simp only [decide_eq_true_eq]

/-- A rule that is added does not change who said a known message first. -/
theorem firstFailure_concat (known : m ∈ violations s e marker checks) :
    firstFailure s e marker (checks ++ [c]) m = firstFailure s e marker checks m := by
  have before := firstFailure_lt_iff.mpr known
  rw [firstFailure, List.findIdx_append]
  exact if_pos before

/-- Violations stand in the order in which they are found first. -/
theorem pairwise_firstFailure : (violations s e marker checks).Pairwise fun m n =>
    firstFailure s e marker checks m < firstFailure s e marker checks n := by
  induction checks using List.reverseRecOn with
  | nil => exact .nil
  | append_singleton checks c ih =>
    have kept : (violations s e marker checks).Pairwise fun m n =>
        firstFailure s e marker (checks ++ [c]) m < firstFailure s e marker (checks ++ [c]) n := by
      refine ih.imp_of_mem fun hm hn before => ?_
      rwa [firstFailure_concat hm, firstFailure_concat hn]
    rw [violations_concat]
    cases c.violation? s e marker with
    | none => exact kept
    | some m =>
      rw [Validator.withMessage]
      split
      · exact kept
      next new =>
        have later : checks.length ≤ firstFailure s e marker (checks ++ [c]) m := by
          have unsaid : ¬ firstFailure s e marker checks m < checks.length :=
            fun found => new (firstFailure_lt_iff.mp found)
          rw [firstFailure, List.findIdx_append, ← firstFailure, if_neg unsaid]
          exact Nat.le_add_left _ _
        refine List.pairwise_append.mpr ⟨kept, List.pairwise_singleton _ _, fun n hn m' hm' => ?_⟩
        rw [List.mem_singleton.mp hm', firstFailure_concat hn]
        exact Nat.lt_of_lt_of_le (firstFailure_lt_iff.mpr hn) later

/-! ## 3. Results -/

/-- An element passes rules exactly if it passes each of them. -/
theorem validate_ok_iff_forall : validate s e marker checks = .ok () ↔
    ∀ c ∈ checks, validate s e marker [c] = .ok () := by
  simp only [validate_ok_iff, List.forall_mem_singleton]

/-- An element that one of the rules refuses is refused with all violations, and no other is. -/
theorem validate_error_iff {f : Failure} : validate s e marker checks = .error f ↔
    (∃ c ∈ checks, validate s e marker [c] ≠ .ok ()) ∧
      f = .violations e.displayName (violations s e marker checks) := by
  have refused : (∃ c ∈ checks, validate s e marker [c] ≠ .ok ()) ↔
      validate s e marker checks ≠ .ok () := by
    rw [ne_eq, validate_ok_iff_forall]
    push Not
    rfl
  rw [refused, validate_eq]
  cases violations s e marker checks with
  | nil => simp
  | cons m ms => simp [eq_comm]

/-! ## 4. Validators at work -/

namespace Validator

/-- The validator before it is asked to check anything. -/
def fresh (v : Validator) : Validator := { v with messages := [] }

/-- Several validators at work. Each call tells which of them is to check what. -/
def checkEach (vs : List Validator) (calls : List (Nat × Check)) : List Validator :=
  calls.foldl (fun vs call => vs.modify call.1 (·.check call.2)) vs

/-- What the validator at a place is asked to check. -/
def callsTo (i : Nat) (calls : List (Nat × Check)) : List Check :=
  (calls.filter (·.1 = i)).map Prod.snd

/-- What a validator gathers are the violations. -/
theorem checkAll_fresh (v : Validator) (checks : List Check) : v.fresh.checkAll checks =
    { v with messages := violations v.store v.element v.marker checks } :=
  checkAll_eq v.fresh checks

/-- No call reaches another validator than its own. -/
theorem getElem?_checkEach (vs : List Validator) (calls : List (Nat × Check)) (i : Nat) :
    (checkEach vs calls)[i]? = vs[i]?.map (·.checkAll (callsTo i calls)) := by
  induction calls generalizing vs with
  | nil => simp [checkEach, callsTo, checkAll]
  | cons call calls ih =>
    rw [checkEach, List.foldl_cons, ← checkEach, ih, List.getElem?_modify]
    by_cases own : call.1 = i <;> simp [callsTo, checkAll, own, Function.comp_def]

theorem messages_checkEach (vs : List Validator) (calls : List (Nat × Check)) :
    (checkEach (vs.map fresh) calls).map messages =
      vs.mapIdx fun i v => violations v.store v.element v.marker (callsTo i calls) := by
  refine List.ext_getElem? fun i => ?_
  rw [List.getElem?_map, getElem?_checkEach, List.getElem?_map, List.getElem?_mapIdx]
  simp [Function.comp_def, checkAll_fresh]

end Validator

/-- Rules count each on its own: what is gathered under them is what each of them says when it is
run alone, once, in the order in which it is said first, and an element is refused if one of them
refuses it. Neither their order nor their number changes more than the order of the messages, and
validators at work side by side gather what they would gather alone. -/
theorem validators_accumulate (s : TypeStore) (e : Element) (marker : String)
    (checks : List Check) :
    violations s e marker checks = (checks.filterMap (Check.violation? s e marker)).eraseDups ∧
      (violations s e marker checks).Nodup ∧
      (∀ m, m ∈ violations s e marker checks ↔ ∃ c ∈ checks, violations s e marker [c] = [m]) ∧
      ((violations s e marker checks).Pairwise fun m n =>
        firstFailure s e marker checks m < firstFailure s e marker checks n) ∧
      (∀ f, validate s e marker checks = .error f ↔
        (∃ c ∈ checks, validate s e marker [c] ≠ .ok ()) ∧
          f = .violations e.displayName (violations s e marker checks)) ∧
      (∀ checks', (∀ c, c ∈ checks' ↔ c ∈ checks) →
        (violations s e marker checks').Perm (violations s e marker checks)) ∧
      ∀ (vs : List Validator) calls, (Validator.checkEach (vs.map .fresh) calls).map (·.messages) =
        vs.mapIdx fun i v =>
          violations v.store v.element v.marker (Validator.callsTo i calls) :=
  ⟨violations_eq_eraseDups .., nodup_violations, fun _ => mem_violations_iff,
    pairwise_firstFailure, fun _ => validate_error_iff, fun _ same => violations_perm same,
    Validator.messages_checkEach⟩

/-- A method that breaks three rules at once. -/
def hiddenMethod : Element :=
  .method { name := "provide", modifiers := [.privateMod, .abstractMod] }
    (.ofInterface "com.example.Api")

theorem validators_accumulate_hiddenMethod :
    let checks : List Check := [.accessible, .abstractIs false, .inInterfaceIs false, .accessible]
    let reordered : List Check := [.inInterfaceIs false, .accessible, .abstractIs false]
    (∀ c, c ∈ reordered ↔ c ∈ checks) ∧
      violations .empty hiddenMethod "PerActivity" checks =
        ["provide method is not accessible. It must have public, default or native modifier.",
          "provide method is abstract. You can't annotate abstract methods with @PerActivity",
          "Api class is an Interface. You can't annotate Interface methods with @PerActivity"] ∧
      (violations .empty hiddenMethod "PerActivity" reordered).Perm
        (violations .empty hiddenMethod "PerActivity" checks) := by
  intro checks reordered
  have same : ∀ c, c ∈ reordered ↔ c ∈ checks := fun c => by
    simp only [reordered, checks, List.mem_cons, List.not_mem_nil, or_false]
    tauto
  obtain ⟨-, -, -, -, -, perm, -⟩ := validators_accumulate .empty hiddenMethod "PerActivity" checks
  exact ⟨same, by decide, perm reordered same⟩

end ComponentWiring
