/-
ComponentWiring.Proofs.Wiring.Dispatch — which class the dispatch answers for a name at run time.

* `ClassMap.namedLast?` — the class of a name at run time that was discovered last.
* `Dispatch.resolve_of_table` — a tier resolves a name to that class.
* `ClassMap.namedLast?_self_iff` — all classes are found under their names at run time exactly when
  these are distinct.

Discovered classes are told apart by their qualified names, dispatched ones by their names at
run time. Two nestings may be spelled the same there.
-/
import ComponentWiring.Proofs.Keyed
import ComponentWiring.Proofs.Text.Segments
import ComponentWiring.Wiring.Dispatch
import Mathlib.Data.List.Nodup

namespace ComponentWiring

open Java

/-! ## 1. Discovered classes -/

namespace ClassMap

theorem map_qualifiedName_toList (m : ClassMap) : m.toList.map (·.qualifiedName) = m.names := by
  rw [toList, Keyed.values, names, Keyed.keys, List.map_map]
  exact List.map_congr_left m.named

theorem nodup_toList (m : ClassMap) : m.toList.Nodup := by
  have names : (m.toList.map (·.qualifiedName)).Nodup := by
    rw [map_qualifiedName_toList]
    exact m.classes.keys_nodup
  exact names.of_map _

/-- The names of the classes at run time, in the order of discovery. -/
def binaryNames (m : ClassMap) : List String := m.toList.map (·.binaryName)

/-- The class of the name at run time that was discovered last. -/
def namedLast? (m : ClassMap) (runtimeName : String) : Option AnnotatedClass :=
  (m.toList.filter (·.binaryName = runtimeName)).getLast?

theorem namedLast?_eq_none_iff {m : ClassMap} {n : String} :
    m.namedLast? n = none ↔ n ∉ m.binaryNames := by
  rw [namedLast?, List.getLast?_eq_none_iff, List.filter_eq_nil_iff, binaryNames, List.mem_map]
  simp

theorem mem_of_namedLast? {m : ClassMap} {n : String} {c : AnnotatedClass}
    (h : m.namedLast? n = some c) : c ∈ m.toList ∧ c.binaryName = n := by
  have mem := List.mem_of_getLast? h
  simpa using mem

end ClassMap

theorem AnnotatedClass.package_className (c : AnnotatedClass) :
    c.className.package = c.package := by
  unfold className
  split <;> rfl

/-- The name of a class at run time depends on its name in sources only. -/
theorem AnnotatedClass.binaryName_eq (c : AnnotatedClass) :
    c.binaryName =
      ClassName.inPackage c.className.package (Text.joinTexts "$" c.className.simpleNames) := by
  rw [package_className]
  rfl

/-- Classes with distinct names at run time have distinct names in sources. -/
theorem ClassMap.nodup_classNames {m : ClassMap} (h : m.binaryNames.Nodup) :
    (m.toList.map (·.className)).Nodup := by
  have spelled : m.binaryNames = (m.toList.map (·.className)).map fun c =>
      ClassName.inPackage c.package (Text.joinTexts "$" c.simpleNames) := by
    rw [binaryNames, List.map_map]
    exact List.map_congr_left fun c _ => c.binaryName_eq
  rw [spelled] at h
  exact h.of_map _

/-! ## 2. Names that can be told apart -/

/-- The name lies in the package and holds no dollar sign. -/
structure AnnotatedClass.IsRegular (c : AnnotatedClass) : Prop where
  noDollar : '$' ∉ c.qualifiedName.toList
  inPackage : c.package = "" ∨ ∃ r, r ≠ "" ∧ c.qualifiedName = c.package ++ "." ++ r

/-- A name at run time as it is spelled in sources. -/
def withDots (cs : List Char) : List Char := cs.map fun d => if d = '$' then '.' else d

theorem withDots_of_not_mem {cs : List Char} (h : '$' ∉ cs) : withDots cs = cs := by
  refine (List.map_congr_left fun d hd => ?_).trans (List.map_id cs)
  have other : d ≠ '$' := fun same => h (same ▸ hd)
  exact if_neg other

theorem withDots_joinTexts {l : List String} (h : ∀ s ∈ l, '$' ∉ s.toList) :
    withDots (Text.joinTexts "$" l).toList = Text.joinWith '.' (l.map String.toList) := by
  induction l with
  | nil => rfl
  | cons s l ih =>
    have first := withDots_of_not_mem (h s List.mem_cons_self)
    cases l with
    | nil => exact first
    | cons t l =>
      have rest := ih fun u hu => h u (List.mem_cons_of_mem s hu)
      have spelled : (Text.joinTexts "$" (s :: t :: l)).toList =
          s.toList ++ '$' :: (Text.joinTexts "$" (t :: l)).toList := by
        simp [Text.joinTexts]
      rw [spelled, withDots, List.map_append, ← withDots, first, List.map_cons, ← withDots, rest]
      rfl

theorem AnnotatedClass.simpleNames_className (c : AnnotatedClass) :
    c.className.simpleNames = Text.dotSegments c.relativeName := by
  unfold className
  split
  · next none_there => cases none_there
  · next outer nested spelled => exact spelled.symm

theorem AnnotatedClass.IsRegular.qualifiedName_eq {c : AnnotatedClass} (h : c.IsRegular) :
    c.qualifiedName = ClassName.inPackage c.package c.relativeName := by
  rcases h.inPackage with outside | ⟨r, some_name, lies⟩
  · simp [ClassName.inPackage, relativeName, outside]
  · by_cases outside : c.package = ""
    · simp [ClassName.inPackage, relativeName, outside]
    · have inside : ¬ c.package.isEmpty = true := by simpa using outside
      have seen : relativeName? c.package c.qualifiedName = some r := by
        have dropped : Text.dropStart? (c.package.toList ++ ['.']) c.qualifiedName.toList =
            some r.toList := by
          rw [Text.dropStart?_eq_some_iff, lies]
          simp
        rw [relativeName?, dropped]
        simp
      have named : ¬ r.isEmpty = true := by simpa using some_name
      rw [ClassName.inPackage, if_neg inside, relativeName, if_neg inside, seen]
      simp only [if_neg named]
      exact lies

/-- The name of a regular class at run time leads back to its qualified name. -/
theorem AnnotatedClass.IsRegular.withDots_binaryName {c : AnnotatedClass} (h : c.IsRegular) :
    withDots c.binaryName.toList = c.qualifiedName.toList := by
  have plain := h.noDollar
  rw [h.qualifiedName_eq] at plain ⊢
  have spelled : c.binaryName =
      ClassName.inPackage c.package (Text.joinTexts "$" (Text.dotSegments c.relativeName)) := by
    rw [← c.simpleNames_className]
    rfl
  have segments : (Text.dotSegments c.relativeName).map String.toList =
      Text.segments '.' c.relativeName.toList := by
    simp [Text.dotSegments, Function.comp_def]
  have dotted (noDollar : '$' ∉ c.relativeName.toList) :
      withDots (Text.joinTexts "$" (Text.dotSegments c.relativeName)).toList =
        c.relativeName.toList := by
    rw [withDots_joinTexts, segments, Text.joinWith_segments]
    intro s hs mem
    obtain ⟨t, ht, rfl⟩ := List.mem_map.mp hs
    exact noDollar (Text.mem_of_mem_segments ht (by simpa using mem))
  rw [spelled]
  by_cases outside : c.package.isEmpty = true
  · simp only [ClassName.inPackage, if_pos outside] at plain ⊢
    exact dotted plain
  · simp only [ClassName.inPackage, if_neg outside, String.toList_append, List.mem_append,
      not_or] at plain ⊢
    rw [withDots, List.map_append, List.map_append, ← withDots, ← withDots, ← withDots,
      withDots_of_not_mem plain.1.1, withDots_of_not_mem plain.1.2, dotted plain.2]

/-- Regular classes have distinct names at run time. -/
theorem ClassMap.nodup_binaryNames {m : ClassMap} (h : ∀ c ∈ m.toList, c.IsRegular) :
    m.binaryNames.Nodup := by
  have names : (m.toList.map (·.qualifiedName)).Nodup := by
    rw [map_qualifiedName_toList]
    exact m.classes.keys_nodup
  refine m.nodup_toList.map_on fun c hc c' hc' same => ?_
  refine List.inj_on_of_nodup_map names hc hc' ?_
  rw [← String.toList_inj, ← (h c hc).withDots_binaryName, ← (h c' hc').withDots_binaryName, same]

/-! ## 3. Tiers -/

namespace Dispatch

theorem lastValue?_binaryNames (m : ClassMap) (n : String) :
    Keyed.lastValue? (m.toList.map fun c => (c.binaryName, c)) n = m.namedLast? n := by
  rw [Keyed.lastValue?, List.filter_map, List.getLast?_map, Option.map_map, ClassMap.namedLast?]
  exact congrFun Option.map_id _

/-- The table of a tier with the component and the containers. -/
def tableOf (component : ClassName) (m : ClassMap) : DispatchTable :=
  ⟨component, Keyed.ofList (m.toList.map fun c => (c.binaryName, c))⟩

theorem tables_withTier (d : Dispatch) (tier : Tier) (component : ClassName) (m : ClassMap)
    (other : Tier) :
    (d.withTier tier component m).tables.get? other =
      if tier = other then some (tableOf component m) else d.tables.get? other :=
  Keyed.get?_insert d.tables tier other _

section

variable {d : Dispatch} {tier : Tier} {component : ClassName} {m : ClassMap}
  (h : d.tables.get? tier = some (tableOf component m))
include h

/-- A tier resolves a name to the class that was discovered last under it. -/
theorem resolve_of_table (n : String) : d.resolve tier n = m.namedLast? n := by
  rw [resolve, h, ← lastValue?_binaryNames]
  exact Keyed.get?_ofList _ n

/-- Only discovered classes are dispatched. -/
theorem mem_of_mem_targets {c : AnnotatedClass} (hc : c ∈ d.targets tier) : c ∈ m.toList := by
  rw [targets, entries, h] at hc
  obtain ⟨e, he, rfl⟩ := List.mem_map.mp hc
  have found := Keyed.get?_eq_some_iff.mpr he
  have resolved := resolve_of_table h e.1
  rw [resolve, h] at resolved
  exact (ClassMap.mem_of_namedLast? (resolved.symm.trans found)).1

/-- With distinct names at run time, a tier has its classes in the order of discovery. -/
theorem targets_of_table (distinct : m.binaryNames.Nodup) : d.targets tier = m.toList := by
  have keys : ((m.toList.map fun c => (c.binaryName, c)).map Prod.fst).Nodup := by
    rw [List.map_map]
    exact distinct
  rw [targets, entries, h]
  show (Keyed.ofList _).entries.map Prod.snd = _
  rw [Keyed.entries_ofList_of_nodup keys, List.map_map]
  exact List.map_id _

end

end Dispatch

/-- All classes are found under their names at run time exactly when these are distinct. -/
theorem ClassMap.namedLast?_self_iff {m : ClassMap} :
    (∀ c ∈ m.toList, m.namedLast? c.binaryName = some c) ↔ m.binaryNames.Nodup := by
  constructor
  · intro h
    refine m.nodup_toList.map_on fun c hc c' hc' same => ?_
    have found := h c hc
    rw [same, h c' hc'] at found
    exact (Option.some.inj found).symm
  · intro h c hc
    cases found : m.namedLast? c.binaryName with
    | none => exact absurd (List.mem_map_of_mem hc) (namedLast?_eq_none_iff.mp found)
    | some c' =>
      obtain ⟨hc', same⟩ := mem_of_namedLast? found
      exact congrArg some (List.inj_on_of_nodup_map h hc' hc same)

end ComponentWiring
