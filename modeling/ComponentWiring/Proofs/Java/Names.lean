/-
ComponentWiring.Proofs.Java.Names — names that can be read as the name of a class.

* `ClassName.IsReadable` — all segments of the name are identifiers.
* `parse?_isSome_iff` — exactly these names are read.
* `ClassName.IsReadable.not_blank` — such a name is not blank.
-/
import ComponentWiring.Java.ClassName
import ComponentWiring.Proofs.Text.Segments
import ComponentWiring.Text.Blank

namespace ComponentWiring

open Java

/-! ## 1. Reading -/

/-- Every segment of the name is an identifier. -/
def Java.ClassName.IsReadable (name : String) : Prop :=
  ∀ s ∈ Text.segments '.' name.toList, isIdentifier s = true

instance (name : String) : Decidable (ClassName.IsReadable name) :=
  inferInstanceAs (Decidable (∀ s ∈ Text.segments '.' name.toList, _))

theorem classStart_lt {segs : List (List Char)} (h : segs ≠ []) :
    ClassName.classStart segs < segs.length := by
  unfold ClassName.classStart
  split
  · next capital => exact List.findIdx_lt_length.mpr (List.any_eq_true.mp capital)
  · have := List.length_pos_iff.mpr h
    omega

theorem parse?_isSome_iff {name : String} :
    (ClassName.parse? name).isSome = true ↔ ClassName.IsReadable name := by
  unfold ClassName.parse? ClassName.IsReadable
  have some_segment : Text.segments '.' name.toList ≠ [] := List.cons_ne_nil _ _
  generalize Text.segments '.' name.toList = segs at some_segment
  by_cases readable : segs.all ClassName.isIdentifier = true
  · have some_class : (segs.drop (ClassName.classStart segs)).map String.ofList ≠ [] := by
      have := classStart_lt some_segment
      simp only [ne_eq, List.map_eq_nil_iff, List.drop_eq_nil_iff]
      omega
    obtain ⟨outer, nested, named⟩ := List.exists_cons_of_ne_nil some_class
    simp only [if_pos readable, named, Option.isSome_some, true_iff]
    exact List.all_eq_true.mp readable
  · simp only [if_neg readable, Option.isSome_none, Bool.false_eq_true, false_iff]
    exact fun h => readable (List.all_eq_true.mpr h)

/-! ## 2. White space -/

/-- The code points of white space. -/
def blankCodes : List Nat :=
  [0x09, 0x0a, 0x0b, 0x0c, 0x0d, 0x20, 0x85, 0xa0, 0x1680, 0x2000, 0x2001, 0x2002, 0x2003, 0x2004,
   0x2005, 0x2006, 0x2007, 0x2008, 0x2009, 0x200a, 0x2028, 0x2029, 0x202f, 0x205f, 0x3000]

theorem toNat_mem_blankCodes {c : Char} (h : Text.isBlank c = true) : c.toNat ∈ blankCodes := by
  simp only [Text.isBlank, Bool.or_eq_true, Bool.and_eq_true, decide_eq_true_eq, beq_iff_eq] at h
  simp only [blankCodes, List.mem_cons, List.not_mem_nil, or_false]
  omega

/-- No identifier starts with white space. -/
theorem startsIdentifier_of_isBlank {c : Char} (h : Text.isBlank c = true) :
    ClassName.startsIdentifier c = false := by
  have none_starts : ∀ n ∈ blankCodes, ClassName.startsIdentifier (Char.ofNat n) = false := by
    decide +kernel
  rw [← Char.ofNat_toNat c]
  exact none_starts c.toNat (toNat_mem_blankCodes h)

/-- A name that can be read is not blank. -/
theorem Java.ClassName.IsReadable.not_blank {name : String} (h : ClassName.IsReadable name) :
    Text.isBlankText name = false := by
  rw [← Bool.not_eq_true, Text.isBlankText, List.all_eq_true]
  intro blank
  -- White space holds no dot, so the name would be its only segment.
  have noDot : '.' ∉ name.toList := by
    intro dot
    have blankDot := blank '.' dot
    revert blankDot
    decide
  have only : name.toList ∈ Text.segments '.' name.toList := by
    rw [Text.segments_of_not_mem noDot]
    exact List.mem_singleton_self _
  have readable := h name.toList only
  cases spelled : name.toList with
  | nil =>
    rw [spelled] at readable
    cases readable
  | cons c cs =>
    rw [spelled, ClassName.isIdentifier, Bool.and_eq_true] at readable
    have first := startsIdentifier_of_isBlank (blank c (by simp [spelled]))
    rw [first] at readable
    cases readable.1

end ComponentWiring
