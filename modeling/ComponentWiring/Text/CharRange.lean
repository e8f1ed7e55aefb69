/-
ComponentWiring.Text.CharRange — sets of characters given by a table of ranges.

* `CharRange` — the code points `first, first + step, …` up to `last`.
* `inRanges` — membership of a character in a table of ranges.
* `CharRange.contains_iff` — a range holds exactly the code points it describes.
-/

namespace ComponentWiring.Text

/-- The code points `first, first + step, first + 2 * step, …` that do not exceed `last`. -/
structure CharRange where
  first : Nat
  last : Nat
  step : Nat
deriving DecidableEq

/-- Whether a code point lies in the range. -/
def CharRange.contains (r : CharRange) (n : Nat) : Bool :=
  decide (r.first ≤ n) && decide (n ≤ r.last) && (n - r.first) % r.step == 0

/-- Whether a character lies in one of the ranges of a table. -/
def inRanges (table : List CharRange) (c : Char) : Bool :=
  table.any (·.contains c.toNat)

/-- A range holds the code points between its ends that lie a multiple of the step away
from the first one. -/
theorem CharRange.contains_iff (r : CharRange) (n : Nat) :
    r.contains n = true ↔ ∃ k, n = r.first + k * r.step ∧ n ≤ r.last := by
  simp only [contains, Bool.and_eq_true, decide_eq_true_eq, beq_iff_eq]
  constructor
  · rintro ⟨⟨h1, h2⟩, h3⟩
    refine ⟨(n - r.first) / r.step, ?_, h2⟩
    have := Nat.div_add_mod (n - r.first) r.step
    rw [h3, Nat.mul_comm] at this
    omega
  · rintro ⟨k, rfl, h⟩
    exact ⟨⟨Nat.le_add_right _ _, h⟩, by simp⟩

end ComponentWiring.Text
