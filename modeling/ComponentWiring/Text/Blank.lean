/-
ComponentWiring.Text.Blank — white space and trimming.

* `isBlank` — the characters with the Unicode property White_Space.
* `trim` — a text without the white space at its two ends.
* `isBlankText` — whether trimming leaves nothing.

The main statement is `trim_eq_empty_iff`: a text trims to nothing exactly when all its
characters are white space.
-/

namespace ComponentWiring.Text

/-! ## 1. White space -/

/-- The characters with the property White_Space. -/
def isBlank (c : Char) : Bool :=
  let n := c.toNat
  (decide (0x09 ≤ n) && decide (n ≤ 0x0d)) || n == 0x20 || n == 0x85 || n == 0xa0 || n == 0x1680
    || (decide (0x2000 ≤ n) && decide (n ≤ 0x200a)) || n == 0x2028 || n == 0x2029 || n == 0x202f
    || n == 0x205f || n == 0x3000

/-! ## 2. Trimming -/

/-- The characters of a text from its first to its last that is not blank. -/
def trimChars (cs : List Char) : List Char :=
  ((cs.dropWhile isBlank).reverse.dropWhile isBlank).reverse

/-- The text without the white space at its two ends. -/
def trim (s : String) : String :=
  String.ofList (trimChars s.toList)

/-- Whether a text is empty or holds white space only. -/
def isBlankText (s : String) : Bool :=
  s.toList.all isBlank

theorem dropWhile_eq_nil_iff {p : Char → Bool} {cs : List Char} :
    cs.dropWhile p = [] ↔ cs.all p = true := by
  induction cs with
  | nil => simp
  | cons c cs ih => by_cases h : p c = true <;> simp [List.dropWhile, h, ih]

theorem head_dropWhile_not {p : Char → Bool} {cs : List Char} {c : Char} {r : List Char}
    (h : cs.dropWhile p = c :: r) : p c = false := by
  induction cs with
  | nil => simp at h
  | cons d cs ih =>
    by_cases hd : p d = true
    · exact ih (by simpa [List.dropWhile, hd] using h)
    · have hd' : p d = false := by simpa using hd
      simp only [List.dropWhile, hd'] at h
      cases h
      exact hd'

theorem trimChars_eq_nil_iff {cs : List Char} : trimChars cs = [] ↔ cs.all isBlank = true := by
  constructor
  · intro h
    have h1 : (cs.dropWhile isBlank).reverse.dropWhile isBlank = [] := by
      simpa [trimChars] using h
    have h2 := dropWhile_eq_nil_iff.mp h1
    cases hd : cs.dropWhile isBlank with
    | nil => exact dropWhile_eq_nil_iff.mp hd
    | cons c r =>
      have hc := head_dropWhile_not hd
      rw [hd] at h2
      simp [hc] at h2
  · intro h
    simp [trimChars, dropWhile_eq_nil_iff.mpr h]

/-- A text trims to nothing exactly when it holds no character but white space. -/
theorem trim_eq_empty_iff {s : String} : trim s = "" ↔ isBlankText s = true := by
  rw [trim, isBlankText, ← trimChars_eq_nil_iff]
  constructor
  · intro h
    have := congrArg String.toList h
    simpa using this
  · intro h
    simp [h]

end ComponentWiring.Text
