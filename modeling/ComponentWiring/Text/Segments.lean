/-
ComponentWiring.Text.Segments — texts as segments between separators.

* `splitAt sep s` — the first segment and the remaining ones.
* `joinWith sep` — the segments put together again.
* `lines` — the lines of a text, without their ends.

The main statements are `joinWith_segments` (splitting loses nothing) and
`segments_joinWith` (segments without a separator come back).
-/

namespace ComponentWiring.Text

/-! ## 1. Splitting and joining -/

/-- The segment before the first separator and the segments after it. -/
def splitAt (sep : Char) : List Char → List Char × List (List Char)
  | [] => ([], [])
  | c :: cs =>
    let r := splitAt sep cs
    if c = sep then ([], r.1 :: r.2) else (c :: r.1, r.2)

/-- All segments between separators; there is always one. -/
def segments (sep : Char) (cs : List Char) : List (List Char) :=
  (splitAt sep cs).1 :: (splitAt sep cs).2

/-- Segments with a separator between each two. -/
def joinWith (sep : Char) : List (List Char) → List Char
  | [] => []
  | [s] => s
  | s :: t :: r => s ++ sep :: joinWith sep (t :: r)

theorem joinWith_cons_of_ne_nil {sep : Char} {s : List Char} {r : List (List Char)} (h : r ≠ []) :
    joinWith sep (s :: r) = s ++ sep :: joinWith sep r := by
  cases r with
  | nil => exact absurd rfl h
  | cons t r => rfl

theorem joinWith_cons_char {sep c : Char} {s : List Char} {r : List (List Char)} :
    joinWith sep ((c :: s) :: r) = c :: joinWith sep (s :: r) := by
  cases r <;> rfl

/-- Two runs of segments are joined by one more separator. -/
theorem joinWith_append {sep : Char} {l r : List (List Char)} (hl : l ≠ []) (hr : r ≠ []) :
    joinWith sep (l ++ r) = joinWith sep l ++ sep :: joinWith sep r := by
  induction l with
  | nil => exact absurd rfl hl
  | cons s l ih =>
    cases l with
    | nil => simp [joinWith, joinWith_cons_of_ne_nil hr]
    | cons t l => simpa [joinWith] using ih (by simp)

/-- Joining the segments of a text gives the text. -/
theorem joinWith_segments (sep : Char) (cs : List Char) :
    joinWith sep (segments sep cs) = cs := by
  induction cs with
  | nil => rfl
  | cons c cs ih =>
    by_cases h : c = sep
    · simpa [segments, splitAt, h, joinWith] using ih
    · simp only [segments, splitAt, if_neg h, joinWith_cons_char]
      rw [← segments, ih]

theorem splitAt_fst_of_not_mem {sep : Char} {s r : List Char} (h : sep ∉ s) :
    (splitAt sep (s ++ r)).1 = s ++ (splitAt sep r).1 ∧
      (splitAt sep (s ++ r)).2 = (splitAt sep r).2 := by
  induction s with
  | nil => simp
  | cons c s ih =>
    simp only [List.mem_cons, not_or] at h
    have hc : c ≠ sep := fun e => h.1 e.symm
    simp [splitAt, hc, ih h.2]

/-- Segments that hold no separator are recovered from their join. -/
theorem segments_joinWith {sep : Char} {l : List (List Char)} (hl : l ≠ [])
    (h : ∀ s ∈ l, sep ∉ s) : segments sep (joinWith sep l) = l := by
  induction l with
  | nil => exact absurd rfl hl
  | cons s r ih =>
    have hs : sep ∉ s := h s (by simp)
    cases r with
    | nil =>
      have := splitAt_fst_of_not_mem (r := []) hs
      simpa [joinWith, segments, splitAt] using this
    | cons t r =>
      have hr := ih (by simp) (fun s hs => h s (by simp [hs]))
      have := splitAt_fst_of_not_mem (r := sep :: joinWith sep (t :: r)) hs
      simp only [splitAt, if_true] at this
      simp only [joinWith, segments, this, List.append_nil]
      exact congrArg (s :: ·) hr

/-- No segment holds a separator. -/
theorem not_mem_of_mem_segments {sep : Char} {cs s : List Char} (h : s ∈ segments sep cs) :
    sep ∉ s := by
  induction cs generalizing s with
  | nil =>
    have : s = [] := by simpa [segments, splitAt] using h
    simp [this]
  | cons c cs ih =>
    by_cases hc : c = sep
    · simp only [segments, splitAt, hc, if_true, List.mem_cons] at h
      rcases h with rfl | h
      · simp
      · exact ih (by simpa [segments] using h)
    · simp only [segments, splitAt, if_neg hc, List.mem_cons] at h
      rcases h with rfl | h
      · simp only [List.mem_cons, not_or]
        exact ⟨fun e => hc e.symm, ih (by simp [segments])⟩
      · exact ih (by simp [segments, h])

/-! ## 2. Dotted names -/

/-- The segments of a text between its dots. -/
def dotSegments (s : String) : List String :=
  (segments '.' s.toList).map String.ofList

/-- Texts with a dot between each two. -/
def joinDots (l : List String) : String :=
  String.ofList (joinWith '.' (l.map String.toList))

/-- Texts with a given text between each two. -/
def joinTexts (sep : String) : List String → String
  | [] => ""
  | [s] => s
  | s :: t :: r => s ++ sep ++ joinTexts sep (t :: r)

theorem joinDots_dotSegments (s : String) : joinDots (dotSegments s) = s := by
  simp [joinDots, dotSegments, Function.comp_def, joinWith_segments]

/-! ## 3. Parts at the ends -/

/-- The rest of a text after a part it starts with. -/
def dropStart? : List Char → List Char → Option (List Char)
  | [], cs => some cs
  | _ :: _, [] => none
  | p :: ps, c :: cs => if p = c then dropStart? ps cs else none

theorem dropStart?_eq_some_iff {p cs r : List Char} : dropStart? p cs = some r ↔ cs = p ++ r := by
  induction p generalizing cs with
  | nil => simp [dropStart?, eq_comm]
  | cons c p ih =>
    cases cs with
    | nil => simp [dropStart?]
    | cons d cs =>
      by_cases h : c = d
      · subst h; simp [dropStart?, ih]
      · have h' : ¬ d = c := fun e => h e.symm
        simp [dropStart?, h, h']

/-! ## 4. Lines -/

/-- The line without a carriage return at its end. -/
def withoutReturn (cs : List Char) : List Char :=
  match cs.reverse with
  | '\r' :: r => r.reverse
  | _ => cs

/-- The lines of a text. A line ends at a line feed, which may follow a carriage return;
an end at the very end of the text starts no further line. -/
def lines (s : String) : List String :=
  let pieces := segments '\n' s.toList
  let ended := pieces.dropLast.map fun l => String.ofList (withoutReturn l)
  match pieces.getLast? with
  | some (c :: cs) => ended ++ [String.ofList (c :: cs)]
  | _ => ended

end ComponentWiring.Text
