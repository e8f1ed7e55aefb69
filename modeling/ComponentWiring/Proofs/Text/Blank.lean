/-
ComponentWiring.Proofs.Text.Blank — white space around texts.

* `trimChars_eq_of_blank` — white space around a text does not outlast trimming.
* `exists_blank_ends` — trimming removes nothing but white space at the two ends.
* `trimChars_takeWhile_trimChars` — a text may be trimmed before it is cut at a character.
-/
import ComponentWiring.Text.Blank

namespace ComponentWiring.Text

theorem dropWhile_eq_nil_of_forall {p : Char → Bool} {cs : List Char}
    (all : ∀ c ∈ cs, p c = true) : cs.dropWhile p = [] :=
  dropWhile_eq_nil_iff.mpr (List.all_eq_true.mpr all)

theorem trimChars_eq_of_blank {before after : List Char}
    (blankBefore : ∀ c ∈ before, isBlank c = true) (blankAfter : ∀ c ∈ after, isBlank c = true)
    (cs : List Char) : trimChars (before ++ cs ++ after) = trimChars cs := by
  have reversed : ∀ c ∈ after.reverse, isBlank c = true := by simpa using blankAfter
  rw [List.append_assoc, trimChars, List.dropWhile_append_of_pos blankBefore,
    List.dropWhile_append]
  split
  · next nothing =>
    rw [dropWhile_eq_nil_of_forall blankAfter, trimChars, List.isEmpty_iff.mp nothing]
  · rw [List.reverse_append, List.dropWhile_append_of_pos reversed, trimChars]

theorem exists_blank_ends (cs : List Char) : ∃ before after,
    (∀ c ∈ before, isBlank c = true) ∧ (∀ c ∈ after, isBlank c = true) ∧
      cs = before ++ trimChars cs ++ after := by
  refine ⟨cs.takeWhile isBlank, ((cs.dropWhile isBlank).reverse.takeWhile isBlank).reverse,
    List.all_eq_true.mp List.all_takeWhile, ?_, ?_⟩
  · intro c hc
    exact List.all_eq_true.mp List.all_takeWhile c (List.mem_reverse.mp hc)
  · rw [trimChars, List.append_assoc, ← List.reverse_append, List.takeWhile_append_dropWhile,
      List.reverse_reverse, List.takeWhile_append_dropWhile]

/-- A text that is cut at a character other than white space may be trimmed first. -/
theorem trimChars_takeWhile_trimChars {p : Char → Bool} (keeps : ∀ c, isBlank c = true → p c = true)
    (cs : List Char) : trimChars ((trimChars cs).takeWhile p) = trimChars (cs.takeWhile p) := by
  obtain ⟨before, after, blankBefore, blankAfter, split⟩ := exists_blank_ends cs
  have keepsAfter : after.takeWhile p = after := by
    have whole : (after ++ []).takeWhile p = after ++ [].takeWhile p :=
      List.takeWhile_append_of_pos fun c hc => keeps c (blankAfter c hc)
    simpa using whole
  have cut : cs.takeWhile p = before ++ (trimChars cs ++ after).takeWhile p := by
    conv => lhs; rw [split]
    rw [List.append_assoc]
    exact List.takeWhile_append_of_pos fun c hc => keeps c (blankBefore c hc)
  rw [cut, List.takeWhile_append]
  split
  · next whole =>
    have all : (trimChars cs).takeWhile p = trimChars cs :=
      (List.takeWhile_prefix p).eq_of_length whole
    rw [keepsAfter, all, ← List.append_assoc, trimChars_eq_of_blank blankBefore blankAfter]
  · have ends : trimChars (before ++ (trimChars cs).takeWhile p ++ []) =
        trimChars ((trimChars cs).takeWhile p) :=
      trimChars_eq_of_blank blankBefore (List.forall_mem_nil _) _
    rw [← ends, List.append_nil]

end ComponentWiring.Text
