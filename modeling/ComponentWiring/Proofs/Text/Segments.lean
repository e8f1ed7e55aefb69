/-
ComponentWiring.Proofs.Text.Segments — segments of texts that are put together.

* `segments_append_sep` — a separator between two texts separates their segments.
* `segments_of_not_mem` — a text without separators is one segment.
* `segments_append_of_not_mem` — such a text belongs to the last segment of a longer one.
* `mem_of_mem_segments` — segments consist of characters of the text.
-/
import ComponentWiring.Text.Segments

namespace ComponentWiring.Text

theorem splitAt_append_sep (sep : Char) (cs ds : List Char) :
    splitAt sep (cs ++ sep :: ds) =
      ((splitAt sep cs).1, (splitAt sep cs).2 ++ segments sep ds) := by
  induction cs with
  | nil => simp [splitAt, segments]
  | cons c cs ih =>
    by_cases h : c = sep
    · simp [splitAt, h, ih]
    · simp [splitAt, h, ih]

theorem segments_append_sep (sep : Char) (cs ds : List Char) :
    segments sep (cs ++ sep :: ds) = segments sep cs ++ segments sep ds := by
  rw [segments, splitAt_append_sep]
  rfl

theorem segments_of_not_mem {sep : Char} {cs : List Char} (h : sep ∉ cs) :
    segments sep cs = [cs] := by
  have split := splitAt_fst_of_not_mem (r := []) h
  rw [List.append_nil] at split
  rw [segments, split.1, split.2]
  simp [splitAt]

/-- A text without separators at the end of another belongs to the last segment. -/
theorem segments_append_of_not_mem {sep : Char} {ds : List Char} (h : sep ∉ ds) (cs : List Char) :
    ∃ before last, segments sep (cs ++ ds) = before ++ [last ++ ds] := by
  induction cs with
  | nil => exact ⟨[], [], segments_of_not_mem h⟩
  | cons c cs ih =>
    obtain ⟨before, last, split⟩ := ih
    by_cases hc : c = sep
    · subst hc
      have first := segments_append_sep c [] (cs ++ ds)
      rw [List.nil_append, split] at first
      exact ⟨[] :: before, last, first⟩
    · simp only [segments, List.cons_append, splitAt, if_neg hc] at split ⊢
      cases before with
      | nil =>
        obtain ⟨first, rest⟩ := List.cons.inj split
        exact ⟨[], c :: last, by rw [first, rest]; rfl⟩
      | cons s before =>
        obtain ⟨first, rest⟩ := List.cons.inj split
        exact ⟨(c :: s) :: before, last, by rw [first, rest]; rfl⟩

theorem dotSegments_append (p q : String) :
    dotSegments (p ++ "." ++ q) = dotSegments p ++ dotSegments q := by
  have spelled : (p ++ "." ++ q).toList = p.toList ++ '.' :: q.toList := by simp
  rw [dotSegments, spelled, segments_append_sep, List.map_append]
  rfl

/-- A segment consists of characters of the text. -/
theorem mem_of_mem_segments {sep d : Char} {cs s : List Char} (h : s ∈ segments sep cs)
    (hd : d ∈ s) : d ∈ cs := by
  induction cs generalizing s with
  | nil =>
    obtain rfl : s = [] := by simpa [segments, splitAt] using h
    cases hd
  | cons c cs ih =>
    by_cases hc : c = sep
    · simp only [segments, splitAt, hc, if_true, List.mem_cons] at h
      rcases h with rfl | h
      · cases hd
      · exact List.mem_cons_of_mem c (ih (by simpa [segments] using h) hd)
    · simp only [segments, splitAt, if_neg hc, List.mem_cons] at h
      rcases h with rfl | h
      · rcases List.mem_cons.mp hd with rfl | hd
        · exact List.mem_cons_self
        · exact List.mem_cons_of_mem c (ih (by simp [segments]) hd)
      · exact List.mem_cons_of_mem c (ih (by simp [segments, h]) hd)

theorem noDot_of_mem_dotSegments {n s : String} (h : n ∈ dotSegments s) : '.' ∉ n.toList := by
  obtain ⟨cs, hcs, rfl⟩ := List.mem_map.mp h
  rw [String.toList_ofList]
  exact not_mem_of_mem_segments hcs

end ComponentWiring.Text
