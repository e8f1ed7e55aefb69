/-
ComponentWiring.Proofs.Java.Locations — where source files lie.

* `Path.components_join_of_plain` — a plain path continues any other path.
* `Path.components_join` — a step without slashes adds one component to a path.
* `locationOf` — the components of the path of a package and a type name.
* `locationOf_of_plain` — a name that holds no slash lies in the folder of its package.
* `folderOf_below` — the folder of a package below another one.

A name with a slash is a path of its own, so a file may lie in the folder of another package.
-/
import ComponentWiring.Java.SourceFile
import ComponentWiring.Proofs.Text.Segments

namespace ComponentWiring

open Text

/-! ## 1. Steps of a path -/

namespace Path

/-- The text is one step of a path that leads downwards. -/
structure IsStep (n : String) : Prop where
  nonempty : n.toList ≠ []
  noSlash : '/' ∉ n.toList
  notHere : n.toList ≠ ['.']
  notUp : n.toList ≠ ['.', '.']

theorem IsStep.ofSegment {n : String} (h : IsStep n) :
    Component.ofSegment n.toList = some (.name n) := by
  simp [Component.ofSegment, h.nonempty, h.notHere, h.notUp]

theorem Component.ofSegment_of_length {s : List Char} (long : 2 < s.length) :
    Component.ofSegment s = some (.name (String.ofList s)) := by
  unfold Component.ofSegment
  grind

/-- The components that the segments of a text stand for. -/
def stepsOf (cs : List Char) : List Component := (segments '/' cs).filterMap Component.ofSegment

theorem components_eq (p : Path) : p.components =
    if p.isAbsolute then .root :: stepsOf p.text.toList
    else if (segments '/' p.text.toList).head? = some ['.'] then .here :: stepsOf p.text.toList
    else stepsOf p.text.toList := rfl

/-- The components of a text with a slash in the middle and something before it. -/
theorem components_slash {cs : List Char} (h : cs ≠ []) (ds : List Char) :
    (⟨String.ofList (cs ++ '/' :: ds)⟩ : Path).components =
      (⟨String.ofList cs⟩ : Path).components ++ stepsOf ds := by
  have start : (cs ++ '/' :: ds).head? = cs.head? := by
    obtain ⟨c, cs, rfl⟩ := List.exists_cons_of_ne_nil h
    rfl
  have first : (segments '/' cs ++ segments '/' ds).head? = (segments '/' cs).head? := rfl
  simp only [components_eq, stepsOf, isAbsolute, String.toList_ofList, start, segments_append_sep,
    first, List.filterMap_append]
  by_cases absolute : cs.head? == some '/'
  · simp only [if_pos absolute, List.cons_append]
  · simp only [if_neg absolute]
    split <;> rfl

/-- A relative path adds its steps to a path that is written at all. -/
theorem components_join_of_relative {p q : Path} (written : p.text.toList ≠ [])
    (relative : q.isAbsolute = false) :
    (p.join q).components = p.components ++ stepsOf q.text.toList := by
  obtain ⟨text⟩ := p
  obtain ⟨cs, rfl⟩ : ∃ cs, text = String.ofList cs := ⟨text.toList, by simp⟩
  rw [String.toList_ofList] at written
  rw [join, relative, String.toList_ofList, if_neg Bool.false_ne_true]
  -- A slash stands before the path, or is put in between.
  by_cases slashed : cs.getLast? = some '/'
  · obtain ⟨ds, rfl⟩ := List.getLast?_eq_some_iff.mp slashed
    have joined : String.ofList (ds ++ ['/']) ++ q.text =
        String.ofList (ds ++ '/' :: q.text.toList) := by
      rw [← String.toList_inj]
      simp
    have nothing : stepsOf [] = [] := rfl
    rw [if_pos (by simp [slashed]), joined]
    by_cases atRoot : ds = []
    · subst atRoot
      have split := segments_append_sep '/' [] q.text.toList
      simp only [List.nil_append] at split
      simp only [components_eq, stepsOf, isAbsolute, List.nil_append, String.toList_ofList, split,
        List.filterMap_append]
      rfl
    · rw [components_slash atRoot, components_slash atRoot, nothing, List.append_nil]
  · have joined : String.ofList cs ++ "/" ++ q.text =
        String.ofList (cs ++ '/' :: q.text.toList) := by
      rw [← String.toList_inj]
      simp
    rw [if_neg (by simp [slashed, written]), joined, components_slash written]

theorem join_of_unwritten {p : Path} (unwritten : p.text.toList = []) (q : Path) : p.join q = q := by
  obtain rfl : p = ⟨""⟩ := congrArg Path.mk (by rw [← String.toList_inj, unwritten]; rfl)
  unfold join
  split <;> simp

/-- A plain path is relative, and its components are its steps. -/
theorem IsPlain.eq_stepsOf {q : Path} (h : q.IsPlain) :
    q.isAbsolute = false ∧ q.components = stepsOf q.text.toList := by
  have relative : q.isAbsolute = false := by
    cases absolute : q.isAbsolute with
    | false => rfl
    | true =>
      obtain ⟨n, start⟩ := h .root (by simp [components_eq, absolute])
      cases start
  refine ⟨relative, ?_⟩
  by_cases here : (segments '/' q.text.toList).head? = some ['.']
  · obtain ⟨n, start⟩ := h .here (by simp [components_eq, relative, here])
    cases start
  · simp [components_eq, relative, here]

/-- A plain path continues any other path. -/
theorem components_join_of_plain {q : Path} (h : q.IsPlain) (p : Path) :
    (p.join q).components = p.components ++ q.components := by
  obtain ⟨relative, steps⟩ := h.eq_stepsOf
  by_cases written : p.text.toList = []
  · obtain rfl : p = ⟨""⟩ := congrArg Path.mk (by rw [← String.toList_inj, written]; rfl)
    rw [join_of_unwritten written]
    rfl
  · rw [components_join_of_relative written relative, steps]

theorem IsStep.components {n : String} (h : IsStep n) :
    (⟨n⟩ : Path).components = [.name n] := by
  have relative : (⟨n⟩ : Path).isAbsolute = false := by
    obtain ⟨c, cs, spelled⟩ := List.exists_cons_of_ne_nil h.nonempty
    simp only [isAbsolute, spelled, List.head?_cons, beq_eq_false_iff_ne, ne_eq, Option.some.injEq]
    rintro rfl
    exact h.noSlash (by simp [spelled])
  simp [components_eq, stepsOf, relative, segments_of_not_mem h.noSlash, h.ofSegment, h.notHere]

/-- A step adds one component to a path. -/
theorem components_join {p : Path} {n : String} (h : IsStep n) :
    (p.join ⟨n⟩).components = p.components ++ [.name n] := by
  have plain : (⟨n⟩ : Path).IsPlain := by
    intro c hc
    rw [h.components, List.mem_singleton] at hc
    exact ⟨n, hc⟩
  rw [components_join_of_plain plain, h.components]

/-! ## 2. Paths that lead downwards -/

/-- The path leads to a place below every directory that it is joined to: it does not start at the
root, and no step leads up. -/
def StaysBelow (q : Path) : Prop := q.isAbsolute = false ∧ .up ∉ q.components

instance (q : Path) : Decidable q.StaysBelow :=
  inferInstanceAs (Decidable (_ ∧ _))

/-- The path has names only, behind the root if it starts there. -/
def IsStraight (p : Path) : Prop := ∀ c ∈ p.components, c = .root ∨ ∃ n, c = .name n

theorem eq_up_or_name_of_mem_stepsOf {c : Component} {cs : List Char} (h : c ∈ stepsOf cs) :
    c = .up ∨ ∃ n, c = .name n := by
  obtain ⟨s, -, made⟩ := List.mem_filterMap.mp h
  unfold Component.ofSegment at made
  split at made
  · cases made
  · split at made <;> cases made <;> simp

theorem mem_components_of_mem_stepsOf {p : Path} {c : Component} (h : c ∈ stepsOf p.text.toList) :
    c ∈ p.components := by
  rw [components_eq]
  split
  · exact List.mem_cons_of_mem _ h
  · split
    · exact List.mem_cons_of_mem _ h
    · exact h

theorem root_mem_components_iff {p : Path} : .root ∈ p.components ↔ p.isAbsolute = true := by
  have noRoot : Component.root ∉ stepsOf p.text.toList := fun h => by
    simpa using eq_up_or_name_of_mem_stepsOf h
  rw [components_eq]
  cases p.isAbsolute with
  | true => simp
  | false =>
    rw [if_neg Bool.false_ne_true]
    split <;> simp [noRoot]

theorem up_mem_components_iff {p : Path} : .up ∈ p.components ↔ .up ∈ stepsOf p.text.toList := by
  rw [components_eq]
  split
  · simp
  · split <;> simp

theorem IsStraight.isPlain_iff {p : Path} (h : p.IsStraight) :
    p.IsPlain ↔ p.isAbsolute = false := by
  rw [← Bool.not_eq_true, ← root_mem_components_iff]
  constructor
  · intro plain root
    simpa using plain _ root
  · intro relative c hc
    rcases h c hc with rfl | name
    · exact absurd hc relative
    · exact name

theorem join_of_isAbsolute {q : Path} (h : q.isAbsolute = true) (p : Path) : p.join q = q := by
  simp [join, h]

theorem isAbsolute_join (p q : Path) : (p.join q).isAbsolute = (p.isAbsolute || q.isAbsolute) := by
  cases absolute : q.isAbsolute with
  | true => rw [join_of_isAbsolute absolute, absolute, Bool.or_true]
  | false =>
    by_cases written : p.text.toList = []
    · rw [join_of_unwritten written, absolute]
      simp [isAbsolute, written]
    · obtain ⟨c, cs, spelled⟩ := List.exists_cons_of_ne_nil written
      unfold join
      rw [absolute, if_neg Bool.false_ne_true]
      split <;> simp [isAbsolute, spelled]

theorem mem_components_join {p q : Path} {c : Component} (h : c ∈ (p.join q).components) :
    c ∈ p.components ∨ c ∈ q.components := by
  cases absolute : q.isAbsolute with
  | true => exact .inr (join_of_isAbsolute absolute p ▸ h)
  | false =>
    by_cases written : p.text.toList = []
    · exact .inr (join_of_unwritten written q ▸ h)
    · rw [components_join_of_relative written absolute, List.mem_append] at h
      exact h.imp_right mem_components_of_mem_stepsOf

theorem mem_components_join_of_mem_stepsOf {q : Path} {c : Component}
    (h : c ∈ stepsOf q.text.toList) (p : Path) : c ∈ (p.join q).components := by
  cases absolute : q.isAbsolute with
  | true =>
    rw [join_of_isAbsolute absolute]
    exact mem_components_of_mem_stepsOf h
  | false =>
    by_cases written : p.text.toList = []
    · rw [join_of_unwritten written]
      exact mem_components_of_mem_stepsOf h
    · rw [components_join_of_relative written absolute]
      exact List.mem_append_right _ h

/-- A path that is joined to a straight one leads downwards exactly if both do. -/
theorem isPlain_join_iff {p q : Path} (straight : p.IsStraight) (written : p.text.toList ≠ []) :
    (p.join q).IsPlain ↔ p.isAbsolute = false ∧ q.StaysBelow := by
  cases absolute : q.isAbsolute with
  | true =>
    have root := root_mem_components_iff.mpr absolute
    rw [join_of_isAbsolute absolute, StaysBelow, absolute]
    constructor
    · intro plain
      simpa using plain _ root
    · simp
  | false =>
    rw [StaysBelow, up_mem_components_iff, ← straight.isPlain_iff, IsPlain,
      components_join_of_relative written absolute]
    simp only [List.mem_append, or_imp, forall_and]
    refine and_congr_right fun _ => ⟨fun plain => ⟨absolute, fun up => ?_⟩, fun below c hc => ?_⟩
    · simpa using plain _ up
    · rcases eq_up_or_name_of_mem_stepsOf hc with rfl | name
      · exact absurd hc below.2
      · exact name

/-- A text without dots is a straight path. -/
theorem isStraight_of_noDot {n : String} (h : '.' ∉ n.toList) : IsStraight ⟨n⟩ := by
  have noUp : .up ∉ stepsOf n.toList := by
    intro up
    obtain ⟨s, hs, made⟩ := List.mem_filterMap.mp up
    have dots : s = ['.', '.'] := by
      unfold Component.ofSegment at made
      grind
    exact h (mem_of_mem_segments hs (by simp [dots]))
  have notHere : (segments '/' n.toList).head? ≠ some ['.'] := fun here =>
    h (mem_of_mem_segments (List.mem_of_mem_head? here) List.mem_cons_self)
  intro c hc
  rw [components_eq, if_neg notHere] at hc
  have step : c = .root ∨ c ∈ stepsOf n.toList := by
    split at hc
    · simpa using hc
    · exact .inr hc
  refine step.imp_right fun step => ?_
  rcases eq_up_or_name_of_mem_stepsOf step with rfl | name
  · exact absurd step noUp
  · exact name

theorem isAbsolute_foldl_join (l : List String) (p : Path) :
    (l.foldl (fun p n => p.join ⟨n⟩) p).isAbsolute =
      (p.isAbsolute || l.any fun n => (⟨n⟩ : Path).isAbsolute) := by
  induction l generalizing p with
  | nil => simp
  | cons n l ih => simp [ih, isAbsolute_join, Bool.or_assoc]

theorem isStraight_foldl_join {l : List String} (h : ∀ n ∈ l, '.' ∉ n.toList) {p : Path}
    (straight : p.IsStraight) : (l.foldl (fun p n => p.join ⟨n⟩) p).IsStraight := by
  induction l generalizing p with
  | nil => exact straight
  | cons n l ih =>
    have first := isStraight_of_noDot (h n List.mem_cons_self)
    refine ih (fun m hm => h m (List.mem_cons_of_mem _ hm)) fun c hc => ?_
    exact (mem_components_join hc).elim (straight c) (first c)

theorem written_join {p q : Path} (h : p.text.toList ≠ [] ∨ q.text.toList ≠ []) :
    (p.join q).text.toList ≠ [] := by
  by_cases written : p.text.toList = []
  · rw [join_of_unwritten written]
    exact h.resolve_left (absurd written)
  · unfold join
    split
    · rename_i absolute
      intro empty
      simp [isAbsolute, empty] at absolute
    · split <;> simp [written]

theorem written_foldl_join {l : List String} {p : Path}
    (h : p.text.toList ≠ [] ∨ ∃ n ∈ l, n.toList ≠ []) :
    (l.foldl (fun p n => p.join ⟨n⟩) p).text.toList ≠ [] := by
  induction l generalizing p with
  | nil => simpa using h
  | cons n l ih =>
    refine ih ?_
    by_cases later : ∃ m ∈ l, m.toList ≠ []
    · exact .inr later
    · refine .inl (written_join (h.imp_right fun given => ?_))
      obtain ⟨m, hm, spelled⟩ := given
      rcases List.mem_cons.mp hm with rfl | hm
      · exact spelled
      · exact absurd ⟨m, hm, spelled⟩ later

end Path

/-! ## 3. Source files -/

namespace Java

/-- The folder of a package. -/
def folderOf (package : String) : Path :=
  .ofSteps ((dotSegments package).filter (!·.isEmpty))

/-- Where the file of a type lies: the components of its path. -/
def locationOf (package name : String) : List Path.Component :=
  ((folderOf package).join ⟨name ++ ".java"⟩).components

/-- The name of a type holds no slash. -/
def IsPlainName (name : String) : Prop := '/' ∉ name.toList

instance (name : String) : Decidable (IsPlainName name) :=
  inferInstanceAs (Decidable ('/' ∉ name.toList))

theorem IsPlainName.isStep {name : String} (h : IsPlainName name) :
    Path.IsStep (name ++ ".java") := by
  refine ⟨by simp, ?_, ?_, ?_⟩
  · simp only [String.toList_append, List.mem_append, not_or]
    exact ⟨h, by decide⟩
  all_goals
    intro e
    have := congrArg List.length e
    simp at this

/-- The file of a plain name lies in the folder of its package. -/
theorem locationOf_of_plain {name : String} (h : IsPlainName name) (package : String) :
    locationOf package name = (folderOf package).components ++ [.name (name ++ ".java")] :=
  Path.components_join h.isStep

/-- The folder of a package below another one. -/
theorem folderOf_below {segment : String} (package : String) (noDot : '.' ∉ segment.toList)
    (step : Path.IsStep segment) :
    (folderOf (package ++ "." ++ segment)).components =
      (folderOf package).components ++ [.name segment] := by
  have alone : dotSegments segment = [segment] := by
    rw [dotSegments, segments_of_not_mem noDot]
    simp
  have kept : (!segment.isEmpty) = true := by
    have := step.nonempty
    simp_all
  rw [folderOf, dotSegments_append, alone, List.filter_append, Path.ofSteps, List.foldl_append]
  simp only [List.filter_cons, kept, if_true, List.filter_nil, List.foldl_cons, List.foldl_nil]
  exact Path.components_join step

/-- A segment of a package that replaces all that stands before it. -/
def startsOver (n : String) : Bool := (⟨n⟩ : Path).isAbsolute

/-- The folder of a package has names only, behind the root if a segment starts with a slash. -/
theorem isStraight_folderOf (package : String) : (folderOf package).IsStraight := by
  refine Path.isStraight_foldl_join (fun n hn => ?_) ?_
  · exact noDot_of_mem_dotSegments (List.mem_filter.mp hn).1
  · intro c hc
    cases hc

theorem isAbsolute_folderOf (package : String) :
    (folderOf package).isAbsolute = (dotSegments package).any startsOver := by
  have unwritten : startsOver "" = false := rfl
  rw [folderOf, Path.ofSteps, Path.isAbsolute_foldl_join, List.any_filter]
  refine Eq.trans (Bool.false_or _) (congrArg (List.any _) (funext fun n => ?_))
  by_cases empty : n = ""
  · simp [empty, unwritten]
  · simp [empty, startsOver]

theorem written_folderOf {package n : String} (h : n ∈ dotSegments package) (given : n ≠ "") :
    (folderOf package).text.toList ≠ [] := by
  refine Path.written_foldl_join (.inr ⟨n, ?_, ?_⟩)
  · simp [List.mem_filter, h, given]
  · simpa using given

/-- The path of a file leads somewhere. -/
theorem locationOf_ne_nil (package name : String) : locationOf package name ≠ [] := by
  -- The last segment ends in the extension, so it is a step.
  obtain ⟨before, last, split⟩ :=
    segments_append_of_not_mem (show '/' ∉ ".java".toList by decide) name.toList
  have step : .name (String.ofList (last ++ ".java".toList)) ∈
      Path.stepsOf (name ++ ".java").toList := by
    rw [String.toList_append, Path.stepsOf, split, List.mem_filterMap]
    refine ⟨_, List.mem_append_right _ (List.mem_singleton_self _), ?_⟩
    exact Path.Component.ofSegment_of_length (by simp)
  exact List.ne_nil_of_mem (Path.mem_components_join_of_mem_stepsOf step (folderOf package))

end Java

end ComponentWiring
