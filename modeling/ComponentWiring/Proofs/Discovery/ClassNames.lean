/-
ComponentWiring.Proofs.Discovery.ClassNames — names that are split into packages and classes.

* `LiesIn` — a name lies in a package, or there is no package.
* `liesIn_guessedPackage` — every name lies in the package that it suggests.
* `AnnotatedClass.canonicalName_className` — a class whose name lies in its package keeps its name.
* `AnnotatedClass.simpleName_className` — every class keeps the last segment of its name.
* `package_of_parse?` — readers of names find the same package.
* `className_splits` — splitting loses nothing, and both ways to split a name agree.

Both ways look for the first capital. The one for declared types answers for every text and drops
dots at the end of the package; among identifiers there are none to drop.
-/
import ComponentWiring.Proofs.Java.References
import ComponentWiring.Proofs.Wiring.Dispatch

namespace ComponentWiring

open Java

/-! ## 1. Suggested packages -/

/-- The name continues the package behind a dot, unless the package is empty. -/
def LiesIn (package name : String) : Prop := package = "" ∨ ∃ r, name = package ++ "." ++ r

/-- Nothing but dots is dropped at the end. -/
theorem exists_dropped_dots (cs : List Char) :
    ∃ n, cs = dropTrailingDots cs ++ List.replicate n '.' := by
  have dots : ∀ d ∈ (cs.reverse.takeWhile (· == '.')).reverse, d = '.' := fun d hd => by
    simpa using List.all_eq_true.mp List.all_takeWhile d (List.mem_reverse.mp hd)
  refine ⟨(cs.reverse.takeWhile (· == '.')).reverse.length, ?_⟩
  rw [← List.eq_replicate_of_mem dots, dropTrailingDots, ← List.reverse_append,
    List.takeWhile_append_dropWhile, List.reverse_reverse]

/-- Where segments are split in two, the whole lies in the first part without dots at its end. -/
theorem liesIn_of_split {before after : List (List Char)} (some_after : after ≠ []) {p : List Char}
    {n : Nat} (package : Text.joinWith '.' before = p ++ List.replicate n '.') :
    LiesIn (String.ofList p) (String.ofList (Text.joinWith '.' (before ++ after))) := by
  by_cases outside : before = []
  · subst outside
    obtain ⟨nothing, -⟩ := List.append_eq_nil_iff.mp package.symm
    exact .inl (by rw [nothing])
  · refine .inr ⟨String.ofList (List.replicate n '.' ++ Text.joinWith '.' after), ?_⟩
    have moved : List.replicate n '.' ++ '.' :: Text.joinWith '.' after =
        '.' :: (List.replicate n '.' ++ Text.joinWith '.' after) := by
      rw [← List.singleton_append, ← List.append_assoc, ← List.replicate_succ',
        List.replicate_succ, List.cons_append]
    rw [← String.toList_inj, String.toList_ofList, Text.joinWith_append outside some_after, package,
      List.append_assoc, moved]
    simp

/-- Every name lies in the package that it suggests. -/
theorem liesIn_guessedPackage (name : String) : LiesIn (guessedPackage name) name := by
  have whole : String.ofList (Text.joinWith '.' (Text.segments '.' name.toList)) = name := by
    rw [Text.joinWith_segments, String.ofList_toList]
  have some_segment : Text.segments '.' name.toList ≠ [] := List.cons_ne_nil _ _
  unfold guessedPackage
  generalize Text.segments '.' name.toList = segs at whole some_segment
  dsimp only
  split
  next capital =>
    have some_after : segs.dropWhile (!startsWithCapital ·) ≠ [] := by
      obtain ⟨s, hs, starts⟩ := List.any_eq_true.mp capital
      intro nothing
      have everything : segs.takeWhile (!startsWithCapital ·) = segs := by
        simpa [nothing] using List.takeWhile_append_dropWhile (p := (!startsWithCapital ·)) (l := segs)
      have none_starts := List.all_eq_true.mp List.all_takeWhile s (everything.symm ▸ hs)
      simp [starts] at none_starts
    obtain ⟨n, dots⟩ := exists_dropped_dots
      (Text.joinWith '.' (segs.takeWhile (!startsWithCapital ·)))
    have lies := liesIn_of_split some_after dots
    rwa [List.takeWhile_append_dropWhile, whole] at lies
  next =>
    have noDots : Text.joinWith '.' segs.dropLast =
        Text.joinWith '.' segs.dropLast ++ List.replicate 0 '.' := (List.append_nil _).symm
    have lies := liesIn_of_split (List.cons_ne_nil (segs.getLast some_segment) []) noDots
    rwa [List.dropLast_append_getLast, whole] at lies

/-! ## 2. Discovered classes -/

theorem getLast?_dotSegments (name : String) :
    (Text.dotSegments name).getLast? = some (simpleName name) := by
  rw [Text.dotSegments, List.getLast?_map, simpleName]
  cases last : (Text.segments '.' name.toList).getLast? with
  | none => exact absurd (List.getLast?_eq_none_iff.mp last) (List.cons_ne_nil _ _)
  | some s => rfl

theorem dotSegments_simpleName (name : String) :
    Text.dotSegments (simpleName name) = [simpleName name] := by
  have last := List.mem_of_getLast? (getLast?_dotSegments name)
  rw [Text.dotSegments, Text.segments_of_not_mem (Text.noDot_of_mem_dotSegments last)]
  simp

theorem relativeName?_eq_some_iff {package name r : String} :
    relativeName? package name = some r ↔ name = package ++ "." ++ r := by
  rw [relativeName?, Option.map_eq_some_iff, ← String.toList_inj]
  simp only [Text.dropStart?_eq_some_iff, String.toList_append]
  constructor
  · rintro ⟨cs, spelled, rfl⟩
    simpa using spelled
  · intro spelled
    exact ⟨r.toList, by simpa using spelled, String.ofList_toList⟩

theorem Java.ClassName.getLast?_simpleNames (c : ClassName) :
    c.simpleNames.getLast? = some c.simpleName := by
  rw [simpleNames, List.getLast?_cons, simpleName]

namespace AnnotatedClass

variable {c : AnnotatedClass}

/-- A class is seen from its package by the rest of its name, if there is any. Otherwise it goes by
its last segment, unless there is no package. -/
theorem relativeName_cases (c : AnnotatedClass) :
    (c.package = "" ∧ c.relativeName = c.qualifiedName) ∨
      c.package ≠ "" ∧ (c.qualifiedName = c.package ++ "." ++ c.relativeName ∨
        (∀ r, c.qualifiedName = c.package ++ "." ++ r → r = "") ∧
          c.relativeName = c.simpleName) := by
  unfold relativeName
  by_cases outside : c.package = ""
  · exact .inl ⟨outside, if_pos (by simpa using outside)⟩
  refine .inr ⟨outside, ?_⟩
  rw [if_neg (by simpa using outside)]
  cases seen : ComponentWiring.relativeName? c.package c.qualifiedName with
  | none =>
    refine .inr ⟨fun r spelled => ?_, rfl⟩
    cases seen.symm.trans (relativeName?_eq_some_iff.mpr spelled)
  | some r =>
    have spelled := relativeName?_eq_some_iff.mp seen
    by_cases nothing : r = ""
    · refine .inr ⟨fun r' spelled' => ?_, if_pos (by simpa using nothing)⟩
      rw [← nothing]
      exact Option.some.inj ((relativeName?_eq_some_iff.mpr spelled').symm.trans seen)
    · exact .inl (spelled.trans (by simp [nothing]))

/-- A class whose name lies in its package keeps its name. -/
theorem canonicalName_className (named : c.simpleName = ComponentWiring.simpleName c.qualifiedName)
    (lies : LiesIn c.package c.qualifiedName) : c.className.canonicalName = c.qualifiedName := by
  have joined : c.className.canonicalName = ClassName.inPackage c.package c.relativeName := by
    rw [ClassName.canonicalName, package_className, ClassName.nestedName, simpleNames_className,
      Text.joinDots_dotSegments]
  rw [joined, ClassName.inPackage]
  rcases c.relativeName_cases with ⟨outside, whole⟩ | ⟨inside, spelled | ⟨nothing, last⟩⟩
  · rw [if_pos (by simp [outside]), whole]
  · rw [if_neg (by simpa using inside), ← spelled]
  · obtain ⟨r, spelled⟩ := lies.resolve_left inside
    -- A name that ends in a dot has an empty last segment.
    obtain rfl := nothing r spelled
    have empty : ComponentWiring.simpleName c.qualifiedName = "" := by
      have segments := Text.dotSegments_append c.package ""
      rw [← spelled] at segments
      have final := getLast?_dotSegments c.qualifiedName
      rw [segments, List.getLast?_append] at final
      exact (Option.some.inj final).symm
    rw [if_neg (by simpa using inside), last, named, empty, ← spelled]

/-- Every class keeps the last segment of its name, in whatever package it is declared. -/
theorem simpleName_className (named : c.simpleName = ComponentWiring.simpleName c.qualifiedName) :
    c.className.simpleName = ComponentWiring.simpleName c.qualifiedName := by
  have final : (Text.dotSegments c.relativeName).getLast? = some c.className.simpleName := by
    rw [← simpleNames_className, ClassName.getLast?_simpleNames]
  rw [getLast?_dotSegments, Option.some.injEq] at final
  rw [← final]
  rcases c.relativeName_cases with ⟨-, whole⟩ | ⟨-, spelled | ⟨-, last⟩⟩
  · rw [whole]
  · have segments := Text.dotSegments_append c.package c.relativeName
    rw [← spelled] at segments
    have ends := getLast?_dotSegments c.qualifiedName
    rw [segments, List.getLast?_append, getLast?_dotSegments] at ends
    exact Option.some.inj ends
  · have alone := getLast?_dotSegments (ComponentWiring.simpleName c.qualifiedName)
    rw [dotSegments_simpleName] at alone
    rw [last, named]
    exact (Option.some.inj alone).symm

end AnnotatedClass

/-! ## 3. Names that are read -/

namespace Java.ClassName

theorem noDot_of_isIdentifier {s : List Char} (h : isIdentifier s = true) : '.' ∉ s := by
  cases s with
  | nil => exact List.not_mem_nil
  | cons c s =>
    rw [isIdentifier, Bool.and_eq_true, List.all_eq_true] at h
    intro dot
    rcases List.mem_cons.mp dot with same | later
    · rw [← same] at h
      exact absurd h.1 (by decide)
    · exact absurd (h.2 '.' later) (by decide)

/-- A text whose last segment is an identifier ends in no dot. -/
theorem dropTrailingDots_joinWith {segs : List (List Char)}
    (readable : ∀ s ∈ segs, isIdentifier s = true) :
    dropTrailingDots (Text.joinWith '.' segs) = Text.joinWith '.' segs := by
  rcases List.eq_nil_or_concat' segs with rfl | ⟨before, last, rfl⟩
  · rfl
  have identifier := readable last (by simp)
  obtain ⟨cs, spelled⟩ : ∃ cs, Text.joinWith '.' (before ++ [last]) = cs ++ last := by
    by_cases first : before = []
    · exact ⟨[], by rw [first]; rfl⟩
    · refine ⟨Text.joinWith '.' before ++ ['.'], ?_⟩
      rw [Text.joinWith_append first (List.cons_ne_nil _ _), List.append_assoc]
      rfl
  obtain ⟨d, rest, reversed⟩ : ∃ d rest, last.reverse = d :: rest := by
    refine List.exists_cons_of_ne_nil fun nothing => ?_
    rw [List.reverse_eq_nil_iff.mp nothing] at identifier
    cases identifier
  have noDot : (d == '.') = false := by
    rw [beq_eq_false_iff_ne]
    rintro rfl
    exact noDot_of_isIdentifier identifier (List.mem_reverse.mp (reversed ▸ List.mem_cons_self))
  rw [spelled, dropTrailingDots, List.reverse_append, reversed, List.cons_append,
    List.dropWhile_cons_of_neg (by simp [noDot]), ← List.cons_append, ← reversed,
    ← List.reverse_append, List.reverse_reverse]

/-- The segments before the class names are those of the suggested package. -/
theorem take_classStart (segs : List (List Char)) :
    segs.take (classStart segs) =
      if segs.any startsWithCapital then segs.takeWhile (!startsWithCapital ·)
      else segs.dropLast := by
  unfold classStart
  split
  · rw [List.takeWhile_eq_take_findIdx_not]
    simp
  · exact List.dropLast_eq_take.symm

/-- Readers of names find the package that the name suggests. -/
theorem package_of_parse? {name : String} {c : ClassName} (h : parse? name = some c) :
    c.package = guessedPackage name := by
  have readable : IsReadable name := parse?_isSome_iff.mp (by simp [h])
  have all : (Text.segments '.' name.toList).all isIdentifier = true := List.all_eq_true.mpr readable
  unfold parse? at h
  simp only [if_pos all] at h
  split at h
  · cases h
  cases h
  simp only [take_classStart, guessedPackage]
  split
  · rw [dropTrailingDots_joinWith fun s hs => readable s (List.takeWhile_sublist _ |>.mem hs)]
  · rfl

/-- Classes of one package are told apart by their canonical names, if no dot stands in the names
they are made of. -/
theorem eq_of_canonicalName_eq {c d : ClassName} (plain : ∀ n ∈ c.simpleNames, '.' ∉ n.toList)
    (plain' : ∀ n ∈ d.simpleNames, '.' ∉ n.toList) (package : c.package = d.package)
    (canonical : c.canonicalName = d.canonicalName) : c = d := by
  have segments {e : ClassName} (h : ∀ n ∈ e.simpleNames, '.' ∉ n.toList) :
      Text.dotSegments e.nestedName = e.simpleNames := by
    have spelled : ∀ s ∈ e.simpleNames.map String.toList, '.' ∉ s := by simpa using h
    rw [nestedName, Text.dotSegments, Text.joinDots, String.toList_ofList,
      Text.segments_joinWith (by simp [simpleNames]) spelled]
    simp [Function.comp_def]
  have nested : c.nestedName = d.nestedName := by
    rw [canonicalName, canonicalName, package, inPackage, inPackage] at canonical
    split at canonical
    · exact canonical
    · exact String.append_right_inj _ |>.mp canonical
  have names : c.simpleNames = d.simpleNames := by rw [← segments plain, nested, segments plain']
  obtain ⟨p, outer, inner⟩ := c
  obtain ⟨p', outer', inner'⟩ := d
  cases package
  cases names
  rfl

end Java.ClassName

/-! ## 4. Splitting -/

/-- Splitting the name of a class loses nothing. A name is read exactly if its segments are
identifiers, and then as the class that a declaration of the name leads to. Whatever the declared
package is, the class keeps the last segment of its name. -/
theorem className_splits (name : String) :
    (AnnotatedClass.ofElement (.ofClass name)).className.canonicalName = name ∧
      ClassName.parse? name =
        (if ClassName.IsReadable name then some (AnnotatedClass.ofElement (.ofClass name)).className
        else none) ∧
      ∀ package, (AnnotatedClass.ofElement
        { TypeElement.ofClass name with package }).className.simpleName = simpleName name := by
  have canonical : (AnnotatedClass.ofElement (.ofClass name)).className.canonicalName = name :=
    AnnotatedClass.canonicalName_className rfl (liesIn_guessedPackage name)
  refine ⟨canonical, ?_, fun package => AnnotatedClass.simpleName_className rfl⟩
  split
  next readable =>
    obtain ⟨c, read⟩ := Option.isSome_iff_exists.mp (parse?_isSome_iff.mpr readable)
    rw [read, Option.some.injEq]
    refine ClassName.eq_of_canonicalName_eq (fun n hn => ?_) (fun n hn => ?_) ?_ ?_
    · exact ClassName.noDot_of_isIdentifier (ClassName.isWellFormed_of_parse? read n hn)
    · rw [AnnotatedClass.simpleNames_className] at hn
      exact Text.noDot_of_mem_dotSegments hn
    · rw [ClassName.package_of_parse? read, AnnotatedClass.package_className]
      rfl
    · rw [canonical, ClassName.canonicalName_of_parse? read]
  next unreadable =>
    rw [← Option.not_isSome_iff_eq_none, parse?_isSome_iff]
    exact unreadable

-- Dots before a capital go to the class, dots at the end of a name to the package.
example : (AnnotatedClass.ofElement (.ofClass "a..B")).className = ⟨"a", "", ["B"]⟩ ∧
    (AnnotatedClass.ofElement (.ofClass "a..")).className = ⟨"a.", "", []⟩ := by
  decide

end ComponentWiring
