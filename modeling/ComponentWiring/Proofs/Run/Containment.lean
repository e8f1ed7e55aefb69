/-
ComponentWiring.Proofs.Run.Containment — whether generated files lie below the output directory.

* `isAbsolute_package` — where the folders of the three packages start.
* `plan_plain_iff` — the planned paths lead downwards exactly if the names they are made of do.
* `Coordinator.files_plain_iff_names_stay_below` — so do the paths of a successful run, and only
  paths that lead downwards are sure to lie below every directory they are joined to.

The segments of packages and the names of types are paths of their own. One that starts with a
slash replaces all that stands before it, and one with two dots leads up.
-/
import ComponentWiring.Proofs.Run.Correspondence

namespace ComponentWiring

open Java Text

/-! ## 1. Packages -/

/-- The folder of the first generated package starts at the root if a segment of the application's
package or of the namespace does. -/
theorem isAbsolute_injection (s : Settings) (root : ApplicationRoot) :
    (folderOf (packagesOf s root).injection).isAbsolute =
      (dotSegments root.root.package ++ dotSegments s.naming.namespaceSegment).any startsOver := by
  have fixed : (dotSegments "internal").any startsOver = false ∧
      (dotSegments "di").any startsOver = false := by decide
  have spelled : "internal." ++ s.naming.namespaceSegment ++ ".di" =
      "internal" ++ "." ++ s.naming.namespaceSegment ++ "." ++ "di" := by
    rw [← String.toList_inj]
    simp
  have below : (dotSegments ("internal." ++ s.naming.namespaceSegment ++ ".di")).any startsOver =
      (dotSegments s.naming.namespaceSegment).any startsOver := by
    rw [spelled, dotSegments_append, dotSegments_append, List.any_append, List.any_append, fixed.1,
      fixed.2, Bool.false_or, Bool.or_false]
  rw [isAbsolute_folderOf, packagesOf, Packages.below, List.any_append]
  simp only [ClassName.inPackage]
  split
  · rename_i empty
    rw [below, String.isEmpty_iff.mp empty]
    rfl
  · rw [dotSegments_append, List.any_append, below]

/-- The package is one of those of generated types. -/
def Packages.Has (p : Packages) (package : String) : Prop :=
  package = p.injection ∨ package = p.component ∨ package = p.helper

/-- The folders of all generated packages start at the root, or none of them does. -/
theorem isAbsolute_package (s : Settings) (root : ApplicationRoot) {package : String}
    (h : (packagesOf s root).Has package) :
    (folderOf package).isAbsolute =
      (dotSegments root.root.package ++ dotSegments s.naming.namespaceSegment).any startsOver := by
  have below (segments : String) (fixed : (dotSegments segments).any startsOver = false) :
      (folderOf ((packagesOf s root).injection ++ ("." ++ segments))).isAbsolute =
        (folderOf (packagesOf s root).injection).isAbsolute := by
    rw [← String.append_assoc, isAbsolute_folderOf, dotSegments_append, List.any_append, fixed,
      Bool.or_false, isAbsolute_folderOf]
  rw [← isAbsolute_injection]
  rcases h with rfl | rfl | rfl
  · rfl
  · exact below "component" (by decide)
  · exact below "component.helper" (by decide)

theorem written_package (s : Settings) (root : ApplicationRoot) {package : String}
    (h : (packagesOf s root).Has package) : (folderOf package).text.toList ≠ [] := by
  have last : "di" ∈ dotSegments (packagesOf s root).injection := by
    have spelled : "internal." ++ s.naming.namespaceSegment ++ ".di" =
        "internal." ++ s.naming.namespaceSegment ++ "." ++ "di" := by
      rw [← String.toList_inj]
      simp
    have below : "di" ∈ dotSegments ("internal." ++ s.naming.namespaceSegment ++ ".di") := by
      rw [spelled, dotSegments_append]
      exact List.mem_append_right _ (List.mem_singleton_self _)
    rw [packagesOf, Packages.below]
    simp only [ClassName.inPackage]
    split
    · exact below
    · rw [dotSegments_append]
      exact List.mem_append_right _ below
  have kept (segments : String) :
      "di" ∈ dotSegments ((packagesOf s root).injection ++ ("." ++ segments)) := by
    rw [← String.append_assoc, dotSegments_append]
    exact List.mem_append_left _ last
  refine written_folderOf (n := "di") ?_ (by decide)
  rcases h with rfl | rfl | rfl
  · exact last
  · exact kept "component"
  · exact kept "component.helper"

/-! ## 2. Runs -/

/-- What the paths of generated files are made of leads downwards: no segment of a package starts
over, and neither does the name of a type, nor does it lead up. -/
structure StaysBelow (s : Settings) (root : ApplicationRoot) : Prop where
  packages : ∀ n ∈ dotSegments root.root.package ++ dotSegments s.naming.namespaceSegment,
    startsOver n = false
  types : ∀ name ∈ s.naming.typeNames, (⟨name ++ ".java"⟩ : Path).StaysBelow

instance (s : Settings) (root : ApplicationRoot) : Decidable (StaysBelow s root) :=
  decidable_of_iff ((∀ n ∈ dotSegments root.root.package ++ dotSegments s.naming.namespaceSegment,
      startsOver n = false) ∧ ∀ name ∈ s.naming.typeNames, (⟨name ++ ".java"⟩ : Path).StaysBelow)
    ⟨fun h => ⟨h.1, h.2⟩, fun h => ⟨h.1, h.2⟩⟩

/-- The type of every name is generated. -/
theorem exists_staged_of_mem_typeNames {n : Naming} (p : Packages) {name : String}
    (h : name ∈ n.typeNames) : ∃ e ∈ stagedNames n p, e.2 = name := by
  have names : n.typeNames = (stagedNames n p).map Prod.snd := rfl
  rw [names] at h
  exact List.mem_map.mp h

theorem package_of_planned {s : Settings} {r : Round} {p : Plan} (h : (plan s r).result = .ok p)
    {f : SourceFile} (hf : f ∈ p.files) : (packagesOf s p.root).Has f.package := by
  have staged : f.key ∈ stagedNames s.naming (packagesOf s p.root) := by
    rw [← (plan_files h).1]
    exact List.mem_map_of_mem hf
  exact package_of_staged staged

/-- A planned path leads downwards exactly if its package and the name of its type do. -/
theorem isPlain_path_iff {s : Settings} {r : Round} {p : Plan} (h : (plan s r).result = .ok p)
    {f : SourceFile} (hf : f ∈ p.files) :
    f.path.IsPlain ↔
      (∀ n ∈ dotSegments p.root.root.package ++ dotSegments s.naming.namespaceSegment,
        startsOver n = false) ∧ (⟨f.type.name ++ ".java"⟩ : Path).StaysBelow := by
  have package := package_of_planned h hf
  have path : f.path = (folderOf f.package).join ⟨f.type.name ++ ".java"⟩ := rfl
  rw [path, Path.isPlain_join_iff (isStraight_folderOf _) (written_package s p.root package),
    isAbsolute_package s p.root package, List.any_eq_false]
  simp

/-- A segment that starts over takes every planned path to the root. -/
theorem isAbsolute_path {s : Settings} {r : Round} {p : Plan} (h : (plan s r).result = .ok p)
    {f : SourceFile} (hf : f ∈ p.files)
    (absolute : (dotSegments p.root.root.package ++ dotSegments s.naming.namespaceSegment).any
      startsOver = true) : f.path.isAbsolute = true := by
  have path : f.path = (folderOf f.package).join ⟨f.type.name ++ ".java"⟩ := rfl
  rw [path, Path.isAbsolute_join, isAbsolute_package s p.root (package_of_planned h hf), absolute,
    Bool.true_or]

/-- The planned paths lead downwards exactly if the names they are made of do. -/
theorem plan_plain_iff {s : Settings} {r : Round} {p : Plan} (h : (plan s r).result = .ok p) :
    (∀ f ∈ p.files, f.path.IsPlain) ↔ StaysBelow s p.root := by
  have staged := (plan_files h).1
  constructor
  · intro plain
    constructor
    · have some_file : ∃ f, f ∈ p.files := by
        have eight := plan_files_length h
        exact List.exists_mem_of_length_pos (by omega)
      obtain ⟨f, hf⟩ := some_file
      exact ((isPlain_path_iff h hf).mp (plain f hf)).1
    · intro name hname
      obtain ⟨e, he, rfl⟩ := exists_staged_of_mem_typeNames (packagesOf s p.root) hname
      rw [← staged] at he
      obtain ⟨f, hf, rfl⟩ := List.mem_map.mp he
      exact ((isPlain_path_iff h hf).mp (plain f hf)).2
  · intro below f hf
    have key : f.key ∈ stagedNames s.naming (packagesOf s p.root) := by
      rw [← staged]
      exact List.mem_map_of_mem hf
    exact (isPlain_path_iff h hf).mpr ⟨below.packages, below.types _ (mem_typeNames_of_staged key)⟩

namespace Coordinator

/-- The paths of a successful run lead downwards exactly if the names they are made of do. Every
path leads somewhere, and one that leads downwards leads to a place strictly below any directory
that it is joined to. -/
theorem files_plain_iff_names_stay_below (c : Coordinator) (annotations : List String) (r : Round)
    (width : Nat)
    (h : (c.process SourceSet.filer annotations r (.empty width)).1.succeeded = true) :
    let files := (c.process SourceSet.filer annotations r (.empty width)).1.files
    (∃ p, (plan c.settings r).result = .ok p ∧ files = p.files.map (·.path) ∧
      ((∀ path ∈ files, path.IsPlain) ↔ StaysBelow c.settings p.root)) ∧
    ∀ path ∈ files, path.components ≠ [] ∧
      (path.IsPlain → ∀ folder : Path,
        (folder.join path).components = folder.components ++ path.components) := by
  intro files
  obtain ⟨p, planned, -, -, filed⟩ := filed_of_succeeded h
  have paths : files = p.files.map (·.path) := filed
  refine ⟨⟨p, planned, paths, ?_⟩, fun path hpath => ?_⟩
  · rw [paths, ← plan_plain_iff planned, List.forall_mem_map]
  · rw [paths] at hpath
    obtain ⟨f, hf, rfl⟩ := List.mem_map.mp hpath
    exact ⟨locationOf_ne_nil f.package f.type.name, fun plain folder =>
      Path.components_join_of_plain plain folder⟩

theorem files_plain_of_one_activity :
    let report := (({ settings := {} } : Coordinator).process SourceSet.filer [sampleMarker]
      (sampleRound [sampleActivity "com.example.Main"]) (.empty 4)).1
    report.succeeded = true ∧ ∀ path ∈ report.files, path.IsPlain := by
  obtain ⟨succeeded, p, planned, root⟩ :=
    sample_succeeds {} [sampleActivity "com.example.Main"]
      default_areReadable rfl (by decide +kernel) (by intro tier; cases tier <;> decide +kernel)
      (by intro tier; cases tier <;> decide +kernel)
  obtain ⟨⟨q, planned', -, plain⟩, -⟩ := files_plain_iff_names_stay_below _ _ _ _ succeeded
  obtain rfl : p = q := Except.ok.inj (planned.symm.trans planned')
  refine ⟨succeeded, plain.mpr ?_⟩
  rw [root]
  decide +kernel

/-- Every planned path is reported. -/
theorem path_mem_files {c : Coordinator} {annotations : List String} {r : Round} {width : Nat}
    {p : Plan} (h : (c.process SourceSet.filer annotations r (.empty width)).1.succeeded = true)
    (planned : (plan c.settings r).result = .ok p) {f : SourceFile} (hf : f ∈ p.files) :
    f.path ∈ (c.process SourceSet.filer annotations r (.empty width)).1.files := by
  obtain ⟨q, planned', -, -, filed⟩ := filed_of_succeeded h
  obtain rfl : p = q := Except.ok.inj (planned.symm.trans planned')
  rw [filed]
  exact List.mem_map_of_mem hf

/-- The namespace may start at the root, which the check of the settings lets pass. -/
def absoluteSettings : Settings := { naming := { namespaceSegment := "/srv/october" } }

/-- Such a namespace takes all files out of every output directory. -/
theorem not_files_plain_of_absolute_namespace :
    let report := (({ settings := absoluteSettings } : Coordinator).process SourceSet.filer
      [sampleMarker] (sampleRound []) (.empty 4)).1
    absoluteSettings.check = .ok () ∧ report.succeeded = true ∧
      (∃ path ∈ report.files, ∀ folder : Path, folder.join path = path) ∧
      ¬ ∀ path ∈ report.files, path.IsPlain := by
  obtain ⟨succeeded, p, planned, root⟩ :=
    sample_succeeds absoluteSettings [] default_areReadable rfl
      (by decide +kernel) (by intro tier; cases tier <;> decide +kernel)
      (by intro tier; cases tier <;> decide +kernel)
  have some_file : 0 < p.files.length := by
    rw [plan_files_length planned]
    decide
  obtain ⟨f, hf⟩ := List.exists_mem_of_length_pos some_file
  have reported := path_mem_files succeeded planned hf
  have absolute : f.path.isAbsolute = true := by
    refine isAbsolute_path planned hf ?_
    rw [root]
    decide +kernel
  refine ⟨by decide, succeeded, ⟨f.path, reported, Path.join_of_isAbsolute absolute⟩,
    fun plain => ?_⟩
  have relative := (plain _ reported).eq_stepsOf.1
  rw [absolute] at relative
  cases relative

end Coordinator

end ComponentWiring
