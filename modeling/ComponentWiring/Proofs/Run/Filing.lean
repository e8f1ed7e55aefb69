/-
ComponentWiring.Proofs.Run.Filing — files handed to a set of sources.

* `SourceFile.kept` — a file as a set of sources keeps it.
* `SourceSet.write_cases` — what becomes of one file.
* `sources_fileAll_prefix` — what was kept before is kept afterwards, whatever happens.
* `fileAll_of_new`, `new_of_fileAll_ok` — files that can be rendered are accepted one after the
  other exactly when their locations are new and distinct.
-/
import ComponentWiring.Proofs.Java.Locations
import ComponentWiring.Proofs.Keyed
import ComponentWiring.Proofs.Run.Stages

namespace ComponentWiring

open Java

/-! ## 1. One file -/

/-- The file as a set of sources keeps it, for so many spaces of indentation. -/
def Java.SourceFile.kept (width : Nat) (f : SourceFile) : Source :=
  ⟨f.package, f.type.name, f.path, (f.render width).toOption.getD ""⟩

/-- Where the file lies. -/
def Java.SourceFile.location (f : SourceFile) : List Path.Component := f.path.components

/-- The file can be rendered at the width. -/
def Java.SourceFile.Renders (width : Nat) (f : SourceFile) : Prop :=
  ∃ text, f.render width = .ok text

namespace Java.SourceSet

theorem write_of_taken {f : SourceFile} {s : SourceSet} (taken : f.location ∈ s.files.keys) :
    s.write f = (.error (.duplicate f.className.canonicalName), s) := by
  unfold write
  exact if_pos (Keyed.contains_iff.mpr taken)

theorem write_of_new {f : SourceFile} {s : SourceSet} (new : f.location ∉ s.files.keys)
    (rendered : f.Renders s.width) :
    s.write f = (.ok f.path, { s with files := s.files.insert f.location (f.kept s.width) }) := by
  obtain ⟨text, rendered⟩ := rendered
  have free : ¬ s.files.contains f.path.components = true := fun h => new (Keyed.contains_iff.mp h)
  unfold write
  rw [if_neg free, rendered, SourceFile.kept, rendered]
  rfl

theorem write_of_unrenderable {f : SourceFile} {s : SourceSet} {fault : FormatFault}
    (new : f.location ∉ s.files.keys) (failed : f.render s.width = .error fault) :
    s.write f = (.error (.format fault), s) := by
  have free : ¬ s.files.contains f.path.components = true := fun h => new (Keyed.contains_iff.mp h)
  unfold write
  rw [if_neg free, failed]

/-- A file is accepted and comes last, or the set stays as it is. -/
theorem write_cases (f : SourceFile) (s : SourceSet) :
    (f.location ∉ s.files.keys ∧ f.Renders s.width ∧
      s.write f = (.ok f.path, { s with files := s.files.insert f.location (f.kept s.width) })) ∨
    ∃ fault, s.write f = (.error fault, s) := by
  by_cases taken : f.location ∈ s.files.keys
  · exact .inr ⟨_, write_of_taken taken⟩
  · cases rendered : f.render s.width with
    | error fault => exact .inr ⟨_, write_of_unrenderable taken rendered⟩
    | ok text => exact .inl ⟨taken, ⟨text, rendered⟩, write_of_new taken ⟨text, rendered⟩⟩

end Java.SourceSet

/-! ## 2. Many files -/

theorem fileAll_cons_of_error {σ : Type} (filer : Filer σ) {f : SourceFile} {s s' : σ}
    {fault : WriteFault} (h : filer.write f s = (.error fault, s')) (fs : List SourceFile) :
    fileAll filer (f :: fs) s = (.fail (.emission fault.message), s') := by
  rw [fileAll, h]

theorem result_fileAll_cons {σ : Type} (filer : Filer σ) {f : SourceFile} {s s' : σ} {path : Path}
    (h : filer.write f s = (.ok path, s')) (fs : List SourceFile) :
    (fileAll filer (f :: fs) s).1.result = (fileAll filer fs s').1.result.map (path :: ·) := by
  rw [fileAll, h]
  simp only [Logged.result_bind, Logged.result_tell]
  cases (fileAll filer fs s').1.result <;> rfl

theorem fileAll_cons_of_ok {σ : Type} (filer : Filer σ) {f : SourceFile} {s s' : σ} {path : Path}
    (h : filer.write f s = (.ok path, s')) (fs : List SourceFile) :
    (fileAll filer (f :: fs) s).2 = (fileAll filer fs s').2 ∧ ∀ paths,
      (fileAll filer (f :: fs) s).1.result = .ok paths ↔
        ∃ rest, (fileAll filer fs s').1.result = .ok rest ∧ paths = path :: rest := by
  refine ⟨by rw [fileAll, h], fun paths => ?_⟩
  rw [result_fileAll_cons filer h]
  cases (fileAll filer fs s').1.result <;> simp [Except.map, eq_comm]

/-- What was kept before is kept afterwards, in front of everything else. -/
theorem sources_fileAll_prefix (fs : List SourceFile) (s : SourceSet) :
    s.sources <+: (fileAll SourceSet.filer fs s).2.sources := by
  induction fs generalizing s with
  | nil => exact List.prefix_rfl
  | cons f fs ih =>
    rcases SourceSet.write_cases f s with ⟨new, _, written⟩ | ⟨fault, refused⟩
    · rw [(fileAll_cons_of_ok SourceSet.filer written fs).1]
      refine .trans ?_ (ih _)
      simp only [SourceSet.sources, Keyed.values_insert_of_new new]
      exact List.prefix_append _ _
    · simp [fileAll_cons_of_error SourceSet.filer refused fs]

/-- Files that can be rendered are all accepted if their locations are new and distinct. -/
theorem fileAll_of_new {fs : List SourceFile} {s : SourceSet}
    (rendered : ∀ f ∈ fs, f.Renders s.width)
    (distinct : (s.files.keys ++ fs.map (·.location)).Nodup) :
    (fileAll SourceSet.filer fs s).1.result = .ok (fs.map (·.path)) ∧
      (fileAll SourceSet.filer fs s).2.sources = s.sources ++ fs.map (·.kept s.width) := by
  induction fs generalizing s with
  | nil => simp [fileAll, Logged.done]
  | cons f fs ih =>
    have new : f.location ∉ s.files.keys := by
      intro taken
      exact (List.nodup_append.mp distinct).2.2 _ taken f.location (by simp) rfl
    obtain ⟨state, result⟩ := fileAll_cons_of_ok SourceSet.filer
      (SourceSet.write_of_new new (rendered f (by simp))) fs
    obtain ⟨filed, kept⟩ := ih
      (s := { s with files := s.files.insert f.location (f.kept s.width) })
      (fun g hg => rendered g (by simp [hg]))
      (by rw [Keyed.keys_insert_of_new new]; simpa using distinct)
    refine ⟨(result _).mpr ⟨_, filed, rfl⟩, ?_⟩
    rw [state, kept]
    simp [SourceSet.sources, Keyed.values_insert_of_new new]

/-- If all files are accepted, then each could be rendered, and their locations were new and
distinct. -/
theorem new_of_fileAll_ok {fs : List SourceFile} {s : SourceSet} {paths : List Path}
    (h : (fileAll SourceSet.filer fs s).1.result = .ok paths) :
    (∀ f ∈ fs, f.Renders s.width) ∧ (s.files.keys ++ fs.map (·.location)).Nodup := by
  induction fs generalizing s paths with
  | nil =>
    refine ⟨nofun, ?_⟩
    simpa using s.files.keys_nodup
  | cons f fs ih =>
    rcases SourceSet.write_cases f s with ⟨new, renders, written⟩ | ⟨fault, refused⟩
    · obtain ⟨rest, done, -⟩ := ((fileAll_cons_of_ok SourceSet.filer written fs).2 _).mp h
      obtain ⟨rendered, distinct⟩ := ih done
      refine ⟨?_, ?_⟩
      · intro g hg
        rcases List.mem_cons.mp hg with rfl | hg
        · exact renders
        · exact rendered g hg
      · rw [Keyed.keys_insert_of_new new] at distinct
        simpa using distinct
    · rw [fileAll_cons_of_error SourceSet.filer refused fs] at h
      cases h

/-! ## 3. Runs -/

theorem generate_of_no_plan {σ : Type} {s : Settings} {r : Round} {fault : Failure}
    (h : (plan s r).result = .error fault) (filer : Filer σ) (state : σ) :
    (generate s filer r state).1.result = .error fault ∧ (generate s filer r state).2 = state := by
  simp only [generate, h]
  exact ⟨trivial, trivial⟩

/-- A run with a plan comes to what the filer makes of the planned files. -/
theorem generate_of_plan {σ : Type} {s : Settings} {r : Round} {p : Plan}
    (h : (plan s r).result = .ok p) (filer : Filer σ) (state : σ) :
    (generate s filer r state).2 = (fileAll filer p.files state).2 ∧
      (generate s filer r state).1.result =
        (fileAll filer p.files state).1.result.map fun files =>
          ⟨p.root.root.qualifiedName, p.initializer.canonicalName, files⟩ := by
  simp only [generate, h]
  refine ⟨trivial, ?_⟩
  rw [Logged.result_bind, h]
  show ((fileAll filer p.files state).1 >>= _).result = _
  rw [Logged.result_bind]
  cases (fileAll filer p.files state).1.result with
  | error fault => rfl
  | ok files =>
    show ((liftM p.finish : Logged Unit) >>= _).result = _
    rw [Logged.result_bind, Logged.result_lift, finish_of_plan h]
    rfl

end ComponentWiring
