/-
ComponentWiring.Proofs.Run.Writable — generated files can be written.

* `IsGenerated.renders_iff` — a generated file is rendered exactly if its type has a name.
* `fileAll_fault_of_renders` — files that can be rendered are refused for their place only.
* `generated_files_render` — generated files are level throughout and can be rendered; once the
  last check has accepted them, a set of sources refuses none for its format.

How many conditions, cases and fields there are depends on what was discovered, and the facade is a
class within a statement. But each generator writes pieces that end where they begin, or that open
and close around such pieces, so the number of pieces makes no difference.
-/
import ComponentWiring.Proofs.Java.Written
import ComponentWiring.Proofs.Run.Staging

namespace ComponentWiring

open Java

/-! ## 1. Rendering -/

theorem SourceFile.render_of_unnamed {f : SourceFile} (unnamed : f.type.name = "") (width : Nat) :
    f.render width = .error .unnamedFile := by
  have refused : (f.type.isAnonymous || f.type.name.isEmpty) = true := by simp [unnamed]
  rw [SourceFile.render, SourceFile.page, if_pos refused]
  rfl

namespace Java.SourceFile.IsGenerated

variable {f : SourceFile} (h : f.IsGenerated)
include h

/-- A generated file is rendered exactly if its type has a name, at every width. -/
theorem renders_iff (width : Nat) : f.Renders width ↔ f.type.name ≠ "" := by
  constructor
  · intro rendered unnamed
    obtain ⟨text, rendered⟩ := rendered
    rw [SourceFile.render_of_unnamed unnamed] at rendered
    cases rendered
  · intro named
    exact h.declares.render_ok named width

/-- In a generated file, the code of all methods is level. -/
theorem isLevel (im : Imports) : f.type.IsLevel im := by
  obtain ⟨q, written, -⟩ := (h.declares.written im).on .start
  exact isLevel_of_emitType written

end Java.SourceFile.IsGenerated

/-! ## 2. Writing -/

/-- A file that can be rendered is refused only if there is a file in its place. -/
theorem SourceSet.write_of_renders {f : SourceFile} {s : SourceSet} (rendered : f.Renders s.width) :
    (s.write f).1 = .ok f.path ∨
      (s.write f).1 = .error (.duplicate f.className.canonicalName) := by
  by_cases taken : f.location ∈ s.files.keys
  · rw [SourceSet.write_of_taken taken]
    exact .inr rfl
  · rw [SourceSet.write_of_new taken rendered]
    exact .inl rfl

/-- Of files that can be rendered, one after the other is accepted, until one is refused because
there is a file in its place. -/
theorem fileAll_fault_of_renders {fs : List SourceFile} {s : SourceSet}
    (rendered : ∀ f ∈ fs, f.Renders s.width) {fault : Failure}
    (refused : (fileAll SourceSet.filer fs s).1.result = .error fault) :
    ∃ f ∈ fs, fault = .emission (WriteFault.duplicate f.className.canonicalName).message := by
  induction fs generalizing s with
  | nil => cases refused
  | cons f fs ih =>
    by_cases taken : f.location ∈ s.files.keys
    · have first : SourceSet.filer.write f s = _ := SourceSet.write_of_taken taken
      rw [fileAll_cons_of_error SourceSet.filer first] at refused
      cases refused
      exact ⟨f, List.mem_cons_self, rfl⟩
    · have first : SourceSet.filer.write f s = _ :=
        SourceSet.write_of_new taken (rendered f List.mem_cons_self)
      rw [result_fileAll_cons SourceSet.filer first, map_error_iff] at refused
      obtain ⟨g, hg, same⟩ :=
        ih (s := { s with files := s.files.insert f.location (f.kept s.width) })
          (List.forall_mem_cons.mp rendered).2 refused
      exact ⟨g, List.mem_cons_of_mem _ hg, same⟩

/-- Generated files are written on every page, at whatever depth and however classes are spelled,
and all code in them is level: placeholders have arguments that suit them, none is left over, no
outdent is one too many, and every method ends where it begins, those of the facade included. So a
generated file is rendered at every width if its type has a name. Once the last check has accepted a
batch of them, a set of sources refuses a file, alone or in the batch, for its place only. -/
theorem generated_files_render {files : List SourceFile}
    (generated : ∀ f ∈ files, f.IsGenerated) :
    (∀ f ∈ files, ∀ im, Emit.Keeps (emitType im f.type) ∧ f.type.IsLevel im) ∧
    (∀ f ∈ files, ∀ width, f.Renders width ↔ f.type.name ≠ "") ∧
    ∀ d, checkBatch files d = .ok () → ∀ s : SourceSet,
      (∀ f ∈ files, (s.write f).1 = .ok f.path ∨
        (s.write f).1 = .error (.duplicate f.className.canonicalName)) ∧
      ∀ fault, (fileAll SourceSet.filer files s).1.result = .error fault →
        ∃ f ∈ files,
          fault = .emission (WriteFault.duplicate f.className.canonicalName).message := by
  have renders (f : SourceFile) (hf : f ∈ files) (width : Nat) :=
    (generated f hf).renders_iff width
  refine ⟨fun f hf im => ⟨(generated f hf).declares.written im, (generated f hf).isLevel im⟩,
    renders, ?_⟩
  intro d checked s
  have named := (checkBatch_ok_iff.mp checked).1.1
  have rendered (f : SourceFile) (hf : f ∈ files) : f.Renders s.width :=
    (renders f hf s.width).mpr (SourceFile.ne_empty_of_isNamed (named f hf))
  exact ⟨fun f hf => SourceSet.write_of_renders (rendered f hf),
    fun fault => fileAll_fault_of_renders rendered⟩

theorem generated_files_render_of_one_activity :
    ∃ p, (plan {} (sampleRound [sampleActivity "com.example.Main"])).result = .ok p ∧
      (∀ f ∈ p.files, f.IsGenerated) ∧ checkBatch p.files p.dispatch = .ok () ∧
      (∀ f ∈ p.files, ∀ width, f.Renders width ↔ f.type.name ≠ "") ∧
      ∀ f ∈ p.files, ((SourceSet.empty 4).write f).1 = .ok f.path ∨
        ((SourceSet.empty 4).write f).1 = .error (.duplicate f.className.canonicalName) := by
  obtain ⟨p, planned⟩ := oneActivity_planned
  have emitted := plan_isEmitted planned
  have checked := emitted.passes default_namesApart
  obtain ⟨-, renders, accepted⟩ := generated_files_render emitted.files_generated
  exact ⟨p, planned, emitted.files_generated, checked, renders,
    (accepted p.dispatch checked (.empty 4)).1⟩

end ComponentWiring
