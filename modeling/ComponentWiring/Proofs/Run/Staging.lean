/-
ComponentWiring.Proofs.Run.Staging — what a run leaves behind.

* `plan_files`, `plan_renders`, `plan_locations_nodup` — what is known of the planned files.
* `Coordinator.LeavesAllOrNothing` — a call leaves all files of its plan behind, or none.
* `leavesAllOrNothing_iff_locations_nodup` — that is so exactly when the files lie apart.

The last check before filing tells files apart by package and name, a set of sources by their
location. The two agree as long as no type name holds a slash.
-/
import ComponentWiring.Proofs.Run.Emitted
import ComponentWiring.Proofs.Run.Filing
import ComponentWiring.Proofs.Run.Once
import ComponentWiring.Settings.Check
import Mathlib.Data.List.Nodup

namespace ComponentWiring

open Java

/-! ## 1. Planned files -/

/-- The planned files in order: three of each lower tier, then two of the application tier. -/
theorem plan_files {s : Settings} {r : Round} {p : Plan} (h : (plan s r).result = .ok p) :
    p.files.map (·.key) = stagedNames s.naming (packagesOf s p.root) ∧
      ∀ f ∈ p.files, f.Declares f.package f.type.name :=
  (plan_isEmitted h).files_declare

theorem plan_files_length {s : Settings} {r : Round} {p : Plan}
    (h : (plan s r).result = .ok p) : p.files.length = 8 := by
  have keys := congrArg List.length (plan_files h).1
  rwa [List.length_map] at keys

/-- No name of a planned file is blank, and no type is planned twice. -/
theorem plan_named {s : Settings} {r : Round} {p : Plan} (h : (plan s r).result = .ok p) :
    (∀ f ∈ p.files, f.IsNamed) ∧ (p.files.map (·.key)).Nodup := by
  obtain ⟨_, _, _, _, _, _, _, _, checked, rfl⟩ := plan_ok_iff.mp h
  exact (checkBatch_ok_iff.mp checked).1

theorem SourceFile.ne_empty_of_isNamed {f : SourceFile} (h : f.IsNamed) : f.type.name ≠ "" := by
  intro empty
  have blank := h.1
  rw [empty] at blank
  cases blank

/-- Every planned file can be rendered, at every width. -/
theorem plan_renders {s : Settings} {r : Round} {p : Plan} (h : (plan s r).result = .ok p)
    (width : Nat) : ∀ f ∈ p.files, f.Renders width := by
  intro f hf
  have named := SourceFile.ne_empty_of_isNamed ((plan_named h).1 f hf)
  exact ((plan_files h).2 f hf).render_ok named width

/-! ## 2. Locations -/

/-- The folders of the three packages lie below one another, so they differ in depth. -/
theorem folders_depth (s : Settings) (root : ApplicationRoot) :
    let p := packagesOf s root
    let depth package := (folderOf package).components.length
    depth p.component = depth p.injection + 1 ∧ depth p.helper = depth p.injection + 2 := by
  intro p depth
  have component : p.component = p.injection ++ "." ++ "component" := by
    rw [String.append_assoc]
    rfl
  have helper : p.helper = p.injection ++ "." ++ "component" ++ "." ++ "helper" := by
    rw [String.append_assoc, String.append_assoc, String.append_assoc]
    rfl
  have step : Path.IsStep "component" := ⟨by decide, by decide, by decide, by decide⟩
  have step' : Path.IsStep "helper" := ⟨by decide, by decide, by decide, by decide⟩
  simp only [depth]
  rw [helper, component, folderOf_below _ (by decide) step', folderOf_below _ (by decide) step]
  simp

/-- Files of plain names lie apart if the check tells their types apart. -/
theorem staged_location_inj {s : Settings} {root : ApplicationRoot}
    (plain : ∀ name ∈ s.naming.typeNames, IsPlainName name) {e e' : String × String}
    (he : e ∈ stagedNames s.naming (packagesOf s root))
    (he' : e' ∈ stagedNames s.naming (packagesOf s root))
    (same : locationOf e.1 e.2 = locationOf e'.1 e'.2) : e = e' := by
  rw [locationOf_of_plain (plain _ (mem_typeNames_of_staged he)),
    locationOf_of_plain (plain _ (mem_typeNames_of_staged he'))] at same
  obtain ⟨folder, name⟩ := List.append_inj' same rfl
  have depths := folders_depth s root
  have depth := congrArg List.length folder
  have samePackage : e.1 = e'.1 := by
    simp only at depths
    rcases package_of_staged he with first | first | first <;>
      rcases package_of_staged he' with second | second | second <;>
      rw [first, second] at depth ⊢ <;>
      omega
  refine Prod.ext samePackage ?_
  simpa using name

theorem plan_locations {s : Settings} {r : Round} {p : Plan} (h : (plan s r).result = .ok p) :
    p.files.map (·.location) =
      (stagedNames s.naming (packagesOf s p.root)).map fun e => locationOf e.1 e.2 := by
  rw [← (plan_files h).1, List.map_map]
  rfl

theorem plan_paths {s : Settings} {r : Round} {p : Plan} (h : (plan s r).result = .ok p) :
    p.files.map (·.path) = (stagedNames s.naming (packagesOf s p.root)).map fun e =>
      (folderOf e.1).join ⟨e.2 ++ ".java"⟩ := by
  rw [← (plan_files h).1, List.map_map]
  rfl

theorem default_isPlainName : ∀ name ∈ ({} : Naming).typeNames, IsPlainName name := by decide

/-- Planned files lie apart if no type name holds a slash. -/
theorem plan_locations_nodup {s : Settings} {r : Round} {p : Plan}
    (h : (plan s r).result = .ok p) (plain : ∀ name ∈ s.naming.typeNames, IsPlainName name) :
    (p.files.map (·.location)).Nodup := by
  have keys := (plan_named h).2
  rw [(plan_files h).1] at keys
  rw [plan_locations h]
  exact keys.map_on fun _ he _ he' same => staged_location_inj plain he he' same

/-! ## 3. All or nothing -/

/-- The call leaves all files of its plan behind, in order and with their paths in the report;
or it reports an error, and leaves nothing behind. -/
structure Coordinator.LeavesAllOrNothing (c : Coordinator) (annotations : List String) (r : Round)
    (width : Nat) : Prop where
  nothing : (c.process SourceSet.filer annotations r (.empty width)).1.hasErrors = true →
    (c.process SourceSet.filer annotations r (.empty width)).2.2.sources = []
  all : (c.process SourceSet.filer annotations r (.empty width)).1.succeeded = true →
    ∃ p, (plan c.settings r).result = .ok p ∧ p.files.length = 8 ∧
      (∀ f ∈ p.files, f.Renders width) ∧
      (c.process SourceSet.filer annotations r (.empty width)).2.2.sources =
        p.files.map (·.kept width) ∧
      (c.process SourceSet.filer annotations r (.empty width)).1.files = p.files.map (·.path)

/-- Files that can be rendered are accepted one by one exactly when they lie apart. -/
theorem fileAll_succeeds_iff {fs : List SourceFile} {width : Nat}
    (rendered : ∀ f ∈ fs, f.Renders width) :
    Succeeds (fileAll SourceSet.filer fs (.empty width)).1.result ↔
      (fs.map (·.location)).Nodup := by
  constructor
  · intro h
    obtain ⟨paths, filed⟩ := h
    exact (new_of_fileAll_ok filed).2
  · intro distinct
    exact ⟨_, (fileAll_of_new (s := .empty width) rendered distinct).1⟩

/-- Something is left behind of files of which the first can be rendered. -/
theorem sources_fileAll_ne_nil {fs : List SourceFile} {width : Nat}
    (rendered : ∀ f ∈ fs, f.Renders width) (some_file : fs ≠ []) :
    (fileAll SourceSet.filer fs (.empty width)).2.sources ≠ [] := by
  obtain ⟨f, fs, rfl⟩ := List.exists_cons_of_ne_nil some_file
  have new : f.location ∉ (SourceSet.empty width).files.keys := List.not_mem_nil
  obtain ⟨t, first, kept⟩ : ∃ t, SourceSet.filer.write f (.empty width) = (.ok f.path, t) ∧
      t.sources = [f.kept width] :=
    ⟨_, SourceSet.write_of_new new (rendered f List.mem_cons_self),
      Keyed.values_insert_of_new new _⟩
  rw [(fileAll_cons_of_ok SourceSet.filer first fs).1]
  intro nothing
  have prefixed := sources_fileAll_prefix fs t
  rw [nothing, kept, List.prefix_nil] at prefixed
  cases prefixed

namespace Coordinator

theorem leavesAllOrNothing_of_nodup {c : Coordinator} {annotations : List String} {r : Round}
    {width : Nat} (apart : ¬ c.IsIdle annotations → ∀ p, (plan c.settings r).result = .ok p →
      (p.files.map (·.location)).Nodup) : c.LeavesAllOrNothing annotations r width := by
  constructor
  · intro failed
    obtain ⟨work, fault, result⟩ := (process_hasErrors_iff _ _ _ _ _).mp failed
    obtain ⟨news, called⟩ := process_of_work work SourceSet.filer r (.empty width)
    rw [called]
    -- With a plan everything would have been filed.
    cases planned : (plan c.settings r).result with
    | error fault' =>
      show (generate c.settings SourceSet.filer r (.empty width)).2.sources = []
      rw [(generate_of_no_plan planned _ _).2]
      rfl
    | ok p =>
      obtain ⟨paths, filed⟩ := (fileAll_succeeds_iff (plan_renders planned width)).mpr
        (apart work p planned)
      rw [(generate_of_plan planned _ _).2, filed] at result
      cases result
  · intro succeeded
    obtain ⟨work, g, result⟩ := (process_succeeded_iff _ _ _ _ _).mp succeeded
    obtain ⟨news, called⟩ := process_of_work work SourceSet.filer r (.empty width)
    rw [called]
    cases planned : (plan c.settings r).result with
    | error fault =>
      rw [(generate_of_no_plan planned _ _).1] at result
      cases result
    | ok p =>
      have renders := plan_renders planned width
      obtain ⟨filed, kept⟩ := fileAll_of_new (s := .empty width) renders (apart work p planned)
      obtain ⟨state, outcome⟩ := generate_of_plan planned SourceSet.filer (.empty width)
      refine ⟨p, rfl, plan_files_length planned, renders, ?_, ?_⟩
      · show (generate c.settings SourceSet.filer r (.empty width)).2.sources = _
        rw [state, kept]
        rfl
      · rw [filed] at outcome
        unfold conclude
        rw [outcome]
        rfl

theorem nodup_of_leavesAllOrNothing {c : Coordinator} {annotations : List String} {r : Round}
    {width : Nat} (h : c.LeavesAllOrNothing annotations r width) (work : ¬ c.IsIdle annotations)
    {p : Plan} (planned : (plan c.settings r).result = .ok p) :
    (p.files.map (·.location)).Nodup := by
  have renders := plan_renders planned width
  obtain ⟨state, outcome⟩ := generate_of_plan planned SourceSet.filer (.empty width)
  cases filed : (fileAll SourceSet.filer p.files (.empty width)).1.result with
  | ok paths => exact (fileAll_succeeds_iff renders).mp ⟨paths, filed⟩
  | error fault =>
    -- The first file was accepted, so an error leaves something behind.
    exfalso
    have some_file : p.files ≠ [] := by
      have eight := plan_files_length planned
      rintro none_there
      rw [none_there] at eight
      cases eight
    rw [filed] at outcome
    have failed := (process_hasErrors_iff c SourceSet.filer annotations r (.empty width)).mpr
      ⟨work, fault, outcome⟩
    obtain ⟨news, called⟩ := process_of_work work SourceSet.filer r (.empty width)
    have nothing := h.nothing failed
    rw [called] at nothing
    refine sources_fileAll_ne_nil renders some_file ?_
    rw [← state]
    exact nothing

/-- A call succeeds when it has work to do and a plan whose files lie apart. -/
theorem process_succeeded_iff_plan (c : Coordinator) (annotations : List String) (r : Round)
    (width : Nat) :
    (c.process SourceSet.filer annotations r (.empty width)).1.succeeded = true ↔
      ¬ c.IsIdle annotations ∧ ∃ p, (plan c.settings r).result = .ok p ∧
        (p.files.map (·.location)).Nodup := by
  rw [process_succeeded_iff]
  refine and_congr_right fun _ => ?_
  cases planned : (plan c.settings r).result with
  | error fault =>
    rw [(generate_of_no_plan planned _ _).1]
    simp
  | ok p =>
    rw [(generate_of_plan planned _ _).2]
    have filed := fileAll_succeeds_iff (plan_renders planned width)
    constructor
    · intro h
      obtain ⟨g, done⟩ := h
      refine ⟨p, rfl, filed.mp ?_⟩
      cases result : (fileAll SourceSet.filer p.files (.empty width)).1.result with
      | error fault =>
        rw [result] at done
        cases done
      | ok paths => exact ⟨paths, rfl⟩
    · intro h
      obtain ⟨q, same, apart⟩ := h
      cases same
      obtain ⟨paths, result⟩ := filed.mpr apart
      rw [result]
      exact ⟨_, rfl⟩

/-- What a successful call leaves behind: its plan, whose files lie apart and are all filed. -/
theorem filed_of_succeeded {c : Coordinator} {annotations : List String} {r : Round} {width : Nat}
    (h : (c.process SourceSet.filer annotations r (.empty width)).1.succeeded = true) :
    let called := c.process SourceSet.filer annotations r (.empty width)
    ∃ p, (plan c.settings r).result = .ok p ∧ (∀ f ∈ p.files, f.Renders width) ∧
      called.2.2.sources = p.files.map (·.kept width) ∧ called.1.files = p.files.map (·.path) := by
  obtain ⟨-, p, planned, apart⟩ := (process_succeeded_iff_plan c annotations r width).mp h
  have whole : c.LeavesAllOrNothing annotations r width := by
    refine leavesAllOrNothing_of_nodup fun _ q same => ?_
    rw [planned] at same
    cases same
    exact apart
  obtain ⟨q, same, -, left⟩ := whole.all h
  exact ⟨q, same, left⟩

/-- What a call reports whose planned files lie apart. -/
theorem report_of_plan {c : Coordinator} {annotations : List String} {r : Round} {p : Plan}
    (work : ¬ c.IsIdle annotations) (planned : (plan c.settings r).result = .ok p)
    (apart : (p.files.map (·.location)).Nodup) (width : Nat) :
    let report := (c.process SourceSet.filer annotations r (.empty width)).1
    report.application = some p.root.root.qualifiedName ∧
      report.initializer = some p.initializer.canonicalName ∧
      report.files = p.files.map (·.path) := by
  have filed := (fileAll_of_new (s := .empty width) (plan_renders planned width) apart).1
  have outcome := (generate_of_plan planned SourceSet.filer (.empty width)).2
  rw [filed] at outcome
  obtain ⟨news, called⟩ := process_of_work work SourceSet.filer r (.empty width)
  simp only [called, conclude, outcome, Except.map]
  exact ⟨trivial, trivial, trivial⟩

/-- With type names that hold no slash, the first round that is processed succeeds if it can be
planned. -/
theorem start_succeeds_of_plain {s : Settings} {r : Round} {p : Plan}
    (planned : (plan s r).result = .ok p) (plain : ∀ name ∈ s.naming.typeNames, IsPlainName name)
    (carries : (r.markersPresent s.framework.markers).isEmpty = false)
    (registry : Registry) (bus : Option Bus) (width : Nat) :
    ((start s registry bus).processRound SourceSet.filer r (.empty width)).1.succeeded = true := by
  rw [processRound, process_succeeded_iff_plan]
  refine ⟨?_, p, planned, plan_locations_nodup planned plain⟩
  simp [IsIdle, start, carries]

theorem start_succeeds_of_plan {r : Round} {p : Plan} (planned : (plan {} r).result = .ok p)
    (carries : (r.markersPresent ({} : FrameworkNames).markers).isEmpty = false)
    (registry : Registry) (bus : Option Bus) (width : Nat) :
    ((start {} registry bus).processRound SourceSet.filer r (.empty width)).1.succeeded = true :=
  start_succeeds_of_plain planned default_isPlainName carries registry bus width

/-- With settings that name the types as usual, the small project succeeds, and its plan is that of
its application. -/
theorem sample_succeeds (s : Settings) (classes : List TypeElement)
    (ready : s.framework.AreReadable) (usual : s.naming.typeNames = ({} : Naming).typeNames)
    (root : (applicationRoot s.framework (sampleRound classes)).toOption = some sampleRoot)
    (containers : ∀ tier, (containersOf s (sampleRound classes) tier).failure = none)
    (noPresenters : ∀ tier, (sampleRound classes).elementsWith
      (TierRules.ofTier s.framework tier).scopeMarker = []) :
    (({ settings := s } : Coordinator).process SourceSet.filer [sampleMarker]
      (sampleRound classes) (.empty 4)).1.succeeded = true ∧
    ∃ p, (plan s (sampleRound classes)).result = .ok p ∧ p.root = sampleRoot := by
  have names : s.NamesApart := by
    refine namesApart_of_typeNames ?_ ?_ <;> rw [usual] <;> decide
  obtain ⟨p, planned, found⟩ := sample_planned ready names root containers noPresenters
  refine ⟨?_, p, planned, found⟩
  rw [process_succeeded_iff_plan]
  exact ⟨by simp [IsIdle], p, planned,
    plan_locations_nodup planned (usual ▸ default_isPlainName)⟩

/-- A call leaves all files of its plan behind, or none, exactly when the planned files lie
apart. The last check lets any batch pass whose files can be told apart by package and name,
and such a batch can be filed exactly when the files lie apart as well. They do if no type name
holds a slash. -/
theorem leavesAllOrNothing_iff_locations_nodup (c : Coordinator) (annotations : List String)
    (r : Round) (width : Nat) :
    (c.LeavesAllOrNothing annotations r width ↔
      (¬ c.IsIdle annotations → ∀ p, (plan c.settings r).result = .ok p →
        (p.files.map (·.location)).Nodup)) ∧
    (∀ files d, checkBatch files d = .ok () → (∀ f ∈ files, f.Renders width) →
      (Succeeds (fileAll SourceSet.filer files (.empty width)).1.result ↔
        (files.map (·.location)).Nodup)) ∧
    ((∀ name ∈ c.settings.naming.typeNames, IsPlainName name) →
      c.LeavesAllOrNothing annotations r width) :=
  ⟨⟨fun h work _ planned => nodup_of_leavesAllOrNothing h work planned,
      leavesAllOrNothing_of_nodup⟩,
    fun _ _ _ renders => fileAll_succeeds_iff renders,
    fun plain => leavesAllOrNothing_of_nodup fun _ _ planned => plan_locations_nodup planned plain⟩

/-- The name of a type may be a path into the package of another type, which the check of the
settings lets pass. -/
def slashedSettings : Settings :=
  { naming := { fragmentInjector := "component/OctoberFragmentComponent" } }

theorem not_leavesAllOrNothing_of_slash :
    slashedSettings.check = .ok () ∧
      ¬ LeavesAllOrNothing { settings := slashedSettings }
        [slashedSettings.framework.applicationMarker] (sampleRound [])
        slashedSettings.generation.indent := by
  refine ⟨by decide, fun h => ?_⟩
  have names : slashedSettings.NamesApart := namesApart_of_typeNames (by decide) (by decide)
  obtain ⟨p, planned, root⟩ : ∃ p, (plan slashedSettings (sampleRound [])).result = .ok p ∧
      p.root = sampleRoot := by
    refine sample_planned default_areReadable names (by decide +kernel) ?_ ?_
    · intro tier
      cases tier <;> decide +kernel
    · intro tier
      cases tier <;> decide +kernel
  have apart := nodup_of_leavesAllOrNothing h (by simp [IsIdle]) planned
  rw [plan_locations planned, root] at apart
  -- The injector lies where the component does.
  have close : locationOf "com.example.internal.october.di" "component/OctoberFragmentComponent" =
      locationOf "com.example.internal.october.di.component" "OctoberFragmentComponent" := by
    decide +kernel
  have same := List.inj_on_of_nodup_map apart (List.mem_cons_self)
    (List.mem_cons_of_mem _ List.mem_cons_self) close
  cases same

end Coordinator

end ComponentWiring
