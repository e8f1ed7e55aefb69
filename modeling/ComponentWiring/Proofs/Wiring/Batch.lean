/-
ComponentWiring.Proofs.Wiring.Batch — which batches of files pass the last check.

* `checkNames_ok_iff` — no name is blank and no type is declared twice.
* `checkTier_ok_iff` — the component of a tier is there and injects all its classes.
* `checkBatch_ok_iff` — both of them.
-/
import ComponentWiring.Proofs.Run.Stages

namespace ComponentWiring

open Java

/-- The package and the name of a file's type, by which the check tells types apart. -/
def Java.SourceFile.key (f : SourceFile) : String × String := (f.package, f.type.name)

/-- Files with different names are for different classes. -/
theorem Java.SourceFile.classNames_nodup {files : List SourceFile}
    (names : (files.map (·.key)).Nodup) : (files.map (·.className)).Nodup := by
  have keys : files.map (·.key) = (files.map (·.className)).map fun c => (c.package, c.outer) := by
    rw [List.map_map]
    rfl
  rw [keys] at names
  exact List.Pairwise.of_map _ (fun _ _ different same => different (same ▸ rfl)) names

/-- Neither the package nor the name of the file's type is blank. -/
def Java.SourceFile.IsNamed (f : SourceFile) : Prop :=
  Text.isBlankText f.type.name = false ∧ Text.isBlankText f.package = false

theorem checkNames_ok_iff {seen : List (String × String)} {fs : List SourceFile} :
    checkNames seen fs = .ok () ↔
      (∀ f ∈ fs, f.IsNamed) ∧ (fs.map (·.key)).Nodup ∧ ∀ f ∈ fs, f.key ∉ seen := by
  induction fs generalizing seen with
  | nil => simp [checkNames]
  | cons f fs ih =>
    rw [checkNames]
    by_cases named : f.IsNamed
    · have passes : ¬ (Text.isBlankText f.type.name || Text.isBlankText f.package) = true := by
        simp [named.1, named.2]
      rw [if_neg passes]
      by_cases known : f.key ∈ seen
      · have repeated : seen.contains (f.package, f.type.name) = true :=
          List.contains_iff_mem.mpr known
        rw [if_pos repeated]
        simp [known]
      · have new : ¬ seen.contains (f.package, f.type.name) = true :=
          fun h => known (List.contains_iff_mem.mp h)
        rw [if_neg new, ih, List.map_cons, List.nodup_cons]
        constructor
        · intro given
          obtain ⟨allNamed, distinct, fresh⟩ := given
          refine ⟨List.forall_mem_cons.mpr ⟨named, allNamed⟩, ⟨fun mem => ?_, distinct⟩, ?_⟩
          · obtain ⟨g, hg, same⟩ := List.mem_map.mp mem
            exact fresh g hg (same ▸ List.mem_cons_self)
          · refine List.forall_mem_cons.mpr ⟨known, fun g hg mem => ?_⟩
            exact fresh g hg (List.mem_cons_of_mem _ mem)
        · intro given
          obtain ⟨allNamed, ⟨first, distinct⟩, fresh⟩ := given
          refine ⟨fun g hg => allNamed g (by simp [hg]), distinct, fun g hg mem => ?_⟩
          rcases List.mem_cons.mp mem with same | mem
          · exact first (List.mem_map.mpr ⟨g, hg, same⟩)
          · exact fresh g (by simp [hg]) mem
    · have refused : (Text.isBlankText f.type.name || Text.isBlankText f.package) = true := by
        simp only [SourceFile.IsNamed] at named
        cases h : Text.isBlankText f.type.name <;> simp_all
      rw [if_pos refused]
      simp [named]

theorem declaresInjection_iff {t : TypeDecl} {injectMethod : String} {c : ClassName} :
    declaresInjection t injectMethod c = true ↔
      ∃ m ∈ t.methods, m.name = injectMethod ∧ ∃ p ∈ m.parameters, p.type = .ofClass c := by
  simp only [declaresInjection, TypeDecl.methodsNamed, List.any_filter, List.any_eq_true,
    Bool.and_eq_true, decide_eq_true_eq, TypeExpr.isClass_iff]

theorem checkTier_ok_iff {files : List SourceFile} {d : Dispatch} {tier : Tier}
    {component : ClassName} :
    checkTier files d tier component = .ok () ↔
      ∃ f, files.find? (·.className = component) = some f ∧
        ∀ c ∈ d.targets tier, declaresInjection f.type d.injectMethod c.className = true := by
  unfold checkTier
  cases files.find? (·.className = component) with
  | none => simp
  | some f =>
    simp only [Option.some.injEq, exists_eq_left']
    cases h : (d.targets tier).find? (!declaresInjection f.type d.injectMethod ·.className) with
    | none =>
      rw [List.find?_eq_none] at h
      simpa using h
    | some c =>
      have missing := List.find?_some h
      have mem := List.mem_of_find?_eq_some h
      simp only [reduceCtorEq, false_iff]
      intro all_there
      simp [all_there c mem] at missing

theorem forM_ok_iff {ε α : Type} {f : α → Except ε PUnit} {l : List α} :
    l.forM f = .ok () ↔ ∀ a ∈ l, f a = .ok () := by
  induction l with
  | nil => simp [pure, Except.pure]
  | cons a l ih =>
    show (f a >>= fun _ => l.forM f) = .ok () ↔ _
    rw [bind_ok_iff]
    constructor
    · intro given
      obtain ⟨⟨⟩, first, rest⟩ := given
      exact List.forall_mem_cons.mpr ⟨first, ih.mp rest⟩
    · intro h
      exact ⟨(), h a List.mem_cons_self, ih.mpr fun b hb => h b (List.mem_cons_of_mem a hb)⟩

/-- A batch passes when no name is blank, no type is declared twice, and every component that
the dispatch relies on injects its classes. -/
theorem checkBatch_ok_iff {files : List SourceFile} {d : Dispatch} :
    checkBatch files d = .ok () ↔
      ((∀ f ∈ files, f.IsNamed) ∧ (files.map (·.key)).Nodup) ∧
        ∀ e ∈ d.components, ∃ f, files.find? (·.className = e.2) = some f ∧
          ∀ c ∈ d.targets e.1, declaresInjection f.type d.injectMethod c.className = true := by
  have names : checkNames [] files = .ok () ↔
      (∀ f ∈ files, f.IsNamed) ∧ (files.map (·.key)).Nodup := by
    rw [checkNames_ok_iff]
    simp
  have tiers : (d.components.forM fun e => checkTier files d e.1 e.2) = .ok () ↔
      ∀ e ∈ d.components, ∃ f, files.find? (·.className = e.2) = some f ∧
        ∀ c ∈ d.targets e.1, declaresInjection f.type d.injectMethod c.className = true := by
    rw [forM_ok_iff]
    exact forall₂_congr fun e _ => checkTier_ok_iff
  rw [← names, ← tiers, checkBatch, bind_ok_iff]
  exact ⟨fun ⟨_, named, complete⟩ => ⟨named, complete⟩,
    fun ⟨named, complete⟩ => ⟨(), named, complete⟩⟩

end ComponentWiring
