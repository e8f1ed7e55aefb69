/-
ComponentWiring.Proofs.Run.Clashes — the last check refuses generated files for their names only.

* `Wiring` — an application with any containers and any presenters, discovered or not.
* `Wiring.emit` — the files that are generated for it, and who injects what.
* `Naming.IsClear` — the eight types have names, and different ones where they share a package.
* `checkNames_error` — what names can be refused for.
* `Wiring.checkBatch_ok_iff_isClear` — the check passes exactly if the names are clear.

The packages of the generated types are never blank and never coincide, whatever the package of the
application and the segment in the settings. So only the eight configured names matter.
-/
import ComponentWiring.Proofs.Run.Emitted

namespace ComponentWiring

open Java

/-! ## 1. Wirings -/

/-- What types are generated for: an application, and the containers and presenters of its lower
tiers. -/
structure Wiring where
  root : ApplicationRoot
  containers : ChildTier → ClassMap
  bindings : ChildTier → Bindings

namespace Wiring

/-- The generator of a lower tier. -/
def child (w : Wiring) (s : Settings) (tier : ChildTier) : ChildGenerator :=
  childGenerator s w.root (packagesOf s w.root) tier

/-- The generator of the application tier. -/
def application (w : Wiring) (s : Settings) : ApplicationGenerator :=
  ⟨s, packagesOf s w.root, w.root⟩

/-- A lower tier with its generated files. -/
def tierPlan (w : Wiring) (s : Settings) (tier : ChildTier) (files : ChildFiles) : TierPlan where
  tier := tier
  containers := w.containers tier
  bindings := w.bindings tier
  component := (w.child s tier).componentName
  files := files
  progress := ⟨tier.tier, .componentsEmitted⟩

/-- The files of both lower tiers and of the application, in the order of a run, with the dispatch
over the containers of both lower tiers. -/
def emit (w : Wiring) (s : Settings) : Except Failure Plan := do
  let generate tier := (w.child s tier).generate (w.containers tier) (w.bindings tier)
  let fragment := w.tierPlan s .fragment (← generate .fragment)
  let activity := w.tierPlan s .activity (← generate .activity)
  let own ← (w.application s).generate (dispatchOf s activity fragment)
  return emittedPlan s w.root fragment activity own

end Wiring

/-- What the files of a plan are generated for. -/
def Plan.wiring (p : Plan) : Wiring where
  root := p.root
  containers tier := (p.lower tier).containers
  bindings tier := (p.lower tier).bindings

theorem Wiring.emit_isEmitted {w : Wiring} {s : Settings} {p : Plan} (h : w.emit s = .ok p) :
    p.IsEmitted s ∧ p.wiring = w := by
  simp only [emit, bind_ok_iff] at h
  obtain ⟨fragment, first, activity, second, own, third, put⟩ := h
  obtain rfl := Except.ok.inj put
  refine ⟨⟨rfl, ?_, ?_, own, third, rfl⟩, ?_⟩
  · intro tier
    cases tier <;> rfl
  · intro tier
    cases tier
    · exact second
    · exact first
  · have containers : (emittedPlan s w.root (w.tierPlan s .fragment fragment)
        (w.tierPlan s .activity activity) own).wiring.containers = w.containers := by
      funext tier
      cases tier <;> rfl
    have bindings : (emittedPlan s w.root (w.tierPlan s .fragment fragment)
        (w.tierPlan s .activity activity) own).wiring.bindings = w.bindings := by
      funext tier
      cases tier <;> rfl
    exact congr (congrArg (Wiring.mk w.root) containers) bindings

/-- Every plan of a round is emitted so. -/
theorem plan_emits {s : Settings} {r : Round} {p : Plan} (h : (plan s r).result = .ok p) :
    p.wiring.emit s = .ok p := by
  obtain ⟨root, fragment, activity, own, _, first, second, third, _, rfl⟩ := plan_ok_iff.mp h
  obtain ⟨_, _, fragmentFiles, generated, rfl⟩ := planTier_ok_iff.mp first
  obtain ⟨_, _, activityFiles, generated', rfl⟩ := planTier_ok_iff.mp second
  simp only [Wiring.emit, bind_ok_iff]
  exact ⟨_, generated, _, generated', own, third, rfl⟩

/-! ## 2. Names -/

/-- The package of the components is never that of the injectors, nor is that of the helpers any of
the two. -/
theorem packagesOf_apart (s : Settings) (root : ApplicationRoot) :
    [(packagesOf s root).injection, (packagesOf s root).component,
      (packagesOf s root).helper].Nodup := by
  have longer {p q r : String} (h : q.toList.length < r.toList.length) : p ++ q ≠ p ++ r := by
    intro same
    have lengths := congrArg (fun t : String => t.toList.length) same
    simp only [String.toList_append, List.length_append] at lengths
    omega
  have component : (packagesOf s root).injection ≠ (packagesOf s root).component := by
    have start := String.append_empty (s := (packagesOf s root).injection)
    exact start ▸ longer (by decide)
  have helper : (packagesOf s root).injection ≠ (packagesOf s root).helper := by
    have start := String.append_empty (s := (packagesOf s root).injection)
    exact start ▸ longer (by decide)
  have below : (packagesOf s root).component ≠ (packagesOf s root).helper := longer (by decide)
  simp [component, helper, below]

/-- So only types of one package need different names. -/
theorem nodup_staged_iff {s : Settings} {root : ApplicationRoot} :
    (stagedNames s.naming (packagesOf s root)).Nodup ↔
      s.naming.activityInjector ≠ s.naming.fragmentInjector ∧
      [s.naming.fragmentComponent, s.naming.activityComponent, s.naming.applicationComponent,
        s.naming.initializer].Nodup ∧
      s.naming.activityHelper ≠ s.naming.fragmentHelper := by
  have apart := packagesOf_apart s root
  simp only [List.nodup_cons, List.mem_cons, List.not_mem_nil, not_or, or_false, not_false_eq_true,
    List.nodup_nil, and_true] at apart
  obtain ⟨⟨component, helper⟩, below⟩ := apart
  simp only [stagedNames, List.nodup_cons, List.mem_cons, Prod.mk.injEq, component, helper, below,
    Ne.symm component, Ne.symm helper, Ne.symm below, false_and, true_and, false_or, or_false,
    List.not_mem_nil, not_or, not_false_eq_true, List.nodup_nil, and_true]
  constructor
  · rintro ⟨injectors, ⟨ac, app, ini⟩, helpers, ⟨app', ini'⟩, ini''⟩
    exact ⟨Ne.symm injectors, ⟨⟨ac, app, ini⟩, ⟨app', ini'⟩, ini''⟩, Ne.symm helpers⟩
  · rintro ⟨injectors, ⟨⟨ac, app, ini⟩, ⟨app', ini'⟩, ini''⟩, helpers⟩
    exact ⟨Ne.symm injectors, ⟨ac, app, ini⟩, Ne.symm helpers, ⟨app', ini'⟩, ini''⟩

/-- The names of the generated types are given, and different where they share a package. -/
structure Naming.IsClear (n : Naming) : Prop where
  named : ∀ name ∈ n.typeNames, Text.isBlankText name = false
  injectors : n.activityInjector ≠ n.fragmentInjector
  components :
    [n.fragmentComponent, n.activityComponent, n.applicationComponent, n.initializer].Nodup
  helpers : n.activityHelper ≠ n.fragmentHelper

/-- The generated types are named and told apart exactly if the names in the settings are clear. -/
theorem staged_iff_isClear {s : Settings} {root : ApplicationRoot} :
    ((∀ e ∈ stagedNames s.naming (packagesOf s root),
        Text.isBlankText e.2 = false ∧ Text.isBlankText e.1 = false) ∧
      (stagedNames s.naming (packagesOf s root)).Nodup) ↔ s.naming.IsClear := by
  have names : s.naming.typeNames =
      (stagedNames s.naming (packagesOf s root)).map Prod.snd := rfl
  rw [nodup_staged_iff]
  constructor
  · intro given
    obtain ⟨named, injectors, components, helpers⟩ := given
    refine ⟨fun name hname => ?_, injectors, components, helpers⟩
    obtain ⟨e, he, rfl⟩ := List.mem_map.mp (names ▸ hname)
    exact (named e he).1
  · intro clear
    refine ⟨fun e he => ⟨?_, package_not_blank_of_staged he⟩, clear.injectors, clear.components,
      clear.helpers⟩
    exact clear.named e.2 (mem_typeNames_of_staged he)

/-- What names are refused for: a file has no name, or the name of a file before it. -/
theorem checkNames_error {seen : List (String × String)} {fs : List SourceFile}
    {fault : BatchFault} (h : checkNames seen fs = .error fault) :
    (∃ f ∈ fs, ¬ f.IsNamed ∧ fault = .unnamed f.type.name f.package) ∨
      ∃ before f after, fs = before ++ f :: after ∧ (f.key ∈ seen ∨ f.key ∈ before.map (·.key)) ∧
        fault = .repeated f.className := by
  induction fs generalizing seen with
  | nil => cases h
  | cons f fs ih =>
    rw [checkNames] at h
    split at h
    · next blank =>
      cases h
      refine .inl ⟨f, List.mem_cons_self, fun named => ?_, rfl⟩
      simp [named.1, named.2] at blank
    · split at h
      · next known =>
        cases h
        exact .inr ⟨[], f, fs, rfl, .inl (List.contains_iff_mem.mp known), rfl⟩
      · rcases ih h with ⟨g, hg, unnamed, rfl⟩ | ⟨before, g, after, rfl, known, rfl⟩
        · exact .inl ⟨g, List.mem_cons_of_mem _ hg, unnamed, rfl⟩
        · refine .inr ⟨f :: before, g, after, rfl, ?_, rfl⟩
          rw [List.map_cons, List.mem_cons]
          rcases known with known | again
          · rcases List.mem_cons.mp known with same | known
            · exact .inr (.inl same)
            · exact .inl known
          · exact .inr (.inr again)

/-! ## 3. The last check -/

/-- The fault is in the names of the files: a type has none, or the one of a type before it that
shares its package. -/
inductive BatchFault.IsClash (files : List SourceFile) : BatchFault → Prop
  | unnamed {f : SourceFile} (mem : f ∈ files) (blank : Text.isBlankText f.type.name = true) :
    IsClash files (.unnamed f.type.name f.package)
  | repeated {before after : List SourceFile} {f : SourceFile}
    (split : files = before ++ f :: after) (again : f.key ∈ before.map (·.key)) :
    IsClash files (.repeated f.className)

namespace Plan.IsEmitted

variable {s : Settings} {p : Plan} (h : p.IsEmitted s)
include h

/-- For generated files, the check looks at names only. -/
theorem checkBatch_eq_checkNames : checkBatch p.files p.dispatch = checkNames [] p.files := by
  cases names : checkNames [] p.files with
  | error fault =>
    rw [checkBatch, names]
    rfl
  | ok u =>
    obtain ⟨named, apart, _⟩ := checkNames_ok_iff.mp names
    exact h.checkBatch_iff.mpr ⟨named, apart⟩

/-- No package of a generated file is blank. -/
theorem package_not_blank : ∀ f ∈ p.files, Text.isBlankText f.package = false := by
  intro f hf
  have staged : f.key ∈ stagedNames s.naming (packagesOf s p.root) := by
    rw [← h.files_declare.1]
    exact List.mem_map_of_mem hf
  exact package_not_blank_of_staged staged

theorem isClash {fault : BatchFault} (refused : checkBatch p.files p.dispatch = .error fault) :
    fault.IsClash p.files := by
  rw [h.checkBatch_eq_checkNames] at refused
  rcases checkNames_error refused with ⟨f, hf, unnamed, rfl⟩ | ⟨before, f, after, split, known, rfl⟩
  · refine .unnamed hf (Bool.of_not_eq_false fun named => unnamed ⟨named, ?_⟩)
    exact h.package_not_blank f hf
  · exact .repeated split (known.resolve_left (List.not_mem_nil))

end Plan.IsEmitted

/-- Files that are generated for any application, any containers and any presenters pass the last
check exactly if the configured names are clear. If they do not pass, it is for the name of a type;
no component is ever missing, and none misses an injection. -/
theorem Wiring.checkBatch_ok_iff_isClear {w : Wiring} {s : Settings} {p : Plan}
    (h : w.emit s = .ok p) :
    (checkBatch p.files p.dispatch = .ok () ↔ s.naming.IsClear) ∧
    ∀ fault, checkBatch p.files p.dispatch = .error fault →
      fault.IsClash p.files ∧ (∀ tier component, fault ≠ .noComponent tier component) ∧
        ∀ component target, fault ≠ .noInjection component target := by
  have emitted := (emit_isEmitted h).1
  refine ⟨?_, fun fault refused => ?_⟩
  · rw [emitted.checkBatch_iff_staged, staged_iff_isClear]
  · have clash := emitted.isClash refused
    refine ⟨clash, ?_, ?_⟩ <;> rintro _ _ rfl <;> cases clash

theorem Wiring.checkBatch_ok_of_oneActivity : ∃ (w : Wiring) (p : Plan),
    w.emit {} = .ok p ∧ checkBatch p.files p.dispatch = .ok () := by
  obtain ⟨p, planned⟩ := oneActivity_planned
  have emitted := plan_emits planned
  have clear : ({} : Naming).IsClear := ⟨by decide, by decide, by decide, by decide⟩
  exact ⟨p.wiring, p, emitted, (checkBatch_ok_iff_isClear emitted).1.mpr clear⟩

end ComponentWiring
