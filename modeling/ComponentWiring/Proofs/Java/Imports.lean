/-
ComponentWiring.Proofs.Java.Imports — which classes a file imports, and how it spells classes.

* `SourceFile.TopLevel` — the outermost classes around those a file refers to, and its own.
* `SourceFile.NeedsImport` — the top-level classes that are imported.
* `Imports.lines_exact` — the import lines name exactly these, in order.
* `Imports.isShort_iff` — when the simple names of a class mean it.
* `SourceFile.ResolvesClasses` — how the text of a file imports and spells classes.
* `SourceFile.render_resolves_classes` — every file that renders does so.

A class outside all packages has no longer name than its simple names, so its canonical spelling
looks like a short one. It still means this class alone.
-/
import ComponentWiring.Proofs.Java.Strokes
import ComponentWiring.Proofs.Keyed
import Mathlib.Data.List.Nodup

namespace ComponentWiring.Java

/-! ## 1. Top-level classes -/

theorem ClassName.package_topLevel (c : ClassName) : c.topLevel.package = c.package := rfl

/-- The canonical name of a class is made of its simple names alone only outside all packages. -/
theorem ClassName.canonicalName_eq_nestedName_iff {c : ClassName} :
    c.canonicalName = c.nestedName ↔ c.package = "" := by
  rw [canonicalName, inPackage]
  by_cases outside : c.package = ""
  · simp [outside]
  · have inside : ¬ c.package.isEmpty = true := by simpa using outside
    rw [if_neg inside]
    refine iff_of_false (fun same => ?_) outside
    have lengths := congrArg String.length same
    simp only [String.length_append] at lengths
    have dot : ".".length = 1 := by decide
    omega

namespace SourceFile

variable {f : SourceFile} {t : ClassName}

/-- The class is the outermost one around a class that the file refers to, or the file's own. -/
def TopLevel (f : SourceFile) (t : ClassName) : Prop := ∃ c ∈ f.references, c.topLevel = t

/-- No other top-level class of the file has the simple name of this one. -/
def IsSole (f : SourceFile) (t : ClassName) : Prop :=
  ∀ u, f.TopLevel u → u.outer = t.outer → u = t

/-- The simple name of the top-level class means this class alone, and only by an import. -/
structure NeedsImport (f : SourceFile) (t : ClassName) : Prop where
  topLevel : f.TopLevel t
  sole : f.IsSole t
  inPackage : t.package ≠ ""
  notImplicit : t.package ≠ "java.lang"
  foreign : t.package ≠ f.package

/-- The simple names of the class mean it: its top-level class is the only one of its name, and is
imported or needs no import. -/
def KnowsShort (f : SourceFile) (c : ClassName) : Prop :=
  f.IsSole c.topLevel ∧
    (f.NeedsImport c.topLevel ∨ c.package = f.package ∨ c.package = "java.lang")

theorem topLevel_className (f : SourceFile) : f.TopLevel f.className :=
  ⟨f.className, by simp [references], rfl⟩

/-- The name of the file's own class is never imported. -/
theorem NeedsImport.outer_ne (h : f.NeedsImport t) : t.outer ≠ f.type.name := by
  intro same
  have own : f.className = t := h.sole f.className f.topLevel_className same.symm
  exact h.foreign (congrArg ClassName.package own).symm

end SourceFile

/-! ## 2. Imports -/

namespace Imports

variable {f : SourceFile} {t c : ClassName}

theorem mem_tops_iff : t ∈ (Imports.of f).tops ↔ f.TopLevel t := by
  rw [Imports.of, List.mem_eraseDups, List.mem_map]
  rfl

theorem nodup_tops (f : SourceFile) : (Imports.of f).tops.Nodup := nodup_eraseDups _

/-- A simple name is ambiguous exactly if two top-level classes have it. -/
theorem isAmbiguous_iff (known : f.TopLevel t) :
    (Imports.of f).isAmbiguous t.outer = true ↔ ¬ f.IsSole t := by
  have mem (u : ClassName) :
      u ∈ (Imports.of f).sharing t.outer ↔ f.TopLevel u ∧ u.outer = t.outer := by
    rw [sharing, List.mem_filter, mem_tops_iff, decide_eq_true_iff]
  have there : t ∈ (Imports.of f).sharing t.outer := (mem t).mpr ⟨known, rfl⟩
  have once : ((Imports.of f).sharing t.outer).Nodup := (nodup_tops f).filter _
  have several : 1 < ((Imports.of f).sharing t.outer).length ↔
      (Imports.of f).sharing t.outer ≠ [t] := by
    cases shared : (Imports.of f).sharing t.outer with
    | nil => simp [shared] at there
    | cons u us =>
      have either : t = u ∨ t ∈ us := List.mem_cons.mp (shared ▸ there)
      cases us with
      | nil => simpa [eq_comm] using either
      | cons v us => simp
  rw [isAmbiguous, decide_eq_true_iff, several, once.ne_singleton_iff,
    or_iff_right (List.ne_nil_of_mem there), SourceFile.IsSole]
  simp only [mem, not_forall, exists_prop, and_assoc, ne_eq]

theorem isNear_iff {package : String} :
    (Imports.of f).isNear package = true ↔ package = f.package ∨ package = "java.lang" := by
  rw [isNear, Bool.or_eq_true, decide_eq_true_iff, decide_eq_true_iff]
  rfl

theorem imports_iff : (Imports.of f).imports t = true ↔ f.NeedsImport t := by
  have near : (Imports.of f).isNear t.package = false ↔
      t.package ≠ f.package ∧ t.package ≠ "java.lang" := by
    rw [← Bool.not_eq_true, isNear_iff, not_or]
  rw [imports]
  simp only [Bool.and_eq_true, Bool.not_eq_true', List.contains_iff_mem, mem_tops_iff, near,
    String.isEmpty_eq_false_iff]
  constructor
  · rintro ⟨⟨⟨known, single⟩, foreign, explicit⟩, inPackage⟩
    have sole : f.IsSole t := by
      by_contra other
      rw [(isAmbiguous_iff known).mpr other] at single
      cases single
    exact ⟨known, sole, inPackage, explicit, foreign⟩
  · intro need
    have single : (Imports.of f).isAmbiguous t.outer = false := by
      by_contra several
      exact (isAmbiguous_iff need.topLevel).mp (by simpa using several) need.sole
    exact ⟨⟨⟨need.topLevel, single⟩, need.foreign, need.notImplicit⟩, need.inPackage⟩

/-- The import lines are in order, and name each class once that needs an import. -/
theorem lines_exact (f : SourceFile) :
    (Imports.of f).lines.Pairwise (· ≤ ·) ∧ ∃ ts : List ClassName, ts.Nodup ∧
      (∀ t, t ∈ ts ↔ f.NeedsImport t) ∧
      (Imports.of f).lines.Perm (ts.map (·.canonicalName)) := by
  constructor
  · have trans (a b c : String) : decide (a ≤ b) = true → decide (b ≤ c) = true →
        decide (a ≤ c) = true := by simpa using String.le_trans
    have total (a b : String) : (decide (a ≤ b) || decide (b ≤ a)) = true := by
      simpa using String.le_total a b
    exact (List.pairwise_mergeSort trans total _).imp of_decide_eq_true
  · refine ⟨(Imports.of f).tops.filter (Imports.of f).imports, (nodup_tops f).filter _, fun t => ?_,
      List.mergeSort_perm _ _⟩
    rw [List.mem_filter, mem_tops_iff, imports_iff]
    exact and_iff_right_of_imp SourceFile.NeedsImport.topLevel

/-- The simple names of a class are used exactly if they mean it. -/
theorem isShort_iff (known : f.TopLevel c.topLevel) :
    (Imports.of f).isShort c = true ↔ f.KnowsShort c := by
  rw [SourceFile.KnowsShort]
  by_cases need : f.NeedsImport c.topLevel
  · have imported : (Imports.of f).imports c.topLevel = true := imports_iff.mpr need
    exact iff_of_true (if_pos imported) ⟨need.sole, .inl need⟩
  · have notImported : ¬ (Imports.of f).imports c.topLevel = true := mt imports_iff.mp need
    rw [isShort, if_neg notImported]
    by_cases sole : f.IsSole c.topLevel
    · have single : ¬ (Imports.of f).isAmbiguous c.topLevel.outer = true :=
        mt (isAmbiguous_iff known).mp (not_not.mpr sole)
      have noOther : ¬ (Imports.of f).importsName c.topLevel.outer = true := by
        rw [importsName, List.any_eq_true]
        rintro ⟨u, hu, shared⟩
        simp only [Bool.and_eq_true, decide_eq_true_iff] at shared
        have same : u = c.topLevel := sole u (mem_tops_iff.mp hu) shared.1
        exact notImported (same ▸ shared.2)
      rw [if_neg (by simp [single, noOther]), isNear_iff]
      simp [sole, need, ClassName.package_topLevel]
    · have several : (Imports.of f).isAmbiguous c.topLevel.outer = true :=
        (isAmbiguous_iff known).mpr sole
      rw [if_pos (by simp [several])]
      exact iff_of_false Bool.false_ne_true fun h => sole h.1

end Imports

/-! ## 3. Spelled classes -/

namespace Imports

variable {f : SourceFile} {c d : ClassName}

theorem spell_cases (known : f.TopLevel c.topLevel) :
    f.KnowsShort c ∧ (Imports.of f).spell c = c.nestedName ∨
      ¬ f.KnowsShort c ∧ (Imports.of f).spell c = c.canonicalName := by
  by_cases means : f.KnowsShort c
  · exact .inl ⟨means, if_pos ((isShort_iff known).mpr means)⟩
  · exact .inr ⟨means, if_neg (mt (isShort_iff known).mp means)⟩

/-- What is spelled by simple names is known by them, unless it is outside all packages. -/
theorem knowsShort_of_spell (known : f.TopLevel c.topLevel)
    (short : (Imports.of f).spell c = c.nestedName) : f.KnowsShort c ∨ c.package = "" := by
  rcases spell_cases known with ⟨means, -⟩ | ⟨-, canonical⟩
  · exact .inl means
  · exact .inr (ClassName.canonicalName_eq_nestedName_iff.mp (canonical.symm.trans short))

/-- Simple names that start with the same one belong to the same top-level class. -/
theorem topLevel_eq_of_spell (knownC : f.TopLevel c.topLevel) (knownD : f.TopLevel d.topLevel)
    (shortC : (Imports.of f).spell c = c.nestedName)
    (shortD : (Imports.of f).spell d = d.nestedName) (same : c.outer = d.outer) :
    c.topLevel = d.topLevel := by
  rcases knowsShort_of_spell knownC shortC with means | outsideC
  · exact (means.1 d.topLevel knownD same.symm).symm
  rcases knowsShort_of_spell knownD shortD with means | outsideD
  · exact means.1 c.topLevel knownC same
  · rw [ClassName.topLevel, ClassName.topLevel, outsideC, outsideD, same]

end Imports

/-! ## 4. Rendered files -/

namespace SourceFile

/-- What stands above the imports of a file: the comment and the package. -/
def opening (f : SourceFile) : String :=
  String.join ((f.comment.elim [] Text.lines).map commentLine)
    ++ (if f.package.isEmpty then "" else "package " ++ f.package ++ ";\n\n")

/-- The imports of a file, given the imported names. -/
def importBlock (names : List String) : String :=
  String.join (names.map fun l => "import " ++ l ++ ";\n") ++ (if names.isEmpty then "" else "\n")

theorem header_eq (f : SourceFile) (im : Imports) :
    f.header im = f.opening ++ importBlock im.lines := by
  rw [header, opening, importBlock, List.isEmpty_map, ← String.append_assoc]

/-- The type of the file is written by these strokes, whatever the file imports. -/
def IsDrawnBy (f : SourceFile) (ss : List Stroke) : Prop :=
  ∀ im p, p.depth = 0 → emitType im f.type p = .ok (drawAll im ss p)

/-- The text is that of the file, its type is written by the strokes, which spell each class that
occurs in it at its place, and each of its names means one class. -/
structure ResolvesClasses (f : SourceFile) (width : Nat) (text : String) (ss : List Stroke) :
    Prop where
  /-- The imported names are in order. -/
  sorted : (Imports.of f).lines.Pairwise (· ≤ ·)
  /-- Each class that needs an import is imported once, and no other one is. -/
  exact : ∃ ts : List ClassName, ts.Nodup ∧ (∀ t, t ∈ ts ↔ f.NeedsImport t) ∧
    (Imports.of f).lines.Perm (ts.map (·.canonicalName))
  /-- The imports stand above all of the type. -/
  above : ∃ rest, text = f.opening ++ importBlock (Imports.of f).lines ++ rest
  /-- The type is all that stands below the imports. -/
  below : text = (drawAll (.of f) ss
    (Page.start.write (f.opening ++ importBlock (Imports.of f).lines))).print width
  drawn : f.IsDrawnBy ss
  /-- Each place of the type where a class stands has a stroke that spells the class. -/
  placed : spelledBy ss = f.type.occurrences
  /-- The outermost class around each class in the text is among those the imports are made for. -/
  known : ∀ c ∈ f.type.occurrences, f.TopLevel c.topLevel
  /-- A class has its simple names where these mean it, and its canonical name elsewhere. -/
  spelled : ∀ c ∈ f.type.occurrences,
    f.KnowsShort c ∧ (Imports.of f).spell c = c.nestedName ∨
      ¬ f.KnowsShort c ∧ (Imports.of f).spell c = c.canonicalName
  /-- Names that look short and start with the same simple name mean one top-level class. -/
  apart : ∀ c ∈ f.type.occurrences, ∀ d ∈ f.type.occurrences,
    (Imports.of f).spell c = c.nestedName → (Imports.of f).spell d = d.nestedName →
      c.outer = d.outer → c.topLevel = d.topLevel
  /-- No import shadows the file's own class. -/
  unshadowed : ∀ t, f.NeedsImport t → t.outer ≠ f.type.name

variable {f : SourceFile} {width : Nat} {text : String}

/-- The type of a file that is written is written by strokes, from the page with the header on. -/
theorem exists_strokes_of_page {p : Page} (made : f.page = .ok p) :
    ∃ ss, f.IsDrawnBy ss ∧ spelledBy ss = f.type.occurrences ∧
      p = drawAll (.of f) ss (Page.start.write (f.header (.of f))) := by
  obtain ⟨r, placed, drawn⟩ := type_draws f.type 0
  have written : emitType (.of f) f.type (Page.start.write (f.header (.of f))) =
      r.map fun ss => drawAll (.of f) ss (Page.start.write (f.header (.of f))) :=
    drawn (.of f) _ (Page.depth_write _ _)
  rw [page] at made
  split at made
  case isTrue => cases made
  case isFalse =>
    rw [written] at made
    cases r with
    | error => cases made
    | ok ss =>
      cases made
      exact ⟨ss, drawn, placed ss rfl, rfl⟩

/-- The text of a file that renders is that of the strokes. -/
theorem exists_strokes (rendered : f.render width = .ok text) :
    ∃ ss, f.IsDrawnBy ss ∧ spelledBy ss = f.type.occurrences ∧
      text = (drawAll (.of f) ss (Page.start.write (f.header (.of f)))).print width := by
  rw [render] at rendered
  cases made : f.page with
  | error =>
    rw [made] at rendered
    cases rendered
  | ok p =>
    rw [made] at rendered
    cases rendered
    obtain ⟨ss, drawn, placed, drawing⟩ := exists_strokes_of_page made
    exact ⟨ss, drawn, placed, by rw [drawing]⟩

/-- A file that renders imports the classes that need it, and spells all classes in accordance. -/
theorem render_resolves_classes (rendered : f.render width = .ok text) :
    ∃ ss, f.ResolvesClasses width text ss := by
  obtain ⟨ss, drawn, placed, made⟩ := exists_strokes rendered
  have known (c : ClassName) (there : c ∈ f.type.occurrences) : f.TopLevel c.topLevel :=
    ⟨c, List.mem_append_left _ (f.type.occurrences_subset there), rfl⟩
  obtain ⟨sorted, exact⟩ := Imports.lines_exact f
  refine ⟨ss, sorted, exact, ?_, ?_, drawn, placed, known,
    fun c there => Imports.spell_cases (known c there),
    fun c thereC d thereD => Imports.topLevel_eq_of_spell (known c thereC) (known d thereD),
    fun t need => need.outer_ne⟩
  · obtain ⟨rest, continued⟩ := isContinuedBy_drawAll (.of f) ss
      (Page.start.write (f.header (.of f))) width
    have header : (Page.start.write (f.header (.of f))).print width = f.header (.of f) :=
      (Page.print_write rfl _ width).trans
        (by simp [Page.print, Page.start, Line.print, Line.blank])
    exact ⟨rest, by rw [made, continued, header, header_eq]⟩
  · rw [made, header_eq]

/-- A class whose name another class has, with two more of one name, and one to import. -/
def holder : SourceFile where
  package := "com.example"
  type := { TypeDecl.ofKind (.classNamed "Holder") with
    fields := [.plain (.ofClass ⟨"com.a", "Module", []⟩) "first",
      .plain (.ofClass ⟨"com.b", "Module", []⟩) "second",
      .plain (.ofClass ⟨"com.c", "Holder", []⟩) "third",
      .plain (.ofClass ⟨"com.d", "Log", ["Entry"]⟩) "fourth"] }

theorem render_holder_resolves_classes :
    ∃ text, holder.render 4 = .ok text ∧ ∃ ss, holder.ResolvesClasses 4 text ss := by
  have fields : ∀ d ∈ holder.type.fields, Emit.Keeps (emitField (.of holder) false d) := by
    intro d hd
    refine emitField_keeps false ?_ ?_
    all_goals
      simp only [holder, List.mem_cons, List.not_mem_nil, or_false] at hd
      rcases hd with rfl | rfl | rfl | rfl <;> simp [FieldDecl.plain]
  obtain ⟨text, rendered⟩ := render_ok rfl (by decide)
    (emitType_keeps rfl (List.forall_mem_nil _) ⟨fields, List.forall_mem_nil _⟩) 4
  exact ⟨text, rendered, render_resolves_classes rendered⟩

end SourceFile

end ComponentWiring.Java
