/-
ComponentWiring.Proofs.Discovery.Root — when a round has an application root.

* `violations_eq_eraseDups` — what a validator gathers is what the rules say, each message once.
* `AnnotationElement.NamesReadable` — a member names a class by a name that can be read.
* `applicationRoot_ok_iff` — the root is the only annotated element, if it is an application.
* `readable_modules_iff` — its modules are given and can be read exactly if its annotation names
  readable classes.
-/
import ComponentWiring.Discovery.Application
import ComponentWiring.Proofs.Discovery.Verdicts
import ComponentWiring.Proofs.Java.Names
import ComponentWiring.Proofs.Keyed
import ComponentWiring.Proofs.Run.Stages

namespace ComponentWiring

open Java

/-! ## 1. The class -/

theorem soleClass_ok_iff {s : TypeStore} {es : List Element} {t : TypeElement} :
    soleClass s es = .ok t ↔ es = [.type t] ∧ t.isClass = true ∧ s.isValid t = true := by
  match es with
  | [] => simp [soleClass]
  | e :: second :: es => simp [soleClass]
  | [e] =>
    rw [soleClass]
    cases class? : e.class? with
    | none =>
      refine iff_of_false (by simp) ?_
      intro h
      obtain ⟨only, isClass, _⟩ := h
      cases only
      cases class?.symm.trans (Element.class?_eq_some_iff.mpr ⟨rfl, isClass⟩)
    | some u =>
      obtain ⟨rfl, isClass⟩ := Element.class?_eq_some_iff.mp class?
      by_cases valid : s.isValid u = true
      · simp only [if_pos valid, Except.ok.injEq]
        constructor
        · rintro rfl
          exact ⟨rfl, isClass, valid⟩
        · intro h
          obtain ⟨only, _, _⟩ := h
          cases only
          rfl
      · refine iff_of_false (by simp [valid]) ?_
        intro h
        obtain ⟨only, _, valid'⟩ := h
        cases only
        exact valid valid'

/-! ## 2. Rules -/

section Rules

variable {s : TypeStore} {e : Element} {marker : String} {checks : List Check}

/-- Checking changes nothing but the messages. -/
theorem Validator.checkAll_eq (v : Validator) (checks : List Check) :
    v.checkAll checks = { v with messages := (v.checkAll checks).messages } := by
  induction checks generalizing v with
  | nil => rfl
  | cons c checks ih =>
    rw [checkAll, List.foldl_cons, ← checkAll, ih]
    rfl

/-- One more rule adds what it says, unless that is known. -/
theorem violations_concat {c : Check} : violations s e marker (checks ++ [c]) =
    Validator.withMessage (violations s e marker checks) (c.violation? s e marker) := by
  have last : Validator.checkAll ⟨s, e, marker, []⟩ (checks ++ [c]) =
      (Validator.checkAll ⟨s, e, marker, []⟩ checks).check c := List.foldl_append
  rw [violations, last, Validator.checkAll_eq]
  rfl

/-- What is gathered is what the rules say, each message where it is said first. -/
theorem violations_eq_eraseDups (s : TypeStore) (e : Element) (marker : String)
    (checks : List Check) : violations s e marker checks =
      (checks.filterMap (Check.violation? s e marker)).eraseDups := by
  induction checks using List.reverseRecOn with
  | nil => rfl
  | append_singleton checks c ih =>
    rw [violations_concat, ih, List.filterMap_append, List.filterMap_cons]
    cases c.violation? s e marker with
    | none => simp [Validator.withMessage]
    | some m => simp [Validator.withMessage, eraseDups_concat]

/-- An element is refused with all that is gathered. -/
theorem validate_eq (s : TypeStore) (e : Element) (marker : String) (checks : List Check) :
    validate s e marker checks =
      match violations s e marker checks with
      | [] => .ok ()
      | messages => .error (.violations e.displayName messages) := by
  rw [validate, Validator.checkAll_eq]
  rfl

/-- An element passes the rules if it breaks none of them. -/
theorem validate_ok_iff :
    validate s e marker checks = .ok () ↔ ∀ c ∈ checks, c.violation? s e marker = none := by
  have nothing : violations s e marker checks = [] ↔
      ∀ c ∈ checks, c.violation? s e marker = none := by
    rw [violations_eq_eraseDups, ← List.filterMap_eq_nil_iff]
    cases checks.filterMap (Check.violation? s e marker) with
    | nil => simp
    | cons m ms => simp [List.eraseDups_cons]
  rw [← nothing, validate_eq]
  cases violations s e marker checks <;> simp

end Rules

/-! ## 3. The application -/

theorem validate_inherits_iff {s : TypeStore} {t : TypeElement} {marker base : String}
    (isClass : t.isClass = true) (valid : s.isValid t = true)
    (known : s.get? t.qualifiedName = some t) :
    validate s (.type t) marker [.inherits base] = .ok () ↔ s.IsBelow base t := by
  have class? : (Element.type t).class? = some t := Element.class?_eq_some_iff.mpr ⟨rfl, isClass⟩
  rw [validate_ok_iff, List.forall_mem_singleton, Check.violation?, Check.inheritanceViolation,
    class?, TypeStore.isBelow_iff_contains isClass valid known]
  simp [TypeStore.inheritsFrom]

/-- An annotated type has the annotation. -/
theorem marker?_of_mem_elementsWith {r : Round} {marker : String} {t : TypeElement}
    (h : .type t ∈ r.elementsWith marker) : ∃ a, t.marker? marker = some a :=
  Option.isSome_iff_exists.mp (Round.type_mem_elementsWith_iff.mp h).2

/-- The root is the only annotated element, a class below the application base. Its modules are
read off its first annotation. -/
theorem applicationRoot_ok_iff {n : FrameworkNames} {r : Round} {root : ApplicationRoot} :
    applicationRoot n r = .ok root ↔ ∃ t a, r.elementsWith n.applicationMarker = [.type t] ∧
      r.store.IsBelow n.applicationBase t ∧ t.marker? n.applicationMarker = some a ∧
      ApplicationRoot.ofMarker r.store t a = .ok root := by
  unfold applicationRoot
  simp only [bind_ok_iff, mapError_ok_iff, soleClass_ok_iff]
  have mem {t : TypeElement} (only : r.elementsWith n.applicationMarker = [.type t]) :
      .type t ∈ r.elementsWith n.applicationMarker := by
    rw [only]
    exact List.mem_singleton_self _
  constructor
  · intro h
    obtain ⟨t, ⟨only, isClass, valid⟩, _, passed, made⟩ := h
    have known := r.declares_elementsWith _ t (mem only)
    obtain ⟨a, annotated⟩ := marker?_of_mem_elementsWith (mem only)
    rw [annotated] at made
    exact ⟨t, a, only, (validate_inherits_iff isClass valid known).mp passed, annotated, made⟩
  · intro h
    obtain ⟨t, a, only, below, annotated, made⟩ := h
    have known := r.declares_elementsWith _ t (mem only)
    refine ⟨t, ⟨only, below.isClass, below.valid⟩, (),
      (validate_inherits_iff below.isClass below.valid known).mpr below, ?_⟩
    rw [annotated]
    exact made

/-! ## 4. The modules -/

/-- The name by which a class literal means its class. -/
def ClassLiteral.name? : ClassLiteral → Option String
  | .loaded canonicalName _ => some canonicalName
  | .byReference type => type.name?

/-- The member names a class by a name that can be read. -/
def AnnotationElement.NamesReadable (a : AnnotationElement) (member : String) : Prop :=
  ∃ literal name, a.classValue? member = some literal ∧ literal.name? = some name ∧
    ClassName.IsReadable name

theorem qualifiedName_resolve (s : TypeStore) (literal? : Option ClassLiteral) :
    (ModuleRef.resolve s literal?).qualifiedName = (literal?.bind ClassLiteral.name?).getD "" := by
  match literal? with
  | none => rfl
  | some (.loaded _ _) => rfl
  | some (.byReference .absent) => rfl
  | some (.byReference (.unresolved _)) => rfl
  | some (.byReference (.named name)) =>
    rw [ModuleRef.resolve]
    cases known : s.get? name with
    | none => rfl
    | some t => exact TypeStore.qualifiedName_of_get? known

/-- A module is read exactly if the member names a readable class. -/
theorem readable_resolve_iff {s : TypeStore} {a : AnnotationElement} {member : String} :
    ClassName.IsReadable (ModuleRef.resolve s (a.classValue? member)).qualifiedName ↔
      a.NamesReadable member := by
  rw [qualifiedName_resolve, AnnotationElement.NamesReadable]
  have unreadable : ¬ ClassName.IsReadable "" := by decide
  cases given : a.classValue? member with
  | none => exact iff_of_false unreadable (by simp)
  | some literal =>
    cases named : literal.name? with
    | none => exact iff_of_false (by simpa [named] using unreadable) (by simp [named])
    | some name => simp [named]

/-- The modules are given and can be read exactly if the annotation names readable classes. -/
theorem readable_modules_iff {s : TypeStore} {t : TypeElement} {a : AnnotationElement} :
    (∃ root, ApplicationRoot.ofMarker s t a = .ok root ∧
      ClassName.IsReadable root.applicationModule.qualifiedName ∧
      ClassName.IsReadable root.activityModule.qualifiedName ∧
      ClassName.IsReadable root.fragmentModule.qualifiedName) ↔
    a.NamesReadable "application" ∧ a.NamesReadable "activity" ∧ a.NamesReadable "fragment" := by
  simp only [← readable_resolve_iff (s := s), ApplicationRoot.ofMarker]
  constructor
  · intro h
    obtain ⟨root, made, readable⟩ := h
    split at made
    · cases made
    · cases made
      exact readable
  · intro h
    obtain ⟨application, activity, fragment⟩ := h
    have given : ¬ ((ModuleRef.resolve s (a.classValue? "application")).isMissing
        || (ModuleRef.resolve s (a.classValue? "activity")).isMissing
        || (ModuleRef.resolve s (a.classValue? "fragment")).isMissing) = true := by
      simp [ModuleRef.isMissing, application.not_blank, activity.not_blank, fragment.not_blank]
    rw [if_neg given]
    exact ⟨_, rfl, application, activity, fragment⟩

end ComponentWiring
