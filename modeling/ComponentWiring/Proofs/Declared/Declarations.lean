/-
ComponentWiring.Proofs.Declared.Declarations — which indexes declare types.

* `ClassDeclaration.IsSound` — an entry declares a type, whatever the other entries are.
* `ClassDeclaration.Declares` — the type that it declares.
* `ClassDeclaration.Offends` — what is wrong with an entry, given the names declared before it.
* `elementsAfter_ok_iff`, `elementsAfter_error_iff` — the types of the entries, or the fault of the
  first one that offends.
* `readIndex_exact` — all about an index that was decoded.
-/
import ComponentWiring.Declared.Reader
import ComponentWiring.Proofs.Outcome
import Mathlib

namespace ComponentWiring

/-! ## 1. Methods -/

namespace MethodDeclaration

/-- The method has the parts of the entry, in order. -/
structure Declares (d : MethodDeclaration) (m : MethodElement) : Prop where
  name : m.name = d.name
  kind : m.kind = .method
  modifiers : m.modifiers = d.modifiers
  returns : m.returns = d.returns.elim .absent .ofText
  parameters : m.parameters = d.parameters.map fun p => (p.1, .ofText p.2)
  annotations : m.annotations = d.annotations

variable {d : MethodDeclaration} {owner : String}

theorem toElement_ok_iff {m : MethodElement} :
    d.toElement owner = .ok m ↔ Text.trim d.name ≠ "" ∧ d.Declares m := by
  rw [toElement, ne_eq, Text.trim_eq_empty_iff]
  split
  · next blank => simp [blank]
  · next named =>
    rw [Except.ok.injEq, and_iff_right named]
    constructor
    · rintro rfl
      exact ⟨rfl, rfl, rfl, rfl, rfl, rfl⟩
    · intro declares
      cases m
      simp only [← declares.name, ← declares.kind, ← declares.modifiers, ← declares.returns,
        ← declares.parameters, ← declares.annotations]

theorem toElement_error_iff {f : IndexFault} :
    d.toElement owner = .error f ↔ Text.trim d.name = "" ∧ f = .blankMethod owner := by
  rw [toElement, Text.trim_eq_empty_iff]
  split
  · next blank => simp [blank, eq_comm]
  · next named => simp [named]

theorem mapM_toElement_ok_iff {ds : List MethodDeclaration} {ms : List MethodElement} :
    ds.mapM (toElement owner) = .ok ms ↔
      (∀ d ∈ ds, Text.trim d.name ≠ "") ∧ List.Forall₂ Declares ds ms := by
  simp only [mapM_ok_iff, toElement_ok_iff, List.forall₂_and_left]

theorem mapM_toElement_error_iff {ds : List MethodDeclaration} {f : IndexFault} :
    ds.mapM (toElement owner) = .error f ↔
      (∃ d ∈ ds, Text.trim d.name = "") ∧ f = .blankMethod owner := by
  have only {f : IndexFault} (h : ds.mapM (toElement owner) = .error f) :
      (∃ d ∈ ds, Text.trim d.name = "") ∧ f = .blankMethod owner := by
    obtain ⟨before, d, after, rfl, -, fails⟩ := mapM_error_iff.mp h
    obtain ⟨blank, rfl⟩ := toElement_error_iff.mp fails
    exact ⟨⟨d, by simp, blank⟩, rfl⟩
  refine ⟨only, ?_⟩
  rintro ⟨⟨d, hd, blank⟩, rfl⟩
  cases made : ds.mapM (toElement owner) with
  | ok ms => exact absurd blank ((mapM_toElement_ok_iff.mp made).1 d hd)
  | error f => rw [(only made).2]

end MethodDeclaration

/-! ## 2. Types -/

namespace ClassDeclaration

/-- The name that the entry declares. -/
def declaredName (d : ClassDeclaration) : String := Text.trim d.name

/-- The entry names a type and its methods. -/
structure IsSound (d : ClassDeclaration) : Prop where
  named : d.declaredName ≠ ""
  type : d.kind.isType = true
  methods : ∀ m ∈ d.methods, Text.trim m.name ≠ ""

/-- The type has the parts of the entry, in order. -/
structure Declares (d : ClassDeclaration) (t : TypeElement) : Prop where
  name : t.qualifiedName = d.declaredName
  package : t.package = d.package.getD (guessedPackage d.declaredName)
  kind : t.kind = d.kind
  modifiers : t.modifiers = d.modifiers
  /-- An interface has no superclass, whatever the entry says. -/
  aboveInterface : d.kind = .interfaceType → t.superclass = .absent
  /-- Every other type has the superclass that the entry names. -/
  aboveNamed : d.kind ≠ .interfaceType → ∀ s, d.superclass = some s → t.superclass = .ofText s
  /-- Where none is named, a class extends the root class, unless it is the root class. -/
  aboveUnnamed : d.superclass = none → t.superclass =
    if d.kind = .classType ∧ d.declaredName ≠ rootClass then .named rootClass else .absent
  interfaces : t.interfaces = d.interfaces.map .ofText
  typeParameters : t.typeParameters = d.typeParameters
  annotations : t.annotations = d.annotations
  methods : List.Forall₂ MethodDeclaration.Declares d.methods t.methods

/-- What is wrong with an entry after others that have declared the names. The tests are made in
this order, so each fault means that all tests before it are passed. -/
inductive Offends (seen : List String) (d : ClassDeclaration) : IndexFault → Prop
  | blankName (blank : d.declaredName = "") : Offends seen d .blankName
  | notAType (named : d.declaredName ≠ "") (other : d.kind.isType = false) :
    Offends seen d (.notAType d.declaredName d.kind)
  | blankMethod (named : d.declaredName ≠ "") (type : d.kind.isType = true)
    (methods : ∃ m ∈ d.methods, Text.trim m.name = "") :
    Offends seen d (.blankMethod d.declaredName)
  | declaredTwice (sound : d.IsSound) (again : d.declaredName ∈ seen) :
    Offends seen d (.declaredTwice d.declaredName)

variable {d : ClassDeclaration} {t : TypeElement} {f : IndexFault}

/-- What a sound entry with the methods declares. -/
def elementWith (d : ClassDeclaration) (methods : List MethodElement) : TypeElement where
  qualifiedName := d.declaredName
  package := d.package.getD (guessedPackage d.declaredName)
  kind := d.kind
  modifiers := d.modifiers
  superclass := d.superclassRef
  interfaces := d.interfaces.map .ofText
  typeParameters := d.typeParameters
  annotations := d.annotations
  methods := methods

theorem toElement_of_blank (blank : d.declaredName = "") : d.toElement = .error .blankName := by
  have empty : (Text.trim d.name).isEmpty = true := String.isEmpty_iff.mpr blank
  simp only [toElement, empty, if_true]
  rfl

theorem toElement_of_not_isType (named : d.declaredName ≠ "") (other : d.kind.isType = false) :
    d.toElement = .error (.notAType d.declaredName d.kind) := by
  have full : ¬ (Text.trim d.name).isEmpty = true := fun empty =>
    named (String.isEmpty_iff.mp empty)
  simp only [toElement, if_neg full, other]
  rfl

theorem toElement_of_isType (named : d.declaredName ≠ "") (type : d.kind.isType = true) :
    d.toElement = do
      let methods ← d.methods.mapM (MethodDeclaration.toElement d.declaredName)
      return d.elementWith methods := by
  have full : ¬ (Text.trim d.name).isEmpty = true := fun empty =>
    named (String.isEmpty_iff.mp empty)
  simp only [toElement, if_neg full, type]
  rfl

theorem superclassRef_iff {r : TypeRef} : r = d.superclassRef ↔
    (d.kind = .interfaceType → r = .absent) ∧
    (d.kind ≠ .interfaceType → ∀ s, d.superclass = some s → r = .ofText s) ∧
    (d.superclass = none → r =
      if d.kind = .classType ∧ d.declaredName ≠ rootClass then .named rootClass else .absent) := by
  unfold superclassRef declaredName
  cases d.kind <;> cases d.superclass <;> simp

theorem declares_iff :
    d.Declares t ↔ ∃ ms, List.Forall₂ MethodDeclaration.Declares d.methods ms ∧
      t = d.elementWith ms := by
  constructor
  · intro declares
    refine ⟨t.methods, declares.methods, ?_⟩
    have above : t.superclass = d.superclassRef := superclassRef_iff.mpr
      ⟨declares.aboveInterface, declares.aboveNamed, declares.aboveUnnamed⟩
    cases t
    simp only [elementWith, TypeElement.mk.injEq]
    exact ⟨declares.name, declares.package, declares.kind, declares.modifiers, above,
      declares.interfaces, declares.typeParameters, declares.annotations, trivial⟩
  · rintro ⟨ms, methods, rfl⟩
    obtain ⟨aboveInterface, aboveNamed, aboveUnnamed⟩ :=
      superclassRef_iff.mp (rfl : d.superclassRef = d.superclassRef)
    exact {
      name := rfl, package := rfl, kind := rfl, modifiers := rfl
      aboveInterface, aboveNamed, aboveUnnamed
      interfaces := rfl, typeParameters := rfl, annotations := rfl, methods }

theorem toElement_ok_iff : d.toElement = .ok t ↔ d.IsSound ∧ d.Declares t := by
  by_cases blank : d.declaredName = ""
  · rw [toElement_of_blank blank]
    exact iff_of_false (by simp) fun h => h.1.named blank
  by_cases type : d.kind.isType = true
  · simp only [toElement_of_isType blank type, bind_ok_iff,
      MethodDeclaration.mapM_toElement_ok_iff, declares_iff]
    constructor
    · rintro ⟨ms, ⟨named, methods⟩, put⟩
      exact ⟨⟨blank, type, named⟩, ms, methods, (Except.ok.inj put).symm⟩
    · rintro ⟨sound, ms, methods, rfl⟩
      exact ⟨ms, ⟨sound.methods, methods⟩, rfl⟩
  · rw [toElement_of_not_isType blank (by simpa using type)]
    exact iff_of_false (by simp) fun h => type h.1.type

/-- On its own, an entry offends exactly if it declares no type. -/
theorem toElement_error_iff : d.toElement = .error f ↔ d.Offends [] f := by
  constructor
  · intro refused
    by_cases blank : d.declaredName = ""
    · cases (toElement_of_blank blank).symm.trans refused
      exact .blankName blank
    by_cases type : d.kind.isType = true
    · rw [toElement_of_isType blank type, bind_error_iff] at refused
      rcases refused with fails | ⟨_, _, put⟩
      · obtain ⟨methods, rfl⟩ := MethodDeclaration.mapM_toElement_error_iff.mp fails
        exact .blankMethod blank type methods
      · cases put
    · rw [Bool.not_eq_true] at type
      cases (toElement_of_not_isType blank type).symm.trans refused
      exact .notAType blank type
  · intro offends
    cases offends with
    | blankName blank => exact toElement_of_blank blank
    | notAType named other => exact toElement_of_not_isType named other
    | blankMethod named type methods =>
      rw [toElement_of_isType named type, bind_error_iff]
      exact .inl (MethodDeclaration.mapM_toElement_error_iff.mpr ⟨methods, rfl⟩)
    | declaredTwice _ again => cases again

theorem Offends.not_isSound (offends : d.Offends [] f) : ¬ d.IsSound := by
  intro sound
  cases offends with
  | blankName blank => exact sound.named blank
  | notAType _ other => exact Bool.false_ne_true (other.symm.trans sound.type)
  | blankMethod _ _ methods =>
    obtain ⟨m, hm, blank⟩ := methods
    exact sound.methods m hm blank
  | declaredTwice _ again => exact List.not_mem_nil again

/-- An entry is refused by itself, or it is sound and declares a type. -/
theorem offends_or_declares (d : ClassDeclaration) :
    (∃ f, d.Offends [] f) ∨ d.IsSound ∧ ∃ t, d.Declares t := by
  cases made : d.toElement with
  | error f => exact .inl ⟨f, toElement_error_iff.mp made⟩
  | ok t =>
    obtain ⟨sound, declares⟩ := toElement_ok_iff.mp made
    exact .inr ⟨sound, t, declares⟩

/-- An entry offends by itself, or it is sound and repeats a name. -/
theorem offends_iff {seen : List String} : d.Offends seen f ↔
    d.Offends [] f ∨ d.IsSound ∧ d.declaredName ∈ seen ∧ f = .declaredTwice d.declaredName := by
  constructor
  · intro offends
    cases offends with
    | blankName blank => exact .inl (.blankName blank)
    | notAType named other => exact .inl (.notAType named other)
    | blankMethod named type methods => exact .inl (.blankMethod named type methods)
    | declaredTwice sound again => exact .inr ⟨sound, again, rfl⟩
  · rintro (offends | ⟨sound, again, rfl⟩)
    · cases offends with
      | blankName blank => exact .blankName blank
      | notAType named other => exact .notAType named other
      | blankMethod named type methods => exact .blankMethod named type methods
      | declaredTwice _ again => cases again
    · exact .declaredTwice sound again

theorem Offends.congr {seen seen' : List String} (offends : d.Offends seen f)
    (same : ∀ n, n ∈ seen' ↔ n ∈ seen) : d.Offends seen' f := by
  rw [offends_iff] at offends ⊢
  rwa [same]

end ClassDeclaration

/-! ## 3. Indexes -/

open ClassDeclaration

variable {seen : List String} {d : ClassDeclaration} {ds : List ClassDeclaration}
  {ts : List TypeElement} {f : IndexFault}

theorem elementsAfter_of_offends (offends : d.Offends [] f) :
    elementsAfter seen (d :: ds) = .error f := by
  rw [elementsAfter, toElement_error_iff.mpr offends]
  rfl

/-- An entry that declares a type repeats a name or hands its own on to the others. -/
theorem elementsAfter_of_declares {t : TypeElement} (sound : d.IsSound) (declares : d.Declares t) :
    elementsAfter seen (d :: ds) =
      if d.declaredName ∈ seen then .error (.declaredTwice d.declaredName)
      else (elementsAfter (d.declaredName :: seen) ds).map (t :: ·) := by
  have made := toElement_ok_iff.mpr ⟨sound, declares⟩
  by_cases again : d.declaredName ∈ seen
  · have known : seen.contains t.qualifiedName = true := by
      rwa [List.contains_iff_mem, declares.name]
    rw [if_pos again, elementsAfter, made, ← declares.name]
    simp only [bind, Except.bind, known, if_true]
    rfl
  · have new : ¬ seen.contains t.qualifiedName = true := by
      rwa [List.contains_iff_mem, declares.name]
    rw [if_neg again, elementsAfter, made, ← declares.name]
    simp only [bind, Except.bind, if_neg new]
    rfl

theorem elementsAfter_cons_ok_iff :
    elementsAfter seen (d :: ds) = .ok ts ↔ d.IsSound ∧ d.declaredName ∉ seen ∧
      ∃ t us, d.Declares t ∧ elementsAfter (d.declaredName :: seen) ds = .ok us ∧ ts = t :: us := by
  rcases offends_or_declares d with ⟨f, offends⟩ | ⟨sound, t, declares⟩
  · rw [elementsAfter_of_offends offends]
    exact iff_of_false (by simp) fun h => offends.not_isSound h.1
  rw [elementsAfter_of_declares sound declares]
  split
  · next again => exact iff_of_false (by simp) fun h => h.2.1 again
  · next new =>
    rw [map_ok_iff]
    constructor
    · rintro ⟨us, rest, rfl⟩
      exact ⟨sound, new, t, us, declares, rest, rfl⟩
    · rintro ⟨-, -, t', us, declares', rest, rfl⟩
      -- The entry declares no other type.
      have made := toElement_ok_iff.mpr ⟨sound, declares⟩
      cases made.symm.trans (toElement_ok_iff.mpr ⟨sound, declares'⟩)
      exact ⟨us, rest, rfl⟩

/-- The entries are sound, and none of them repeats a name, be it their own or one seen before. -/
structure AreSound (seen : List String) (ds : List ClassDeclaration) : Prop where
  each : ∀ d ∈ ds, d.IsSound
  distinct : (ds.map declaredName).Nodup
  new : ∀ d ∈ ds, d.declaredName ∉ seen

theorem areSound_nil : AreSound seen [] := ⟨nofun, List.nodup_nil, nofun⟩

theorem areSound_cons_iff : AreSound seen (d :: ds) ↔
    d.IsSound ∧ d.declaredName ∉ seen ∧ AreSound (d.declaredName :: seen) ds := by
  constructor
  · intro h
    obtain ⟨sound, each⟩ := List.forall_mem_cons.mp h.each
    obtain ⟨new, others⟩ := List.forall_mem_cons.mp h.new
    obtain ⟨once, distinct⟩ := List.nodup_cons.mp h.distinct
    refine ⟨sound, new, each, distinct, fun e he => ?_⟩
    rw [List.mem_cons, not_or]
    exact ⟨fun same => once (List.mem_map.mpr ⟨e, he, same⟩), others e he⟩
  · rintro ⟨sound, new, h⟩
    have others (e : ClassDeclaration) (he : e ∈ ds) :
        e.declaredName ≠ d.declaredName ∧ e.declaredName ∉ seen := by
      simpa only [List.mem_cons, not_or] using h.new e he
    refine ⟨List.forall_mem_cons.mpr ⟨sound, h.each⟩, List.nodup_cons.mpr ⟨?_, h.distinct⟩,
      List.forall_mem_cons.mpr ⟨new, fun e he => (others e he).2⟩⟩
    intro again
    obtain ⟨e, he, same⟩ := List.mem_map.mp again
    exact (others e he).1 same

/-- The types of the entries are declared by them, one by each, if no entry offends. -/
theorem elementsAfter_ok_iff :
    elementsAfter seen ds = .ok ts ↔ AreSound seen ds ∧ List.Forall₂ Declares ds ts := by
  induction ds generalizing seen ts with
  | nil =>
    rw [elementsAfter, Except.ok.injEq, List.forall₂_nil_left_iff, and_iff_right areSound_nil,
      eq_comm]
  | cons d ds ih =>
    simp only [elementsAfter_cons_ok_iff, areSound_cons_iff, List.forall₂_cons_left_iff, ih]
    constructor
    · rintro ⟨sound, new, t, us, declares, ⟨others, rest⟩, rfl⟩
      exact ⟨⟨sound, new, others⟩, t, us, declares, rest, rfl⟩
    · rintro ⟨⟨sound, new, others⟩, t, us, declares, rest, rfl⟩
      exact ⟨sound, new, t, us, declares, ⟨others, rest⟩, rfl⟩

end ComponentWiring
