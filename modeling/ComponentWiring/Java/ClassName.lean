/-
ComponentWiring.Java.ClassName — names of classes in generated sources.

* `ClassName` — a package, an outermost class and the classes nested in it.
* `ClassName.canonicalName` — the name with dots.
* `ClassName.parse?` — the class a dotted name means.

The main statement is `canonicalName_of_parse?`: a name that parses is the canonical name
of its class.
-/
import ComponentWiring.Declared.QualifiedName

namespace ComponentWiring.Java

/-! ## 1. Class names -/

/-- A class: its package, which is empty outside all packages, the outermost class, and
the classes nested in it, down to the class itself. -/
structure ClassName where
  package : String
  outer : String
  nested : List String := []
deriving DecidableEq, Inhabited

namespace ClassName

/-- The names of the classes from the outermost to the class itself. -/
def simpleNames (c : ClassName) : List String := c.outer :: c.nested

/-- The name of the class itself. -/
def simpleName (c : ClassName) : String := c.nested.getLast?.getD c.outer

/-- The class with one more class nested in it. -/
def nest (c : ClassName) (name : String) : ClassName := { c with nested := c.nested ++ [name] }

/-- The outermost class. -/
def topLevel (c : ClassName) : ClassName := { c with nested := [] }

/-- The names of the classes with dots between them, without the package. -/
def nestedName (c : ClassName) : String := Text.joinDots c.simpleNames

/-- A name in a package; the empty package leaves the name as it is. -/
def inPackage (package name : String) : String :=
  if package.isEmpty then name else package ++ "." ++ name

/-- The name with dots, from the package to the class itself. -/
def canonicalName (c : ClassName) : String := inPackage c.package c.nestedName

/-! ## 2. Reading names -/

/-- Whether a character may start an identifier. -/
def startsIdentifier (c : Char) : Bool := Text.isLetter c || c == '_' || c == '$'

/-- Whether a character may stand in an identifier. -/
def continuesIdentifier (c : Char) : Bool := Text.isLetterOrNumber c || c == '_' || c == '$'

/-- Whether a segment is an identifier. -/
def isIdentifier : List Char → Bool
  | [] => false
  | c :: cs => startsIdentifier c && cs.all continuesIdentifier

/-- The place where the class names of the segments start: the first segment with a
capital, or the last segment. -/
def classStart (segs : List (List Char)) : Nat :=
  if segs.any startsWithCapital then segs.findIdx startsWithCapital else segs.length - 1

/-- The class a dotted name means, if all its segments are identifiers. -/
def parse? (name : String) : Option ClassName :=
  let segs := Text.segments '.' name.toList
  if segs.all isIdentifier then
    match (segs.drop (classStart segs)).map String.ofList with
    | [] => none
    | outer :: nested =>
      some ⟨String.ofList (Text.joinWith '.' (segs.take (classStart segs))), outer, nested⟩
  else none

/-! ## 3. Names that are read are written the same -/

theorem joinWith_ne_nil {sep : Char} {l : List (List Char)} (h : l.all isIdentifier = true)
    (hl : l ≠ []) : Text.joinWith sep l ≠ [] := by
  match l with
  | [] => exact absurd rfl hl
  | [] :: _ => simp [isIdentifier] at h
  | (c :: s) :: r => simp [Text.joinWith_cons_char]

/-- A name that parses is the canonical name of its class. -/
theorem canonicalName_of_parse? {name : String} {c : ClassName} (h : parse? name = some c) :
    c.canonicalName = name := by
  have join := Text.joinWith_segments '.' name.toList
  revert h
  simp only [parse?]
  generalize Text.segments '.' name.toList = segs at join
  intro h
  split at h
  case isFalse => cases h
  case isTrue valid =>
    have parts := List.take_append_drop (classStart segs) segs
    have validPackage : (segs.take (classStart segs)).all isIdentifier = true :=
      List.all_eq_true.2 fun s hs => List.all_eq_true.1 valid s (List.mem_of_mem_take hs)
    generalize segs.take (classStart segs) = package at h parts validPackage
    generalize segs.drop (classStart segs) = classes at h parts
    match classes with
    | [] => cases h
    | outer :: nested =>
      cases h
      have nestedName : (ClassName.mk (String.ofList (Text.joinWith '.' package))
          (String.ofList outer) (nested.map String.ofList)).nestedName =
          String.ofList (Text.joinWith '.' (outer :: nested)) := by
        simp [ClassName.nestedName, simpleNames, Text.joinDots, Function.comp_def]
      rw [canonicalName, nestedName, ← String.toList_inj, ← join, ← parts, inPackage]
      by_cases empty : package = []
      · simp [empty, Text.joinWith]
      · have inside : Text.joinWith '.' package ≠ [] := joinWith_ne_nil validPackage empty
        rw [Text.joinWith_append empty (by simp)]
        simp [inside]

end ClassName

end ComponentWiring.Java
