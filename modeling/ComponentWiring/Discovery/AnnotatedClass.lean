/-
ComponentWiring.Discovery.AnnotatedClass — classes that take part in the wiring.

* `AnnotatedClass` — a discovered class by its names.
* `AnnotatedClass.className` — the class as generated sources refer to it.
* `AnnotatedClass.binaryName` — the name it has at run time.
* `ClassMap` — discovered classes in the order of their discovery, each once.
-/
import ComponentWiring.Declared.Element
import ComponentWiring.Java.ClassName

namespace ComponentWiring

/-! ## 1. Classes -/

/-- A discovered class by its names. -/
structure AnnotatedClass where
  qualifiedName : String
  simpleName : String
  /-- The package; empty for a class outside all packages. -/
  package : String
deriving DecidableEq, Inhabited

namespace AnnotatedClass

/-- The names of a declared type. -/
def ofElement (t : TypeElement) : AnnotatedClass := ⟨t.qualifiedName, t.simpleName, t.package⟩

/-- The name seen from the package. A name that does not lie in the package keeps only its
last segment. -/
def relativeName (c : AnnotatedClass) : String :=
  if c.package.isEmpty then c.qualifiedName
  else match relativeName? c.package c.qualifiedName with
    | some r => if r.isEmpty then c.simpleName else r
    | none => c.simpleName

/-- The class as generated sources refer to it: every segment of the name seen from the
package is a class, nested in the one before. -/
def className (c : AnnotatedClass) : Java.ClassName :=
  match Text.dotSegments c.relativeName with
  | [] => ⟨c.package, c.relativeName, []⟩
  | outer :: nested => ⟨c.package, outer, nested⟩

/-- The name the class has at run time, where a dollar sign leads to a nested class. -/
def binaryName (c : AnnotatedClass) : String :=
  Java.ClassName.inPackage c.package (Text.joinTexts "$" c.className.simpleNames)

end AnnotatedClass

/-! ## 2. Discovered classes -/

/-- Discovered classes under their qualified names. -/
structure ClassMap where
  classes : Keyed String AnnotatedClass
  named : ∀ e ∈ classes.entries, e.2.qualifiedName = e.1

namespace ClassMap

/-- No classes. -/
def empty : ClassMap := ⟨.empty, by simp [Keyed.empty]⟩

instance : Inhabited ClassMap := ⟨empty⟩

/-- The class of a qualified name. -/
def get? (m : ClassMap) (name : String) : Option AnnotatedClass := m.classes.get? name

/-- Whether a class of the name was discovered. -/
def contains (m : ClassMap) (name : String) : Bool := m.classes.contains name

/-- Adds a class, unless one of its name is there. -/
def insert (m : ClassMap) (c : AnnotatedClass) : ClassMap :=
  if m.contains c.qualifiedName then m
  else ⟨m.classes.insert c.qualifiedName c, Entries.forall_put m.named rfl⟩

/-- Adds classes one after the other. -/
def ofList (cs : List AnnotatedClass) : ClassMap := cs.foldl insert empty

/-- The classes in the order of their discovery. -/
def toList (m : ClassMap) : List AnnotatedClass := m.classes.values

/-- The qualified names in the order of their discovery. -/
def names (m : ClassMap) : List String := m.classes.keys

/-- The number of classes. -/
def size (m : ClassMap) : Nat := m.classes.size

theorem names_insert (m : ClassMap) (c : AnnotatedClass) :
    (m.insert c).names =
      if c.qualifiedName ∈ m.names then m.names else m.names ++ [c.qualifiedName] := by
  by_cases h : c.qualifiedName ∈ m.names
  · rw [if_pos h, insert, contains, if_pos (Keyed.contains_iff.mpr h)]
  · have hc : ¬ m.classes.contains c.qualifiedName = true := fun e => h (Keyed.contains_iff.mp e)
    rw [insert, contains, if_neg hc]
    exact Keyed.keys_insert m.classes c.qualifiedName c

end ClassMap

end ComponentWiring
