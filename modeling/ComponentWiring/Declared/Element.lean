/-
ComponentWiring.Declared.Element — declared types as a run sees them.

* `TypeElement` — a declared type with its supertypes, annotations and methods.
* `TypeRef` — a reference to a type, which may be missing or unresolved.
* `AnnotationElement`, `AnnotationValue`, `ClassLiteral` — annotations and what they hold.
* `Element` — anything that can carry an annotation: a type or one of its methods.
-/
import ComponentWiring.Declared.QualifiedName
import ComponentWiring.Java.Modifier
import ComponentWiring.Keyed

namespace ComponentWiring

open Java (Modifier)

/-! ## 1. Kinds and references -/

/-- What an element declares. -/
inductive ElementKind
  | classType
  | interfaceType
  | enumType
  | annotationType
  | method
  | constructor
  | field
deriving DecidableEq, Inhabited

/-- Whether the kind declares a type. -/
def ElementKind.isType : ElementKind → Bool
  | .classType | .interfaceType | .enumType | .annotationType => true
  | _ => false

/-- A reference to a type. -/
inductive TypeRef
  /-- No type, such as the superclass of the root class or the result of a void method. -/
  | absent
  /-- A class or interface by its qualified name, declared or not. -/
  | named (name : String)
  /-- A type that could not be resolved. -/
  | unresolved (name : String)
deriving DecidableEq, Inhabited

/-- Whether the type could not be resolved. -/
def TypeRef.isUnresolved : TypeRef → Bool
  | .unresolved _ => true
  | _ => false

/-- The name of a named type. -/
def TypeRef.name? : TypeRef → Option String
  | .named n => some n
  | _ => none

/-- The class at the root of all classes. -/
def rootClass : String := "java.lang.Object"

/-! ## 2. Annotations -/

/-- A class named by an annotation. A compiled class is there itself; a class of the same
compilation is known by its reference only. -/
inductive ClassLiteral
  | loaded (canonicalName simpleName : String)
  | byReference (type : TypeRef)
deriving DecidableEq, Inhabited

/-- The literal of a compiled class. -/
def ClassLiteral.ofLoaded (canonicalName : String) : ClassLiteral :=
  .loaded canonicalName (simpleName canonicalName)

/-- The value of a member of an annotation. -/
inductive AnnotationValue
  | text (s : String)
  | bool (b : Bool)
  | int (n : Int)
  | classLiteral (c : ClassLiteral)
  | list (items : List AnnotationValue)
deriving Inhabited

/-- An annotation with its members in order. -/
structure AnnotationElement where
  type : String
  values : Keyed String AnnotationValue := .empty
deriving Inhabited

/-- The annotation with one more member. -/
def AnnotationElement.withValue (a : AnnotationElement) (member : String) (v : AnnotationValue) : AnnotationElement :=
  { a with values := a.values.insert member v }

/-- The class that a member names, if it names one. -/
def AnnotationElement.classValue? (a : AnnotationElement) (member : String) : Option ClassLiteral :=
  match a.values.get? member with
  | some (.classLiteral c) => some c
  | _ => none

/-- The first annotation of a type. -/
def markerOf? (annotations : List AnnotationElement) (type : String) : Option AnnotationElement :=
  annotations.find? (·.type = type)

/-! ## 3. Methods and types -/

/-- A declared method. -/
structure MethodElement where
  name : String
  kind : ElementKind := .method
  modifiers : List Modifier := []
  returns : TypeRef := .absent
  parameters : List (String × TypeRef) := []
  annotations : List AnnotationElement := []
deriving Inhabited

/-- Whether the result or a parameter of the method could not be resolved. -/
def MethodElement.hasUnresolved (m : MethodElement) : Bool :=
  m.returns.isUnresolved || m.parameters.any (·.2.isUnresolved)

/-- A declared class, interface, enumeration or annotation type. -/
structure TypeElement where
  qualifiedName : String
  /-- The package; empty for a type outside all packages. -/
  package : String
  kind : ElementKind
  modifiers : List Modifier := [.publicMod]
  superclass : TypeRef := .absent
  interfaces : List TypeRef := []
  typeParameters : List String := []
  annotations : List AnnotationElement := []
  methods : List MethodElement := []
deriving Inhabited

namespace TypeElement

/-- A type without supertypes, in the package its name suggests. -/
def ofKind (kind : ElementKind) (name : String) : TypeElement where
  qualifiedName := name
  package := guessedPackage name
  kind := kind

/-- A class below the root class. -/
def ofClass (name : String) : TypeElement :=
  { ofKind .classType name with superclass := .named rootClass }

/-- An interface. -/
def ofInterface (name : String) : TypeElement := ofKind .interfaceType name

/-- The segment after the last dot of its name. -/
def simpleName (t : TypeElement) : String := ComponentWiring.simpleName t.qualifiedName

/-- The name seen from the package, or the whole name where it does not lie there. -/
def relativeName (t : TypeElement) : String :=
  if t.package.isEmpty then t.qualifiedName
  else (relativeName? t.package t.qualifiedName).getD t.qualifiedName

/-- The type with a modifier, which it has once. -/
def withModifier (t : TypeElement) (m : Modifier) : TypeElement :=
  if t.modifiers.contains m then t else { t with modifiers := t.modifiers ++ [m] }

/-- Whether the type is a class. -/
def isClass (t : TypeElement) : Bool := t.kind = .classType

/-- The first annotation of a type on the element. -/
def marker? (t : TypeElement) (type : String) : Option AnnotationElement :=
  markerOf? t.annotations type

end TypeElement

/-- The first annotation of a type on the method. -/
def MethodElement.marker? (m : MethodElement) (type : String) : Option AnnotationElement :=
  markerOf? m.annotations type

/-! ## 4. Elements -/

/-- Anything that can carry an annotation. -/
inductive Element
  | type (t : TypeElement)
  /-- A method with the type that declares it. -/
  | method (m : MethodElement) (owner : TypeElement)
deriving Inhabited

namespace Element

/-- What the element declares. -/
def kind : Element → ElementKind
  | .type t => t.kind
  | .method m _ => m.kind

/-- The last part of the element's name. -/
def simpleName : Element → String
  | .type t => t.simpleName
  | .method m _ => m.name

/-- The name under which messages report the element. -/
def displayName : Element → String
  | .type t => t.qualifiedName
  | .method m owner => owner.qualifiedName ++ "#" ++ m.name

/-- The modifiers of the element. -/
def modifiers : Element → List Modifier
  | .type t => t.modifiers
  | .method m _ => m.modifiers

/-- The type that declares a method. -/
def owner? : Element → Option TypeElement
  | .type _ => none
  | .method _ owner => some owner

/-- The type, for a type. -/
def type? : Element → Option TypeElement
  | .type t => some t
  | .method _ _ => none

/-- The class, for a class. -/
def class? (e : Element) : Option TypeElement := e.type?.filter (·.isClass)

end Element

end ComponentWiring
