/-
ComponentWiring.Declared.Index — the class index of a project.

* `ClassDeclaration`, `MethodDeclaration` — the entries of an index.
* `ClassDeclaration.toElement` — the type an entry declares.
* `elementsOf` — the types of an index, each declared once.
* `IndexFault` — why an index is refused.
-/
import ComponentWiring.Declared.TypeText
import ComponentWiring.Report.Failure

namespace ComponentWiring

open Java (Modifier)

/-! ## 1. Entries -/

/-- A method as an index declares it. -/
structure MethodDeclaration where
  name : String
  modifiers : List Modifier := [.publicMod]
  returns : Option String := none
  /-- The names and types of the parameters. -/
  parameters : List (String × String) := []
  annotations : List AnnotationElement := []
deriving Inhabited

/-- A type as an index declares it. -/
structure ClassDeclaration where
  name : String
  package : Option String := none
  kind : ElementKind := .classType
  superclass : Option String := none
  interfaces : List String := []
  typeParameters : List String := []
  modifiers : List Modifier := [.publicMod]
  annotations : List AnnotationElement := []
  methods : List MethodDeclaration := []
deriving Inhabited

/-! ## 2. Faults -/

/-- The two formats of an index. -/
inductive IndexFormat
  | toml
  | json
deriving DecidableEq, Inhabited

/-- Why an index is refused. -/
inductive IndexFault
  /-- The text is no index of the format. -/
  | unreadable (format : IndexFormat)
  /-- A type has a blank name. -/
  | blankName
  /-- An entry declares something that is no type. -/
  | notAType (name : String) (kind : ElementKind)
  /-- A method of the type has a blank name. -/
  | blankMethod (owner : String)
  /-- A type is declared a second time. -/
  | declaredTwice (name : String)
deriving DecidableEq, Inhabited

/-- The kind as messages name it. -/
def ElementKind.title : ElementKind → String
  | .classType => "Class"
  | .interfaceType => "Interface"
  | .enumType => "Enum"
  | .annotationType => "Annotation"
  | .method => "Method"
  | .constructor => "Constructor"
  | .field => "Field"

/-- The fault in words. -/
def IndexFault.message : IndexFault → String
  | .unreadable .toml => "TOML parsing error"
  | .unreadable .json => "JSON parsing error"
  | .blankName => "Invalid declaration: class name must not be empty"
  | .notAType name kind =>
    "Invalid declaration: " ++ name ++ " is declared as " ++ kind.title ++ ", expected a type kind"
  | .blankMethod owner => "Invalid declaration: method of " ++ owner ++ " has an empty name"
  | .declaredTwice name => "Class declared twice: " ++ name

/-- The fault as a failure of the run. -/
def IndexFault.toFailure (f : IndexFault) : Failure :=
  .settings ("Invalid declaration index: " ++ f.message)

/-! ## 3. Types -/

/-- The method an entry declares for the type `owner`. -/
def MethodDeclaration.toElement (owner : String) (d : MethodDeclaration) :
    Except IndexFault MethodElement :=
  if Text.isBlankText d.name then .error (.blankMethod owner)
  else .ok {
    name := d.name
    modifiers := d.modifiers
    returns := d.returns.elim .absent .ofText
    parameters := d.parameters.map fun p => (p.1, .ofText p.2)
    annotations := d.annotations }

/-- The superclass of a declared type. Interfaces have none; a class that names none
extends the root class, unless it is the root class. -/
def ClassDeclaration.superclassRef (d : ClassDeclaration) : TypeRef :=
  match d.kind, d.superclass with
  | .interfaceType, _ => .absent
  | _, some s => .ofText s
  | .classType, none => if Text.trim d.name = rootClass then .absent else .named rootClass
  | _, none => .absent

/-- The type an entry declares. -/
def ClassDeclaration.toElement (d : ClassDeclaration) : Except IndexFault TypeElement := do
  let name := Text.trim d.name
  if name.isEmpty then throw .blankName
  if !d.kind.isType then throw (.notAType name d.kind)
  let methods ← d.methods.mapM (·.toElement name)
  return {
    qualifiedName := name
    package := d.package.getD (guessedPackage name)
    kind := d.kind
    modifiers := d.modifiers
    superclass := d.superclassRef
    interfaces := d.interfaces.map .ofText
    typeParameters := d.typeParameters
    annotations := d.annotations
    methods := methods }

/-- The types of the entries, given the names declared before them. -/
def elementsAfter (seen : List String) : List ClassDeclaration → Except IndexFault (List TypeElement)
  | [] => .ok []
  | d :: ds => do
    let t ← d.toElement
    if seen.contains t.qualifiedName then throw (.declaredTwice t.qualifiedName)
    return t :: (← elementsAfter (t.qualifiedName :: seen) ds)

/-- The types of an index, or the fault of the first entry that has one. -/
def elementsOf (ds : List ClassDeclaration) : Except IndexFault (List TypeElement) :=
  elementsAfter [] ds

end ComponentWiring
