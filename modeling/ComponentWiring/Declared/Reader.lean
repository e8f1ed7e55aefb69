/-
ComponentWiring.Declared.Reader — reading class indexes.

* `AnnotationValue.ofNode?`, `ClassDeclaration.ofNode?`, … — the entries of a document.
* `readIndex` — the types of an index in one of its two formats.

The value of an annotation member is the first of these that its node can be read as: a
class literal, a truth value, an integer, a text, a list of values. What a list is read as hangs on
the form of a record: were a class literal also written as the list of its fields, a list of one
text would be one.
-/
import ComponentWiring.Declared.Index
import ComponentWiring.Document.Json
import ComponentWiring.Document.Toml.Statement
import ComponentWiring.Path

namespace ComponentWiring

open Document Java

/-! ## 1. Annotations -/

/-- The class literal a node spells. The class is not loaded unless the node says so. -/
def ClassLiteral.ofNodeAs? (form : RecordForm) (n : Node) : Option ClassLiteral := do
  let found ← n.fields? form ["class", "loaded"]
  let name ← required? found "class" Node.text?
  return .ofText name (← defaulted? found "loaded" false Node.bool?)

/-- The first thing that a node can be read as, given the values of its items if it is a list of
values. -/
def AnnotationValue.firstOf? (form : RecordForm) (n : Node)
    (items? : Option (List AnnotationValue)) : Option AnnotationValue :=
  (ClassLiteral.ofNodeAs? form n).map .classLiteral <|>
  n.bool?.map .bool <|>
  n.int64?.map .int <|>
  n.text?.map .text <|>
  items?.map .list

mutual
/-- The annotation value a node spells. -/
def AnnotationValue.ofShapeAs? (form : RecordForm) : Node → Option AnnotationValue
  | .list items =>
    AnnotationValue.firstOf? form (.list items) (AnnotationValue.ofShapesAs? form items)
  | n => AnnotationValue.firstOf? form n none
/-- The annotation values that nodes spell. -/
def AnnotationValue.ofShapesAs? (form : RecordForm) : List Node → Option (List AnnotationValue)
  | [] => some []
  | n :: r => do
    let v ← AnnotationValue.ofShapeAs? form n
    return v :: (← AnnotationValue.ofShapesAs? form r)
end

/-- The annotation value of a node all of which can be read, if class literals are written in the
form. -/
def AnnotationValue.ofNodeAs? (form : RecordForm) (n : Node) : Option AnnotationValue :=
  if n.isReadable then AnnotationValue.ofShapeAs? form n else none

/-- The annotation value of a node. A class literal is written with its field names. -/
def AnnotationValue.ofNode? (n : Node) : Option AnnotationValue :=
  AnnotationValue.ofNodeAs? .named n

/-- The members of an annotation; a repeated one replaces the value written first. -/
def valuesOfNode? : Node → Option (Keyed String AnnotationValue)
  | .record entries => do
    let values ← entries.mapM fun e => (AnnotationValue.ofNode? e.2).map (e.1, ·)
    return .ofList values
  | _ => none

/-- An annotation. -/
def AnnotationElement.ofNode? (d : Dialect) (n : Node) : Option AnnotationElement := do
  let found ← n.record? d ["type", "values"]
  return { type := ← required? found "type" Node.text?
           values := ← defaulted? found "values" .empty valuesOfNode? }

/-! ## 2. Declarations -/

/-- The written names of the kinds. -/
def ElementKind.names : List (String × ElementKind) :=
  [("class", .classType), ("interface", .interfaceType), ("enum", .enumType),
   ("annotation", .annotationType), ("method", .method), ("constructor", .constructor),
   ("field", .field)]

/-- The modifiers with their keywords. -/
def modifierNames : List (String × Modifier) := Modifier.all.map fun m => (m.keyword, m)

/-- A list of modifiers. -/
def modifiersOfNode? (d : Dialect) : Node → Option (List Modifier) :=
  Node.list? (Node.variant? d modifierNames)

/-- The name and the type of a parameter. -/
def parameterOfNode? (d : Dialect) (n : Node) : Option (String × String) := do
  let found ← n.record? d ["name", "type"]
  return (← required? found "name" Node.text?, ← required? found "type" Node.text?)

/-- A method of an index. -/
def MethodDeclaration.ofNode? (d : Dialect) (n : Node) : Option MethodDeclaration := do
  let found ← n.record? d ["name", "modifiers", "returns", "parameters", "annotations"]
  return {
    name := ← required? found "name" Node.text?
    modifiers := ← defaulted? found "modifiers" [.publicMod] (modifiersOfNode? d)
    returns := ← defaulted? found "returns" none (Node.optional? Node.text?)
    parameters := ← defaulted? found "parameters" [] (Node.list? (parameterOfNode? d))
    annotations := ← defaulted? found "annotations" [] (Node.list? (AnnotationElement.ofNode? d)) }

/-- A type of an index. -/
def ClassDeclaration.ofNode? (d : Dialect) (n : Node) : Option ClassDeclaration := do
  let found ← n.record? d ["name", "package", "kind", "extends", "implements",
    "type_parameters", "modifiers", "annotations", "methods"]
  return {
    name := ← required? found "name" Node.text?
    package := ← defaulted? found "package" none (Node.optional? Node.text?)
    kind := ← defaulted? found "kind" .classType (Node.variant? d ElementKind.names)
    superclass := ← defaulted? found "extends" none (Node.optional? Node.text?)
    interfaces := ← defaulted? found "implements" [] (Node.list? Node.text?)
    typeParameters := ← defaulted? found "type_parameters" [] (Node.list? Node.text?)
    modifiers := ← defaulted? found "modifiers" [.publicMod] (modifiersOfNode? d)
    annotations := ← defaulted? found "annotations" [] (Node.list? (AnnotationElement.ofNode? d))
    methods := ← defaulted? found "methods" [] (Node.list? (MethodDeclaration.ofNode? d)) }

/-- The entries of an index. -/
def declarationsOfNode? (d : Dialect) (n : Node) : Option (List ClassDeclaration) := do
  let found ← n.record? d ["class"]
  defaulted? found "class" [] (Node.list? (ClassDeclaration.ofNode? d))

/-! ## 3. Indexes -/

/-- The document a text of the format holds. -/
def IndexFormat.document? : IndexFormat → String → Option Node
  | .toml, s => Toml.read? s
  | .json, s => Json.read? s

/-- How typed data is written in the format. -/
def IndexFormat.dialect : IndexFormat → Dialect
  | .toml => Toml.dialect
  | .json => Json.dialect

/-- A file that ends in `.json`, in small letters or capitals, holds JSON; any other TOML. -/
def IndexFormat.ofPath (p : Path) : IndexFormat :=
  match p.extension? with
  | some e => if e.toList.map Char.toLower = ['j', 's', 'o', 'n'] then .json else .toml
  | none => .toml

/-- The types of an index that was read as a document. -/
def elementsOfNode (format : IndexFormat) (n : Option Node) :
    Except IndexFault (List TypeElement) :=
  match n.bind (declarationsOfNode? format.dialect) with
  | some ds => elementsOf ds
  | none => .error (.unreadable format)

/-- The types of an index. -/
def readIndex (format : IndexFormat) (text : String) : Except IndexFault (List TypeElement) :=
  elementsOfNode format (format.document? text)

end ComponentWiring
