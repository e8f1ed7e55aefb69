/-
ComponentWiring.Java.Shown — code arguments as messages show them.

A message about an argument that does not suit its placeholder shows the whole argument:
the names of its parts, texts in quotes, and lists in brackets.
-/
import ComponentWiring.Java.Decl
import ComponentWiring.Text.Quoted

namespace ComponentWiring.Java

open Text (quoted joinTexts)

/-! ## 1. Parts -/

/-- Shown items in brackets. -/
def shownList (items : List String) : String := "[" ++ joinTexts ", " items ++ "]"

/-- A record with its name and its shown fields. -/
def shownRecord (name : String) (fields : List (String × String)) : String :=
  name ++ " \x7b " ++ joinTexts ", " (fields.map fun f => f.1 ++ ": " ++ f.2) ++ " \x7d"

/-- A name with shown contents. -/
def shownVariant (name content : String) : String := name ++ "(" ++ content ++ ")"

/-- A part that may be missing. -/
def shownOption : Option String → String
  | none => "None"
  | some s => shownVariant "Some" s

/-- A modifier with a capital. -/
def Modifier.shown : Modifier → String
  | .publicMod => "Public"
  | .protectedMod => "Protected"
  | .privateMod => "Private"
  | .abstractMod => "Abstract"
  | .defaultMod => "Default"
  | .staticMod => "Static"
  | .finalMod => "Final"
  | .nativeMod => "Native"

/-- Modifiers in brackets. -/
def shownModifiers (ms : List Modifier) : String := shownList (ms.map Modifier.shown)

/-- A class name. -/
def ClassName.shown (c : ClassName) : String :=
  shownRecord "ClassName"
    [("package", quoted c.package), ("simple_names", shownList (c.simpleNames.map quoted))]

mutual
/-- A type. -/
def TypeExpr.shown : TypeExpr → String
  | .void => "Void"
  | .ofClass c => shownVariant "Class" c.shown
  | .parameterized raw arguments =>
    shownRecord "Parameterized"
      [("raw", raw.shown), ("arguments", shownList (TypeExpr.shownAll arguments))]
  | .variable name => shownVariant "Variable" (quoted name)
  | .wildcard => shownRecord "Wildcard" [("upper_bound", "None")]
  | .extending bound =>
    shownRecord "Wildcard" [("upper_bound", shownOption (some bound.shown))]
/-- Types, one by one. -/
def TypeExpr.shownAll : List TypeExpr → List String
  | [] => []
  | t :: ts => t.shown :: TypeExpr.shownAll ts
end

/-- A parameter. -/
def Parameter.shown (p : Parameter) : String :=
  shownRecord "ParameterSpec"
    [("ty", p.type.shown), ("name", quoted p.name), ("modifiers", shownModifiers p.modifiers)]

/-- Code, given its segments. -/
def shownCode (segments : List String) : String :=
  shownRecord "CodeBlock" [("segments", shownList segments)]

/-! ## 2. Code and declarations -/

mutual
/-- An argument. -/
def CodeArg.shown : CodeArg → String
  | .type t => shownVariant "Type" t.shown
  | .literal s => shownVariant "Literal" (quoted s)
  | .text s => shownVariant "Str" (quoted s)
  | .name s => shownVariant "Name" (quoted s)
  | .block code => shownVariant "Block" (shownCode (shownSegments code))
  | .anonymous decl => shownVariant "Anonymous" decl.shown
/-- Arguments, one by one. -/
def shownArguments : List CodeArg → List String
  | [] => []
  | a :: as => a.shown :: shownArguments as
/-- A segment. -/
def Segment.shown : Segment → String
  | ⟨format, arguments⟩ =>
    shownRecord "Segment"
      [("format", quoted format), ("args", shownList (shownArguments arguments))]
/-- Segments, one by one. -/
def shownSegments : List Segment → List String
  | [] => []
  | s :: ss => s.shown :: shownSegments ss
/-- A member of an annotation. -/
def shownMember : String × List Segment → String
  | (name, code) => quoted name ++ ": " ++ shownCode (shownSegments code)
/-- Members, one by one. -/
def shownMembers : List (String × List Segment) → List String
  | [] => []
  | m :: ms => shownMember m :: shownMembers ms
/-- An annotation. -/
def AnnotationUse.shown : AnnotationUse → String
  | ⟨type, members⟩ =>
    shownRecord "AnnotationSpec"
      [("annotation_type", type.shown),
       ("members", "\x7b" ++ joinTexts ", " (shownMembers members) ++ "\x7d")]
/-- Annotations, one by one. -/
def shownAnnotations : List AnnotationUse → List String
  | [] => []
  | a :: as => a.shown :: shownAnnotations as
/-- The initial value of a field. -/
def shownInitializer : Option (List Segment) → String
  | none => shownOption none
  | some code => shownOption (some (shownCode (shownSegments code)))
/-- A field. -/
def FieldDecl.shown : FieldDecl → String
  | ⟨type, name, modifiers, annotations, initializer⟩ =>
    shownRecord "FieldSpec"
      [("ty", type.shown), ("name", quoted name), ("modifiers", shownModifiers modifiers),
       ("annotations", shownList (shownAnnotations annotations)),
       ("initializer", shownInitializer initializer)]
/-- Fields, one by one. -/
def shownFields : List FieldDecl → List String
  | [] => []
  | f :: fs => f.shown :: shownFields fs
/-- A method. -/
def MethodDecl.shown : MethodDecl → String
  | ⟨name, modifiers, annotations, typeVariables, returns, parameters, code⟩ =>
    shownRecord "MethodSpec"
      [("name", quoted name), ("modifiers", shownModifiers modifiers),
       ("annotations", shownList (shownAnnotations annotations)),
       ("type_variables", shownList (typeVariables.map quoted)),
       ("return_type", returns.shown),
       ("parameters", shownList (parameters.map Parameter.shown)),
       ("code", shownCode (shownSegments code))]
/-- Methods, one by one. -/
def shownMethods : List MethodDecl → List String
  | [] => []
  | m :: ms => m.shown :: shownMethods ms
/-- What a type declares, without its name. -/
def TypeKind.shown : TypeKind → String
  | .classNamed _ => "Class"
  | .interfaceNamed _ => "Interface"
  | .anonymous arguments => shownVariant "Anonymous" (shownCode (shownSegments arguments))
/-- A type. -/
def TypeDecl.shown : TypeDecl → String
  | ⟨kind, modifiers, annotations, superclass, superinterfaces, fields, methods⟩ =>
    shownRecord "TypeSpec"
      [("kind", kind.shown),
       ("name", quoted (match kind with
         | .classNamed n | .interfaceNamed n => n
         | .anonymous _ => "")),
       ("modifiers", shownModifiers modifiers),
       ("annotations", shownList (shownAnnotations annotations)),
       ("superclass", shownOption (superclass.map TypeExpr.shown)),
       ("superinterfaces", shownList (superinterfaces.map TypeExpr.shown)),
       ("fields", shownList (shownFields fields)),
       ("methods", shownList (shownMethods methods))]
end

end ComponentWiring.Java
