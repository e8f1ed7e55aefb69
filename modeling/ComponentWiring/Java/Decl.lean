/-
ComponentWiring.Java.Decl — the declarations of a generated source.

* `Segment`, `CodeArg` — code: a format with the arguments for its placeholders.
* `AnnotationUse`, `FieldDecl`, `Parameter`, `MethodDecl`, `TypeDecl` — declarations.
* `Code.statement`, `Code.opening`, … — the pieces of which code is put together.

A format may hold these placeholders, each of which takes one argument: `$T` a type, `$S` a
text that is written as a string literal, `$N` a name, and `$L` a literal, a name, further
code or an anonymous class. `$>` and `$<` indent and outdent, `$$` stands for a dollar sign.
-/
import ComponentWiring.Java.Modifier
import ComponentWiring.Java.TypeExpr
import ComponentWiring.Keyed

namespace ComponentWiring.Java

/-! ## 1. Declarations -/

/-- A parameter of a method. -/
structure Parameter where
  type : TypeExpr
  name : String
  modifiers : List Modifier := []
deriving Inhabited

mutual
/-- The argument of a placeholder. -/
inductive CodeArg
  | type (t : TypeExpr)
  | literal (s : String)
  /-- A text for a string literal. -/
  | text (s : String)
  | name (s : String)
  | block (code : List Segment)
  | anonymous (decl : TypeDecl)

/-- A format with its arguments. -/
structure Segment where
  format : String
  arguments : List CodeArg

/-- An annotation with the code of its members. -/
structure AnnotationUse where
  type : ClassName
  members : List (String × List Segment)

/-- A field. -/
structure FieldDecl where
  type : TypeExpr
  name : String
  modifiers : List Modifier
  annotations : List AnnotationUse
  initializer : Option (List Segment)

/-- A method. -/
structure MethodDecl where
  name : String
  modifiers : List Modifier
  annotations : List AnnotationUse
  typeVariables : List String
  returns : TypeExpr
  parameters : List Parameter
  code : List Segment

/-- What a type declaration declares. -/
inductive TypeKind
  | classNamed (name : String)
  | interfaceNamed (name : String)
  /-- An anonymous class, created with the arguments. -/
  | anonymous (arguments : List Segment)

/-- A class, an interface or an anonymous class. -/
structure TypeDecl where
  kind : TypeKind
  modifiers : List Modifier
  annotations : List AnnotationUse
  superclass : Option TypeExpr
  superinterfaces : List TypeExpr
  fields : List FieldDecl
  methods : List MethodDecl
end

/-- Code: segments one after the other. -/
abbrev Code := List Segment

instance : Inhabited Segment := ⟨⟨"", []⟩⟩
instance : Inhabited CodeArg := ⟨.literal ""⟩
instance : Inhabited TypeDecl := ⟨⟨.classNamed "", [], [], none, [], [], []⟩⟩

/-! ## 2. Code -/

namespace Code

/-- A format with its arguments. -/
def of (format : String) (arguments : List CodeArg := []) : Code := [⟨format, arguments⟩]

/-- A statement on a line of its own. -/
def statement (format : String) (arguments : List CodeArg := []) : Code :=
  of (format ++ ";\n") arguments

/-- The start of a block. -/
def opening (format : String) (arguments : List CodeArg := []) : Code :=
  of (format ++ " \x7b\n$>") arguments

/-- The end of a block and the start of the one that goes with it. -/
def continuing (format : String) (arguments : List CodeArg := []) : Code :=
  of ("$<\x7d " ++ format ++ " \x7b\n$>") arguments

/-- The end of a block. -/
def closing : Code := of "$<\x7d\n"

/-- One level of indentation more. -/
def indent : Code := of "$>"

/-- One level of indentation less. -/
def outdent : Code := of "$<"

/-- Whether the formats are all empty. -/
def isEmpty (c : Code) : Bool := c.all (·.format.isEmpty)

end Code

/-! ## 3. Building declarations -/

/-- An annotation without members. -/
def AnnotationUse.plain (type : ClassName) : AnnotationUse := ⟨type, []⟩

/-- The annotation with a member; a repeated member replaces the code written first. -/
def AnnotationUse.withMember (a : AnnotationUse) (name format : String)
    (arguments : List CodeArg) : AnnotationUse :=
  { a with members := Entries.put name (Code.of format arguments) a.members }

/-- A field without modifiers, annotations and initial value. -/
def FieldDecl.plain (type : TypeExpr) (name : String) : FieldDecl := ⟨type, name, [], [], none⟩

/-- A method without result, parameters and code. -/
def MethodDecl.plain (name : String) : MethodDecl := ⟨name, [], [], [], .void, [], []⟩

/-- A type without members. -/
def TypeDecl.ofKind (kind : TypeKind) : TypeDecl := ⟨kind, [], [], none, [], [], []⟩

/-- The name of a type; an anonymous class has the empty one. -/
def TypeDecl.name (t : TypeDecl) : String :=
  match t.kind with
  | .classNamed n | .interfaceNamed n => n
  | .anonymous _ => ""

/-- Whether the type is an interface. -/
def TypeDecl.isInterface (t : TypeDecl) : Bool :=
  match t.kind with
  | .interfaceNamed _ => true
  | _ => false

/-- Whether the type is an anonymous class. -/
def TypeDecl.isAnonymous (t : TypeDecl) : Bool :=
  match t.kind with
  | .anonymous _ => true
  | _ => false

/-- The methods of a name, in order. -/
def TypeDecl.methodsNamed (t : TypeDecl) (name : String) : List MethodDecl :=
  t.methods.filter (·.name = name)

end ComponentWiring.Java
