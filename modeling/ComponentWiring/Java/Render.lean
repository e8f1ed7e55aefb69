/-
ComponentWiring.Java.Render — writing declarations on a page.

* `FormatFault` — why a declaration cannot be written.
* `emitFormat` — a format with the writers of its arguments.
* `emitCode`, `emitType`, … — code and declarations, by recursion on what is written.
* `SourceFile.render` — the text of a file.

A declaration is written from its first character to its last, and the first fault on the
way is the answer.
-/
import ComponentWiring.Java.Imports
import ComponentWiring.Java.Page
import ComponentWiring.Java.Shown
import ComponentWiring.Java.StringLiteral

namespace ComponentWiring.Java

/-! ## 1. Faults -/

/-- The placeholders that take an argument. -/
inductive Placeholder
  | type
  | literal
  | text
  | name
deriving DecidableEq, Inhabited

/-- The placeholder of a letter. -/
def Placeholder.ofLetter? : Char → Option Placeholder
  | 'T' => some .type
  | 'L' => some .literal
  | 'S' => some .text
  | 'N' => some .name
  | _ => none

/-- The placeholder as it is written. -/
def Placeholder.written : Placeholder → String
  | .type => "$T"
  | .literal => "$L"
  | .text => "$S"
  | .name => "$N"

/-- Why a declaration cannot be written. -/
inductive FormatFault
  /-- A file holds an anonymous class or one without a name. -/
  | unnamedFile
  /-- The format ends in a dollar sign. -/
  | danglingDollar (format : String)
  /-- There is no argument for the placeholder. -/
  | missingArgument (p : Placeholder) (format : String)
  | unknownPlaceholder (letter : Char)
  /-- There are more arguments than placeholders. -/
  | unusedArguments (format : String)
  /-- The argument does not suit the placeholder. -/
  | mismatch (p : Placeholder) (argument : CodeArg)
  /-- An anonymous class has neither superclass nor interface. -/
  | noSupertype
  /-- There are more outdents than indents. -/
  | tooManyOutdents
  /-- The code of a method does not end at the depth at which it began. -/
  | unbalancedMethod (method : String)
deriving Inhabited

/-- The fault in words. -/
def FormatFault.message : FormatFault → String
  | .unnamedFile => "a source file needs a named top-level type"
  | .danglingDollar format => "dangling $ in " ++ Text.quoted format
  | .missingArgument p format => "missing argument for " ++ p.written ++ " in " ++ Text.quoted format
  | .unknownPlaceholder letter => "unknown placeholder $" ++ String.singleton letter
  | .unusedArguments format => "unused arguments for " ++ Text.quoted format
  | .mismatch p argument => p.written ++ " cannot take argument " ++ argument.shown
  | .noSupertype => "anonymous class without a supertype"
  | .tooManyOutdents => "unbalanced $<"
  | .unbalancedMethod method => "unbalanced indentation in " ++ method

/-- A writer: it changes a page or meets a fault. -/
abbrev Emit := Page → Except FormatFault Page

/-- Up one level. -/
def outdent : Emit := fun p =>
  match p.outdent? with
  | some p => .ok p
  | none => .error .tooManyOutdents

/-! ## 2. Formats -/

/-- Writes a format. Each placeholder hands itself to the writer of the next argument. -/
def emitFormat (format : String) : List Char → List (Placeholder → Emit) → Emit
  | [], [], p => .ok p
  | [], _ :: _, _ => .error (.unusedArguments format)
  | ['$'], _, _ => .error (.danglingDollar format)
  | '$' :: c :: r, arguments, p =>
    if c = '$' then emitFormat format r arguments (p.put '$')
    else if c = '>' then emitFormat format r arguments p.indent
    else if c = '<' then do emitFormat format r arguments (← outdent p)
    else match Placeholder.ofLetter? c, arguments with
      | none, _ => .error (.unknownPlaceholder c)
      | some ph, [] => .error (.missingArgument ph format)
      | some ph, a :: as => do emitFormat format r as (← a ph p)
  | c :: r, arguments, p => emitFormat format r arguments (p.put c)

/-! ## 3. Parts without code -/

/-- The modifiers that are written, each with a space after it. -/
def modifierText (modifiers implied : List Modifier) : String :=
  String.join ((modifiers.filter (!implied.contains ·)).map fun m => m.keyword ++ " ")

/-- What a field of an interface is without saying so. -/
def impliedOfFields (inInterface : Bool) : List Modifier :=
  if inInterface then [.publicMod, .staticMod, .finalMod] else []

/-- What a method of an interface is without saying so. -/
def impliedOfMethods (inInterface : Bool) : List Modifier :=
  if inInterface then [.publicMod, .abstractMod] else []

/-- A parameter. -/
def parameterText (im : Imports) (p : Parameter) : String :=
  modifierText p.modifiers [] ++ im.spellType p.type ++ " " ++ p.name

/-- The type variables of a method, with a space after them. -/
def typeVariableText (names : List String) : String :=
  if names.isEmpty then "" else "<" ++ Text.joinTexts ", " names ++ "> "

/-- The signature of a method, after its annotations. -/
def signatureText (im : Imports) (inInterface : Bool) (modifiers : List Modifier)
    (typeVariables : List String) (returns : TypeExpr) (name : String)
    (parameters : List Parameter) : String :=
  modifierText modifiers (impliedOfMethods inInterface) ++ typeVariableText typeVariables
    ++ im.spellType returns ++ " " ++ name
    ++ "(" ++ Text.joinTexts ", " (parameters.map (parameterText im)) ++ ")"

/-- Whether a method is written with its code. -/
def hasBody (inInterface : Bool) (modifiers : List Modifier) : Bool :=
  !modifiers.contains .abstractMod
    && (!inInterface || modifiers.contains .defaultMod || modifiers.contains .staticMod)

/-- The supertypes after the name of a class or an interface. -/
def supertypeText (im : Imports) (isInterface : Bool) (superclass : Option TypeExpr)
    (superinterfaces : List TypeExpr) : String :=
  superclass.elim "" (fun t => " extends " ++ im.spellType t)
    ++ (if superinterfaces.isEmpty then ""
        else (if isInterface then " extends " else " implements ")
          ++ Text.joinTexts ", " (superinterfaces.map im.spellType))

/-- An empty line before every member but the first. -/
def gap (isFirst : Bool) (p : Page) : Page := if isFirst then p else p.put '\n'

/-- Whether the value of the only member stands without the name of the member. -/
def isSingleValue : List (String × List Segment) → Bool
  | [(name, _)] => name = "value"
  | _ => false

/-! ## 4. Code and declarations -/

mutual
/-- The writer of an argument. -/
def emitArgument (im : Imports) : CodeArg → Placeholder → Emit
  | .type t, .type, p => .ok (p.write (im.spellType t))
  | .text s, .text, p => .ok (p.write (stringLiteral s))
  | .name s, .name, p => .ok (p.write s)
  | .name s, .literal, p => .ok (p.write s)
  | .literal s, .literal, p => .ok (p.write s)
  | .block code, .literal, p => emitCode im code p
  | .anonymous decl, .literal, p => emitType im decl p
  | argument, ph, _ => .error (.mismatch ph argument)
/-- The writers of arguments. -/
def argumentWriters (im : Imports) : List CodeArg → List (Placeholder → Emit)
  | [] => []
  | a :: as => emitArgument im a :: argumentWriters im as
/-- A segment. -/
def emitSegment (im : Imports) : Segment → Emit
  | ⟨format, arguments⟩, p =>
    emitFormat format format.toList (argumentWriters im arguments) p
/-- Code. -/
def emitCode (im : Imports) : List Segment → Emit
  | [], p => .ok p
  | s :: ss, p => do emitCode im ss (← emitSegment im s p)
/-- The code of an annotation's member, after its name. -/
def emitMember (im : Imports) (named : Bool) : String × List Segment → Emit
  | (name, code), p => emitCode im code (if named then p.write (name ++ " = ") else p)
/-- The members of an annotation, with commas between them. -/
def emitMembers (im : Imports) (named isFirst : Bool) : List (String × List Segment) → Emit
  | [], p => .ok p
  | m :: ms, p => do
    let p ← emitMember im named m (if isFirst then p else p.write ", ")
    emitMembers im named false ms p
/-- An annotation. -/
def emitAnnotation (im : Imports) : AnnotationUse → Emit
  | ⟨type, members⟩, p =>
    let p := p.write ("@" ++ im.spell type)
    if members.isEmpty then .ok p
    else do
      let p ← emitMembers im (!isSingleValue members) true members (p.write "(")
      return p.write ")"
/-- Annotations, each on a line of its own. -/
def emitAnnotations (im : Imports) : List AnnotationUse → Emit
  | [], p => .ok p
  | a :: as, p => do emitAnnotations im as ((← emitAnnotation im a p).put '\n')
/-- The initial value of a field. -/
def emitInitializer (im : Imports) : Option (List Segment) → Emit
  | none, p => .ok p
  | some code, p => emitCode im code (p.write " = ")
/-- A field. -/
def emitField (im : Imports) (inInterface : Bool) : FieldDecl → Emit
  | ⟨type, name, modifiers, annotations, initializer⟩, p => do
    let p ← emitAnnotations im annotations p
    let p := p.write (modifierText modifiers (impliedOfFields inInterface)
      ++ im.spellType type ++ " " ++ name)
    let p ← emitInitializer im initializer p
    return p.write ";\n"
/-- Fields, with empty lines between them. -/
def emitFields (im : Imports) (inInterface isFirst : Bool) : List FieldDecl → Emit
  | [], p => .ok p
  | f :: fs, p => do
    emitFields im inInterface false fs (← emitField im inInterface f (gap isFirst p))
/-- A method. Its code ends at the depth at which it began. -/
def emitMethod (im : Imports) (inInterface : Bool) : MethodDecl → Emit
  | ⟨name, modifiers, annotations, typeVariables, returns, parameters, code⟩, p => do
    let p ← emitAnnotations im annotations p
    let p := p.write (signatureText im inInterface modifiers typeVariables returns name parameters)
    if hasBody inInterface modifiers then
      let p := p.write " \x7b\n"
      let q ← emitCode im code p.indent
      let q ← outdent q.finishLine
      if q.depth = p.depth then return q.write "\x7d\n"
      else throw (.unbalancedMethod name)
    else return p.write ";\n"
/-- Methods, with empty lines between them. -/
def emitMethods (im : Imports) (inInterface isFirst : Bool) : List MethodDecl → Emit
  | [], p => .ok p
  | m :: ms, p => do
    emitMethods im inInterface false ms (← emitMethod im inInterface m (gap isFirst p))
/-- The line that opens an anonymous class, given its supertypes. -/
def emitCreation (im : Imports) (supertypes : List TypeExpr) : TypeKind → Emit
  | .anonymous arguments, p =>
    match supertypes with
    | [] => .error .noSupertype
    | t :: _ => do
      let p ← emitCode im arguments (p.write ("new " ++ im.spellType t ++ "("))
      return p.write ") \x7b\n"
  | _, p => .ok p
/-- A type. -/
def emitType (im : Imports) : TypeDecl → Emit
  | ⟨kind, modifiers, annotations, superclass, superinterfaces, fields, methods⟩, p => do
    let isInterface := match kind with | .interfaceNamed _ => true | _ => false
    let opening (keyword name : String) (p : Page) : Page :=
      p.write (modifierText modifiers [] ++ keyword ++ " " ++ name
        ++ supertypeText im isInterface superclass superinterfaces ++ " \x7b\n")
    let p ← match kind with
      | .anonymous _ => emitCreation im (superclass.toList ++ superinterfaces) kind p
      | .classNamed name => (emitAnnotations im annotations p).map (opening "class" name)
      | .interfaceNamed name => (emitAnnotations im annotations p).map (opening "interface" name)
    let p ← emitFields im isInterface true fields p.indent
    let p ← emitMethods im isInterface fields.isEmpty methods p
    let p := (← outdent p).write "\x7d"
    match kind with
    | .anonymous _ => return p
    | _ => return p.put '\n'
end

/-! ## 5. Files -/

/-- A line of the comment above a file. -/
def commentLine (line : String) : String := if line.isEmpty then "//\n" else "// " ++ line ++ "\n"

/-- What stands above the type of a file: the comment, the package and the imports. -/
def SourceFile.header (f : SourceFile) (im : Imports) : String :=
  let imports := im.lines.map fun l => "import " ++ l ++ ";\n"
  String.join ((f.comment.elim [] Text.lines).map commentLine)
    ++ (if f.package.isEmpty then "" else "package " ++ f.package ++ ";\n\n")
    ++ String.join imports ++ (if imports.isEmpty then "" else "\n")

/-- The page of a file. -/
def SourceFile.page (f : SourceFile) : Except FormatFault Page :=
  if f.type.isAnonymous || f.type.name.isEmpty then .error .unnamedFile
  else
    let im := Imports.of f
    emitType im f.type (Page.start.write (f.header im))

/-- The text of a file, with so many spaces for one level of indentation. -/
def SourceFile.render (width : Nat) (f : SourceFile) : Except FormatFault String :=
  f.page.map (·.print width)

end ComponentWiring.Java
