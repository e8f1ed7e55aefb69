/-
ComponentWiring.Wiring.Batch — the last check before files are handed over.

* `BatchFault` — why a batch of files is refused.
* `checkBatch` — every file is named, no type is declared twice, and every component that
  the dispatch relies on declares the injection methods that it needs.
-/
import ComponentWiring.Wiring.Dispatch
import ComponentWiring.Java.SourceFile
import ComponentWiring.Report.Failure
import ComponentWiring.Text.Blank
import ComponentWiring.Text.Quoted

namespace ComponentWiring

open Java

/-- Why a batch of files is refused. -/
inductive BatchFault
  /-- A type or its package has a blank name. -/
  | unnamed (name package : String)
  | repeated (type : ClassName)
  /-- The component of a tier is not in the batch. -/
  | noComponent (tier : Tier) (component : ClassName)
  /-- The component does not inject one of the classes that it should. -/
  | noInjection (component : ClassName) (target : AnnotatedClass)
deriving DecidableEq

/-- The fault as a failure of the run. -/
def BatchFault.toFailure : BatchFault → Failure
  | .unnamed name package =>
    .emission ("generated type " ++ Text.quoted name ++ " in package " ++ Text.quoted package
      ++ " has an empty name")
  | .repeated type => .emission (type.canonicalName ++ " is generated more than once")
  | .noComponent tier component =>
    .emission (tier.name ++ " component " ++ component.canonicalName
      ++ " is missing from the batch")
  | .noInjection component target =>
    .emission (component.canonicalName ++ " does not declare an injector for "
      ++ target.qualifiedName)

/-- Checks the names of files, given the package and name of the files before them. -/
def checkNames : List (String × String) → List SourceFile → Except BatchFault Unit
  | _, [] => .ok ()
  | seen, f :: fs =>
    if Text.isBlankText f.type.name || Text.isBlankText f.package then
      .error (.unnamed f.type.name f.package)
    else if seen.contains (f.package, f.type.name) then .error (.repeated f.className)
    else checkNames ((f.package, f.type.name) :: seen) fs

/-- Whether a type has a method of the name with a parameter of the class. -/
def declaresInjection (t : TypeDecl) (injectMethod : String) (c : ClassName) : Bool :=
  (t.methodsNamed injectMethod).any fun m => m.parameters.any fun p => p.type.isClass c

/-- Checks that the component of a tier is there and injects all its classes. -/
def checkTier (files : List SourceFile) (d : Dispatch) (tier : Tier) (component : ClassName) :
    Except BatchFault Unit :=
  match files.find? (·.className = component) with
  | none => .error (.noComponent tier component)
  | some f =>
    match (d.targets tier).find? (!declaresInjection f.type d.injectMethod ·.className) with
    | some target => .error (.noInjection component target)
    | none => .ok ()

/-- Checks a batch of files. -/
def checkBatch (files : List SourceFile) (d : Dispatch) : Except BatchFault Unit := do
  checkNames [] files
  d.components.forM fun e => checkTier files d e.1 e.2

end ComponentWiring
