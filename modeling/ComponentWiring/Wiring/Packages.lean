/-
ComponentWiring.Wiring.Packages — where generated types live.

* `Packages` — the packages of the generated sources of an application.
* `classNamed` — the class that a configured or declared name means.
-/
import ComponentWiring.Java.SourceSet
import ComponentWiring.Report.Failure

namespace ComponentWiring

open Java (ClassName WriteFault)

/-- The packages of the generated sources. -/
structure Packages where
  /-- The injectors. -/
  injection : String
  /-- The components and the initializer. -/
  component : String
  /-- The helper components. -/
  helper : String
deriving DecidableEq, Inhabited

/-- The packages below the package of an application. -/
def Packages.below (applicationPackage namespaceSegment : String) : Packages :=
  let injection :=
    ClassName.inPackage applicationPackage ("internal." ++ namespaceSegment ++ ".di")
  { injection
    component := injection ++ ".component"
    helper := injection ++ ".component.helper" }

/-- The class that a name means. -/
def classNamed (name : String) : Except Failure ClassName :=
  match ClassName.parse? name with
  | some c => .ok c
  | none => .error (.emission (WriteFault.invalidName name).message)

end ComponentWiring
