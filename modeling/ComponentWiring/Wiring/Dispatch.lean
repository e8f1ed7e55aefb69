/-
ComponentWiring.Wiring.Dispatch — which component injects an object, by its class at run time.

* `Dispatch` — for each tier its component and the classes that it injects.
* `Dispatch.resolve` — the class as which an object is injected.
* `Dispatch.switchCode` — the same choice as generated code.
-/
import ComponentWiring.Discovery.AnnotatedClass
import ComponentWiring.Java.Decl
import ComponentWiring.Report.Event

namespace ComponentWiring

open Java (ClassName Code CodeArg)

/-- The component of a tier and the classes it injects, under their names at run time. -/
structure DispatchTable where
  component : ClassName
  targets : Keyed String AnnotatedClass
deriving Inhabited

/-- The tables of the tiers, and the method that injects. -/
structure Dispatch where
  injectMethod : String
  tables : Keyed Tier DispatchTable := .empty
deriving Inhabited

namespace Dispatch

/-- Lets a component inject the containers of a tier. -/
def withTier (d : Dispatch) (tier : Tier) (component : ClassName) (containers : ClassMap) :
    Dispatch :=
  let targets := Keyed.ofList (containers.toList.map fun c => (c.binaryName, c))
  { d with tables := d.tables.insert tier ⟨component, targets⟩ }

/-- The components with their tiers. -/
def components (d : Dispatch) : List (Tier × ClassName) :=
  d.tables.entries.map fun e => (e.1, e.2.component)

/-- The classes that are injected in a tier, with their names at run time. -/
def entries (d : Dispatch) (tier : Tier) : List (String × AnnotatedClass) :=
  (d.tables.get? tier).elim [] (·.targets.entries)

/-- The classes that are injected in a tier. -/
def targets (d : Dispatch) (tier : Tier) : List AnnotatedClass :=
  (d.entries tier).map Prod.snd

/-- The class as which an object of the named class is injected. -/
def resolve (d : Dispatch) (tier : Tier) (runtimeName : String) : Option AnnotatedClass :=
  (d.tables.get? tier).bind (·.targets.get? runtimeName)

/-- The case of one class: its injection and the way out of the switch. -/
def caseCode (injectMethod getter runtimeName : String) (c : AnnotatedClass) : Code :=
  Code.of "case $S:\n$>" [.text runtimeName]
    ++ Code.statement "$N().$N(($T) o)" [.name getter, .name injectMethod, .type (.ofClass c.className)]
    ++ Code.statement "break"
    ++ Code.outdent

/-- Code that injects the object `o` by the component that `getter` answers. Objects of
other classes are left alone. -/
def switchCode (d : Dispatch) (tier : Tier) (getter : String) : Code :=
  match d.entries tier with
  | [] => []
  | es =>
    Code.opening "switch (o.getClass().getName())"
      ++ es.flatMap (fun e => caseCode d.injectMethod getter e.1 e.2)
      ++ Code.closing

end Dispatch

end ComponentWiring
