/-
ComponentWiring.Declared.Platform — the types of the platform and the framework.

Classes of a project extend these, so that a walk up their superclasses ends at the root
class. They are declared before the types of the project, which may replace them.
-/
import ComponentWiring.Declared.Store
import ComponentWiring.Settings.Basic

namespace ComponentWiring

namespace Platform

def activity : String := "android.app.Activity"
def fragment : String := "android.app.Fragment"
def compatActivity : String := "android.support.v7.app.AppCompatActivity"

/-- A class that extends `superclass`. -/
def subclass (name superclass : String) : TypeElement :=
  { TypeElement.ofKind .classType name with superclass := .named superclass }

/-- An abstract class with one type parameter. -/
def base (name superclass parameter : String) (interfaces : List String) : TypeElement :=
  { subclass name superclass with
    modifiers := [.publicMod, .abstractMod]
    typeParameters := [parameter]
    interfaces := interfaces.map .named }

/-- The types of the platform and the framework, supertypes first, then the annotations. -/
def types (n : FrameworkNames) : List TypeElement :=
  [.ofKind .classType rootClass,
   .ofClass activity,
   .ofClass fragment,
   subclass compatActivity activity,
   .ofClass n.applicationBase,
   .ofInterface n.viewable,
   { TypeElement.ofInterface n.presentable with typeParameters := ["V"] },
   .ofInterface n.activityView,
   .ofInterface n.fragmentView,
   base n.activityBase activity "P" [n.activityView, n.viewable],
   base n.compatActivityBase compatActivity "P" [n.activityView, n.viewable],
   base n.fragmentBase fragment "P" [n.fragmentView, n.viewable],
   base n.presenterBase rootClass "V" []]
    ++ n.markers.map (.ofKind .annotationType)

/-- The store that holds them. -/
def store (n : FrameworkNames) : TypeStore := TypeStore.empty.insertAll (types n)

end Platform

end ComponentWiring
