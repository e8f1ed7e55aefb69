/-
ComponentWiring.Java.Imports — how classes are spelled in a file.

* `Imports.of` — the top-level classes that a file refers to.
* `Imports.lines` — the classes that the file imports, in the order of their names.
* `Imports.spell` — a class by its simple names where these mean it, else by its
  canonical name.
-/
import ComponentWiring.Java.SourceFile

namespace ComponentWiring.Java

/-- The package whose classes need no import. -/
def implicitPackage : String := "java.lang"

/-- The top-level classes a file refers to, each once, and the package of the file. -/
structure Imports where
  home : String
  tops : List ClassName
deriving Inhabited

namespace Imports

/-- The top-level classes of a file. -/
def of (f : SourceFile) : Imports :=
  ⟨f.package, (f.references.map (·.topLevel)).eraseDups⟩

/-- The top-level classes that share a simple name. -/
def sharing (im : Imports) (simple : String) : List ClassName :=
  im.tops.filter (·.outer = simple)

/-- Whether several top-level classes share the simple name. -/
def isAmbiguous (im : Imports) (simple : String) : Bool := 1 < (im.sharing simple).length

/-- Whether classes of the package are known without an import. -/
def isNear (im : Imports) (package : String) : Bool :=
  package = im.home || package = implicitPackage

/-- Whether a top-level class is imported: no other class has its simple name, and its
package needs an import and has a name. -/
def imports (im : Imports) (top : ClassName) : Bool :=
  im.tops.contains top && !im.isAmbiguous top.outer && !im.isNear top.package
    && !top.package.isEmpty

/-- The canonical names of the imported classes, in order. -/
def lines (im : Imports) : List String :=
  ((im.tops.filter im.imports).map (·.canonicalName)).mergeSort (fun a b => decide (a ≤ b))

/-- Whether some imported class has the simple name. -/
def importsName (im : Imports) (simple : String) : Bool :=
  im.tops.any fun t => t.outer = simple && im.imports t

/-- Whether the simple names of a class mean it in the file. -/
def isShort (im : Imports) (c : ClassName) : Bool :=
  let top := c.topLevel
  if im.imports top then true
  else if im.isAmbiguous top.outer || im.importsName top.outer then false
  else im.isNear top.package

/-- A class as the file spells it. -/
def spell (im : Imports) (c : ClassName) : String :=
  if im.isShort c then c.nestedName else c.canonicalName

mutual
/-- A type as the file spells it. -/
def spellType (im : Imports) : TypeExpr → String
  | .void => "void"
  | .ofClass c => im.spell c
  | .parameterized raw arguments =>
    im.spell raw ++ "<" ++ Text.joinTexts ", " (im.spellTypes arguments) ++ ">"
  | .variable name => name
  | .wildcard => "?"
  | .extending bound => "? extends " ++ im.spellType bound
/-- Types as the file spells them. -/
def spellTypes (im : Imports) : List TypeExpr → List String
  | [] => []
  | t :: ts => im.spellType t :: im.spellTypes ts
end

end Imports

end ComponentWiring.Java
