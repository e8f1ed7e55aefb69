/-
ComponentWiring.Declared.QualifiedName — the parts of a qualified name.

* `simpleName` — the segment after the last dot.
* `guessedPackage` — the package a name seems to lie in.
* `relativeName?` — a name seen from a package.
-/
import ComponentWiring.Text.Letter
import ComponentWiring.Text.Segments

namespace ComponentWiring

/-- Whether a segment starts with a capital. -/
def startsWithCapital : List Char → Bool
  | [] => false
  | c :: _ => Text.isCapital c

/-- The segment after the last dot of a name. -/
def simpleName (name : String) : String :=
  match (Text.segments '.' name.toList).getLast? with
  | some s => String.ofList s
  | none => name

/-- The characters without the dots at their end. -/
def dropTrailingDots (cs : List Char) : List Char :=
  (cs.reverse.dropWhile (· == '.')).reverse

/-- The package a name seems to lie in: the segments before the first one that starts
with a capital, without dots at their end; if there is none, all segments but the last. -/
def guessedPackage (name : String) : String :=
  let segs := Text.segments '.' name.toList
  String.ofList <|
    if segs.any startsWithCapital then
      dropTrailingDots (Text.joinWith '.' (segs.takeWhile (!startsWithCapital ·)))
    else Text.joinWith '.' segs.dropLast

/-- What follows the package and a dot at the start of a name. -/
def relativeName? (package name : String) : Option String :=
  (Text.dropStart? (package.toList ++ ['.']) name.toList).map String.ofList

end ComponentWiring
