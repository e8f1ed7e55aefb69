/-
ComponentWiring.Java.Modifier — the modifiers of declarations.

Their order is the order in which a declaration writes them.
-/

namespace ComponentWiring.Java

/-- A modifier of a declaration. -/
inductive Modifier
  | publicMod
  | protectedMod
  | privateMod
  | abstractMod
  | defaultMod
  | staticMod
  | finalMod
  | nativeMod
deriving DecidableEq, Inhabited

namespace Modifier

/-- All modifiers, in order. -/
def all : List Modifier :=
  [.publicMod, .protectedMod, .privateMod, .abstractMod, .defaultMod, .staticMod, .finalMod,
    .nativeMod]

/-- The keyword of a modifier. -/
def keyword : Modifier → String
  | .publicMod => "public"
  | .protectedMod => "protected"
  | .privateMod => "private"
  | .abstractMod => "abstract"
  | .defaultMod => "default"
  | .staticMod => "static"
  | .finalMod => "final"
  | .nativeMod => "native"

/-- The modifier of a keyword. -/
def ofKeyword? (s : String) : Option Modifier := all.find? (·.keyword = s)

/-- The modifiers of a list, each once and in their order. -/
def sorted (l : List Modifier) : List Modifier := all.filter (l.contains ·)

end Modifier

end ComponentWiring.Java
