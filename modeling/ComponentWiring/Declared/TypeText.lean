/-
ComponentWiring.Declared.TypeText — types as an index spells them.

Nothing and `void` spell no type, `error:` precedes the name of an unresolved one, and type
arguments are left out.
-/
import ComponentWiring.Declared.Element
import ComponentWiring.Text.Blank

namespace ComponentWiring

/-- The text before the type arguments. -/
def withoutArguments (s : String) : String :=
  Text.trim (String.ofList (s.toList.takeWhile (· != '<')))

/-- The type a text spells. -/
def TypeRef.ofText (s : String) : TypeRef :=
  let s := Text.trim s
  if s.isEmpty || s = "void" then .absent
  else match Text.dropStart? "error:".toList s.toList with
    | some name => .unresolved (withoutArguments (String.ofList name))
    | none => .named (withoutArguments s)

/-- The class a text names, as a compiled class or by reference. -/
def ClassLiteral.ofText (s : String) (loaded : Bool) : ClassLiteral :=
  if loaded then .ofLoaded (withoutArguments s) else .byReference (.ofText s)

end ComponentWiring
