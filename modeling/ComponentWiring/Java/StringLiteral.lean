/-
ComponentWiring.Java.StringLiteral — texts as string literals.

A quote, a backslash and the line ends and tab are escaped; every other character stands
for itself.
-/

namespace ComponentWiring.Java

/-- A character as it stands within a string literal. -/
def escapeInLiteral (c : Char) : List Char :=
  if c = '"' then ['\\', '"']
  else if c = '\\' then ['\\', '\\']
  else if c = '\n' then ['\\', 'n']
  else if c = '\t' then ['\\', 't']
  else if c = '\r' then ['\\', 'r']
  else [c]

/-- The string literal of a text. -/
def stringLiteral (s : String) : String :=
  String.ofList ('"' :: s.toList.flatMap escapeInLiteral ++ ['"'])

end ComponentWiring.Java
