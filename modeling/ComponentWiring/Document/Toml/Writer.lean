/-
ComponentWiring.Document.Toml.Writer — writing TOML documents.

* `Layout.of` — which of the ways to write a text suits it.
* `writeText` — a text between quotes.
* `writeSections` — a document of sections that hold texts and integers.

Of the ways in which a text reads as it is, the first is chosen: between double quotes,
between single quotes, between three double quotes, between three single quotes. Where none
is left, escapes are needed.
-/
import ComponentWiring.Document.Toml.Text
import ComponentWiring.Text.Segments

namespace ComponentWiring.Document.Toml

/-! ## 1. Texts -/

/-- The ways to write a text. -/
inductive Layout
  /-- With escapes, on one line. -/
  | basic
  /-- Without escapes, on one line. -/
  | literal
  /-- With escapes, between three quotes. -/
  | multilineBasic
  /-- Without escapes, between three quotes. -/
  | multilineLiteral
deriving DecidableEq

/-- Whether three of the character stand next to each other. -/
def hasThree (q : Char) : List Char → Bool
  | a :: b :: c :: r => (a == q && b == q && c == q) || hasThree q (b :: c :: r)
  | _ => false

/-- Whether every control character is a tab or a line end. -/
def isPrintable (cs : List Char) : Bool := cs.all fun c => isPlain c || c == '\n'

/-- The way that suits the characters. -/
def Layout.of (cs : List Char) : Layout :=
  let escaped := if cs.contains '\n' then multilineBasic else basic
  if !isPrintable cs then escaped
  else if !cs.contains '\\' && !cs.contains '"' && !cs.contains '\n' then basic
  else if !cs.contains '\'' && !cs.contains '\n' then literal
  else if !cs.contains '\\' && !hasThree '"' cs then multilineBasic
  else if !hasThree '\'' cs then multilineLiteral
  else escaped

/-- Four hexadecimal digits of a number. -/
def hex4 (n : Nat) : List Char :=
  [0x1000, 0x100, 0x10, 1].map fun d => Nat.digitChar (n / d % 16) |>.toUpper

/-- A character other than a double quote in a text with escapes. A line end is kept between
three quotes. -/
def escapeChar (multiline : Bool) (c : Char) : List Char :=
  if c = '\n' then if multiline then ['\n'] else ['\\', 'n']
  else if c = '\x08' then ['\\', 'b']
  else if c = '\t' then ['\\', 't']
  else if c = '\x0c' then ['\\', 'f']
  else if c = '\r' then ['\\', 'r']
  else if c = '\\' then ['\\', '\\']
  else if isPlain c then [c]
  else '\\' :: 'u' :: hex4 c.toNat

/-- Characters with escapes, after so many double quotes in a row. Between three quotes, two
in a row are kept and a third one is escaped. -/
def escapeChars (multiline : Bool) : Nat → List Char → List Char
  | _, [] => []
  | n, '"' :: r =>
    if multiline && n < 2 then '"' :: escapeChars multiline (n + 1) r
    else '\\' :: '"' :: escapeChars multiline 0 r
  | _, c :: r => escapeChar multiline c ++ escapeChars multiline 0 r

/-- Characters between three quotes. A text of several lines starts on a line of its own. -/
def betweenThree (q : Char) (several : Bool) (cs : List Char) : List Char :=
  [q, q, q] ++ (if several then ['\n'] else []) ++ cs ++ [q, q, q]

/-- The characters of a text between quotes. -/
def writeChars (cs : List Char) : List Char :=
  match Layout.of cs with
  | .basic => '"' :: escapeChars false 0 cs ++ ['"']
  | .literal => '\'' :: cs ++ ['\'']
  | .multilineBasic => betweenThree '"' (cs.contains '\n') (escapeChars true 0 cs)
  | .multilineLiteral => betweenThree '\'' (cs.contains '\n') cs

/-- A text between quotes. -/
def writeText (s : String) : String := String.ofList (writeChars s.toList)

/-! ## 2. Sections -/

/-- What a section may hold. -/
inductive Scalar
  | text (s : String)
  | integer (n : Nat)
deriving DecidableEq

/-- The written form of a text or an integer. -/
def Scalar.write : Scalar → String
  | .text s => writeText s
  | .integer n => String.ofList (Nat.toDigits 10 n)

/-- A key with its value, on a line of its own. The key needs no quotes. -/
def writePair (p : String × Scalar) : String := p.1 ++ " = " ++ p.2.write ++ "\n"

/-- A section: its head and its pairs. -/
def writeSection (s : String × List (String × Scalar)) : String :=
  "[" ++ s.1 ++ "]\n" ++ String.join (s.2.map writePair)

/-- A document: its sections with an empty line between each two. -/
def writeSections (l : List (String × List (String × Scalar))) : String :=
  Text.joinTexts "\n" (l.map writeSection)

end ComponentWiring.Document.Toml
