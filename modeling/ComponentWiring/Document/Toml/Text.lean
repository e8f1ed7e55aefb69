/-
ComponentWiring.Document.Toml.Text — the four ways to write a text in TOML.

* `basicBody`, `literalBody` — on one line, between double or single quotes.
* `multilineBasicBody`, `multilineLiteralBody` — over several lines, between three quotes.

Each takes the characters after the opening quotes and answers the text and what follows
the closing quotes, or `none` when the text does not end or holds a forbidden character.
-/
import ComponentWiring.Document.Json

namespace ComponentWiring.Document.Toml

/-- Spaces and tabs. -/
def isSpace (c : Char) : Bool := c == ' ' || c == '\t'

/-- A character that may stand in a text or a comment as it is. -/
def isPlain (c : Char) : Bool :=
  c == '\t' || (decide (0x20 ≤ c.toNat) && c.toNat != 0x7f)

/-- What follows the spaces and tabs. -/
def skipSpaces (cs : List Char) : List Char := cs.dropWhile isSpace

/-- What follows the line end at the front, if one stands there. -/
def newline? : List Char → Option (List Char)
  | '\n' :: r => some r
  | '\r' :: '\n' :: r => some r
  | _ => none

/-! ## 1. Escapes -/

/-- The character with the given code point, unless it is a surrogate or too large. -/
def scalar? (n : Nat) : Option Char :=
  if h : n.isValidChar then some (Char.ofNatAux n h) else none

/-- The value of hexadecimal digits. -/
def hexNumber? (ds : List Char) : Option Nat :=
  ds.foldlM (fun n c => (Json.hexValue? c).map (n * 16 + ·)) 0

/-- The character of an escape of one letter. -/
def shortEscape? : Char → Option Char
  | 'b' => some '\x08'
  | 't' => some '\t'
  | 'n' => some '\n'
  | 'f' => some '\x0c'
  | 'r' => some '\r'
  | '"' => some '"'
  | '\\' => some '\\'
  | _ => none

/-- A character before the rest of a text. -/
def prepend (c : Char) (r : Option (List Char × List Char)) : Option (List Char × List Char) :=
  r.map fun (s, rest) => (c :: s, rest)

/-! ## 2. On one line -/

/-- A text with escapes, up to the closing double quote. -/
def basicBody : List Char → Option (List Char × List Char)
  | [] => none
  | '"' :: r => some ([], r)
  | '\\' :: 'u' :: a :: b :: c :: d :: r => do
    let ch ← (hexNumber? [a, b, c, d]).bind scalar?
    prepend ch (basicBody r)
  | '\\' :: 'U' :: a :: b :: c :: d :: e :: f :: g :: h :: r => do
    let ch ← (hexNumber? [a, b, c, d, e, f, g, h]).bind scalar?
    prepend ch (basicBody r)
  | '\\' :: e :: r => do
    let ch ← shortEscape? e
    prepend ch (basicBody r)
  | c :: r => if isPlain c && c != '\\' then prepend c (basicBody r) else none

/-- A text without escapes, up to the closing single quote. -/
def literalBody : List Char → Option (List Char × List Char)
  | [] => none
  | '\'' :: r => some ([], r)
  | c :: r => if isPlain c then prepend c (literalBody r) else none

/-! ## 3. Over several lines -/

/-- Up to two quotes that stand before the three closing ones belong to the text. -/
def trailingQuotes (q : Char) : List Char → List Char × List Char
  | a :: b :: r => if a = q ∧ b = q then ([q, q], r) else if a = q then ([q], b :: r) else ([], a :: b :: r)
  | [a] => if a = q then ([q], []) else ([], [a])
  | [] => ([], [])

/-- Whether only spaces stand before the next line end, so that a backslash before them
joins the lines. -/
def endsLine (cs : List Char) : Bool := (newline? (skipSpaces cs)).isSome

/-- A text with escapes, up to three closing double quotes. While lines are being joined,
blanks and line ends are passed over. -/
def multilineBasicBody (joining : Bool) : List Char → Option (List Char × List Char)
  | [] => none
  | '"' :: '"' :: '"' :: r => some (trailingQuotes '"' r)
  | '\\' :: 'u' :: a :: b :: c :: d :: r => do
    let ch ← (hexNumber? [a, b, c, d]).bind scalar?
    prepend ch (multilineBasicBody false r)
  | '\\' :: 'U' :: a :: b :: c :: d :: e :: f :: g :: h :: r => do
    let ch ← (hexNumber? [a, b, c, d, e, f, g, h]).bind scalar?
    prepend ch (multilineBasicBody false r)
  | '\\' :: e :: r =>
    if isSpace e || e == '\n' || e == '\r' then
      if endsLine (e :: r) then multilineBasicBody true (e :: r) else none
    else do
      let ch ← shortEscape? e
      prepend ch (multilineBasicBody false r)
  | '\r' :: '\n' :: r =>
    if joining then multilineBasicBody true r else prepend '\n' (multilineBasicBody false r)
  | c :: r =>
    if joining && (isSpace c || c == '\n') then multilineBasicBody true r
    else if (isPlain c && c != '\\') || c == '\n' then prepend c (multilineBasicBody false r)
    else none

/-- A text without escapes, up to three closing single quotes. -/
def multilineLiteralBody : List Char → Option (List Char × List Char)
  | [] => none
  | '\'' :: '\'' :: '\'' :: r => some (trailingQuotes '\'' r)
  | '\r' :: '\n' :: r => prepend '\n' (multilineLiteralBody r)
  | c :: r => if isPlain c || c == '\n' then prepend c (multilineLiteralBody r) else none

/-- A text over several lines may start with a line end that does not belong to it. -/
def skipFirstNewline (cs : List Char) : List Char := (newline? cs).getD cs

/-- A text that may be a key or a value, by its opening quote. -/
def lineText? : List Char → Option (List Char × List Char)
  | '"' :: r => basicBody r
  | '\'' :: r => literalBody r
  | _ => none

/-- A text that is a value. -/
def text? : List Char → Option (List Char × List Char)
  | '"' :: '"' :: '"' :: r => multilineBasicBody false (skipFirstNewline r)
  | '\'' :: '\'' :: '\'' :: r => multilineLiteralBody (skipFirstNewline r)
  | cs => lineText? cs

end ComponentWiring.Document.Toml
