/-
ComponentWiring.Text.Letter — letters, numbers, capitals and the lower-case form of a
character, as Unicode defines them.

ASCII is decided directly; the tables answer for all other characters.
-/
import ComponentWiring.Text.Alphabetic
import ComponentWiring.Text.Numeric
import ComponentWiring.Text.Uppercase
import ComponentWiring.Text.Lowercase

namespace ComponentWiring.Text

/-- Whether a character has the property Alphabetic. -/
def isLetter (c : Char) : Bool :=
  if c.toNat < 0x80 then c.isAlpha else inRanges alphabeticRanges c

/-- Whether a character is a letter or belongs to a number category. -/
def isLetterOrNumber (c : Char) : Bool :=
  if c.toNat < 0x80 then c.isAlphanum else isLetter c || inRanges numericRanges c

/-- Whether a character has the property Uppercase. -/
def isCapital (c : Char) : Bool :=
  if c.toNat < 0x80 then c.isUpper else inRanges uppercaseRanges c

/-- The lower-case form of a character. Only the dotted capital I has one of two
characters: a plain `i` and the combining dot above. -/
def lowercase (c : Char) : List Char :=
  if c.toNat < 0x80 then [c.toLower]
  else if c.toNat == 0x130 then ['i', Char.ofNat 0x307]
  else match lowercaseRanges.find? (·.1.contains c.toNat) with
    | some (_, distance) => [Char.ofNat (c.toNat + distance).toNat]
    | none => [c]

/-- The text with its first character in lower case. -/
def uncapitalize (s : String) : String :=
  match s.toList with
  | [] => ""
  | c :: r => String.ofList (lowercase c ++ r)

end ComponentWiring.Text
