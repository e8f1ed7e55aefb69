/-
ComponentWiring.Document.Json — reading JSON documents.

* `Json.read?` — the node of a text, or `none` when the text is no JSON document.
* `Json.dialect` — how typed data is written in JSON.

A part that breaks a rule of values rather than of notation (an unpaired surrogate, a
number beyond the doubles, more than 127 nested lists and records) becomes
`Node.unreadable`, for it matters only where somebody reads it.
-/
import ComponentWiring.Document.Node
import ComponentWiring.Document.Magnitude

namespace ComponentWiring.Document.Json

/-- A text is read to the point where the remaining characters start. -/
abbrev Parse (α : Type) := List Char → Option (α × List Char)

/-- What follows the white space of JSON. -/
def skipSpace (cs : List Char) : List Char :=
  cs.dropWhile fun c => c == ' ' || c == '\n' || c == '\t' || c == '\r'

/-! ## 1. Texts -/

/-- The value of a hexadecimal digit. -/
def hexValue? (c : Char) : Option Nat :=
  if c.isDigit then some (c.toNat - '0'.toNat)
  else if 'a' ≤ c ∧ c ≤ 'f' then some (c.toNat - 'a'.toNat + 10)
  else if 'A' ≤ c ∧ c ≤ 'F' then some (c.toNat - 'A'.toNat + 10)
  else none

/-- The value of four hexadecimal digits. -/
def hex4? (a b c d : Char) : Option Nat := do
  return ((← hexValue? a) * 16 + (← hexValue? b)) * 256 + (← hexValue? c) * 16 + (← hexValue? d)

/-- The units of a text up to the closing quote: characters and the code units given by
escapes, which may be surrogates. -/
def textUnits : List Char → Option (List Nat × List Char)
  | [] => none
  | '"' :: r => some ([], r)
  | '\\' :: 'u' :: a :: b :: c :: d :: r => do
    let n ← hex4? a b c d
    let (us, rest) ← textUnits r
    return (n :: us, rest)
  | '\\' :: e :: r => do
    let n ← match e with
      | '"' => some 0x22
      | '\\' => some 0x5c
      | '/' => some 0x2f
      | 'b' => some 0x08
      | 'f' => some 0x0c
      | 'n' => some 0x0a
      | 'r' => some 0x0d
      | 't' => some 0x09
      | _ => none
    let (us, rest) ← textUnits r
    return (n :: us, rest)
  | c :: r =>
    if c.toNat < 0x20 then none
    else do
      let (us, rest) ← textUnits r
      return (c.toNat :: us, rest)

/-- The characters of the units, a pair of surrogates being one character. -/
def joinUnits : List Nat → Option (List Char)
  | [] => some []
  | u :: us =>
    if 0xd800 ≤ u ∧ u < 0xdc00 then
      match us with
      | v :: vs =>
        if 0xdc00 ≤ v ∧ v < 0xe000 then
          (joinUnits vs).map (Char.ofNat (0x10000 + (u - 0xd800) * 1024 + (v - 0xdc00)) :: ·)
        else none
      | [] => none
    else if 0xdc00 ≤ u ∧ u < 0xe000 then none
    else (joinUnits us).map (Char.ofNat u :: ·)

/-- A text after its opening quote; the text is absent when a surrogate stands alone. -/
def parseText : Parse (Option String) := fun cs => do
  let (us, rest) ← textUnits cs
  return ((joinUnits us).map String.ofList, rest)

/-! ## 2. Numbers -/

/-- Splits off the leading digits. -/
def digits (cs : List Char) : List Char × List Char :=
  (cs.takeWhile Char.isDigit, cs.dropWhile Char.isDigit)

/-- The exponent of a number, when one follows. -/
def parseExponent : Parse (Option Int)
  | c :: r =>
    if c == 'e' || c == 'E' then
      let (sign, r) : Int × List Char := match r with
        | '+' :: r => (1, r)
        | '-' :: r => (-1, r)
        | r => (1, r)
      match digits r with
      | ([], _) => none
      | (ds, r) => some (some (sign * digitsValue ds), r)
    else some (none, c :: r)
  | [] => some (none, [])

/-- The digits after the point of a number, when they follow. -/
def parseFraction : Parse (Option (List Char))
  | '.' :: r =>
    match digits r with
    | ([], _) => none
    | (ds, r) => some (some ds, r)
  | cs => some (none, cs)

/-- Appends digits to a number as long as 64 bits can hold it. The answer holds how many
digits are left. -/
def appendDigits : Nat → List Char → Nat × Nat
  | n, [] => (n, 0)
  | n, c :: cs =>
    let longer := n * 10 + digitsValue [c]
    if longer < unsignedBound then appendDigits longer cs else (n, cs.length + 1)

/-- Whether a number is beyond the doubles. The digits that 64 bits cannot hold count by
their places only, and those of a fraction not at all. -/
def isBeyondDoubles (whole fraction : List Char) (exponent : Int) : Bool :=
  let (n, dropped) := appendDigits 0 whole
  let (n, ignored) := appendDigits n fraction
  productExceedsDouble n (exponent + dropped + ignored - fraction.length)

/-- The node of a number. Negative zero counts as no integer. -/
def numberNode (negative : Bool) (whole : List Char) (fraction : Option (List Char))
    (exponent : Option Int) : Node :=
  let n := digitsValue whole
  let asDouble :=
    if isBeyondDoubles whole (fraction.getD []) (exponent.getD 0) then .unreadable else .fraction
  match fraction, exponent with
  | none, none =>
    if negative then
      if n = 0 ∨ signedBound < n then asDouble else .integer (-n)
    else if n < unsignedBound then .integer n else asDouble
  | _, _ => asDouble

/-- A number whose sign has been read. -/
def parseNumber (negative : Bool) : Parse Node := fun cs => do
  let (whole, r) ← match digits cs with
    | ([], _) => none
    | ('0' :: _ :: _, _) => none
    | (ds, r) => some (ds, r)
  let (fraction, r) ← parseFraction r
  let (exponent, r) ← parseExponent r
  return (numberNode negative whole fraction exponent, r)

/-! ## 3. Values -/

/-- A list or record within fewer than this many others can be read. -/
def maxDepth : Nat := 127

mutual
/-- A value that stands within `depth` lists and records. -/
def parseValue (fuel depth : Nat) (cs : List Char) : Option (Node × List Char) :=
  match fuel with
  | 0 => none
  | fuel + 1 =>
    match skipSpace cs with
    | 'n' :: 'u' :: 'l' :: 'l' :: r => some (.null, r)
    | 't' :: 'r' :: 'u' :: 'e' :: r => some (.bool true, r)
    | 'f' :: 'a' :: 'l' :: 's' :: 'e' :: r => some (.bool false, r)
    | '"' :: r => do
      let (s, r) ← parseText r
      return ((s.map Node.text).getD .unreadable, r)
    | '[' :: r => do
      let (items, r) ← match skipSpace r with
        | ']' :: r => some ([], r)
        | _ => parseItems fuel (depth + 1) r
      return (if depth < maxDepth then .list items else .unreadable, r)
    | '\x7b' :: r => do
      let (entries, r) ← match skipSpace r with
        | '\x7d' :: r => some ([], r)
        | _ => parseEntries fuel (depth + 1) r
      let named := entries.mapM fun (k, n) => k.map (·, n)
      return (match named with
        | some es => if depth < maxDepth then .record es else .unreadable
        | none => .unreadable, r)
    | '-' :: r => parseNumber true r
    | r => parseNumber false r
/-- One or more values up to the closing bracket. -/
def parseItems (fuel depth : Nat) (cs : List Char) : Option (List Node × List Char) :=
  match fuel with
  | 0 => none
  | fuel + 1 => do
    let (n, r) ← parseValue fuel depth cs
    match skipSpace r with
    | ',' :: r =>
      let (ns, r) ← parseItems fuel depth r
      return (n :: ns, r)
    | ']' :: r => return ([n], r)
    | _ => none
/-- One or more entries up to the closing brace. -/
def parseEntries (fuel depth : Nat) (cs : List Char) :
    Option (List (Option String × Node) × List Char) :=
  match fuel with
  | 0 => none
  | fuel + 1 =>
    match skipSpace cs with
    | '"' :: r => do
      let (k, r) ← parseText r
      match skipSpace r with
      | ':' :: r =>
        let (n, r) ← parseValue fuel depth r
        match skipSpace r with
        | ',' :: r =>
          let (es, r) ← parseEntries fuel depth r
          return ((k, n) :: es, r)
        | '\x7d' :: r => return ([(k, n)], r)
        | _ => none
      | _ => none
    | _ => none
end

/-- The node of a JSON document. Every step of the reader takes a character off the text,
so twice its length bounds the steps. -/
def read? (s : String) : Option Node :=
  let cs := s.toList
  match parseValue (2 * cs.length + 2) 0 cs with
  | some (n, r) => if (skipSpace r).isEmpty then some n else none
  | none => none

/-- In JSON a list stands for a record only when it has no more items than the record
has fields, and a variant without contents holds null. -/
def dialect : Dialect where
  allowsSurplus := false
  isUnit := fun | .null => true | _ => false

end ComponentWiring.Document.Json
