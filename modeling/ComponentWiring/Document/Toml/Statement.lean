/-
ComponentWiring.Document.Toml.Statement — the statements of a TOML document.

* `key?`, `value?` — keys, and values with all that stands within them.
* `statements?` — the statements of a text, in order.

Whether the statements agree with each other is decided when the tables are built.
-/
import ComponentWiring.Document.Toml.Number
import ComponentWiring.Document.Toml.Table

namespace ComponentWiring.Document.Toml

/-! ## 1. Blanks, comments and line ends -/

/-- What follows a comment on its line. -/
def skipComment : List Char → List Char
  | '#' :: r => r.dropWhile isPlain
  | r => r

/-- What follows the blanks and the comment at the end of a line. -/
def lineEnd? (cs : List Char) : Option (List Char) :=
  match skipComment (skipSpaces cs) with
  | [] => some []
  | r => newline? r

/-- What follows blanks, comments and line ends, as they may stand within a list. -/
def skipTrivia (inComment : Bool) : List Char → List Char
  | [] => []
  | '\n' :: r => skipTrivia false r
  | '\r' :: '\n' :: r => skipTrivia false r
  | c :: r =>
    if inComment then if isPlain c then skipTrivia true r else c :: r
    else if isSpace c then skipTrivia false r
    else if c = '#' then skipTrivia true r
    else c :: r

/-! ## 2. Keys -/

/-- A character of a key without quotes. -/
def isBareKeyChar (c : Char) : Bool := c.isAlphanum || c == '-' || c == '_'

/-- A key that is one name. -/
def simpleKey? (cs : List Char) : Option (String × List Char) :=
  match lineText? cs with
  | some (k, r) => some (String.ofList k, r)
  | none =>
    match cs.takeWhile isBareKeyChar with
    | [] => none
    | k => some (String.ofList k, cs.dropWhile isBareKeyChar)

/-- A key of several names with dots between them. -/
def dottedKey? : Nat → List Char → Option (List String × List Char)
  | 0, _ => none
  | fuel + 1, cs => do
    let (k, r) ← simpleKey? (skipSpaces cs)
    match skipSpaces r with
    | '.' :: r =>
      let (ks, r) ← dottedKey? fuel r
      return (k :: ks, r)
    | r => return ([k], r)

/-- Fewer than this many names make a key, and fewer lists and inline tables may
stand within each other. -/
def nestingLimit : Nat := 80

/-- A key and the blanks around it: the names that lead to it, and its own name. -/
def key? (cs : List Char) : Option ((List String × String) × List Char) := do
  let (ks, r) ← dottedKey? nestingLimit cs
  if ks.length < nestingLimit then
    return ((ks.dropLast, ← ks.getLast?), r)
  else none

/-! ## 3. Values -/

mutual
/-- A value within so many lists and inline tables. -/
def value? (fuel depth : Nat) (cs : List Char) : Option (Node × List Char) :=
  match fuel with
  | 0 => none
  | fuel + 1 =>
    match cs with
    | 't' :: 'r' :: 'u' :: 'e' :: r => some (.bool true, r)
    | 'f' :: 'a' :: 'l' :: 's' :: 'e' :: r => some (.bool false, r)
    | '[' :: r =>
      if depth + 1 < nestingLimit then do
        let (items, r) ← items? fuel (depth + 1) r
        return (.list items, r)
      else none
    | '\x7b' :: r =>
      if depth + 1 < nestingLimit then
        match skipSpaces r with
        | '\x7d' :: r => some (.record [], r)
        | r => do
          let (pairs, r) ← pairs? fuel (depth + 1) r
          return (← inlineTable? pairs, r)
      else none
    | '"' :: r => do
      let (s, r) ← text? ('"' :: r)
      return (.text (String.ofList s), r)
    | '\'' :: r => do
      let (s, r) ← text? ('\'' :: r)
      return (.text (String.ofList s), r)
    | r => number? r
/-- The items of a list, up to its closing bracket. -/
def items? (fuel depth : Nat) (cs : List Char) : Option (List Node × List Char) :=
  match fuel with
  | 0 => none
  | fuel + 1 =>
    match skipTrivia false cs with
    | ']' :: r => some ([], r)
    | r => do
      let (n, r) ← value? fuel depth r
      match skipTrivia false r with
      | ',' :: r =>
        let (ns, r) ← items? fuel depth r
        return (n :: ns, r)
      | ']' :: r => return ([n], r)
      | _ => none
/-- The pairs of an inline table, up to its closing brace. -/
def pairs? (fuel depth : Nat) (cs : List Char) : Option (List (List String × String × Node) × List Char) :=
  match fuel with
  | 0 => none
  | fuel + 1 => do
    let ((path, k), r) ← key? cs
    match r with
    | '=' :: r =>
      let (n, r) ← value? fuel depth (skipSpaces r)
      match skipSpaces r with
      | ',' :: r =>
        let (ps, r) ← pairs? fuel depth r
        return ((path, k, n) :: ps, r)
      | '\x7d' :: r => return ([(path, k, n)], r)
      | _ => none
    | _ => none
end

/-! ## 4. Statements -/

/-- The head of a table, after its opening bracket. -/
def header? : List Char → Option (Statement × List Char)
  | '[' :: r => do
    let ((path, k), r) ← key? r
    match r with
    | ']' :: ']' :: r => return (.element path k, ← lineEnd? r)
    | _ => none
  | r => do
    let ((path, k), r) ← key? r
    match r with
    | ']' :: r => return (.table path k, ← lineEnd? r)
    | _ => none

/-- A key with its value, on a line of its own. -/
def pair? (cs : List Char) : Option (Statement × List Char) := do
  let ((path, k), r) ← key? cs
  match r with
  | '=' :: r =>
    let (n, r) ← value? (2 * r.length + 2) 0 (skipSpaces r)
    return (.pair path k n, ← lineEnd? r)
  | _ => none

/-- The statements of a text. -/
def statementsWithin? : Nat → List Char → Option (List Statement)
  | 0, _ => none
  | fuel + 1, cs =>
    match skipSpaces cs with
    | [] => some []
    | '#' :: r => do statementsWithin? fuel (← lineEnd? ('#' :: r))
    | '\n' :: r => statementsWithin? fuel r
    | '\r' :: r => do statementsWithin? fuel (← newline? ('\r' :: r))
    | '[' :: r => do
      let (s, r) ← header? r
      return s :: (← statementsWithin? fuel r)
    | r => do
      let (s, r) ← pair? r
      return s :: (← statementsWithin? fuel r)

/-- The statements of a document, which may start with a byte order mark. Every statement
takes a character off the text, so its length bounds their number. -/
def statements? (cs : List Char) : Option (List Statement) :=
  let body := match cs with
    | c :: r => if c.toNat = 0xfeff then r else c :: r
    | [] => []
  statementsWithin? (body.length + 1) body

/-- The node of a TOML document. -/
def read? (s : String) : Option Node := do
  assemble? (← statements? s.toList)

/-- In TOML a list that stands for a record may have surplus items, and a variant without
contents holds an empty list or table. -/
def dialect : Dialect where
  allowsSurplus := true
  isUnit := fun | .list [] => true | .record [] => true | _ => false

end ComponentWiring.Document.Toml
