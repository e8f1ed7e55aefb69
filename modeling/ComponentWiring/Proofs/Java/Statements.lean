/-
ComponentWiring.Proofs.Java.Statements — generated code as statements.

* `Lexeme`, `lexemes` — a format as words, symbols and placeholders.
* `Token`, `fill` — the same with the arguments in place.
* `Expr`, `Statement` — what the tokens of generated code can form.
* `Segment.read`, `readCode` — the statements of code, if all of it can be read.
* `readCode_append`, `readCode_flatMap` — code is read piece by piece.

Generated code is not made of statements but of formats, so whether a call stands in it is only seen
after reading. Every segment of it holds whole statements, or the braces and labels around some. A
name that fills a placeholder is one token, whatever its characters are.
-/
import ComponentWiring.Java.Render

namespace ComponentWiring.Java

/-! ## 1. Formats -/

/-- The words with a meaning of their own in generated code. -/
inductive Keyword
  | finalWord
  | newWord
  | returnWord
  | switchWord
  | caseWord
  | breakWord
deriving DecidableEq, Inhabited

/-- The keyword of a word. -/
def Keyword.ofWord? (w : String) : Option Keyword :=
  if w = "final" then some .finalWord
  else if w = "new" then some .newWord
  else if w = "return" then some .returnWord
  else if w = "switch" then some .switchWord
  else if w = "case" then some .caseWord
  else if w = "break" then some .breakWord
  else none

/-- The characters between words that are no spaces. -/
inductive Symbol
  | dot
  | comma
  | equals
  | colon
  | semicolon
  | opening
  | closing
  | openingBrace
  | closingBrace
deriving DecidableEq, Inhabited

/-- The symbol of a character. -/
def Symbol.ofChar? : Char → Option Symbol
  | '.' => some .dot
  | ',' => some .comma
  | '=' => some .equals
  | ':' => some .colon
  | ';' => some .semicolon
  | '(' => some .opening
  | ')' => some .closing
  | '\x7b' => some .openingBrace
  | '\x7d' => some .closingBrace
  | _ => none

/-- A piece of a format. -/
inductive Lexeme
  | keyword (k : Keyword)
  | word (w : String)
  | symbol (s : Symbol)
  | hole (p : Placeholder)
deriving DecidableEq, Inhabited

/-- The lexeme of a word; nothing for the empty one. -/
def wordLexemes (word : List Char) : List Lexeme :=
  if word.isEmpty then []
  else match Keyword.ofWord? (String.ofList word) with
    | some k => [.keyword k]
    | none => [.word (String.ofList word)]

/-- The pieces of a format, given the start of a word before it. Spaces and indentation only part
words. -/
def lexemes : List Char → List Char → Option (List Lexeme)
  | word, [] => some (wordLexemes word)
  | word, '$' :: c :: r =>
    if c = '>' ∨ c = '<' then (lexemes [] r).map (wordLexemes word ++ ·)
    else do
      let p ← Placeholder.ofLetter? c
      let ls ← lexemes [] r
      return wordLexemes word ++ .hole p :: ls
  | word, c :: r =>
    if c.isAlphanum then lexemes (word ++ [c]) r
    else if c.isWhitespace then (lexemes [] r).map (wordLexemes word ++ ·)
    else do
      let s ← Symbol.ofChar? c
      let ls ← lexemes [] r
      return wordLexemes word ++ .symbol s :: ls

/-! ## 2. Tokens -/

/-- A piece of code. -/
inductive Token
  | keyword (k : Keyword)
  | identifier (name : String)
  | symbol (s : Symbol)
  | type (t : TypeExpr)
  | text (s : String)
  | anonymous (decl : TypeDecl)

/-- Puts arguments into the placeholders, if they are of the right kinds and as many. -/
def fill : List Lexeme → List CodeArg → Option (List Token)
  | [], [] => some []
  | .keyword k :: ls, as => (fill ls as).map (.keyword k :: ·)
  | .word w :: ls, as => (fill ls as).map (.identifier w :: ·)
  | .symbol s :: ls, as => (fill ls as).map (.symbol s :: ·)
  | .hole .type :: ls, .type t :: as => (fill ls as).map (.type t :: ·)
  | .hole .text :: ls, .text s :: as => (fill ls as).map (.text s :: ·)
  | .hole .name :: ls, .name s :: as => (fill ls as).map (.identifier s :: ·)
  | .hole .literal :: ls, .anonymous d :: as => (fill ls as).map (.anonymous d :: ·)
  | _, _ => none

/-! ## 3. Statements -/

/-- An expression of generated code. -/
inductive Expr
  | variable (name : String)
  /-- A call of a method of the class that the code is in. -/
  | own (method : String) (arguments : List Expr)
  | call (receiver : Expr) (method : String) (arguments : List Expr)
  /-- A call of a static method. -/
  | static (type : TypeExpr) (method : String) (arguments : List Expr)
  | create (type : TypeExpr) (arguments : List Expr)
  | cast (type : TypeExpr) (value : Expr)
  | anonymous (decl : TypeDecl)

/-- A statement of generated code, or a line of a switch. -/
inductive Statement
  | declare (type : TypeExpr) (name : String) (value : Expr)
  | assign (name : String) (value : Expr)
  | evaluate (value : Expr)
  | answer (value : Expr)
  | switchOn (value : Expr)
  | caseOf (text : String)
  | breakOut
  | close

mutual
/-- Reads an expression, with a bound on its depth. -/
def parseExpr : Nat → List Token → Option (Expr × List Token)
  | n + 1, .keyword .newWord :: .type t :: .symbol .opening :: r => do
    let (as, r) ← parseArguments n r
    parseCalls n (.create t as) r
  | n + 1, .symbol .opening :: .type t :: .symbol .closing :: r => do
    let (e, r) ← parseExpr n r
    return (.cast t e, r)
  | n + 1, .type t :: .symbol .dot :: .identifier m :: .symbol .opening :: r => do
    let (as, r) ← parseArguments n r
    parseCalls n (.static t m as) r
  | n + 1, .identifier m :: .symbol .opening :: r => do
    let (as, r) ← parseArguments n r
    parseCalls n (.own m as) r
  | n + 1, .identifier x :: r => parseCalls n (.variable x) r
  | n + 1, .anonymous d :: r => parseCalls n (.anonymous d) r
  | _, _ => none
/-- Reads the calls that follow an expression. -/
def parseCalls : Nat → Expr → List Token → Option (Expr × List Token)
  | n + 1, e, .symbol .dot :: .identifier m :: .symbol .opening :: r => do
    let (as, r) ← parseArguments n r
    parseCalls n (.call e m as) r
  | _, e, r => some (e, r)
/-- Reads the arguments of a call up to its closing parenthesis. -/
def parseArguments : Nat → List Token → Option (List Expr × List Token)
  | 0, _ => none
  | _ + 1, .symbol .closing :: r => some ([], r)
  | n + 1, ts => do
    let (e, r) ← parseExpr n ts
    match r with
    | .symbol .closing :: r => return ([e], r)
    | .symbol .comma :: r => do
      let (es, r) ← parseArguments n r
      return (e :: es, r)
    | _ => none
end

/-- Reads an expression and the symbols after it. -/
def parseUpTo (n : Nat) (ending : List Symbol) (form : Expr → Statement) (ts : List Token) :
    Option (Statement × List Token) := do
  let (e, r) ← parseExpr n ts
  go e ending r
where
  /-- Reads the symbols. -/
  go (e : Expr) : List Symbol → List Token → Option (Statement × List Token)
    | [], r => some (form e, r)
    | s :: ss, .symbol t :: r => if s = t then go e ss r else none
    | _, _ => none

/-- Reads a statement. -/
def parseStatement (n : Nat) : List Token → Option (Statement × List Token)
  | .symbol .closingBrace :: r => some (.close, r)
  | .keyword .breakWord :: .symbol .semicolon :: r => some (.breakOut, r)
  | .keyword .caseWord :: .text s :: .symbol .colon :: r => some (.caseOf s, r)
  | .keyword .switchWord :: .symbol .opening :: r =>
    parseUpTo n [.closing, .openingBrace] .switchOn r
  | .keyword .finalWord :: .type t :: .identifier x :: .symbol .equals :: r =>
    parseUpTo n [.semicolon] (.declare t x) r
  | .keyword .returnWord :: r => parseUpTo n [.semicolon] .answer r
  | .identifier x :: .symbol .equals :: r => parseUpTo n [.semicolon] (.assign x) r
  | ts => parseUpTo n [.semicolon] .evaluate ts

/-- Reads statements up to the last token, with a bound on their number. -/
def parseStatements : Nat → List Token → Option (List Statement)
  | _, [] => some []
  | 0, _ => none
  | n + 1, ts => do
    let (s, r) ← parseStatement n ts
    let rest ← parseStatements n r
    return s :: rest

/-- The statements of a segment. -/
def Segment.read : Segment → Option (List Statement)
  | ⟨format, arguments⟩ => do
    let ls ← lexemes [] format.toList
    let ts ← fill ls arguments
    parseStatements ts.length ts

/-- The statements of code. -/
def readCode : Code → Option (List Statement)
  | [] => some []
  | s :: ss => do
    let first ← s.read
    let rest ← readCode ss
    return first ++ rest

/-! ## 4. Pieces of code -/

theorem readCode_append {code code' : Code} {ss ss' : List Statement}
    (h : readCode code = some ss) (h' : readCode code' = some ss') :
    readCode (code ++ code') = some (ss ++ ss') := by
  induction code generalizing ss with
  | nil =>
    cases h
    exact h'
  | cons s code ih =>
    simp only [readCode, Option.bind_eq_bind, Option.bind_eq_some_iff, Option.pure_def,
      Option.some.injEq] at h
    obtain ⟨first, read, rest, readRest, rfl⟩ := h
    rw [List.cons_append, readCode, read, ih readRest, List.append_assoc]
    rfl

-- A chain of calls, then the end of a block.
example (n : String) :
    readCode (Code.statement "return component.$N()" [.name n] ++ Code.closing) =
      some [.answer (.call (.variable "component") n []), .close] :=
  rfl

theorem readCode_flatMap {α : Type} {f : α → Code} {g : α → List Statement} {l : List α}
    (h : ∀ a ∈ l, readCode (f a) = some (g a)) : readCode (l.flatMap f) = some (l.flatMap g) := by
  induction l with
  | nil => rfl
  | cons a l ih =>
    rw [List.flatMap_cons, List.flatMap_cons]
    exact readCode_append (h a List.mem_cons_self)
      (ih fun b hb => h b (List.mem_cons_of_mem a hb))

end ComponentWiring.Java
