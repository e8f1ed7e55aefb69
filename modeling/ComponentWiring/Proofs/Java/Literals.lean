/-
ComponentWiring.Proofs.Java.Literals — what string literals mean.

* `replaceUnicode` — source text after its unicode escapes are replaced.
* `readLiteral` — the text of the string literal with which source text starts, and the rest.
* `literalValue?` — the text that a string literal stands for.
* `literalValue?_stringLiteral` — a text is read off the literal that is written for it.

A unicode escape is replaced wherever it stands, even within a string literal. It starts at a
backslash that an even number of backslashes precedes, so no doubled backslash starts one. Escapes
of single surrogates are not read.
-/
import ComponentWiring.Document.Json
import ComponentWiring.Java.StringLiteral

namespace ComponentWiring.Java

open Document.Json (hexValue?)

/-! ## 1. Unicode escapes -/

/-- Where a reader stands in a text whose unicode escapes it replaces. -/
inductive UnicodeScan
  | between
  /-- Behind a backslash that an even number of backslashes precedes. -/
  | backslash
  /-- Behind such a backslash and at least one mark of a unicode escape. -/
  | marked
  /-- Within the digits, of which so many are to come. -/
  | digits (left value : Nat)

/-- The text with the characters of its unicode escapes in their place. -/
def replaceUnicode : UnicodeScan → List Char → Option (List Char)
  | .between, [] => some []
  | .backslash, [] => some ['\\']
  | _, [] => none
  | .between, c :: r =>
    if c = '\\' then replaceUnicode .backslash r
    else (replaceUnicode .between r).map (c :: ·)
  | .backslash, c :: r =>
    if c = 'u' then replaceUnicode .marked r
    else (replaceUnicode .between r).map ('\\' :: c :: ·)
  | .marked, c :: r =>
    if c = 'u' then replaceUnicode .marked r
    else do replaceUnicode (.digits 3 (← hexValue? c)) r
  | .digits left value, c :: r => do
    let value := 16 * value + (← hexValue? c)
    match left with
    | 0 => none
    | 1 =>
      if value.isValidChar then (replaceUnicode .between r).map (Char.ofNat value :: ·) else none
    | left + 2 => replaceUnicode (.digits (left + 1) value) r

/-! ## 2. Literals -/

/-- The character that a backslash and this character stand for. -/
def simpleEscape? : Char → Option Char
  | 'b' => some '\x08'
  | 's' => some ' '
  | 't' => some '\t'
  | 'n' => some '\n'
  | 'f' => some '\x0c'
  | 'r' => some '\r'
  | '"' => some '"'
  | '\x27' => some '\x27'
  | '\\' => some '\\'
  | _ => none

/-- The value of an octal digit. -/
def octalValue? (c : Char) : Option Nat :=
  if '0' ≤ c ∧ c ≤ '7' then some (c.toNat - '0'.toNat) else none

/-- Where a reader stands within a string literal. -/
inductive LiteralScan
  | plain
  /-- Behind a backslash. -/
  | escape
  /-- Within an octal escape, to which so many digits may still belong. -/
  | octal (left value : Nat)

/-- What a character adds to the text of a literal outside escapes, and where the reader stands
behind it, unless it closes the literal. Lines do not end within a literal. -/
def stepPlain (c : Char) : Option (List Char × Option LiteralScan) :=
  if c = '"' then some ([], none)
  else if c = '\\' then some ([], some .escape)
  else if c = '\n' ∨ c = '\r' then none
  else some ([c], some .plain)

/-- What a character adds to the text of a literal. -/
def stepLiteral : LiteralScan → Char → Option (List Char × Option LiteralScan)
  | .plain, c => stepPlain c
  | .escape, c =>
    match simpleEscape? c, octalValue? c with
    | some d, _ => some ([d], some .plain)
    | none, some v => some ([], some (.octal (if v ≤ 3 then 2 else 1) v))
    | none, none => none
  | .octal left value, c =>
    match left, octalValue? c with
    | left + 1, some v => some ([], some (.octal left (8 * value + v)))
    | _, _ => (stepPlain c).map fun (added, scan) => (Char.ofNat value :: added, scan)

/-- The text of a literal up to its closing quote, and what follows the quote. -/
def readBody : LiteralScan → List Char → Option (List Char × List Char)
  | _, [] => none
  | scan, c :: r =>
    match stepLiteral scan c with
    | none => none
    | some (added, none) => some (added, r)
    | some (added, some scan) => (readBody scan r).map fun (text, rest) => (added ++ text, rest)

/-- The text of the literal with which source text starts, and what follows it. -/
def readLiteral (source : List Char) : Option (List Char × List Char) := do
  match ← replaceUnicode .between source with
  | '"' :: r => readBody .plain r
  | _ => none

/-- The text that a string literal stands for. -/
def literalValue? (literal : String) : Option String :=
  match readLiteral literal.toList with
  | some (text, []) => some (String.ofList text)
  | _ => none

/-! ## 3. Written literals -/

theorem escapeInLiteral_cases (c : Char) :
    (escapeInLiteral c = [c] ∧ c ≠ '"' ∧ c ≠ '\\' ∧ c ≠ '\n' ∧ c ≠ '\r') ∨
      ∃ e, escapeInLiteral c = ['\\', e] ∧ e ≠ 'u' ∧ simpleEscape? e = some c := by
  by_cases quote : c = '"'
  · subst quote
    exact .inr ⟨'"', rfl, by decide, rfl⟩
  by_cases backslash : c = '\\'
  · subst backslash
    exact .inr ⟨'\\', rfl, by decide, rfl⟩
  by_cases lineFeed : c = '\n'
  · subst lineFeed
    exact .inr ⟨'n', rfl, by decide, rfl⟩
  by_cases tab : c = '\t'
  · subst tab
    exact .inr ⟨'t', rfl, by decide, rfl⟩
  by_cases carriageReturn : c = '\r'
  · subst carriageReturn
    exact .inr ⟨'r', rfl, by decide, rfl⟩
  refine .inl ⟨?_, quote, backslash, lineFeed, carriageReturn⟩
  simp [escapeInLiteral, quote, backslash, lineFeed, tab, carriageReturn]

/-- Escaped characters hold no unicode escape, whatever follows them. -/
theorem replaceUnicode_escaped (s rest : List Char) :
    replaceUnicode .between (s.flatMap escapeInLiteral ++ rest) =
      (replaceUnicode .between rest).map (s.flatMap escapeInLiteral ++ ·) := by
  induction s with
  | nil => simp
  | cons c s ih =>
    rw [List.flatMap_cons, List.append_assoc]
    rcases escapeInLiteral_cases c with ⟨itself, -, noBackslash, -⟩ | ⟨e, escaped, noMark, -⟩
    · rw [itself, List.singleton_append, replaceUnicode, if_neg noBackslash, ih, Option.map_map]
      rfl
    · rw [escaped]
      simp only [List.cons_append, List.nil_append, replaceUnicode, if_true, if_neg noMark, ih,
        Option.map_map]
      rfl

/-- Escaped characters up to a quote are read as the text that was escaped. -/
theorem readBody_escaped (s rest : List Char) :
    readBody .plain (s.flatMap escapeInLiteral ++ '"' :: rest) = some (s, rest) := by
  induction s with
  | nil => rfl
  | cons c s ih =>
    rw [List.flatMap_cons, List.append_assoc]
    rcases escapeInLiteral_cases c with
      ⟨itself, noQuote, noBackslash, noLineEnd⟩ | ⟨e, escaped, -, means⟩
    · have step : stepLiteral .plain c = some ([c], some .plain) := by
        simp [stepLiteral, stepPlain, noQuote, noBackslash, noLineEnd]
      rw [itself, List.singleton_append, readBody, step]
      simp [ih]
    · have first : stepLiteral .plain '\\' = some ([], some .escape) := rfl
      have second : stepLiteral .escape e = some ([c], some .plain) := by
        simp [stepLiteral, means]
      rw [escaped]
      simp only [List.cons_append, List.nil_append, readBody, first, second, ih, Option.map_some]

/-- A text is read off the literal that is written for it. -/
theorem literalValue?_stringLiteral (s : String) : literalValue? (stringLiteral s) = some s := by
  have replaced : replaceUnicode .between (stringLiteral s).toList =
      some (stringLiteral s).toList := by
    have outside : (stringLiteral s).toList =
        '"' :: (s.toList.flatMap escapeInLiteral ++ ['"']) := by simp [stringLiteral]
    rw [outside, replaceUnicode, if_neg (by decide), replaceUnicode_escaped]
    rfl
  have read : readLiteral (stringLiteral s).toList = some (s.toList, []) := by
    rw [readLiteral, replaced]
    simp only [stringLiteral, String.toList_ofList, List.cons_append]
    exact readBody_escaped s.toList []
  rw [literalValue?, read]
  exact congrArg some s.ofList_toList

-- A backslash before the letters of a unicode escape, as a text and as an escape.
example : literalValue? "\"\\\\u0041\"" = some "\\u0041" ∧
    literalValue? "\"\\u0041\"" = some "A" := by
  decide

end ComponentWiring.Java
