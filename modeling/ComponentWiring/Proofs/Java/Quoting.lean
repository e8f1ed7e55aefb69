/-
ComponentWiring.Proofs.Java.Quoting — texts that are quoted in code.

* `IsLiteralBody` — what may stand between the quotes of a string literal.
* `isLiteralBody_escaped` — escaped characters are such a body.
* `readLiteral_stringLiteral` — a literal ends where it was written to end, whatever follows it.
* `replaceUnicode_around_literal` — unicode escapes around a literal leave it as it is.
* `Page.margin`, `Page.print_write_inline` — a text without line ends is written in one piece.
* `quoted_text_is_literal` — a quoted text is written as one literal that means the text.

Nothing in a literal starts a unicode escape or ends a line, so neither the page nor a reader of
source text treats characters within it in any other way than those around it. Text blocks are not
read: only the empty literal with one more quote right behind it could be taken for the start of one.
-/
import ComponentWiring.Proofs.Java.Layout
import ComponentWiring.Proofs.Java.Literals

namespace ComponentWiring.Java

open Document.Json (hexValue?)

/-! ## 1. Bodies of literals -/

/-- Characters that may stand between the quotes of a literal: quotes, backslashes and line ends
only as escapes. -/
inductive IsLiteralBody : List Char → Prop
  | nil : IsLiteralBody []
  | plain {c : Char} {body : List Char} (noQuote : c ≠ '"') (noBackslash : c ≠ '\\')
      (noLineEnd : c ≠ '\n' ∧ c ≠ '\r') (rest : IsLiteralBody body) : IsLiteralBody (c :: body)
  | escape {e c : Char} {body : List Char} (means : simpleEscape? e = some c)
      (rest : IsLiteralBody body) : IsLiteralBody ('\\' :: e :: body)

theorem isLiteralBody_escaped (s : List Char) : IsLiteralBody (s.flatMap escapeInLiteral) := by
  induction s with
  | nil => exact .nil
  | cons c s ih =>
    rw [List.flatMap_cons]
    rcases escapeInLiteral_cases c with
      ⟨itself, noQuote, noBackslash, noLineEnd⟩ | ⟨e, escaped, -, means⟩
    · rw [itself]
      exact .plain noQuote noBackslash noLineEnd ih
    · rw [escaped]
      exact .escape means ih

/-- No line ends within a literal. -/
theorem IsLiteralBody.noLineEnd {body : List Char} (h : IsLiteralBody body) :
    '\n' ∉ body ∧ '\r' ∉ body := by
  induction h with
  | nil => exact ⟨List.not_mem_nil, List.not_mem_nil⟩
  | plain _ _ noLineEnd _ ih =>
    simp only [List.mem_cons, not_or]
    exact ⟨⟨noLineEnd.1.symm, ih.1⟩, noLineEnd.2.symm, ih.2⟩
  | @escape e c body means _ ih =>
    have lineFeed : '\n' ≠ e := by
      rintro rfl
      cases means
    have carriageReturn : '\r' ≠ e := by
      rintro rfl
      cases means
    simp only [List.mem_cons, not_or]
    exact ⟨⟨by decide, lineFeed, ih.1⟩, by decide, carriageReturn, ih.2⟩

/-! ## 2. Literals in source text -/

theorem toList_stringLiteral (s : String) :
    (stringLiteral s).toList = '"' :: (s.toList.flatMap escapeInLiteral ++ ['"']) := by
  simp [stringLiteral]

/-- Unicode escapes behind a literal leave it as it is. -/
theorem replaceUnicode_literal (s : String) (rest : List Char) :
    replaceUnicode .between ((stringLiteral s).toList ++ rest) =
      (replaceUnicode .between rest).map ((stringLiteral s).toList ++ ·) := by
  have closing : replaceUnicode .between ('"' :: rest) =
      (replaceUnicode .between rest).map ('"' :: ·) := rfl
  rw [toList_stringLiteral, List.cons_append, List.append_assoc, replaceUnicode,
    if_neg (by decide), replaceUnicode_escaped, List.singleton_append, closing, Option.map_map,
    Option.map_map]
  simp [Function.comp_def]

/-- What follows a literal is outside of it. -/
theorem readLiteral_stringLiteral (s : String) (rest : List Char) :
    readLiteral ((stringLiteral s).toList ++ rest) =
      (replaceUnicode .between rest).map fun r => (s.toList, r) := by
  rw [readLiteral, replaceUnicode_literal]
  cases replaceUnicode .between rest with
  | none => rfl
  | some r =>
    rw [toList_stringLiteral]
    show readBody .plain (s.toList.flatMap escapeInLiteral ++ ['"'] ++ r) = _
    rw [List.append_assoc]
    exact readBody_escaped s.toList r

/-- A quote is never part of a unicode escape. -/
theorem replaceUnicode_append_quote (scan : UnicodeScan) (before rest : List Char) :
    replaceUnicode scan (before ++ '"' :: rest) =
      (replaceUnicode scan before).bind fun b =>
        (replaceUnicode .between ('"' :: rest)).map (b ++ ·) := by
  induction before generalizing scan with
  | nil =>
    cases scan with
    | between => simp [replaceUnicode, Function.comp_def]
    | backslash => simp [replaceUnicode, Function.comp_def]
    | marked => rfl
    | digits left value => rfl
  | cons c before ih =>
    rw [List.cons_append]
    generalize replaceUnicode .between ('"' :: rest) = tail at ih ⊢
    cases scan with
    | between =>
      rw [replaceUnicode, replaceUnicode, ih, ih]
      split
      · rfl
      · cases replaceUnicode .between before <;> simp [Function.comp_def]
    | backslash =>
      rw [replaceUnicode, replaceUnicode, ih, ih]
      split
      · rfl
      · cases replaceUnicode .between before <;> simp [Function.comp_def]
    | marked =>
      rw [replaceUnicode, replaceUnicode, ih]
      split
      · rfl
      · cases hexValue? c with
        | none => rfl
        | some v => exact ih _
    | digits left value =>
      rw [replaceUnicode, replaceUnicode]
      cases hexValue? c with
      | none => rfl
      | some v =>
        rcases left with _ | _ | left
        · rfl
        · simp only [Option.bind_eq_bind, Option.bind_some, ih]
          split
          · cases replaceUnicode .between before <;> simp [Function.comp_def]
          · rfl
        · exact ih _

/-- Unicode escapes around a literal are replaced as if it were not there. -/
theorem replaceUnicode_around_literal (s : String) (before rest : List Char) :
    replaceUnicode .between (before ++ (stringLiteral s).toList ++ rest) =
      (replaceUnicode .between before).bind fun b =>
        (replaceUnicode .between rest).map fun r => b ++ (stringLiteral s).toList ++ r := by
  have opened : (stringLiteral s).toList ++ rest =
      '"' :: (s.toList.flatMap escapeInLiteral ++ ['"'] ++ rest) := by
    rw [toList_stringLiteral, List.cons_append]
  rw [List.append_assoc, opened, replaceUnicode_append_quote, ← opened, replaceUnicode_literal]
  simp [Function.comp_def, List.append_assoc]

theorem stringLiteral_injective : Function.Injective stringLiteral := by
  intro s t same
  have read := literalValue?_stringLiteral s
  rw [same, literalValue?_stringLiteral] at read
  exact (Option.some.inj read).symm

/-! ## 3. Writing in one piece -/

namespace Page

variable {p : Page} {width : Nat}

/-- The indentation before what is written next. -/
def margin (width : Nat) (p : Page) : String :=
  if p.isLineStart then String.ofList (List.replicate (p.depth * width) ' ') else ""

theorem print_put_inline {c : Char} (inLine : c ≠ '\n') :
    (p.put c).print width = p.print width ++ p.margin width ++ String.singleton c := by
  rw [print_put, margin]
  cases p.isLineStart <;> simp [inLine]

/-- Within a line, characters other than line ends are added as they stand. -/
theorem print_putAll_inline {cs : List Char} (inside : p.isLineStart = false) (inLine : '\n' ∉ cs) :
    (p.putAll cs).print width = p.print width ++ String.ofList cs := by
  induction cs generalizing p with
  | nil => simp [putAll]
  | cons c cs ih =>
    simp only [List.mem_cons, not_or] at inLine
    have still : (p.put c).isLineStart = false := by
      rw [isLineStart_put]
      exact decide_eq_false (Ne.symm inLine.1)
    have nothing : p.margin width = "" := by simp [margin, inside]
    rw [putAll, List.foldl_cons, ← putAll, ih still inLine.2, print_put_inline (Ne.symm inLine.1),
      nothing, ← String.toList_inj]
    simp

/-- A text without line ends is written in one piece, behind the indentation that starts a line. -/
theorem print_write_inline {s : String} (some_text : s ≠ "") (inLine : '\n' ∉ s.toList) :
    (p.write s).print width = p.print width ++ p.margin width ++ s := by
  obtain ⟨c, cs, spelled⟩ : ∃ c cs, s.toList = c :: cs :=
    List.exists_cons_of_ne_nil (by simpa using some_text)
  rw [spelled] at inLine
  simp only [List.mem_cons, not_or] at inLine
  have inside : (p.put c).isLineStart = false := by
    rw [isLineStart_put]
    exact decide_eq_false (Ne.symm inLine.1)
  have written : (p.write s).print width = ((p.put c).putAll cs).print width := by
    rw [write, spelled]
    rfl
  rw [written, print_putAll_inline inside inLine.2, print_put_inline (Ne.symm inLine.1),
    ← String.toList_inj]
  simp [spelled]

end Page

/-- A text that is quoted in code is written as one literal, behind the indentation that starts a
line. Between its quotes, quotes, backslashes and line ends stand as escapes only. Wherever the
literal stands, it is read as the text and ends at its closing quote; so other texts have other
literals. -/
theorem quoted_text_is_literal (im : Imports) (s format : String) (r : List Char)
    (more : List CodeArg) (p : Page) :
    emitFormat format ('$' :: 'S' :: r) (argumentWriters im (.text s :: more)) p =
        emitFormat format r (argumentWriters im more) (p.write (stringLiteral s)) ∧
      (∀ width, (p.write (stringLiteral s)).print width =
        p.print width ++ p.margin width ++ stringLiteral s) ∧
      (∃ body, (stringLiteral s).toList = '"' :: (body ++ ['"']) ∧ IsLiteralBody body ∧
        '\n' ∉ body ∧ '\r' ∉ body) ∧
      literalValue? (stringLiteral s) = some s ∧
      (∀ before rest, replaceUnicode .between (before ++ (stringLiteral s).toList ++ rest) =
        (replaceUnicode .between before).bind fun b =>
          (replaceUnicode .between rest).map fun r => b ++ (stringLiteral s).toList ++ r) ∧
      (∀ rest, readLiteral ((stringLiteral s).toList ++ rest) =
        (replaceUnicode .between rest).map fun r => (s.toList, r)) ∧
      Function.Injective stringLiteral := by
  have body := isLiteralBody_escaped s.toList
  have quoted := toList_stringLiteral s
  have some_text : stringLiteral s ≠ "" := by
    rw [ne_eq, ← String.toList_inj, quoted]
    exact List.cons_ne_nil _ _
  have inLine : '\n' ∉ (stringLiteral s).toList := by
    rw [quoted]
    simpa using body.noLineEnd.1
  refine ⟨rfl, fun width => Page.print_write_inline some_text inLine, ⟨_, quoted, body,
    body.noLineEnd⟩, literalValue?_stringLiteral s, replaceUnicode_around_literal s,
    readLiteral_stringLiteral s, stringLiteral_injective⟩

end ComponentWiring.Java
