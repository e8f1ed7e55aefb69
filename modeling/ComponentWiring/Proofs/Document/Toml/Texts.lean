/-
ComponentWiring.Proofs.Document.Toml.Texts — texts are read as they were written.

* `escapeChar_cases` — a character stands for itself, or as one of two kinds of escapes.
* `basicBody_escapeChars`, `literalBody_of_plain` — texts on one line.
* `multilineBasicBody_escapeChars`, `multilineLiteralBody_of_plain` — texts between three quotes.
* `text?_writeChars` — whichever way to write a text was chosen, the text is read.

Between three quotes, quotes of the text may meet the closing ones. A run of at most two quotes is
kept as it is, and a reader that finds more than three in a row at the end counts the first ones to
the text.
-/
import ComponentWiring.Document.Toml.Writer

namespace ComponentWiring.Document.Toml

/-! ## 1. Characters -/

theorem hexNumber?_hex4 : ∀ n < 0x80, hexNumber? (hex4 n) = some n := by decide +kernel

theorem scalar?_toNat (c : Char) : scalar? c.toNat = some c := by
  have valid : c.toNat.isValidChar := c.valid
  rw [scalar?, dif_pos valid]
  rfl

/-- A letter that stands for a character behind a backslash starts no other escape. -/
theorem plain_letter_of_shortEscape? {e c : Char} (h : shortEscape? e = some c) :
    e ≠ 'u' ∧ e ≠ 'U' ∧ (isSpace e || e == '\n' || e == '\r') = false := by
  unfold shortEscape? at h
  split at h
  case h_8 => cases h
  all_goals exact ⟨by decide, by decide, by decide⟩

theorem toNat_lt_of_not_isPlain {c : Char} (h : isPlain c = false) : c.toNat < 0x80 := by
  simp only [isPlain, Bool.or_eq_false_iff, Bool.and_eq_false_iff, decide_eq_false_iff_not,
    bne_eq_false_iff_eq] at h
  omega

/-- A character stands for itself, behind a backslash by a letter, or by its number. -/
theorem escapeChar_cases (multiline : Bool) (c : Char) :
    (escapeChar multiline c = [c] ∧ c ≠ '\\' ∧ (isPlain c = true ∨ multiline = true ∧ c = '\n')) ∨
      (∃ e, escapeChar multiline c = ['\\', e] ∧ shortEscape? e = some c) ∨
      (escapeChar multiline c = '\\' :: 'u' :: hex4 c.toNat ∧ c.toNat < 0x80) := by
  unfold escapeChar
  by_cases lineFeed : c = '\n'
  · subst lineFeed
    cases multiline with
    | true => exact .inl ⟨rfl, by decide, .inr ⟨rfl, rfl⟩⟩
    | false => exact .inr (.inl ⟨'n', rfl, rfl⟩)
  by_cases backspace : c = '\x08'
  · subst backspace
    exact .inr (.inl ⟨'b', rfl, rfl⟩)
  by_cases tab : c = '\t'
  · subst tab
    exact .inr (.inl ⟨'t', rfl, rfl⟩)
  by_cases formFeed : c = '\x0c'
  · subst formFeed
    exact .inr (.inl ⟨'f', rfl, rfl⟩)
  by_cases carriageReturn : c = '\r'
  · subst carriageReturn
    exact .inr (.inl ⟨'r', rfl, rfl⟩)
  by_cases backslash : c = '\\'
  · subst backslash
    exact .inr (.inl ⟨'\\', rfl, rfl⟩)
  rw [if_neg lineFeed, if_neg backspace, if_neg tab, if_neg formFeed, if_neg carriageReturn,
    if_neg backslash]
  split
  next plain => exact .inl ⟨rfl, backslash, .inl plain⟩
  next special => exact .inr (.inr ⟨rfl, toNat_lt_of_not_isPlain (by simpa using special)⟩)

theorem escapeChars_cons {multiline : Bool} {c : Char} (noQuote : c ≠ '"') (n : Nat)
    (cs : List Char) :
    escapeChars multiline n (c :: cs) = escapeChar multiline c ++ escapeChars multiline 0 cs := by
  rw [escapeChars]
  exact noQuote

/-! ## 2. On one line -/

theorem basicBody_of_plain {c : Char} (noQuote : c ≠ '"') (noBackslash : c ≠ '\\')
    (plain : isPlain c = true) (tail : List Char) :
    basicBody (c :: tail) = prepend c (basicBody tail) := by
  rw [basicBody]
  · simp [plain, noBackslash]
  · exact noQuote
  all_goals exact fun _ => by simp [noBackslash]

theorem basicBody_escape {e c : Char} (means : shortEscape? e = some c) (tail : List Char) :
    basicBody ('\\' :: e :: tail) = prepend c (basicBody tail) := by
  obtain ⟨noMark, noLongMark, -⟩ := plain_letter_of_shortEscape? means
  rw [basicBody, means]
  · rfl
  · exact fun _ _ _ _ _ mark => absurd mark noMark
  · exact fun _ _ _ _ _ _ _ _ _ mark => absurd mark noLongMark

theorem basicBody_unicode {c : Char} (small : c.toNat < 0x80) (tail : List Char) :
    basicBody ('\\' :: 'u' :: hex4 c.toNat ++ tail) = prepend c (basicBody tail) := by
  have read : basicBody ('\\' :: 'u' :: hex4 c.toNat ++ tail) =
      ((hexNumber? (hex4 c.toNat)).bind scalar?).bind fun d => prepend d (basicBody tail) := rfl
  rw [read, hexNumber?_hex4 _ small, Option.bind_some, scalar?_toNat, Option.bind_some]

/-- Escaped characters are read up to the closing quote. -/
theorem basicBody_escapeChars (cs rest : List Char) (n : Nat) :
    basicBody (escapeChars false n cs ++ '"' :: rest) = some (cs, rest) := by
  induction cs generalizing n with
  | nil => rfl
  | cons c cs ih =>
    by_cases quote : c = '"'
    · subst quote
      exact (basicBody_escape rfl _).trans (congrArg (prepend '"') (ih 0))
    have step : basicBody (escapeChar false c ++ (escapeChars false 0 cs ++ '"' :: rest)) =
        prepend c (basicBody (escapeChars false 0 cs ++ '"' :: rest)) := by
      rcases escapeChar_cases false c with ⟨itself, noBackslash, plain⟩ | ⟨e, escaped, means⟩ |
        ⟨numbered, small⟩
      · rw [itself]
        exact basicBody_of_plain quote noBackslash (by simpa using plain) _
      · rw [escaped]
        exact basicBody_escape means _
      · rw [numbered]
        exact basicBody_unicode small _
    rw [escapeChars_cons quote, List.append_assoc, step, ih]
    rfl

/-- A text without single quotes is read up to the closing one. -/
theorem literalBody_of_plain {cs : List Char} (plain : ∀ c ∈ cs, isPlain c = true)
    (noQuote : '\'' ∉ cs) (rest : List Char) :
    literalBody (cs ++ '\'' :: rest) = some (cs, rest) := by
  induction cs with
  | nil => rfl
  | cons c cs ih =>
    obtain ⟨plainHead, plainTail⟩ := List.forall_mem_cons.mp plain
    simp only [List.mem_cons, not_or] at noQuote
    rw [List.cons_append, literalBody, if_pos plainHead, ih plainTail noQuote.2]
    · rfl
    · exact Ne.symm noQuote.1

/-! ## 3. Over several lines -/

/-- What the closing quotes leave behind does not start with one more quote. -/
theorem trailingQuotes_of_apart {q : Char} {rest : List Char} (apart : ∀ r, rest ≠ q :: r) :
    trailingQuotes q rest = ([], rest) ∧ trailingQuotes q (q :: rest) = ([q], rest) ∧
      trailingQuotes q (q :: q :: rest) = ([q, q], rest) := by
  match rest with
  | [] => simp [trailingQuotes]
  | [d] =>
    have other : d ≠ q := fun same => apart [] (by rw [same])
    simp [trailingQuotes, other]
  | d :: d' :: r =>
    have other : d ≠ q := fun same => apart (d' :: r) (by rw [same])
    simp [trailingQuotes, other]

theorem multilineBasicBody_of_plain {c : Char} {tail : List Char} (noBackslash : c ≠ '\\')
    (plain : isPlain c = true ∨ c = '\n') (apart : c = '"' → ∀ r, tail ≠ '"' :: '"' :: r) :
    multilineBasicBody false (c :: tail) = prepend c (multilineBasicBody false tail) := by
  rw [multilineBasicBody]
  · rcases plain with plain | rfl
    · simp [plain, noBackslash]
    · simp
  · exact fun r quote two => apart quote r two
  · exact fun _ _ _ _ _ backslash => absurd backslash noBackslash
  · exact fun _ _ _ _ _ _ _ _ _ backslash => absurd backslash noBackslash
  · exact fun _ _ backslash => absurd backslash noBackslash
  · have noReturn : ¬ (isPlain '\r' = true ∨ '\r' = '\n') := by decide
    rintro r rfl
    exact absurd plain noReturn

theorem multilineBasicBody_escape {e c : Char} (means : shortEscape? e = some c)
    (tail : List Char) :
    multilineBasicBody false ('\\' :: e :: tail) = prepend c (multilineBasicBody false tail) := by
  obtain ⟨noMark, noLongMark, inLine⟩ := plain_letter_of_shortEscape? means
  rw [multilineBasicBody, if_neg (by simp [inLine]), means]
  · rfl
  · exact fun _ _ _ _ _ mark => absurd mark noMark
  · exact fun _ _ _ _ _ _ _ _ _ mark => absurd mark noLongMark

theorem multilineBasicBody_unicode {c : Char} (small : c.toNat < 0x80) (tail : List Char) :
    multilineBasicBody false ('\\' :: 'u' :: hex4 c.toNat ++ tail) =
      prepend c (multilineBasicBody false tail) := by
  have read : multilineBasicBody false ('\\' :: 'u' :: hex4 c.toNat ++ tail) =
      ((hexNumber? (hex4 c.toNat)).bind scalar?).bind fun d =>
        prepend d (multilineBasicBody false tail) := rfl
  rw [read, hexNumber?_hex4 _ small, Option.bind_some, scalar?_toNat, Option.bind_some]

/-- Escaped characters start with a quote only if the text does and the quote is kept. -/
theorem escapeChars_ne_quote {multiline : Bool} {c : Char} {n : Nat}
    (escaped : c ≠ '"' ∨ (multiline && decide (n < 2)) = false) (cs tail r : List Char) :
    escapeChars multiline n (c :: cs) ++ tail ≠ '"' :: r := by
  by_cases quote : c = '"'
  · rw [quote, escapeChars, escaped.resolve_left (absurd quote)]
    simp
  · rw [escapeChars_cons quote]
    rcases escapeChar_cases multiline c with ⟨itself, -⟩ | ⟨e, lettered, -⟩ | ⟨numbered, -⟩
    · simp [itself, quote]
    · simp [lettered]
    · simp [numbered]

/-- A quote that is kept meets no two others, unless the text ends there. -/
theorem apart_of_kept {n : Nat} {cs : List Char} (more : cs ≠ []) (further : ¬ (cs = ['"'] ∧ n = 0))
    (tail r : List Char) : escapeChars true (n + 1) cs ++ tail ≠ '"' :: '"' :: r := by
  obtain ⟨d, ds, rfl⟩ := List.exists_cons_of_ne_nil more
  by_cases second : d = '"' ∧ n = 0
  · obtain ⟨rfl, rfl⟩ := second
    have third : ds ≠ [] := by
      rintro rfl
      exact further ⟨rfl, rfl⟩
    obtain ⟨e, es, rfl⟩ := List.exists_cons_of_ne_nil third
    have written : escapeChars true 1 ('"' :: e :: es) = '"' :: escapeChars true 2 (e :: es) := rfl
    rw [written]
    exact fun same => escapeChars_ne_quote (.inr rfl) es tail r (List.cons.inj same).2
  · have escaped : d ≠ '"' ∨ (true && decide (n + 1 < 2)) = false := by
      by_cases quote : d = '"'
      · have some_kept : n ≠ 0 := fun none_kept => second ⟨quote, none_kept⟩
        have tooMany : ¬ n + 1 < 2 := by omega
        exact .inr (by rw [decide_eq_false tooMany, Bool.and_false])
      · exact .inl quote
    exact escapeChars_ne_quote escaped ds tail _

/-- Escaped characters are read up to three closing quotes, however many quotes were kept before
them. -/
theorem multilineBasicBody_escapeChars {rest : List Char} (apart : ∀ r, rest ≠ '"' :: r)
    (cs : List Char) (n : Nat) :
    multilineBasicBody false (escapeChars true n cs ++ '"' :: '"' :: '"' :: rest) =
      some (cs, rest) := by
  obtain ⟨nothing, one, two⟩ := trailingQuotes_of_apart apart
  induction cs generalizing n with
  | nil => exact congrArg some nothing
  | cons c cs ih =>
    by_cases quote : c = '"'
    · subst quote
      by_cases kept : n < 2
      · have written : escapeChars true n ('"' :: cs) = '"' :: escapeChars true (n + 1) cs := by
          rw [escapeChars]
          simp [kept]
        rw [written, List.cons_append]
        -- The quotes at the end of the text stand next to the closing ones.
        by_cases last : cs = []
        · rw [last]
          exact congrArg some one
        by_cases lastTwo : cs = ['"'] ∧ n = 0
        · rw [lastTwo.1, lastTwo.2]
          exact congrArg some two
        rw [multilineBasicBody_of_plain (by decide) (.inl (by decide))
          fun _ r => apart_of_kept last lastTwo _ r, ih]
        rfl
      · have written : escapeChars true n ('"' :: cs) = '\\' :: '"' :: escapeChars true 0 cs := by
          rw [escapeChars]
          simp [kept]
        rw [written]
        exact (multilineBasicBody_escape rfl _).trans (congrArg (prepend '"') (ih 0))
    have step (tail : List Char) : multilineBasicBody false (escapeChar true c ++ tail) =
        prepend c (multilineBasicBody false tail) := by
      rcases escapeChar_cases true c with ⟨itself, noBackslash, plain⟩ | ⟨e, escaped, means⟩ |
        ⟨numbered, small⟩
      · rw [itself]
        exact multilineBasicBody_of_plain noBackslash (by simpa using plain)
          fun same => absurd same quote
      · rw [escaped]
        exact multilineBasicBody_escape means _
      · rw [numbered]
        exact multilineBasicBody_unicode small _
    rw [escapeChars_cons quote, List.append_assoc, step, ih]
    rfl

theorem hasThree_of_cons {q c : Char} {cs : List Char} (h : hasThree q (c :: cs) = false) :
    hasThree q cs = false := by
  match cs with
  | [] | [_] => rfl
  | d :: e :: cs =>
    rw [hasThree, Bool.or_eq_false_iff] at h
    exact h.2

/-- A text without three single quotes in a row is read up to the closing ones. -/
theorem multilineLiteralBody_of_plain {cs rest : List Char} (apart : ∀ r, rest ≠ '\'' :: r)
    (plain : ∀ c ∈ cs, isPlain c = true ∨ c = '\n') (noThree : hasThree '\'' cs = false) :
    multilineLiteralBody (cs ++ '\'' :: '\'' :: '\'' :: rest) = some (cs, rest) := by
  obtain ⟨nothing, one, two⟩ := trailingQuotes_of_apart apart
  induction cs with
  | nil => exact congrArg some nothing
  | cons c cs ih =>
    obtain ⟨plainHead, plainTail⟩ := List.forall_mem_cons.mp plain
    have later := ih plainTail (hasThree_of_cons noThree)
    have step (far : c = '\'' → ∀ r, cs ++ '\'' :: '\'' :: '\'' :: rest ≠ '\'' :: '\'' :: r) :
        multilineLiteralBody (c :: cs ++ '\'' :: '\'' :: '\'' :: rest) = some (c :: cs, rest) := by
      rw [List.cons_append, multilineLiteralBody, if_pos (by simpa using plainHead), later]
      · rfl
      · exact fun r quote same => far quote r same
      · have noReturn : ¬ (isPlain '\r' = true ∨ '\r' = '\n') := by decide
        rintro r rfl
        exact absurd plainHead noReturn
    by_cases quote : c = '\''
    · subst quote
      match cs with
      | [] => exact congrArg some one
      | [d] =>
        by_cases again : d = '\''
        · rw [again]
          exact congrArg some two
        · exact step fun _ r same => again (List.cons.inj same).1
      | d :: e :: cs =>
        refine step fun _ r same => ?_
        obtain ⟨second, rest⟩ := List.cons.inj same
        rw [hasThree, Bool.or_eq_false_iff] at noThree
        simp [second, (List.cons.inj rest).1] at noThree
    · exact step fun same => absurd same quote

/-! ## 4. Texts -/

/-- A text is written as it is between single quotes only if it reads so. -/
theorem Layout.plain_of_literal {cs : List Char} (h : Layout.of cs = .literal) :
    (∀ c ∈ cs, isPlain c = true) ∧ '\'' ∉ cs := by
  unfold Layout.of at h
  dsimp only at h
  split at h
  · split at h <;> cases h
  next printable =>
    split at h
    · cases h
    split at h
    next apart =>
      simp only [Bool.and_eq_true, Bool.not_eq_true', List.contains_eq_mem,
        decide_eq_false_iff_not] at apart
      simp only [isPrintable, Bool.not_eq_true', Bool.not_eq_false, List.all_eq_true,
        Bool.or_eq_true, beq_iff_eq] at printable
      refine ⟨fun c hc => (printable c hc).resolve_right ?_, apart.1⟩
      rintro rfl
      exact apart.2 hc
    · repeat' split at h
      all_goals cases h

/-- A text is written as it is between three single quotes only if it reads so. -/
theorem Layout.plain_of_multilineLiteral {cs : List Char} (h : Layout.of cs = .multilineLiteral) :
    (∀ c ∈ cs, isPlain c = true ∨ c = '\n') ∧ hasThree '\'' cs = false := by
  unfold Layout.of at h
  dsimp only at h
  split at h
  · split at h <;> cases h
  next printable =>
    simp only [isPrintable, Bool.not_eq_true', Bool.not_eq_false, List.all_eq_true,
      Bool.or_eq_true, beq_iff_eq] at printable
    split at h
    · cases h
    split at h
    · cases h
    split at h
    · cases h
    split at h
    next noThree => exact ⟨printable, by simpa using noThree⟩
    · split at h <;> cases h

/-- The line end behind the opening quotes is passed over, and nothing else is. -/
theorem skipFirstNewline_several {several : Bool} {cs : List Char}
    (inLine : several = false → newline? cs = none) :
    skipFirstNewline ((if several then ['\n'] else []) ++ cs) = cs := by
  cases several with
  | true => rfl
  | false => rw [if_neg Bool.false_ne_true, List.nil_append, skipFirstNewline, inLine rfl]; rfl

theorem newline?_cons {c : Char} (noLineFeed : c ≠ '\n') (noReturn : c ≠ '\r') (r : List Char) :
    newline? (c :: r) = none := by
  unfold newline?
  split
  next same => exact absurd (List.cons.inj same).1 noLineFeed
  next same => exact absurd (List.cons.inj same).1 noReturn
  next => rfl

theorem newline?_of_isPlain {c : Char} (plain : isPlain c = true) (r : List Char) :
    newline? (c :: r) = none := by
  refine newline?_cons ?_ ?_ r
  · rintro rfl
    cases plain
  · rintro rfl
    cases plain

/-- Escaped characters start with a line end only if the text does. -/
theorem newline?_escapeChars {cs : List Char} (inLine : '\n' ∉ cs) (r : List Char) :
    newline? (escapeChars true 0 cs ++ '"' :: r) = none := by
  cases cs with
  | nil => rfl
  | cons c cs =>
    by_cases quote : c = '"'
    · rw [quote]
      rfl
    rw [escapeChars_cons quote]
    rcases escapeChar_cases true c with ⟨itself, -, plain⟩ | ⟨e, escaped, -⟩ | ⟨numbered, -⟩
    · have noLineFeed : c ≠ '\n' := fun same => inLine (same ▸ List.mem_cons_self)
      rw [itself]
      exact newline?_of_isPlain (plain.resolve_right fun lineFeed => noLineFeed lineFeed.2) _
    · rw [escaped]
      rfl
    · rw [numbered]
      rfl

/-- Fewer than three quotes open a text on one line. -/
theorem text?_of_line {q : Char} {cs : List Char} (apart : ∀ r, cs ≠ q :: q :: r) :
    text? (q :: cs) = lineText? (q :: cs) := by
  unfold text?
  split
  next r same =>
    obtain ⟨rfl, rest⟩ := List.cons.inj same
    exact absurd rest (apart r)
  next r same =>
    obtain ⟨rfl, rest⟩ := List.cons.inj same
    exact absurd rest (apart r)
  next => rfl

/-- Whichever way to write a text is chosen, the text is read, up to the end of the line. -/
theorem text?_writeChars (cs rest : List Char) :
    text? (writeChars cs ++ '\n' :: rest) = some (cs, '\n' :: rest) := by
  unfold writeChars
  cases layout : Layout.of cs with
  | basic =>
    have apart (r : List Char) :
        escapeChars false 0 cs ++ '"' :: '\n' :: rest ≠ '"' :: '"' :: r := by
      cases cs with
      | nil => simp [escapeChars]
      | cons c cs => exact escapeChars_ne_quote (.inr rfl) cs _ _
    simp only [List.cons_append, List.append_assoc, List.nil_append]
    rw [text?_of_line apart]
    exact basicBody_escapeChars cs _ 0
  | literal =>
    obtain ⟨plain, noQuote⟩ := Layout.plain_of_literal layout
    have apart (r : List Char) : cs ++ '\'' :: '\n' :: rest ≠ '\'' :: '\'' :: r := by
      cases cs with
      | nil => simp
      | cons c cs => exact fun same => noQuote ((List.cons.inj same).1 ▸ List.mem_cons_self)
    simp only [List.cons_append, List.append_assoc, List.nil_append]
    rw [text?_of_line apart]
    exact literalBody_of_plain plain noQuote _
  | multilineBasic =>
    have inLine (one : cs.contains '\n' = false) :
        newline? (escapeChars true 0 cs ++ '"' :: '"' :: '"' :: '\n' :: rest) = none :=
      newline?_escapeChars (by simpa using one) _
    simp only [betweenThree, List.cons_append, List.append_assoc, List.nil_append]
    rw [text?, skipFirstNewline_several inLine]
    exact multilineBasicBody_escapeChars (fun r => by simp) cs 0
  | multilineLiteral =>
    obtain ⟨plain, noThree⟩ := Layout.plain_of_multilineLiteral layout
    have inLine (one : cs.contains '\n' = false) :
        newline? (cs ++ '\'' :: '\'' :: '\'' :: '\n' :: rest) = none := by
      cases cs with
      | nil => rfl
      | cons c cs =>
        refine newline?_of_isPlain ((plain c List.mem_cons_self).resolve_right ?_) _
        rintro rfl
        simp at one
    simp only [betweenThree, List.cons_append, List.append_assoc, List.nil_append]
    rw [text?, skipFirstNewline_several inLine]
    exact multilineLiteralBody_of_plain (fun r => by simp) plain noThree

end ComponentWiring.Document.Toml
