/-
ComponentWiring.Proofs.Document.Toml.Scalars — texts and integers are read as they were written.

* `decimalDigits?_toDigits` — the digits of a number are read up to the end of the line.
* `number?_toDigits` — such digits are no date, no time and no fraction, and mean the number.
* `Scalar.node`, `value?_write` — a value of a section is read from its written form.
-/
import ComponentWiring.Document.Toml.Statement
import ComponentWiring.Proofs.Document.Toml.Texts

namespace ComponentWiring.Document.Toml

/-! ## 1. Digits -/

theorem digitsValue_toDigits (n : Nat) : digitsValue (Nat.toDigits 10 n) = n := by
  have same : digitsValue (Nat.toDigits 10 n) = Nat.ofDigitChars 10 (Nat.toDigits 10 n) 0 := by
    simp only [digitsValue, Nat.ofDigitChars_eq_foldl, Nat.mul_comm]
  rw [same, Nat.ofDigitChars_ten_toDigits]

theorem isDigit_of_mem_decimal {n : Nat} {c : Char} (h : c ∈ Nat.toDigits 10 n) :
    c.isDigit = true :=
  Nat.isDigit_of_mem_toDigits (by decide) (by decide) h

theorem exists_first_digit (n : Nat) :
    ∃ d ds, Nat.toDigits 10 n = d :: ds ∧ d.isDigit = true := by
  obtain ⟨d, ds, spelled⟩ := List.exists_cons_of_ne_nil (Nat.toDigits_ne_nil (n := n) (b := 10))
  exact ⟨d, ds, spelled, isDigit_of_mem_decimal (n := n) (spelled ▸ List.mem_cons_self)⟩

/-- No number but zero starts with a zero. -/
theorem toDigits_ne_zero {n : Nat} (positive : 0 < n) (r : List Char) :
    Nat.toDigits 10 n ≠ '0' :: r := by
  induction n using Nat.strongRecOn generalizing r with
  | ind n ih =>
    by_cases one : n < 10
    · have digit : ∀ d < 10, 0 < d → Nat.digitChar d ≠ '0' := by decide
      rw [Nat.toDigits_of_lt_base one]
      exact fun same => digit n one positive (List.cons.inj same).1
    · have more : 10 ≤ n := Nat.le_of_not_lt one
      have shorter := ih (n / 10) (by omega) (by omega)
      obtain ⟨d, ds, first, -⟩ := exists_first_digit (n / 10)
      rw [Nat.toDigits_of_base_le (by decide) more, first, List.cons_append]
      exact fun same => shorter ds (by rw [first, (List.cons.inj same).1])

section Digits

variable {ds : List Char} (digits : ∀ c ∈ ds, c.isDigit = true) (rest : List Char)
include digits

theorem moreDigits_of_digits :
    moreDigits Char.isDigit (ds ++ '\n' :: rest) = some (ds, '\n' :: rest) := by
  induction ds with
  | nil => rfl
  | cons d ds ih =>
    obtain ⟨digit, later⟩ := List.forall_mem_cons.mp digits
    have noUnderscore : d ≠ '_' := by
      rintro rfl
      cases digit
    rw [List.cons_append, moreDigits, if_pos digit, ih later]
    · rfl
    · exact fun _ _ underscore => absurd underscore noUnderscore
    · exact fun underscore => absurd underscore noUnderscore

/-- What follows a fixed number of digits is one more digit or the end of the line. -/
theorem exists_after_fixedDigits {k v : Nat} {r : List Char}
    (read : fixedDigits? k (ds ++ '\n' :: rest) = some (v, r)) :
    ∃ c r', r = c :: r' ∧ (c.isDigit = true ∨ c = '\n') := by
  rw [fixedDigits?, Option.ite_none_right_eq_some] at read
  obtain ⟨⟨full, allDigits⟩, result⟩ := read
  obtain ⟨-, rfl⟩ := Prod.mk.inj (Option.some.inj result)
  by_cases inside : k ≤ ds.length
  · rw [List.drop_append_of_le_length inside]
    cases left : ds.drop k with
    | nil => exact ⟨'\n', rest, rfl, .inr rfl⟩
    | cons c r' =>
      have listed : c ∈ ds := List.mem_of_mem_drop (left ▸ List.mem_cons_self)
      exact ⟨c, r' ++ '\n' :: rest, rfl, .inl (digits c listed)⟩
  · have beyond : '\n' ∈ (ds ++ '\n' :: rest).take k := by
      obtain ⟨m, some_left⟩ : ∃ m, k - ds.length = m + 1 := ⟨k - ds.length - 1, by omega⟩
      rw [List.take_append, some_left]
      exact List.mem_append_right _ List.mem_cons_self
    have digit := List.all_eq_true.mp allDigits '\n' beyond
    cases digit

/-! ## 2. Digits are nothing but a number -/

theorem date?_of_digits : date? (ds ++ '\n' :: rest) = none := by
  unfold date?
  cases read : fixedDigits? 4 (ds ++ '\n' :: rest) with
  | none => rfl
  | some year =>
    obtain ⟨v, r⟩ := year
    obtain ⟨c, r', rfl, next⟩ := exists_after_fixedDigits digits rest read
    have noDash : c ≠ '-' := by
      rintro rfl
      revert next
      decide
    simp [noDash]

theorem clock?_of_digits : clock? (ds ++ '\n' :: rest) = none := by
  unfold clock?
  cases read : fixedDigits? 2 (ds ++ '\n' :: rest) with
  | none => rfl
  | some hour =>
    obtain ⟨v, r⟩ := hour
    obtain ⟨c, r', rfl, next⟩ := exists_after_fixedDigits digits rest read
    have noColon : c ≠ ':' := by
      rintro rfl
      revert next
      decide
    simp [noColon]

theorem dateTime?_of_digits : dateTime? (ds ++ '\n' :: rest) = none := by
  rw [dateTime?, dateTimeText?, date?_of_digits digits]
  simp [time?, clock?_of_digits digits]

end Digits

/-! ## 3. Integers -/

theorem decimalDigits?_toDigits (n : Nat) (rest : List Char) :
    decimalDigits? (Nat.toDigits 10 n ++ '\n' :: rest) = some (Nat.toDigits 10 n, '\n' :: rest) := by
  rcases Nat.eq_zero_or_pos n with rfl | positive
  · rfl
  obtain ⟨d, ds, spelled, digit⟩ := exists_first_digit n
  have noZero : d ≠ '0' := by
    rintro rfl
    exact toDigits_ne_zero positive ds spelled
  have later : ∀ c ∈ ds, c.isDigit = true := fun _ mem =>
    isDigit_of_mem_decimal (n := n) (spelled ▸ List.mem_cons_of_mem d mem)
  rw [spelled, List.cons_append, decimalDigits?]
  · rw [digits1?, if_pos digit, moreDigits_of_digits later]
    rfl
  · exact fun _ zero => absurd (List.cons.inj zero).1 noZero

theorem integerNode?_natCast {n : Nat} (bounded : n < signedBound) :
    integerNode? n = some (.integer n) := by
  have low : -(signedBound : Int) ≤ n := by omega
  have high : (n : Int) < signedBound := Int.ofNat_lt.mpr bounded
  simp only [integerNode?, Node.int64?, low, high, and_self, if_true, Option.map_some]

/-- The digits of a number are no number to another base. -/
theorem toDigits_ne_based {n : Nat} {mark : Char} (noDigit : mark.isDigit = false)
    (noEnd : mark ≠ '\n') (rest r : List Char) :
    Nat.toDigits 10 n ++ '\n' :: rest ≠ '0' :: mark :: r := by
  intro same
  have digits : ∀ c ∈ Nat.toDigits 10 n, c.isDigit = true := fun _ => isDigit_of_mem_decimal
  rcases spelled : Nat.toDigits 10 n with _ | ⟨d, _ | ⟨e, ds⟩⟩
  · exact Nat.toDigits_ne_nil spelled
  · rw [spelled] at same
    injection same with _ same
    injection same with same _
    exact noEnd same.symm
  · rw [spelled] at same digits
    injection same with _ same
    injection same with same _
    rw [same] at digits
    have digit := digits mark (by simp)
    rw [noDigit] at digit
    cases digit

theorem sign_toDigits (n : Nat) (rest : List Char) :
    sign (Nat.toDigits 10 n ++ '\n' :: rest) = (false, Nat.toDigits 10 n ++ '\n' :: rest) := by
  obtain ⟨d, ds, spelled, digit⟩ := exists_first_digit n
  rw [spelled, List.cons_append, sign]
  all_goals
    intro r marked
    cases (List.cons.inj marked).1
    cases digit

theorem pointed?_toDigits (n : Nat) (rest : List Char) :
    pointed? (Nat.toDigits 10 n ++ '\n' :: rest) = none := by
  simp only [pointed?, sign_toDigits, decimalDigits?_toDigits]
  rfl

theorem special?_toDigits (n : Nat) (rest : List Char) :
    special? (Nat.toDigits 10 n ++ '\n' :: rest) = none := by
  obtain ⟨d, ds, spelled, digit⟩ := exists_first_digit n
  rw [special?, sign_toDigits, spelled, List.cons_append]
  split
  next infinity =>
    cases (List.cons.inj infinity).1
    cases digit
  next notANumber =>
    cases (List.cons.inj notANumber).1
    cases digit
  next => rfl

theorem integer?_toDigits (n : Nat) (rest : List Char) :
    integer? (Nat.toDigits 10 n ++ '\n' :: rest) = (integerNode? n).map (·, '\n' :: rest) := by
  have value : integer? (Nat.toDigits 10 n ++ '\n' :: rest) =
      (integerNode? (digitsValue (Nat.toDigits 10 n))).map (·, '\n' :: rest) := by
    rw [integer?]
    · rw [sign_toDigits]
      simp only [decimalDigits?_toDigits, Option.bind_eq_bind]
      rw [Option.bind_some, if_neg Bool.false_ne_true]
      cases integerNode? (digitsValue (Nat.toDigits 10 n)) <;> rfl
    all_goals exact fun r => toDigits_ne_based (by decide) (by decide) rest r
  rw [value, digitsValue_toDigits]

/-- The digits of an integer are read as the integer. -/
theorem number?_toDigits {n : Nat} (bounded : n < signedBound) (rest : List Char) :
    number? (Nat.toDigits 10 n ++ '\n' :: rest) = some (.integer n, '\n' :: rest) := by
  have digits : ∀ c ∈ Nat.toDigits 10 n, c.isDigit = true := fun _ => isDigit_of_mem_decimal
  rw [number?, dateTime?_of_digits digits, pointed?_toDigits, special?_toDigits,
    integer?_toDigits, integerNode?_natCast bounded, Option.none_or, Option.none_or,
    Option.none_or, Option.map_some]

/-! ## 4. Values -/

/-- What is read where a value of a section stands. -/
def Scalar.node : Scalar → Node
  | .text s => .text s
  | .integer n => .integer n

/-- Integers within the bound of the format can be written. -/
def Scalar.IsWritable : Scalar → Prop
  | .text _ => True
  | .integer n => n < signedBound

theorem writeChars_eq_cons (cs : List Char) :
    ∃ r, writeChars cs = '"' :: r ∨ writeChars cs = '\'' :: r := by
  unfold writeChars
  cases Layout.of cs with
  | basic => exact ⟨_, .inl rfl⟩
  | literal => exact ⟨_, .inr rfl⟩
  | multilineBasic => exact ⟨_, .inl rfl⟩
  | multilineLiteral => exact ⟨_, .inr rfl⟩

theorem value?_writeChars (fuel : Nat) (cs rest : List Char) :
    value? (fuel + 1) 0 (writeChars cs ++ '\n' :: rest) =
      some (.text (String.ofList cs), '\n' :: rest) := by
  have read := text?_writeChars cs rest
  obtain ⟨r, quoted | quoted⟩ := writeChars_eq_cons cs
  all_goals
    rw [quoted, List.cons_append] at read ⊢
    rw [value?]
    simp only [read]
    rfl

/-- No blank stands at the front of a value. -/
theorem Scalar.write_eq_cons (v : Scalar) :
    ∃ c r, v.write.toList = c :: r ∧ isSpace c = false := by
  cases v with
  | text s =>
    rw [Scalar.write, writeText, String.toList_ofList]
    obtain ⟨r, quoted | quoted⟩ := writeChars_eq_cons s.toList
    · exact ⟨_, r, quoted, by decide⟩
    · exact ⟨_, r, quoted, by decide⟩
  | integer n =>
    rw [Scalar.write, String.toList_ofList]
    obtain ⟨d, r, spelled, digit⟩ := exists_first_digit n
    refine ⟨d, r, spelled, Bool.or_eq_false_iff.mpr ⟨?_, ?_⟩⟩
    all_goals
      rw [beq_eq_false_iff_ne]
      rintro rfl
      cases digit

/-- A value is read up to the end of its line. -/
theorem value?_write {v : Scalar} (writable : v.IsWritable) (fuel : Nat) (rest : List Char) :
    value? (fuel + 1) 0 (v.write.toList ++ '\n' :: rest) = some (v.node, '\n' :: rest) := by
  cases v with
  | text s =>
    rw [Scalar.write, writeText, String.toList_ofList, value?_writeChars, String.ofList_toList]
    rfl
  | integer n =>
    rw [Scalar.write, String.toList_ofList]
    obtain ⟨d, ds, spelled, digit⟩ := exists_first_digit n
    have read := number?_toDigits writable rest
    rw [spelled, List.cons_append] at read ⊢
    rw [value?]
    · exact read
    all_goals
      intro r special
      cases (List.cons.inj special).1
      cases digit

end ComponentWiring.Document.Toml
