/-
ComponentWiring.Document.Toml.Number — numbers, dates and times of TOML.

A value that starts with a sign or a digit is a date or time if one can be read there,
else a fraction, else an integer.
-/
import ComponentWiring.Document.Toml.Text

namespace ComponentWiring.Document.Toml

/-! ## 1. Digits -/

/-- Digits of a class, where an underscore may stand between two. The underscores are
left out of the answer; an underscore without a digit after it ends the number. -/
def moreDigits (isDigit : Char → Bool) : List Char → Option (List Char × List Char)
  | '_' :: c :: r => if isDigit c then prepend c (moreDigits isDigit r) else none
  | ['_'] => none
  | c :: r => if isDigit c then prepend c (moreDigits isDigit r) else some ([], c :: r)
  | [] => some ([], [])

/-- One digit and more. -/
def digits1? (isDigit : Char → Bool) : List Char → Option (List Char × List Char)
  | c :: r => if isDigit c then prepend c (moreDigits isDigit r) else none
  | [] => none

/-- Exactly so many digits. -/
def fixedDigits? : Nat → List Char → Option (Nat × List Char)
  | n, cs =>
    let ds := cs.take n
    if ds.length = n ∧ ds.all Char.isDigit then some (digitsValue ds, cs.drop n) else none

/-- A sign, if there is one; `true` for minus. -/
def sign : List Char → Bool × List Char
  | '+' :: r => (false, r)
  | '-' :: r => (true, r)
  | r => (false, r)

/-! ## 2. Integers and fractions -/

/-- Decimal digits without a leading zero. -/
def decimalDigits? : List Char → Option (List Char × List Char)
  | '0' :: r => some (['0'], r)
  | cs => digits1? Char.isDigit cs

/-- An integer of 64 bits with a sign. -/
def integerNode? (n : Int) : Option Node := (Node.integer n).int64?.map .integer

/-- The value of a digit to any base up to sixteen. -/
def digitValue (c : Char) : Nat := (Json.hexValue? c).getD 0

/-- An integer to another base, whose digits follow the letter of the base. -/
def basedInteger? (base : Nat) (isDigit : Char → Bool) (cs : List Char) :
    Option (Node × List Char) := do
  let (ds, r) ← digits1? isDigit cs
  return (← integerNode? (ds.foldl (fun n c => n * base + digitValue c) 0 : Nat), r)

/-- An integer. -/
def integer? : List Char → Option (Node × List Char)
  | '0' :: 'x' :: r => basedInteger? 16 (fun c => (Json.hexValue? c).isSome) r
  | '0' :: 'o' :: r => basedInteger? 8 (fun c => '0' ≤ c && c ≤ '7') r
  | '0' :: 'b' :: r => basedInteger? 2 (fun c => c == '0' || c == '1') r
  | cs => do
    let (negative, r) := sign cs
    let (ds, r) ← decimalDigits? r
    let n : Int := digitsValue ds
    return (← integerNode? (if negative then -n else n), r)

/-- The exponent of a fraction. -/
def exponent? : List Char → Option (Int × List Char)
  | c :: r =>
    if c == 'e' || c == 'E' then do
      let (negative, r) := sign r
      let (ds, r) ← digits1? Char.isDigit r
      let n : Int := digitsValue ds
      return (if negative then -n else n, r)
    else none
  | [] => none

/-- A number with a point or an exponent. Only a positive one may not exceed the doubles. -/
def pointed? (cs : List Char) : Option (Node × List Char) := do
  let (negative, r) := sign cs
  let (whole, r) ← decimalDigits? r
  let (fraction, e, r) ← match r with
    | '.' :: r => do
      let (f, r) ← digits1? Char.isDigit r
      match exponent? r with
      | some (e, r) => some (f, e, r)
      | none => some (f, 0, r)
    | r => do
      let (e, r) ← exponent? r
      some ([], e, r)
  if !negative && exceedsDouble (digitsValue (whole ++ fraction)) (e - fraction.length) then none
  else return (.fraction, r)

/-- Infinity or not-a-number, with or without a sign. -/
def special? (cs : List Char) : Option (Node × List Char) :=
  match (sign cs).2 with
  | 'i' :: 'n' :: 'f' :: r => some (.fraction, r)
  | 'n' :: 'a' :: 'n' :: r => some (.fraction, r)
  | _ => none

/-! ## 3. Dates and times -/

/-- A number with leading zeros up to a width. -/
def padded (width n : Nat) : String :=
  let ds := Nat.toDigits 10 n
  String.ofList (List.replicate (width - ds.length) '0' ++ ds)

/-- The number of days of a month. -/
def daysIn (year month : Nat) : Nat :=
  if month = 2 then
    if year % 4 = 0 ∧ (year % 100 ≠ 0 ∨ year % 400 = 0) then 29 else 28
  else if month = 4 ∨ month = 6 ∨ month = 9 ∨ month = 11 then 30
  else 31

/-- A date, as text. -/
def date? (cs : List Char) : Option (String × List Char) := do
  let (year, r) ← fixedDigits? 4 cs
  let (month, r) ← match r with | '-' :: r => fixedDigits? 2 r | _ => none
  let (day, r) ← match r with | '-' :: r => fixedDigits? 2 r | _ => none
  if 1 ≤ month ∧ month ≤ 12 ∧ 1 ≤ day ∧ day ≤ daysIn year month then
    return (padded 4 year ++ "-" ++ padded 2 month ++ "-" ++ padded 2 day, r)
  else none

/-- Hours and minutes. -/
def clock? (cs : List Char) : Option (Nat × Nat × List Char) := do
  let (hour, r) ← fixedDigits? 2 cs
  let (minute, r) ← match r with | ':' :: r => fixedDigits? 2 r | _ => none
  if hour ≤ 23 ∧ minute ≤ 59 then return (hour, minute, r) else none

/-- The part of a second, to nine places, without zeros at its end. -/
def secondFraction (cs : List Char) : String × List Char :=
  match cs with
  | '.' :: r =>
    match Json.digits r with
    | ([], _) => ("", cs)
    | (ds, r) =>
      let kept := ((ds.take 9).reverse.dropWhile (· == '0')).reverse
      (if kept.isEmpty then "" else "." ++ String.ofList kept, r)
  | _ => ("", cs)

/-- A time of day, as text. -/
def time? (cs : List Char) : Option (String × List Char) := do
  let (hour, minute, r) ← clock? cs
  let (second, r) ← match r with | ':' :: r => fixedDigits? 2 r | _ => none
  if second ≤ 60 then
    let (f, r) := secondFraction r
    return (padded 2 hour ++ ":" ++ padded 2 minute ++ ":" ++ padded 2 second ++ f, r)
  else none

/-- The distance from universal time, as text. -/
def offset? : List Char → Option (String × List Char)
  | c :: r =>
    if c == 'Z' || c == 'z' then some ("Z", r)
    else if c == '+' || c == '-' then do
      let (hour, minute, r) ← clock? r
      let mark := if c == '-' && (hour != 0 || minute != 0) then "-" else "+"
      return (mark ++ padded 2 hour ++ ":" ++ padded 2 minute, r)
    else none
  | [] => none

/-- A date, a time, or a date with a time, as text. -/
def dateTimeText? (cs : List Char) : Option (String × List Char) :=
  match date? cs with
  | none => time? cs
  | some (date, r) =>
    match r with
    | c :: r' =>
      if c == 'T' || c == 't' || c == ' ' then
        match time? r' with
        | some (time, r'') =>
          match offset? r'' with
          | some (offset, r''') => some (date ++ "T" ++ time ++ offset, r''')
          | none => some (date ++ "T" ++ time, r'')
        | none => some (date, r)
      else some (date, r)
    | [] => some (date, r)

/-- The name under which a date or time gives its text to a reader of records. -/
def dateTimeKey : String := "$__toml_private_datetime"

/-- A date or time, as a record of its text alone. -/
def dateTime? (cs : List Char) : Option (Node × List Char) :=
  (dateTimeText? cs).map fun (s, r) => (.record [(dateTimeKey, .text s)], r)

/-- A value that starts with a sign or a digit. -/
def number? (cs : List Char) : Option (Node × List Char) :=
  (dateTime? cs).or ((pointed? cs).or ((special? cs).or (integer? cs)))

end ComponentWiring.Document.Toml
