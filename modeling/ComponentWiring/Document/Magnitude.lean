/-
ComponentWiring.Document.Magnitude — the bounds of the numbers that a document may hold.

* `signedBound`, `unsignedBound` — the bounds of integers of 64 bits.
* `exceedsDouble` — whether a decimal is too large for a double.
* `productExceedsDouble` — the same of a decimal whose two factors are rounded first.

A number rounds to infinity from `2^1024 - 2^970` on, half a unit above the greatest
double; a format that holds its numbers as doubles cannot read such a number.
-/

namespace ComponentWiring.Document

/-- An integer of 64 bits with a sign lies below this bound, and not below its negative. -/
def signedBound : Nat := 0x8000000000000000

/-- An integer of 64 bits without a sign lies below this bound. -/
def unsignedBound : Nat := 0x10000000000000000

/-- The value of decimal digits. -/
def digitsValue (ds : List Char) : Nat :=
  ds.foldl (fun n c => n * 10 + (c.toNat - '0'.toNat)) 0

/-- The least number that rounds to infinity. -/
def doubleBound : Nat := Nat.pow 2 1024 - Nat.pow 2 970

/-- Whether `n * 10^e` rounds to infinity. -/
def exceedsDouble (n : Nat) (e : Int) : Bool :=
  if n = 0 then false
  else if 400 < e then true
  else if 0 ≤ e then doubleBound ≤ n * Nat.pow 10 e.toNat
  else if (Nat.log2 n : Int) + e * 3 < 1000 then false
  else doubleBound * Nat.pow 10 (-e).toNat ≤ n

/-- A number rounded to the 53 binary digits of a double, a half to the even neighbour. -/
def roundToDouble (n : Nat) : Nat :=
  let unit := Nat.pow 2 (Nat.log2 n - 52)
  let quotient := n / unit
  let rest := n % unit * 2
  if unit < rest || (rest = unit && quotient % 2 = 1) then (quotient + 1) * unit
  else quotient * unit

/-- Whether `n * 10^e` rounds to infinity when `n` and the power of ten become doubles
before they are multiplied. No power beyond `10^308` is a double, and with a negative `e`
the result is no larger than `n`. -/
def productExceedsDouble (n : Nat) (e : Int) : Bool :=
  if n = 0 || e < 0 then false
  else if 308 < e then true
  else doubleBound ≤ roundToDouble n * roundToDouble (Nat.pow 10 e.toNat)

end ComponentWiring.Document
