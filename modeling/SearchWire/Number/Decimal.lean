import SearchWire.Number.Binary

/-!
# Decimal numbers

A decimal number `digits * 10 ^ exponent`, and the step from it to the nearest binary number.

* `Decimal`, `Decimal.normal`: no trailing zero among the digits;
* `Decimal.fraction`, `Binary64.ofDecimal`.
-/

namespace SearchWire

/-- The number `digits * 10 ^ exponent`. -/
structure Decimal where
  digits : Nat
  exponent : Int
deriving DecidableEq, Repr

/-- How many digits a number has in base ten; zero has one. -/
def digitCount (n : Nat) : Nat := (Nat.toDigits 10 n).length

namespace Decimal

/-- Move up to `fuel` trailing zeros of the digits into the exponent. -/
def trim : Nat → Decimal → Decimal
  | 0, d => d
  | fuel + 1, d =>
    if d.digits ≠ 0 ∧ d.digits % 10 = 0 then trim fuel ⟨d.digits / 10, d.exponent + 1⟩ else d

/-- The same number with no trailing zero among its digits. -/
def normal (d : Decimal) : Decimal := trim (digitCount d.digits) d

/-- The number as a fraction of naturals. -/
def fraction (d : Decimal) : Nat × Nat :=
  (d.digits * powUp 10 d.exponent, powDown 10 d.exponent)

/-- The exponent of ten of the first digit. -/
def leading (d : Decimal) : Int := digitCount d.digits - 1 + d.exponent

end Decimal

/-- The number nearest to `± d`. All finite numbers lie between `10 ^ -330` and `10 ^ 310`, so
beyond these the answer is zero or infinite whatever the digits are. -/
def Binary64.ofDecimal (negative : Bool) (d : Decimal) : Binary64 :=
  if d.digits = 0 || d.leading < -330 then .zero negative
  else if 310 < d.leading then .infinity negative
  else .ofFraction negative d.fraction.1 d.fraction.2

end SearchWire
