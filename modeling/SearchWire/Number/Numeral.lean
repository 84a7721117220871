import SearchWire.Number.Decimal

/-!
# Numerals

Numbers read from text. A numeral is read whole or not at all: blanks, separators and trailing
text are refused.

* `digitsValue?`: a non-empty run of decimal digits;
* `natural?`, `integer?`: whole numbers with a bound;
* `real?`: decimal numerals, infinities and NaN, as the nearest binary number.
-/

namespace SearchWire.Numeral

def digit? (c : Char) : Option Nat :=
  if '0' ≤ c ∧ c ≤ '9' then some (c.toNat - '0'.toNat) else none

/-- The value of a run of digits that follow a number read so far. -/
def digitsFrom? (value : Nat) : List Char → Option Nat
  | [] => some value
  | c :: rest => (digit? c).bind fun d => digitsFrom? (10 * value + d) rest

/-- The value of a non-empty run of digits. -/
def digitsValue? : List Char → Option Nat
  | [] => none
  | cs => digitsFrom? 0 cs

/-- A numeral with its optional sign: whether it is negative, and what follows the sign. -/
def signed : List Char → Bool × List Char
  | '-' :: rest => (true, rest)
  | '+' :: rest => (false, rest)
  | cs => (false, cs)

/-- The number of values of an unsigned word of 64 bits. -/
def words : Nat := 0x10000000000000000

/-- The number of values that are not negative of a signed word of 64 bits. -/
def halfWords : Nat := 0x8000000000000000

/-- A whole number of at most 64 bits, with an optional plus sign. -/
def natural? (s : String) : Option Nat :=
  let cs := match s.toList with
    | '+' :: rest => rest
    | cs => cs
  (digitsValue? cs).filter (· < words)

/-- A whole number from `-2 ^ 63` to below `2 ^ 63`, with an optional sign. -/
def integer? (s : String) : Option Int :=
  let (negative, cs) := signed s.toList
  let value := (digitsValue? cs).map fun n => if negative then -(n : Int) else n
  value.filter fun n => -(halfWords : Int) ≤ n && n < halfWords

/-- Split a list at the first element with a property; the element itself is in neither part. -/
def cut (p : Char → Bool) (cs : List Char) : List Char × Option (List Char) :=
  match cs.dropWhile (!p ·) with
  | [] => (cs, none)
  | _ :: rest => (cs.takeWhile (!p ·), some rest)

/-- The exponent of a numeral; without an exponent part it is zero. -/
def exponent? : Option (List Char) → Option Int
  | none => some 0
  | some cs =>
    let (negative, digits) := signed cs
    (digitsValue? digits).map fun n => if negative then -(n : Int) else n

/-- Digits, an optional point with digits after it, and an optional exponent. At least one digit
stands before or after the point. -/
def decimal? (cs : List Char) : Option Decimal := do
  let (significand, power) := cut (fun c => c == 'e' || c == 'E') cs
  let (whole, part) := cut (· == '.') significand
  let places := part.getD []
  let digits ← digitsValue? (whole ++ places)
  let exponent ← exponent? power
  return ⟨digits, exponent - places.length⟩

/-- A decimal numeral, `inf`, `infinity` or `nan` in letters of either case, with an optional sign;
a numeral that is too large is infinite. -/
def real? (s : String) : Option Binary64 :=
  let (negative, cs) := signed s.toList
  match String.ofList (cs.map Char.toLower) with
  | "inf" => some (.infinity negative)
  | "infinity" => some (.infinity negative)
  | "nan" => some .nan
  | _ => (decimal? cs).map (.ofDecimal negative)

end SearchWire.Numeral
