import SearchWire.Number.Shortest

/-!
# Notation of numbers

How the digits of a number are laid out. The digits are always the fewest that read back; what
differs between outputs is one `Notation` value.

* `Notation`, `Notation.write`;
* `Notation.plain`, `Notation.token`, `Notation.json`, `Notation.literal`.
-/

namespace SearchWire

/-- The decisions of a number format. -/
structure Notation where
  /-- Whether a number with this exponent of the first digit is written without an exponent. -/
  positional : Int → Bool
  /-- Whether a whole number written without an exponent ends in `.0`. -/
  pointZero : Bool
  /-- Whether a positive exponent has a sign. -/
  exponentPlus : Bool
  /-- Which of two equally near candidates is taken. -/
  tie : Tie
  nan : String
  positiveInfinity : String
  negativeInfinity : String

namespace Notation

/-- The digits without an exponent; the first stands for `10 ^ e`. -/
def layPositional (N : Notation) (digits : List Char) (e : Int) : List Char :=
  if e < 0 then '0' :: '.' :: (List.replicate (-e - 1).toNat '0' ++ digits)
  else if digits.length ≤ e.toNat + 1 then
    digits ++ List.replicate (e.toNat + 1 - digits.length) '0' ++
      (if N.pointZero then ['.', '0'] else [])
  else digits.take (e.toNat + 1) ++ '.' :: digits.drop (e.toNat + 1)

/-- The digits with the exponent `e` of the first digit written out. -/
def layScientific (N : Notation) (digits : List Char) (e : Int) : List Char :=
  let significand := match digits with
    | d :: rest@(_ :: _) => d :: '.' :: rest
    | ds => ds
  let sign := if 0 ≤ e ∧ N.exponentPlus then ['+'] else []
  significand ++ 'e' :: (sign ++ (toString e).toList)

/-- The text of `m * 2 ^ q`. -/
def layMagnitude (N : Notation) (m : Nat) (q : Int) : List Char :=
  if m = 0 then N.layPositional ['0'] 0
  else
    let d := shortest N.tie m q
    let digits := Nat.toDigits 10 d.digits
    if N.positional d.leading then N.layPositional digits d.leading
    else N.layScientific digits d.leading

/-- The text of a number; a negative zero keeps its sign. -/
def write (N : Notation) (x : Binary64) : String :=
  match x.meaning with
  | .nan => N.nan
  | .infinite false => N.positiveInfinity
  | .infinite true => N.negativeInfinity
  | .finite false m q => String.ofList (N.layMagnitude m q)
  | .finite true m q => String.ofList ('-' :: N.layMagnitude m q)

/-- Numbers in results: never an exponent, whole numbers without a point, ties go up. -/
def plain : Notation where
  positional _ := true
  pointZero := false
  exponentPlus := false
  tie := .up
  nan := "NaN"
  positiveInfinity := "inf"
  negativeInfinity := "-inf"

/-- Numbers in commands: as in results, but infinity always has a sign. -/
def token : Notation := { plain with positiveInfinity := "+inf" }

/-- Numbers in documents: positional from `10 ^ -5` to below `10 ^ 16` with at least one decimal,
otherwise with a signed exponent; ties go to the even digit, and what is not finite is null. -/
def json : Notation where
  positional e := -5 ≤ e && e < 16
  pointZero := true
  exponentPlus := true
  tie := .even
  nan := "null"
  positiveInfinity := "null"
  negativeInfinity := "null"

/-- Numbers in the description of a reply: positional from `10 ^ -4` to below `10 ^ 16` with at
least one decimal, otherwise with an exponent. -/
def literal : Notation :=
  { plain with positional := fun e => -4 ≤ e && e < 16, pointZero := true }

end Notation

end SearchWire
