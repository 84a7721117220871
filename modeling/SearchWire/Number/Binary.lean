import SearchWire.Number.Power

/-!
# Binary floating point

Numbers as the bit patterns of a binary interchange format. The library reads, narrows and writes
such numbers and never calculates with them, so all work is on exact fractions.

* `Format`, `Format.meaning`: what a bit pattern stands for;
* `Format.nearest`: the pattern nearest to a fraction, ties to the even pattern;
* `Binary64`, `Binary32`, `Binary64.narrow`, `Binary32.widen`, `Binary64.ofInt`.
-/

namespace SearchWire

/-- A binary interchange format, by the widths of its two fields. -/
structure Format where
  /-- The stored bits of the significand. -/
  fractionBits : Nat
  /-- The bits of the exponent field. -/
  exponentBits : Nat

/-- What a bit pattern stands for. -/
inductive Meaning where
  | nan
  | infinite (negative : Bool)
  /-- The number `± m * 2 ^ q`. -/
  | finite (negative : Bool) (m : Nat) (q : Int)
deriving DecidableEq, Repr

namespace Format

/-- Four bytes: 23 fraction bits and 8 exponent bits. -/
def single : Format := ⟨23, 8⟩

/-- Eight bytes: 52 fraction bits and 11 exponent bits. -/
def double : Format := ⟨52, 11⟩

variable (F : Format)

/-- The number of fractions, which is the weight of the exponent field. -/
def fractions : Nat := Nat.pow 2 F.fractionBits

/-- The number of values of the exponent field. -/
def fields : Nat := Nat.pow 2 F.exponentBits

/-- The exponent field of the infinities and of NaN: all ones. -/
def topField : Nat := F.fields - 1

def infinityBits : Nat := F.topField * F.fractions

/-- The pattern of the sign bit alone. -/
def signBit : Nat := F.fields * F.fractions

/-- The pattern of a NaN with the first fraction bit set. -/
def nanBits : Nat := F.infinityBits + F.fractions / 2

/-- The scale of the least positive number. -/
def leastScale : Int := 2 - (F.fields / 2 : Nat) - F.fractionBits

/-- What a bit pattern stands for. -/
def meaning (bits : Nat) : Meaning :=
  let fraction := bits % F.fractions
  let field := bits / F.fractions % F.fields
  let negative := bits / F.signBit % 2 == 1
  if field = F.topField then
    if fraction = 0 then .infinite negative else .nan
  else if field = 0 then .finite negative fraction F.leastScale
  else .finite negative (F.fractions + fraction) (F.leastScale + (field - 1 : Nat))

/-- The quotient `num / den` in units of `2 ^ q`, as a fraction. -/
def scaled (num den : Nat) (q : Int) : Nat × Nat := (num * powDown 2 q, den * powUp 2 q)

/-- The whole number nearest to `num / den`, ties to even. -/
def roundEven (num den : Nat) : Nat :=
  let low := num / den
  let twice := 2 * (num % den)
  if twice < den || (twice == den && low % 2 == 0) then low else low + 1

/-- The scale at which `num / den` has a full significand, or the least scale if that is above. -/
def scaleOf (num den : Nat) : Int :=
  let q : Int := num.log2 - den.log2 - F.fractionBits
  let (n, d) := scaled num den q
  max F.leastScale (if n / d < F.fractions then q - 1 else q)

/-- The bit pattern nearest to `± num / den`, for a positive `den`: ties go to the even pattern,
and what is too large becomes infinite. -/
def nearest (negative : Bool) (num den : Nat) : Nat :=
  let q := F.scaleOf num den
  let (n, d) := scaled num den q
  let magnitude := (q - F.leastScale).toNat * F.fractions + roundEven n d
  (if negative then F.signBit else 0) + (if num = 0 then 0 else min magnitude F.infinityBits)

/-- The bit pattern nearest to what a pattern of another format stands for. -/
def ofMeaning : Meaning → Nat
  | .nan => F.nanBits
  | .infinite negative => (if negative then F.signBit else 0) + F.infinityBits
  | .finite negative m q => F.nearest negative (m * powUp 2 q) (powDown 2 q)

end Format

/-- A number of the format `Format.double`, by its bits. -/
structure Binary64 where
  bits : UInt64
deriving DecidableEq, Repr

/-- A number of the format `Format.single`, by its bits. -/
structure Binary32 where
  bits : UInt32
deriving DecidableEq, Repr

namespace Binary64

/-- What the number is. -/
def meaning (x : Binary64) : Meaning := Format.double.meaning x.bits.toNat

/-- The number nearest to `± num / den`, for a positive `den`. -/
def ofFraction (negative : Bool) (num den : Nat) : Binary64 :=
  ⟨(Format.double.nearest negative num den).toUInt64⟩

def ofInt (n : Int) : Binary64 := ofFraction (n < 0) n.natAbs 1

/-- Infinity of either sign. -/
def infinity (negative : Bool) : Binary64 :=
  ⟨(Format.double.ofMeaning (.infinite negative)).toUInt64⟩

def nan : Binary64 := ⟨Format.double.nanBits.toUInt64⟩

/-- Zero of either sign. -/
def zero (negative : Bool) : Binary64 := ofFraction negative 0 1

/-- The nearest number of the narrow format. -/
def narrow (x : Binary64) : Binary32 := ⟨(Format.single.ofMeaning x.meaning).toUInt32⟩

end Binary64

namespace Binary32

/-- What the number is. -/
def meaning (x : Binary32) : Meaning := Format.single.meaning x.bits.toNat

/-- The same number in the wide format. -/
def widen (x : Binary32) : Binary64 := ⟨(Format.double.ofMeaning x.meaning).toUInt64⟩

/-- The four bytes of the pattern, the lowest first. -/
def bytes (x : Binary32) : List UInt8 :=
  [x.bits.toUInt8, (x.bits >>> 8).toUInt8, (x.bits >>> 16).toUInt8, (x.bits >>> 24).toUInt8]

end Binary32

end SearchWire
